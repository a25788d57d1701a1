import BooleanTables.Proofs.Formula.Meaning
import BooleanTables.Proofs.Table.Numbering
import BooleanTables.Session.Evaluation

/-!
# Rows and valuations

The table of a formula has one row for each valuation of its variables. The row stands where the
values of the variables, read as binary digits, say, and its value is that of the formula under the
valuation.
-/

namespace BooleanTables

theorem mapM_eq_ok_map {α β ε : Type} {f : α → Except ε β} {g : α → β} {items : List α}
    (h : ∀ item ∈ items, f item = .ok (g item)) : items.mapM f = .ok (items.map g) := by
  induction items with
  | nil => rfl
  | cons item rest ih =>
    have hi := h item List.mem_cons_self
    have hr := ih fun other ho => h other (List.mem_cons_of_mem _ ho)
    rw [List.mapM_cons, hi, hr]
    rfl

namespace Capacity

variable {capacity : Capacity} {count : Nat}

theorem admits_iff :
    capacity.Admits count ↔
      count ≤ min capacity.maxVariables 24 ∧ capacity.reserves (2 ^ count) := by
  rw [Admits, Nat.one_shiftLeft]
  rfl

theorem not_admits_iff :
    ¬ capacity.Admits count ↔
      min capacity.maxVariables 24 < count ∨ capacity.reserves (2 ^ count) = false := by
  rw [admits_iff, not_and_or, Nat.not_le, Bool.not_eq_true]

end Capacity

namespace TruthTable

/-- The rows of a function that has a value for every assignment. -/
def rowsOf (names : List String) (value : Assignment → Bool) : List Row :=
  (List.range (2 ^ names.length)).map fun bits => ⟨⟨names, bits⟩, value ⟨names, bits⟩⟩

theorem tabulate_eq_rowsOf {names : List String} {f : Assignment → Except Error Bool}
    {value : Assignment → Bool}
    (h : ∀ bits, bits < 2 ^ names.length → f ⟨names, bits⟩ = .ok (value ⟨names, bits⟩)) :
    tabulate names f = .ok (rowsOf names value) := by
  rw [tabulate, Nat.one_shiftLeft]
  refine mapM_eq_ok_map fun bits hbits => ?_
  rw [h bits (List.mem_range.1 hbits)]
  rfl

@[simp] theorem length_rowsOf (names : List String) (value : Assignment → Bool) :
    (rowsOf names value).length = 2 ^ names.length := by
  simp [rowsOf]

@[simp] theorem getElem_rowsOf {names : List String} {value : Assignment → Bool} {i : Nat}
    (h : i < (rowsOf names value).length) :
    (rowsOf names value)[i] = ⟨⟨names, i⟩, value ⟨names, i⟩⟩ := by
  simp [rowsOf]

theorem pairwise_rowsOf (names : List String) (value : Assignment → Bool) :
    (rowsOf names value).Pairwise fun a b => a.assignment.values < b.assignment.values := by
  rw [rowsOf, List.pairwise_map, List.pairwise_iff_getElem]
  intro i k hi hk hik
  simp only [List.length_range] at hi hk
  rw [← number_lt_number_iff (by simp), Assignment.number_values (by simpa using hi),
    Assignment.number_values (by simpa using hk)]
  simpa using hik

end TruthTable

namespace Formula

def valueIn (formula : Formula) (assignment : Assignment) : Bool :=
  formula.truth assignment.valuation

theorem eval_eq_valueIn (formula : Formula) (bits : Nat) :
    formula.eval ⟨formula.vars, bits⟩ = .ok (formula.valueIn ⟨formula.vars, bits⟩) :=
  eval_eq_truth fun _ hname => Assignment.get?_eq_some_valuation (mem_vars.2 hname)

theorem valueIn_eq_truth {formula : Formula} {assignment : Assignment} {v : Valuation}
    (hnames : assignment.names = formula.vars) (hv : assignment.Reads v) :
    formula.valueIn assignment = formula.truth v := by
  refine truth_congr fun name hname => ?_
  have hget := hv name (hnames ▸ mem_vars.2 hname)
  rw [Assignment.valuation, hget, Option.getD_some]

end Formula

namespace TruthTable

/-- The table of a formula, whatever the number of its variables. -/
def complete (formula : Formula) : TruthTable :=
  ⟨some formula, formula.vars, rowsOf formula.vars formula.valueIn⟩

theorem ofFormula_eq (capacity : Capacity) (formula : Formula) :
    ofFormula capacity formula =
      if capacity.Admits formula.vars.length then .ok (complete formula)
      else .error (.tooManyVariables formula.vars.length capacity.limit) := by
  rw [ofFormula, Capacity.check, tabulate_eq_rowsOf fun bits _ => formula.eval_eq_valueIn bits]
  split <;> rfl

end TruthTable

theorem Lexicon.evaluate_eq_ok {lexicon : Lexicon} {capacity : Capacity} {input : String}
    {table : TruthTable} (h : lexicon.evaluate capacity input = .ok table) :
    ∃ formula, lexicon.parse input = .ok formula ∧ table = .complete formula := by
  rw [evaluate] at h
  cases hp : lexicon.parse input with
  | error e => simp [hp, bind, Except.bind] at h
  | ok formula =>
    rw [hp] at h
    change TruthTable.ofFormula capacity formula = .ok table at h
    rw [TruthTable.ofFormula_eq] at h
    split at h
    · exact ⟨formula, rfl, (Except.ok.inj h).symm⟩
    · cases h

namespace TruthTable

@[simp] theorem length_rows_complete (formula : Formula) :
    (complete formula).rows.length = 2 ^ formula.vars.length :=
  length_rowsOf _ _

theorem getElem_rows_complete {formula : Formula} {i : Nat}
    (h : i < (complete formula).rows.length) :
    (complete formula).rows[i] = ⟨⟨formula.vars, i⟩, formula.valueIn ⟨formula.vars, i⟩⟩ :=
  getElem_rowsOf h

/-- Every valuation is read by one row alone, and the row holds what the formula states about it. -/
theorem exists_row_complete (formula : Formula) (v : Valuation) :
    ∃ i : Fin (complete formula).rows.length,
      (i : Nat) = ∑ j : Fin formula.vars.length,
        (v formula.vars[j]).toNat * 2 ^ (formula.vars.length - 1 - j) ∧
      (∀ k : Fin (complete formula).rows.length,
        (complete formula).rows[k].assignment.Reads v ↔ k = i) ∧
      (complete formula).rows[i].assignment.values = formula.vars.map v ∧
      ((complete formula).rows[i].value = true ↔ formula.Holds v) := by
  have hnum : number (formula.vars.map v) < (complete formula).rows.length := by
    simpa using number_lt (formula.vars.map v)
  have hreads (k : Fin (complete formula).rows.length) :
      (complete formula).rows[k].assignment.Reads v ↔ k = ⟨number (formula.vars.map v), hnum⟩ := by
    have hk : (k : Nat) < 2 ^ formula.vars.length := by simpa using k.isLt
    rw [Fin.getElem_fin, getElem_rows_complete, Assignment.reads_iff_bits formula.nodup_vars hk,
      Fin.ext_iff]
  have hrow := getElem_rows_complete hnum
  refine ⟨⟨number (formula.vars.map v), hnum⟩, ?_, hreads, ?_, ?_⟩
  · rw [Fin.val_mk, number_map_eq_sum]
  · rw [Fin.getElem_fin, hrow]
    exact Assignment.values_number (by simp)
  · have hr := (hreads _).2 rfl
    rw [Fin.getElem_fin, hrow] at hr
    rw [Fin.getElem_fin, hrow, Formula.valueIn_eq_truth rfl hr]
    exact formula.truth_eq_true_iff v

/-- A table that is computed at all has one row for each valuation of the variables of its formula,
at the place that the values spell as binary digits, and the row says whether the formula holds. -/
theorem rows_sound_and_complete {lexicon : Lexicon} {capacity : Capacity} {input : String}
    {table : TruthTable} (h : lexicon.evaluate capacity input = .ok table) :
    ∃ formula, lexicon.parse input = .ok formula ∧ table.formula = some formula ∧
      table.vars = formula.vars ∧ table.vars.Nodup ∧
      table.rows.length = 2 ^ table.vars.length ∧
      (∀ i : Fin table.rows.length, table.rows[i].assignment = ⟨table.vars, i⟩) ∧
      table.rows.Pairwise (fun a b => a.assignment.values < b.assignment.values) ∧
      ∀ v : Valuation, ∃ i : Fin table.rows.length,
        (i : Nat) = ∑ j : Fin table.vars.length,
          (v table.vars[j]).toNat * 2 ^ (table.vars.length - 1 - j) ∧
        (∀ k : Fin table.rows.length, table.rows[k].assignment.Reads v ↔ k = i) ∧
        table.rows[i].assignment.values = table.vars.map v ∧
        (table.rows[i].value = true ↔ formula.Holds v) := by
  obtain ⟨formula, hp, rfl⟩ := Lexicon.evaluate_eq_ok h
  refine ⟨formula, hp, rfl, rfl, formula.nodup_vars, length_rowsOf _ _, ?_, pairwise_rowsOf _ _, ?_⟩
  · intro i
    exact congrArg Row.assignment (getElem_rowsOf i.isLt)
  · exact exists_row_complete formula

theorem rows_sound_and_complete_twoNames :
    ∃ table, Lexicon.standard.evaluate ⟨20, (· ≤ 4)⟩ "b -> a" = .ok table ∧
      table.vars = ["b", "a"] ∧
      ∀ v : Valuation, ∃ i : Fin table.rows.length, (i : Nat) = 2 * (v "b").toNat + (v "a").toNat ∧
        (∀ k : Fin table.rows.length, table.rows[k].assignment.Reads v ↔ k = i) ∧
        (table.rows[i].value = true ↔ (v "b" = true → v "a" = true)) := by
  have h : Lexicon.standard.evaluate ⟨20, (· ≤ 4)⟩ "b -> a" =
      .ok (complete (.binary .implies (.var "b") (.var "a"))) := by decide +kernel
  obtain ⟨formula, -, hf, hvars, -, -, -, -, hrows⟩ := rows_sound_and_complete h
  obtain rfl := Option.some.inj hf
  refine ⟨_, h, by decide, fun v => ?_⟩
  obtain ⟨i, hi, hreads, -, hvalue⟩ := hrows v
  refine ⟨i, ?_, hreads, hvalue⟩
  rw [hi]
  change ∑ j : Fin 2, _ = _
  rw [Fin.sum_univ_two]
  change (v "b").toNat * 2 + (v "a").toNat * 1 = _
  omega

end TruthTable

end BooleanTables
