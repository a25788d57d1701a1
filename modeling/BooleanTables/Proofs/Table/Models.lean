import BooleanTables.Proofs.Table.Rows
import BooleanTables.Table.Selection
import Mathlib.Data.Set.Card

/-!
# Models and countermodels

The rows of a table that are true are the models of its formula, and those that are false its
countermodels. So the selections of a table, its verdicts and its tests say what holds of the
formula under all valuations.
-/

namespace BooleanTables

/-- The valuations of a formula's variables, in their order, under which it has the value. -/
def Formula.valuations (formula : Formula) (value : Bool) : Set (Fin formula.vars.length → Bool) :=
  {w | ∃ v : Valuation, (formula.Holds v ↔ value = true) ∧ ∀ j, v (formula.vars.get j) = w j}

def rowNumbers (rows : List Row) : List Nat := rows.map (·.assignment.bits)

namespace TruthTable

/-- A table tells under which valuations a formula holds, row by row, by its tests and by its
verdicts. -/
structure Decides (table : TruthTable) (formula : Formula) : Prop where
  mem_successes : ∀ i, i ∈ rowNumbers table.successes ↔ ∃ v : Valuation, formula.Holds v ∧
    i = ∑ j : Fin formula.vars.length,
      (v (formula.vars.get j)).toNat * 2 ^ (formula.vars.length - 1 - j)
  mem_failures : ∀ i, i ∈ rowNumbers table.failures ↔ ∃ v : Valuation, ¬ formula.Holds v ∧
    i = ∑ j : Fin formula.vars.length,
      (v (formula.vars.get j)).toNat * 2 ^ (formula.vars.length - 1 - j)
  ascending_successes : (rowNumbers table.successes).Pairwise (· < ·)
  ascending_failures : (rowNumbers table.failures).Pairwise (· < ·)
  perm_range : (rowNumbers table.successes ++ rowNumbers table.failures).Perm
    (List.range (2 ^ formula.vars.length))
  isTautology_iff : table.isTautology = true ↔ ∀ v, formula.Holds v
  isContradiction_iff : table.isContradiction = true ↔ ∀ v, ¬ formula.Holds v
  isSatisfiable_iff : table.isSatisfiable = true ↔ ∃ v, formula.Holds v
  verdict_tautology : table.verdict .all = "This is a tautology!" ↔ ∀ v, formula.Holds v
  verdict_contradiction : table.verdict .all = "This is a contradiction!" ↔ ∀ v, ¬ formula.Holds v
  verdict_neither : table.verdict .all = "This is NOT a tautology!" ↔
    (∃ v, formula.Holds v) ∧ ∃ v, ¬ formula.Holds v
  verdict_successes : table.verdict .successes =
    toString (formula.valuations true).ncard ++ " of " ++ toString (2 ^ formula.vars.length) ++
      " rows are true"
  verdict_failures : table.verdict .failures =
    toString (formula.valuations false).ncard ++ " of " ++ toString (2 ^ formula.vars.length) ++
      " rows are false"

def rowsWith (table : TruthTable) (value : Bool) : List Row := table.rows.filter (·.value == value)

theorem successes_eq_rowsWith (table : TruthTable) : table.successes = table.rowsWith true :=
  List.filter_congr fun row _ => by simp

theorem failures_eq_rowsWith (table : TruthTable) : table.failures = table.rowsWith false :=
  List.filter_congr fun row _ => by simp

theorem rowNumbers_rowsWith_complete (formula : Formula) (value : Bool) :
    rowNumbers ((complete formula).rowsWith value) =
      (List.range (2 ^ formula.vars.length)).filter fun i =>
        formula.valueIn ⟨formula.vars, i⟩ == value := by
  rw [rowNumbers, rowsWith, complete, rowsOf, List.filter_map, List.map_map]
  exact List.map_id _

end TruthTable

namespace Formula

theorem truth_eq_iff {formula : Formula} {v : Valuation} {value : Bool} :
    formula.truth v = value ↔ (formula.Holds v ↔ value = true) := by
  rw [← truth_eq_true_iff, Bool.eq_iff_iff]

theorem valueIn_eq_iff {formula : Formula} {i : Nat} (h : i < 2 ^ formula.vars.length)
    {value : Bool} :
    formula.valueIn ⟨formula.vars, i⟩ = value ↔
      ∃ v : Valuation, formula.truth v = value ∧ i = number (formula.vars.map v) := by
  have hreads (v : Valuation) : (⟨formula.vars, i⟩ : Assignment).Reads v ↔
      i = number (formula.vars.map v) :=
    Assignment.reads_iff_bits formula.nodup_vars h
  constructor
  · intro hvalue
    refine ⟨(⟨formula.vars, i⟩ : Assignment).valuation, hvalue, (hreads _).1 fun name hname => ?_⟩
    exact Assignment.get?_eq_some_valuation hname
  · rintro ⟨v, hvalue, hi⟩
    rw [valueIn_eq_truth rfl ((hreads v).2 hi), hvalue]

end Formula

namespace TruthTable

theorem mem_rowNumbers_complete {formula : Formula} {value : Bool} {i : Nat} :
    i ∈ rowNumbers ((complete formula).rowsWith value) ↔
      ∃ v : Valuation, formula.truth v = value ∧ i = number (formula.vars.map v) := by
  rw [rowNumbers_rowsWith_complete, List.mem_filter, List.mem_range, beq_iff_eq]
  constructor
  · rintro ⟨hi, hvalue⟩
    exact (Formula.valueIn_eq_iff hi).1 hvalue
  · rintro ⟨v, hvalue, rfl⟩
    have hi : number (formula.vars.map v) < 2 ^ formula.vars.length := by
      simpa using number_lt (formula.vars.map v)
    exact ⟨hi, (Formula.valueIn_eq_iff hi).2 ⟨v, hvalue, rfl⟩⟩

theorem ascending_rowNumbers_complete (formula : Formula) (value : Bool) :
    (rowNumbers ((complete formula).rowsWith value)).Pairwise (· < ·) := by
  rw [rowNumbers_rowsWith_complete]
  exact List.pairwise_lt_range.filter _

theorem perm_rowNumbers_complete (formula : Formula) :
    (rowNumbers ((complete formula).rowsWith true) ++
      rowNumbers ((complete formula).rowsWith false)).Perm
      (List.range (2 ^ formula.vars.length)) := by
  rw [rowNumbers_rowsWith_complete, rowNumbers_rowsWith_complete]
  have hfalse : (fun i => formula.valueIn ⟨formula.vars, i⟩ == false) =
      fun i => !(formula.valueIn ⟨formula.vars, i⟩ == true) := by
    funext i
    simp
  rw [hfalse]
  exact List.filter_append_perm _ _

theorem rowsWith_complete_eq_nil_iff {formula : Formula} {value : Bool} :
    (complete formula).rowsWith value = [] ↔ ∀ v, formula.truth v ≠ value := by
  have hnil : (complete formula).rowsWith value = [] ↔
      rowNumbers ((complete formula).rowsWith value) = [] :=
    List.map_eq_nil_iff.symm
  rw [hnil, List.eq_nil_iff_forall_not_mem]
  constructor
  · intro h v hv
    exact h _ (mem_rowNumbers_complete.2 ⟨v, hv, rfl⟩)
  · intro h i hi
    obtain ⟨v, hv, -⟩ := mem_rowNumbers_complete.1 hi
    exact h v hv

theorem length_rowsWith_complete (formula : Formula) (value : Bool) :
    ((complete formula).rowsWith value).length = (formula.valuations value).ncard := by
  have hinj : Function.Injective fun w : Fin formula.vars.length → Bool =>
      number (List.ofFn w) := by
    intro w w' h
    exact List.ofFn_injective (number_injective (by simp) h)
  have hofFn (v : Valuation) :
      List.ofFn (fun j : Fin formula.vars.length => v (formula.vars.get j)) =
      formula.vars.map v := by
    refine List.ext_getElem (by simp) fun j _ _ => ?_
    simp
  have himage : ((rowNumbers ((complete formula).rowsWith value)).toFinset : Set Nat) =
      (fun w : Fin formula.vars.length → Bool =>
        number (List.ofFn w)) '' formula.valuations value := by
    ext i
    rw [List.coe_toFinset, Set.mem_ofPred_eq, mem_rowNumbers_complete]
    constructor
    · rintro ⟨v, hvalue, rfl⟩
      refine ⟨fun j => v (formula.vars.get j), ⟨v, Formula.truth_eq_iff.1 hvalue, fun _ => rfl⟩, ?_⟩
      exact congrArg number (hofFn v)
    · rintro ⟨w, ⟨v, hvalue, hw⟩, rfl⟩
      refine ⟨v, Formula.truth_eq_iff.2 hvalue, ?_⟩
      rw [← hofFn v, funext hw]
  have hnodup : (rowNumbers ((complete formula).rowsWith value)).Nodup :=
    (ascending_rowNumbers_complete formula value).imp Nat.ne_of_lt
  calc ((complete formula).rowsWith value).length
      = (rowNumbers ((complete formula).rowsWith value)).length := by
        rw [rowNumbers, List.length_map]
    _ = (rowNumbers ((complete formula).rowsWith value)).toFinset.card :=
        (List.toFinset_card_of_nodup hnodup).symm
    _ = (formula.valuations value).ncard := by
        rw [← Set.ncard_coe_finset, himage, Set.ncard_image_of_injective _ hinj]

/-! ### Tests and verdicts -/

theorem isTautology_complete {formula : Formula} :
    (complete formula).isTautology = true ↔ ∀ v, formula.Holds v := by
  rw [isTautology, List.isEmpty_iff, failures_eq_rowsWith, rowsWith_complete_eq_nil_iff]
  refine forall_congr' fun v => ?_
  rw [Bool.ne_false_iff, formula.truth_eq_true_iff]

theorem isContradiction_complete {formula : Formula} :
    (complete formula).isContradiction = true ↔ ∀ v, ¬ formula.Holds v := by
  rw [isContradiction, List.isEmpty_iff, successes_eq_rowsWith, rowsWith_complete_eq_nil_iff]
  refine forall_congr' fun v => ?_
  rw [ne_eq, formula.truth_eq_true_iff]

theorem isSatisfiable_complete {formula : Formula} :
    (complete formula).isSatisfiable = true ↔ ∃ v, formula.Holds v := by
  rw [isSatisfiable, Bool.not_eq_true', ← Bool.not_eq_true, isContradiction_complete,
    not_forall_not]

theorem verdict_all (table : TruthTable) :
    (table.verdict .all = "This is a tautology!" ↔ table.isTautology = true) ∧
      (table.verdict .all = "This is a contradiction!" ↔ table.isTautology = false ∧
        table.isContradiction = true) ∧
      (table.verdict .all = "This is NOT a tautology!" ↔
        table.isTautology = false ∧ table.isContradiction = false) := by
  rw [verdict]
  cases table.isTautology <;> cases table.isContradiction <;> decide

theorem decides_complete (formula : Formula) : (complete formula).Decides formula := by
  obtain ⟨htautology, hcontradiction, hneither⟩ := (complete formula).verdict_all
  -- no formula is both, as some valuation gives it a value
  have hboth (h : ∀ v, ¬ formula.Holds v) : ¬ ∀ v, formula.Holds v :=
    fun hall => h (fun _ => false) (hall _)
  have hrows : (complete formula).rows.length = 2 ^ formula.vars.length :=
    length_rows_complete formula
  constructor
  case mem_successes =>
    intro i
    simp only [successes_eq_rowsWith, mem_rowNumbers_complete, formula.truth_eq_true_iff,
      number_map_eq_sum, Fin.getElem_fin, List.get_eq_getElem]
  case mem_failures =>
    intro i
    simp only [failures_eq_rowsWith, mem_rowNumbers_complete, ← Bool.not_eq_true,
      formula.truth_eq_true_iff, number_map_eq_sum, Fin.getElem_fin, List.get_eq_getElem]
  case ascending_successes =>
    rw [successes_eq_rowsWith]
    exact ascending_rowNumbers_complete formula true
  case ascending_failures =>
    rw [failures_eq_rowsWith]
    exact ascending_rowNumbers_complete formula false
  case perm_range =>
    rw [successes_eq_rowsWith, failures_eq_rowsWith]
    exact perm_rowNumbers_complete formula
  case isTautology_iff => exact isTautology_complete
  case isContradiction_iff => exact isContradiction_complete
  case isSatisfiable_iff => exact isSatisfiable_complete
  case verdict_tautology => exact htautology.trans isTautology_complete
  case verdict_contradiction =>
    rw [hcontradiction, ← Bool.not_eq_true, isTautology_complete, isContradiction_complete]
    exact ⟨And.right, fun h => ⟨hboth h, h⟩⟩
  case verdict_neither =>
    rw [hneither, ← Bool.not_eq_true, ← Bool.not_eq_true, isTautology_complete,
      isContradiction_complete, not_forall, not_forall_not]
    exact And.comm
  case verdict_successes =>
    rw [verdict, successes_eq_rowsWith, length_rowsWith_complete, hrows]
  case verdict_failures =>
    rw [verdict, failures_eq_rowsWith, length_rowsWith_complete, hrows]

theorem evaluateRows_eq_rowsWith {lexicon : Lexicon} {capacity : Capacity} {input : String}
    {table : TruthTable} (h : lexicon.evaluate capacity input = .ok table) (value : Bool) :
    lexicon.evaluateRows capacity input value = .ok (table.rowsWith value) := by
  rw [Lexicon.evaluateRows, h]
  rfl

/-- Where a text is evaluated to a table, the rows selected by their values are the models and the
countermodels of its formula, the same rows that are shown and counted, and the table decides the
formula. -/
theorem selections_decide {lexicon : Lexicon} {capacity : Capacity} {input : String}
    {table : TruthTable} (h : lexicon.evaluate capacity input = .ok table) :
    ∃ formula, lexicon.parse input = .ok formula ∧ table.formula = some formula ∧
      table.vars = formula.vars ∧
      Selection.all.rows table = table.rows ∧
      lexicon.evaluateSuccesses capacity input = .ok (Selection.successes.rows table) ∧
      lexicon.evaluateFailures capacity input = .ok (Selection.failures.rows table) ∧
      table.Decides formula := by
  have hrows := evaluateRows_eq_rowsWith h
  obtain ⟨formula, hparse, rfl⟩ := Lexicon.evaluate_eq_ok h
  refine ⟨formula, hparse, rfl, rfl, rfl, ?_, ?_, decides_complete formula⟩
  · rw [Lexicon.evaluateSuccesses, hrows, ← successes_eq_rowsWith]
    rfl
  · rw [Lexicon.evaluateFailures, hrows, ← failures_eq_rowsWith]
    rfl

theorem selections_decide_contingent :
    ∃ table, Lexicon.standard.evaluate ⟨20, (· ≤ 4)⟩ "b -> a" = .ok table ∧
      Lexicon.standard.evaluateFailures ⟨20, (· ≤ 4)⟩ "b -> a" = .ok table.failures ∧
      2 ∈ rowNumbers table.failures ∧
      table.verdict .all = "This is NOT a tautology!" ∧ table.isSatisfiable = true := by
  have h : Lexicon.standard.evaluate ⟨20, (· ≤ 4)⟩ "b -> a" =
      .ok (complete (.binary .implies (.var "b") (.var "a"))) := by decide +kernel
  obtain ⟨formula, -, hformula, -, -, -, hfailures, hdecides⟩ := selections_decide h
  obtain rfl := Option.some.inj hformula
  have hmodel : Formula.Holds (fun _ => true) (.binary .implies (.var "b") (.var "a")) :=
    fun _ => rfl
  have hcountermodel :
      ¬ Formula.Holds (fun name => name == "b") (.binary .implies (.var "b") (.var "a")) := by
    intro hholds
    have ha : ("a" == "b") = true := hholds rfl
    exact absurd ha (by decide)
  exact ⟨_, h, hfailures, (hdecides.mem_failures 2).2 ⟨_, hcountermodel, by decide⟩,
    hdecides.verdict_neither.2 ⟨⟨_, hmodel⟩, _, hcountermodel⟩,
    hdecides.isSatisfiable_iff.2 ⟨_, hmodel⟩⟩

end TruthTable

end BooleanTables
