import BooleanTables.Proofs.Table.Rows
import BooleanTables.Table.Selection
import Mathlib.Data.List.Forall2

/-!
# Tables of functions on places

A formula may be read as a function on assignments that knows its variables by their places alone.
The table of that function is the table of the formula under other names: the rows agree one by one
in number, values and result, and the same tables are refused.
-/

namespace BooleanTables

namespace Assignment

theorem at?_of_lt {assignment : Assignment} {place : Nat} (h : place < assignment.count) :
    assignment.at? place = .ok (assignment.bit place) := by
  rw [at?, if_pos h]

theorem get?_of_mem {assignment : Assignment} {name : String} (h : name ∈ assignment.names) :
    assignment.get? name = some (assignment.bit (assignment.names.idxOf name)) := by
  obtain ⟨place, hplace⟩ :=
    Option.isSome_iff_exists.1 (show (assignment.names.idxOf? name).isSome by simpa using h)
  rw [get?, hplace, List.idxOf_eq_getD_idxOf?, hplace]
  rfl

theorem get?_eq_none_iff {assignment : Assignment} {name : String} :
    assignment.get? name = none ↔ name ∉ assignment.names := by
  rw [get?, Option.map_eq_none_iff, List.idxOf?_eq_none_iff]

theorem bit_congr {names others : List String} (h : names.length = others.length)
    (bits place : Nat) :
    (⟨names, bits⟩ : Assignment).bit place = (⟨others, bits⟩ : Assignment).bit place := by
  rw [bit, bit, count, count, h]

theorem values_congr {names others : List String} (h : names.length = others.length) (bits : Nat) :
    (⟨names, bits⟩ : Assignment).values = (⟨others, bits⟩ : Assignment).values := by
  rw [values, values, funext (bit_congr h bits), count, count, h]

end Assignment

namespace Formula

/-- The value of a formula that reads every variable at its place in a list of names. -/
def evalAt (names : List String) (assignment : Assignment) : Formula → Except Error Bool
  | .const value => .ok value
  | .var name => assignment.at? (names.idxOf name)
  | .not operand => do
    let value ← operand.evalAt names assignment
    return !value
  | .binary op left right => do
    let a ← left.evalAt names assignment
    let b ← right.evalAt names assignment
    return op.apply a b

theorem evalAt_eq_truth {names : List String} {assignment : Assignment} {formula : Formula}
    (hcount : assignment.count = names.length) (h : ∀ name ∈ formula.names, name ∈ names) :
    formula.evalAt names assignment =
      .ok (formula.truth fun name => assignment.bit (names.idxOf name)) := by
  induction formula with
  | const value => rfl
  | var name =>
    have hplace : names.idxOf name < assignment.count := by
      rw [hcount]
      exact List.idxOf_lt_length_of_mem (h name (by simp))
    exact Assignment.at?_of_lt hplace
  | not operand ih =>
    rw [evalAt, ih h]
    rfl
  | binary op left right ihl ihr =>
    have hl := ihl fun name hn => h name (by simp [hn])
    have hr := ihr fun name hn => h name (by simp [hn])
    rw [evalAt, hl, hr]
    rfl

theorem valueIn_eq_truth_bit (formula : Formula) (bits : Nat) :
    formula.valueIn ⟨formula.vars, bits⟩ =
      formula.truth fun name =>
        (⟨formula.vars, bits⟩ : Assignment).bit (formula.vars.idxOf name) := by
  refine truth_congr fun name hname => ?_
  rw [Assignment.valuation, Assignment.get?_of_mem (mem_vars.2 hname)]
  rfl

end Formula

/-- Rows agree in all but the names of their variables. -/
structure Row.Agrees (row other : Row) : Prop where
  bits_eq : row.assignment.bits = other.assignment.bits
  values_eq : row.assignment.values = other.assignment.values
  value_eq : row.value = other.value

theorem Row.map_value_eq_of_forall₂ {rows others : List Row}
    (h : List.Forall₂ Row.Agrees rows others) :
    rows.map (·.value) = others.map (·.value) := by
  rw [← List.forall₂_eq_eq_eq, List.forall₂_map_left_iff, List.forall₂_map_right_iff]
  exact h.imp fun _ _ hrow => hrow.value_eq

namespace TruthTable

@[simp] theorem length_placeNames (count : Nat) : (placeNames count).length = count := by
  simp [placeNames]

theorem ofFunction_eq {count : Nat} {f : Assignment → Except Error Bool} (value : Assignment → Bool)
    (h : ∀ bits, bits < 2 ^ count →
      f ⟨placeNames count, bits⟩ = .ok (value ⟨placeNames count, bits⟩)) (capacity : Capacity) :
    ofFunction count capacity f =
      if capacity.Admits count then .ok ⟨none, placeNames count, rowsOf (placeNames count) value⟩
      else .error (.tooManyVariables count capacity.limit) := by
  have hrows : tabulate (placeNames count) f = .ok (rowsOf (placeNames count) value) := by
    refine tabulate_eq_rowsOf fun bits hbits => h bits ?_
    rwa [length_placeNames] at hbits
  rw [ofFunction, Capacity.check, hrows]
  split <;> rfl

theorem forall₂_rowsOf {names others : List String} {value other : Assignment → Bool}
    (hlength : names.length = others.length)
    (h : ∀ bits, value ⟨names, bits⟩ = other ⟨others, bits⟩) :
    List.Forall₂ Row.Agrees (rowsOf names value) (rowsOf others other) := by
  rw [rowsOf, rowsOf, hlength, List.forall₂_map_left_iff, List.forall₂_map_right_iff,
    List.forall₂_same]
  intro bits _
  exact ⟨rfl, Assignment.values_congr hlength bits, h bits⟩

/-! ### Verdicts -/

theorem length_successes (table : TruthTable) :
    table.successes.length = (table.rows.map (·.value)).count true := by
  rw [successes, ← List.countP_eq_length_filter, List.count, List.countP_map]
  exact List.countP_congr fun row _ => by simp

theorem length_failures (table : TruthTable) :
    table.failures.length = (table.rows.map (·.value)).count false := by
  rw [failures, ← List.countP_eq_length_filter, List.count, List.countP_map]
  exact List.countP_congr fun row _ => by simp

theorem verdict_congr {table other : TruthTable}
    (h : table.rows.map (·.value) = other.rows.map (·.value)) (selection : Selection) :
    table.verdict selection = other.verdict selection := by
  have hsuccesses : table.successes.length = other.successes.length := by
    rw [length_successes, length_successes, h]
  have hfailures : table.failures.length = other.failures.length := by
    rw [length_failures, length_failures, h]
  have hrows : table.rows.length = other.rows.length := by
    simpa using congrArg List.length h
  cases selection with
  | all =>
    have htautology : table.isTautology = other.isTautology := by
      rw [Bool.eq_iff_iff, isTautology, isTautology, List.isEmpty_iff_length_eq_zero,
        List.isEmpty_iff_length_eq_zero, hfailures]
    have hcontradiction : table.isContradiction = other.isContradiction := by
      rw [Bool.eq_iff_iff, isContradiction, isContradiction, List.isEmpty_iff_length_eq_zero,
        List.isEmpty_iff_length_eq_zero, hsuccesses]
    rw [verdict, verdict, htautology, hcontradiction]
  | successes => rw [verdict, verdict, hsuccesses, hrows]
  | failures => rw [verdict, verdict, hfailures, hrows]

/-- A formula that is read by places and a text that is parsed to it are refused alike, or have
tables that agree row by row, and so in their verdicts. -/
theorem ofFunction_evalAt_agrees {lexicon : Lexicon} {input : String} {formula : Formula}
    (h : lexicon.parse input = .ok formula) (capacity : Capacity) :
    let count := formula.vars.length
    let limit := min capacity.maxVariables 24
    ((limit < count ∨ capacity.reserves (2 ^ count) = false) ∧
      lexicon.evaluate capacity input = .error (.tooManyVariables count limit) ∧
      ofFunction count capacity (formula.evalAt formula.vars ·) =
        .error (.tooManyVariables count limit)) ∨
    (count ≤ limit ∧ capacity.reserves (2 ^ count)) ∧ ∃ named placed : TruthTable,
      lexicon.evaluate capacity input = .ok named ∧
      ofFunction count capacity (formula.evalAt formula.vars ·) = .ok placed ∧
      placed.rows.length = named.rows.length ∧ List.Forall₂ Row.Agrees placed.rows named.rows ∧
      ∀ selection, placed.verdict selection = named.verdict selection := by
  intro count limit
  have hnames := length_placeNames formula.vars.length
  have hnamed : lexicon.evaluate capacity input = ofFormula capacity formula := by
    rw [Lexicon.evaluate, h]
    rfl
  have hplaced := ofFunction_eq (f := (formula.evalAt formula.vars ·))
    (fun row => formula.truth fun name => row.bit (formula.vars.idxOf name))
    (fun bits _ => Formula.evalAt_eq_truth hnames fun _ hname => Formula.mem_vars.2 hname) capacity
  rw [hnamed, ofFormula_eq, hplaced, ← Capacity.not_admits_iff, ← Capacity.admits_iff]
  by_cases hcount : capacity.Admits formula.vars.length
  · rw [if_pos hcount, if_pos hcount]
    refine .inr ⟨hcount, _, _, rfl, rfl, ?_⟩
    have hrows : List.Forall₂ Row.Agrees
        (rowsOf (placeNames formula.vars.length) fun row => formula.truth fun name =>
          row.bit (formula.vars.idxOf name))
        (rowsOf formula.vars formula.valueIn) := by
      refine forall₂_rowsOf hnames fun bits => ?_
      rw [formula.valueIn_eq_truth_bit, funext (Assignment.bit_congr hnames bits)]
    exact ⟨hrows.length_eq, hrows, verdict_congr (Row.map_value_eq_of_forall₂ hrows)⟩
  · rw [if_neg hcount, if_neg hcount]
    exact .inl ⟨hcount, rfl, rfl⟩

theorem ofFunction_evalAt_agrees_unlessRefused :
    let formula : Formula := .binary .implies (.var "b") (.var "a")
    Lexicon.standard.parse "b -> a" = .ok formula ∧
      (∃ named placed, Lexicon.standard.evaluate ⟨20, (· ≤ 4)⟩ "b -> a" = .ok named ∧
        ofFunction 2 ⟨20, (· ≤ 4)⟩ (formula.evalAt ["b", "a"] ·) = .ok placed ∧
        List.Forall₂ Row.Agrees placed.rows named.rows ∧
        placed.verdict .failures = named.verdict .failures ∧
        named.verdict .failures = "1 of 4 rows are false") ∧
      ofFunction 2 ⟨1, (· ≤ 4)⟩ (formula.evalAt ["b", "a"] ·) = .error (.tooManyVariables 2 1) ∧
      ofFunction 2 ⟨20, (· < 4)⟩ (formula.evalAt ["b", "a"] ·) =
        .error (.tooManyVariables 2 20) := by
  intro formula
  have hparse : Lexicon.standard.parse "b -> a" = .ok formula := by decide +kernel
  have hvars : formula.vars = ["b", "a"] := by decide
  refine ⟨hparse, ?_, ?_, ?_⟩
  · have hagrees := ofFunction_evalAt_agrees hparse ⟨20, (· ≤ 4)⟩
    rw [hvars] at hagrees
    obtain ⟨hmany, -⟩ | ⟨-, named, placed, hnamed, hplaced, -, hrows, hverdict⟩ := hagrees
    · exact absurd hmany (by decide)
    · obtain ⟨_, hformula, rfl⟩ := Lexicon.evaluate_eq_ok hnamed
      obtain rfl := Except.ok.inj (hparse.symm.trans hformula)
      exact ⟨_, placed, hnamed, hplaced, hrows, hverdict .failures, by decide⟩
  · have hagrees := ofFunction_evalAt_agrees hparse ⟨1, (· ≤ 4)⟩
    rw [hvars] at hagrees
    obtain ⟨-, -, hrefused⟩ | ⟨hfew, -⟩ := hagrees
    · exact hrefused
    · exact absurd hfew (by decide)
  · have hagrees := ofFunction_evalAt_agrees hparse ⟨20, (· < 4)⟩
    rw [hvars] at hagrees
    obtain ⟨-, -, hrefused⟩ | ⟨hfits, -⟩ := hagrees
    · exact hrefused
    · exact absurd hfits (by decide)

end TruthTable

end BooleanTables
