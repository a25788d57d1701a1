import BooleanTables.Proofs.Table.Places
import Mathlib.Data.Set.Function

/-!
# Formulas under other names

A map of names that keeps the variables of a formula apart gives them new names and changes nothing
else: they appear in the same order, and the rows of the two tables agree one by one.
-/

namespace BooleanTables

theorem firstAppearances_map {r : String → String} {names : List String}
    (hr : Set.InjOn r {name | name ∈ names}) :
    firstAppearances (names.map r) = (firstAppearances names).map r := by
  induction names using List.reverseRecOn with
  | nil => rfl
  | append_singleton names name ih =>
    have hmem : r name ∈ names.map r ↔ name ∈ names := by
      constructor
      · intro h
        obtain ⟨other, hother, heq⟩ := List.mem_map.1 h
        rwa [← hr (by simp [hother]) (by simp) heq]
      · exact List.mem_map_of_mem
    have hbefore := ih (hr.mono fun other h => by simpa using .inl h)
    rw [List.map_append, List.map_singleton, firstAppearances_concat,
      firstAppearances_concat, hbefore]
    simp only [← hbefore, mem_firstAppearances, hmem]
    split <;> simp [hbefore]

theorem idxOf_map {r : String → String} {names : List String}
    (hr : Set.InjOn r {name | name ∈ names}) {name : String} (h : name ∈ names) :
    (names.map r).idxOf (r name) = names.idxOf name := by
  induction names with
  | nil => cases h
  | cons first rest ih =>
    by_cases hname : first = name
    · simp [hname]
    · have hrest : name ∈ rest := (List.mem_cons.1 h).resolve_left (Ne.symm hname)
      have hne : r first ≠ r name := fun heq => hname (hr (by simp) (by simp [hrest]) heq)
      rw [List.map_cons, List.idxOf_cons_ne _ hne, List.idxOf_cons_ne _ hname,
        ih (hr.mono fun other ho => List.mem_cons_of_mem first ho) hrest]

namespace Formula

def rename (r : String → String) : Formula → Formula
  | .const value => .const value
  | .var name => .var (r name)
  | .not operand => .not (operand.rename r)
  | .binary op left right => .binary op (left.rename r) (right.rename r)

variable {r : String → String}

@[simp] theorem names_rename (formula : Formula) :
    (formula.rename r).names = formula.names.map r := by
  induction formula with
  | const | var => rfl
  | not operand ih => exact ih
  | binary op left right ihl ihr => simp [rename, ihl, ihr]

theorem truth_rename (formula : Formula) (v : Valuation) :
    (formula.rename r).truth v = formula.truth (v ∘ r) := by
  induction formula with
  | const | var => rfl
  | not operand ih => simp [rename, truth, ih]
  | binary op left right ihl ihr => simp [rename, truth, ihl, ihr]

variable {formula : Formula}

theorem vars_rename (hr : Set.InjOn r {name | name ∈ formula.names}) :
    (formula.rename r).vars = formula.vars.map r := by
  rw [vars, names_rename, firstAppearances_map hr, vars]

theorem valueIn_rename (hr : Set.InjOn r {name | name ∈ formula.names}) (bits : Nat) :
    (formula.rename r).valueIn ⟨(formula.rename r).vars, bits⟩ =
      formula.valueIn ⟨formula.vars, bits⟩ := by
  have hvars : Set.InjOn r {name | name ∈ formula.vars} := hr.mono fun name h => mem_vars.1 h
  have hlength : (formula.rename r).vars.length = formula.vars.length := by simp [vars_rename hr]
  rw [valueIn_eq_truth_bit, valueIn_eq_truth_bit, truth_rename]
  refine truth_congr fun name hname => ?_
  rw [Function.comp_apply, Assignment.bit_congr hlength, vars_rename hr,
    idxOf_map hvars (mem_vars.2 hname)]

end Formula

/-- Renamed variables are as many as before, so the same tables are refused, and the others agree
row by row. -/
theorem TruthTable.ofFormula_rename {r : String → String} {formula : Formula}
    (hr : Set.InjOn r {name | name ∈ formula.names}) (capacity : Capacity) :
    (¬ capacity.Admits formula.vars.length ∧
      ofFormula capacity formula = .error (.tooManyVariables formula.vars.length capacity.limit) ∧
      ofFormula capacity (formula.rename r) =
        .error (.tooManyVariables formula.vars.length capacity.limit)) ∨
    capacity.Admits formula.vars.length ∧ ∃ first second : TruthTable,
      ofFormula capacity formula = .ok first ∧ ofFormula capacity (formula.rename r) = .ok second ∧
      second.formula = first.formula.map (.rename r) ∧ second.vars = first.vars.map r ∧
      List.Forall₂ Row.Agrees first.rows second.rows ∧
      ∀ selection, second.verdict selection = first.verdict selection := by
  have hlength : (formula.rename r).vars.length = formula.vars.length := by
    simp [Formula.vars_rename hr]
  rw [ofFormula_eq, ofFormula_eq, hlength]
  by_cases hcount : capacity.Admits formula.vars.length
  · rw [if_pos hcount, if_pos hcount]
    have hrows : List.Forall₂ Row.Agrees (complete formula).rows
        (complete (formula.rename r)).rows :=
      forall₂_rowsOf hlength.symm fun bits => (Formula.valueIn_rename hr bits).symm
    exact .inr ⟨hcount, _, _, rfl, rfl, rfl, Formula.vars_rename hr, hrows,
      verdict_congr (Row.map_value_eq_of_forall₂ hrows).symm⟩
  · rw [if_neg hcount, if_neg hcount]
    exact .inl ⟨hcount, rfl, rfl⟩

end BooleanTables
