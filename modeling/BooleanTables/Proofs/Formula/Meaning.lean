import BooleanTables.Formula.Eval
import Mathlib.Data.List.Basic
import Mathlib.Data.List.Induction
import Mathlib.Logic.Basic

/-!
# The meaning of formulas

A valuation gives every name a value. A formula holds under a valuation as the logical connectives
of its statements say, and evaluation finds out whether it holds wherever its names are bound to
those values.
-/

namespace BooleanTables

abbrev Valuation := String → Bool

namespace Connective

/-- The statement that a connective makes of two statements. -/
def Joins : Connective → Prop → Prop → Prop
  | .and, p, q => p ∧ q
  | .or, p, q => p ∨ q
  | .xor, p, q => Xor p q
  | .implies, p, q => p → q
  | .equates, p, q => p ↔ q

theorem apply_eq_true_iff (op : Connective) (a b : Bool) :
    op.apply a b = true ↔ op.Joins (a = true) (b = true) := by
  cases op <;> cases a <;> cases b <;> simp [apply, Joins, Xor]

end Connective

namespace Formula

/-- What a formula states about a valuation. -/
def Holds (v : Valuation) : Formula → Prop
  | .const value => value = true
  | .var name => v name = true
  | .not operand => ¬ operand.Holds v
  | .binary op left right => op.Joins (left.Holds v) (right.Holds v)

def truth (v : Valuation) : Formula → Bool
  | .const value => value
  | .var name => v name
  | .not operand => !operand.truth v
  | .binary op left right => op.apply (left.truth v) (right.truth v)

theorem truth_eq_true_iff (v : Valuation) (formula : Formula) :
    formula.truth v = true ↔ formula.Holds v := by
  induction formula with
  | const value => rfl
  | var name => rfl
  | not operand ih => simp [truth, Holds, ← ih]
  | binary op left right ihl ihr =>
    rw [truth, Holds, Connective.apply_eq_true_iff, ihl, ihr]

theorem truth_congr {v w : Valuation} {formula : Formula}
    (h : ∀ name ∈ formula.names, v name = w name) :
    formula.truth v = formula.truth w := by
  induction formula with
  | const value => rfl
  | var name => exact h name (by simp)
  | not operand ih => simp only [truth]; rw [ih h]
  | binary op left right ihl ihr =>
    have hl := ihl fun name hn => h name (by simp [hn])
    have hr := ihr fun name hn => h name (by simp [hn])
    simp only [truth]
    rw [hl, hr]

theorem eval_eq_truth {assignment : Assignment} {v : Valuation} {formula : Formula}
    (h : ∀ name ∈ formula.names, assignment.get? name = some (v name)) :
    formula.eval assignment = .ok (formula.truth v) := by
  induction formula with
  | const value => rfl
  | var name =>
    have hn := h name (by simp)
    simp [eval, truth, hn]
  | not operand ih => rw [eval, ih h]; rfl
  | binary op left right ihl ihr =>
    have hl := ihl fun name hn => h name (by simp [hn])
    have hr := ihr fun name hn => h name (by simp [hn])
    rw [eval, hl, hr]
    rfl

end Formula

/-! ### First appearances -/

theorem mem_collect {name other : String} {seen : List String} :
    other ∈ (if name ∈ seen then seen else seen ++ [name]) ↔ other ∈ seen ∨ other = name := by
  split
  · next h => exact ⟨Or.inl, fun ho => ho.elim id fun he => he ▸ h⟩
  · simp

theorem nodup_collect {name : String} {seen : List String} (h : seen.Nodup) :
    (if name ∈ seen then seen else seen ++ [name]).Nodup := by
  split
  · exact h
  · next hn => exact List.nodup_append.2 ⟨h, by simp, by rintro a ha b hb rfl; simp_all⟩

theorem mem_firstAppearances {names : List String} {name : String} :
    name ∈ firstAppearances names ↔ name ∈ names := by
  have hfold (seen : List String) :
      name ∈ names.foldl (fun seen name => if name ∈ seen then seen else seen ++ [name]) seen ↔
        name ∈ seen ∨ name ∈ names := by
    induction names generalizing seen with
    | nil => simp
    | cons first rest ih =>
      rw [List.foldl_cons, ih, mem_collect, List.mem_cons, or_assoc]
  simpa [firstAppearances] using hfold []

theorem nodup_firstAppearances (names : List String) : (firstAppearances names).Nodup := by
  have hfold (seen : List String) (h : seen.Nodup) :
      (names.foldl (fun seen name => if name ∈ seen then seen else seen ++ [name]) seen).Nodup := by
    induction names generalizing seen with
    | nil => exact h
    | cons first rest ih => exact ih _ (nodup_collect h)
  exact hfold [] List.nodup_nil

theorem firstAppearances_concat (names : List String) (name : String) :
    firstAppearances (names ++ [name]) =
      if name ∈ firstAppearances names then firstAppearances names
      else firstAppearances names ++ [name] := by
  rw [firstAppearances, List.foldl_append]
  rfl

theorem pairwise_firstAppearances (names : List String) :
    (firstAppearances names).Pairwise fun a b => names.idxOf a < names.idxOf b := by
  induction names using List.reverseRecOn with
  | nil => exact .nil
  | append_singleton names name ih =>
    have hidx {other : String} (ho : other ∈ firstAppearances names) :
        (names ++ [name]).idxOf other = names.idxOf other :=
      List.idxOf_append_of_mem (mem_firstAppearances.1 ho)
    have hpairwise : (firstAppearances names).Pairwise fun a b =>
        (names ++ [name]).idxOf a < (names ++ [name]).idxOf b := by
      refine ih.imp_of_mem fun ha hb hab => ?_
      rwa [hidx ha, hidx hb]
    rw [firstAppearances_concat]
    split
    · exact hpairwise
    · next hname =>
      rw [mem_firstAppearances] at hname
      refine List.pairwise_append.2 ⟨hpairwise, List.pairwise_singleton _ _,
        fun other ho last hlast => ?_⟩
      obtain rfl := List.mem_singleton.1 hlast
      have hlt := List.idxOf_lt_length_of_mem (mem_firstAppearances.1 ho)
      rw [hidx ho, List.idxOf_append_of_notMem hname]
      omega

namespace Formula

theorem nodup_vars (formula : Formula) : formula.vars.Nodup := nodup_firstAppearances _

theorem mem_vars {formula : Formula} {name : String} : name ∈ formula.vars ↔ name ∈ formula.names :=
  mem_firstAppearances

end Formula

end BooleanTables
