import BooleanTables.Proofs.Table.Places

/-!
# Variables without a value

Evaluation needs a value for every variable of a formula, also where one operand would decide the
result. It visits the variables from left to right and fails at the first one that has no value. So
its outcome depends on nothing but what the assignment says of the variables of the formula.
-/

namespace BooleanTables

/-- The value that counts for a name: the one at its first place. -/
def Assignment.valueOf (assignment : Assignment) (name : String) : Bool :=
  assignment.bit (assignment.names.idxOf name)

namespace Formula

/-- The variable that evaluation fails at, if any. -/
def firstUnbound? (formula : Formula) (assignment : Assignment) : Option String :=
  formula.names.find? (· ∉ assignment.names)

theorem firstUnbound?_not (operand : Formula) (assignment : Assignment) :
    operand.not.firstUnbound? assignment = operand.firstUnbound? assignment := rfl

theorem firstUnbound?_binary (op : Connective) (left right : Formula) (assignment : Assignment) :
    (binary op left right).firstUnbound? assignment =
      (left.firstUnbound? assignment).or (right.firstUnbound? assignment) := by
  rw [firstUnbound?, names_binary, List.find?_append]
  rfl

theorem firstUnbound?_eq_none_iff {formula : Formula} {assignment : Assignment} :
    formula.firstUnbound? assignment = none ↔ ∀ name ∈ formula.names, name ∈ assignment.names := by
  simp [firstUnbound?]

theorem firstUnbound?_eq_some_iff {formula : Formula} {assignment : Assignment} {name : String} :
    formula.firstUnbound? assignment = some name ↔
      ∃ before after, formula.names = before ++ name :: after ∧
        (∀ other ∈ before, other ∈ assignment.names) ∧
        name ∉ assignment.names := by
  rw [firstUnbound?, List.find?_eq_some_iff_append]
  constructor
  · rintro ⟨hname, before, after, hnames, hbefore⟩
    exact ⟨before, after, hnames, by simpa using hbefore, by simpa using hname⟩
  · rintro ⟨before, after, hnames, hbefore, hname⟩
    exact ⟨by simpa using hname, before, after, hnames, by simpa using hbefore⟩

theorem eval_eq_firstUnbound? (formula : Formula) (assignment : Assignment) :
    formula.eval assignment = match formula.firstUnbound? assignment with
      | some name => .error (.unboundVariable name)
      | none => .ok (formula.truth assignment.valueOf) := by
  induction formula with
  | const value => rfl
  | var name =>
    rw [eval]
    by_cases hname : name ∈ assignment.names
    · rw [Assignment.get?_of_mem hname, firstUnbound?_eq_none_iff.2 (by simpa using hname)]
      rfl
    · rw [Assignment.get?_eq_none_iff.2 hname,
        firstUnbound?_eq_some_iff.2 ⟨[], [], rfl, by simp, hname⟩]
      rfl
  | not operand ih =>
    rw [eval, ih, firstUnbound?_not]
    cases operand.firstUnbound? assignment <;> rfl
  | binary op left right ihl ihr =>
    rw [eval, ihl, ihr, firstUnbound?_binary]
    cases left.firstUnbound? assignment with
    | some name => rfl
    | none => cases right.firstUnbound? assignment <;> rfl

theorem eval_congr {formula : Formula} {assignment other : Assignment}
    (h : ∀ name ∈ formula.names, other.get? name = assignment.get? name) :
    formula.eval other = formula.eval assignment := by
  induction formula with
  | const value => rfl
  | var name => rw [eval, eval, h name (by simp)]
  | not operand ih => rw [eval, eval, ih h]
  | binary op left right ihl ihr =>
    have hl := ihl fun name hn => h name (by simp [hn])
    have hr := ihr fun name hn => h name (by simp [hn])
    rw [eval, eval, hl, hr]

/-- A formula has a value if all its variables have one, and otherwise evaluation fails at the
leftmost variable that has none, whatever the other variables say. Where a name is repeated its
first place counts. -/
theorem eval_leftmost_unbound (formula : Formula) (assignment : Assignment) :
    (∀ value, formula.eval assignment = .ok value ↔
      (∀ name ∈ formula.names, name ∈ assignment.names) ∧
        (value = true ↔ formula.Holds fun name => assignment.bit (assignment.names.idxOf name))) ∧
    (∀ e, formula.eval assignment = .error e ↔
      ∃ before name after, formula.names = before ++ name :: after ∧
        (∀ other ∈ before, other ∈ assignment.names) ∧ name ∉ assignment.names ∧
          e = .unboundVariable name) ∧
    ∀ other : Assignment, (∀ name ∈ formula.names, other.get? name = assignment.get? name) →
      formula.eval other = formula.eval assignment := by
  refine ⟨?_, ?_, fun other h => eval_congr h⟩
  · intro value
    rw [eval_eq_firstUnbound?, ← firstUnbound?_eq_none_iff, ← truth_eq_true_iff, ← Bool.eq_iff_iff]
    cases formula.firstUnbound? assignment with
    | some name => simp
    | none =>
      simp only [Except.ok.injEq, true_and]
      exact eq_comm
  · intro e
    rw [eval_eq_firstUnbound?]
    cases hfirst : formula.firstUnbound? assignment with
    | some name =>
      obtain ⟨before, after, hnames, hbefore, hname⟩ := firstUnbound?_eq_some_iff.1 hfirst
      constructor
      · intro he
        exact ⟨before, name, after, hnames, hbefore, hname, (Except.error.inj he).symm⟩
      · rintro ⟨_, other, _, hother, hbound, hunbound, rfl⟩
        have hsome := firstUnbound?_eq_some_iff.2 ⟨_, _, hother, hbound, hunbound⟩
        rw [hfirst] at hsome
        rw [Option.some.inj hsome]
    | none =>
      refine iff_of_false (by simp) ?_
      rintro ⟨before, name, after, hnames, -, hname, -⟩
      exact hname (firstUnbound?_eq_none_iff.1 hfirst name (by simp [hnames]))

/-- The left operand is false, which would decide the conjunction. The name `b` is repeated, and its
first place counts. -/
theorem eval_leftmost_unbound_decided :
    let formula : Formula := .binary .and (.var "a") (.binary .or (.var "q") (.not (.var "r")))
    let assignment : Assignment := ⟨["b", "a", "b"], 0b100⟩
    let other : Assignment := ⟨["a", "c"], 0b01⟩
    formula.eval assignment = .error (.unboundVariable "q") ∧
    formula.eval other = formula.eval assignment ∧
      (Formula.binary .implies (.var "b") (.var "a")).eval assignment = .ok false := by
  intro formula assignment other
  obtain ⟨-, hunbound, hsame⟩ := eval_leftmost_unbound formula assignment
  obtain ⟨hbound, -⟩ := eval_leftmost_unbound (.binary .implies (.var "b") (.var "a")) assignment
  refine ⟨(hunbound _).2 ⟨["a"], "q", ["r"], rfl, by decide, by decide, rfl⟩, hsame other ?_, ?_⟩
  · decide
  · refine (hbound false).2 ⟨by decide, ?_⟩
    rw [← truth_eq_true_iff]
    decide

end Formula

end BooleanTables
