import BooleanTables.Proofs.Table.Places
import BooleanTables.Table.Circuit

/-!
# Tables of circuits

A circuit asks for the values at some places, and fails at the first one that the assignment does
not have. All rows of a table have the same places, so a circuit fails in the first row or has a
value in every row.
-/

namespace BooleanTables

namespace Circuit

/-- The places that a circuit asks for, in the order in which it does. -/
def places : Circuit → List Nat
  | .place index => [index]
  | .not operand => operand.places
  | .gate _ left right => left.places ++ right.places
  | _ => []

/-- The output if all places that are asked for are there. -/
def output (assignment : Assignment) : Circuit → Bool
  | .const value => value
  | .place index => assignment.bit index
  | .named name => (assignment.get? name).getD false
  | .bound name => (assignment.get? name).isSome
  | .row number => assignment.bits == number
  | .oddRow => assignment.bits % 2 == 1
  | .majority => assignment.count < 2 * assignment.values.count true
  | .not operand => !operand.output assignment
  | .gate op left right => op.apply (left.output assignment) (right.output assignment)

def missing? (circuit : Circuit) (count : Nat) : Option Nat := circuit.places.find? (count ≤ ·)

theorem missing?_gate (op : Gate) (left right : Circuit) (count : Nat) :
    (gate op left right).missing? count = (left.missing? count).or (right.missing? count) := by
  rw [missing?, places, List.find?_append]
  rfl

theorem eval_eq_missing? (circuit : Circuit) (assignment : Assignment) :
    circuit.eval assignment = match circuit.missing? assignment.count with
      | some index => .error (.outOfRange index assignment.count)
      | none => .ok (circuit.output assignment) := by
  induction circuit with
  | place index =>
    rw [eval]
    by_cases hindex : index < assignment.count
    · have hnone : (place index).missing? assignment.count = none := by
        simp [missing?, places, hindex]
      rw [Assignment.at?_of_lt hindex, hnone]
      rfl
    · have hsome : (place index).missing? assignment.count = some index := by
        simp [missing?, places, Nat.le_of_not_lt hindex]
      rw [Assignment.at?, if_neg hindex, hsome]
  | not operand ih =>
    rw [eval, ih]
    change _ = match operand.missing? assignment.count with | some index => _ | none => _
    cases operand.missing? assignment.count <;> rfl
  | gate op left right ihl ihr =>
    rw [eval, ihl, ihr, missing?_gate]
    cases left.missing? assignment.count with
    | some index => rfl
    | none => cases right.missing? assignment.count <;> rfl
  | const | named | bound | row | oddRow | majority => rfl

end Circuit

namespace TruthTable

/-- There is a row with the number zero, so a function that fails everywhere has no table. -/
theorem tabulate_eq_error {names : List String} {f : Assignment → Except Error Bool} {e : Error}
    (h : ∀ bits, f ⟨names, bits⟩ = .error e) : tabulate names f = .error e := by
  rw [tabulate, Nat.one_shiftLeft]
  cases hrange : List.range (2 ^ names.length) with
  | nil => simp at hrange
  | cons first rest =>
    rw [List.mapM_cons, h first]
    rfl

/-- A circuit is refused like every function, or fails at the first of its places that is not there;
otherwise its table has its output in every row. -/
theorem ofFunction_circuit (count : Nat) (capacity : Capacity) (circuit : Circuit) :
    ofFunction count capacity (circuit.eval ·) =
      if capacity.Admits count then
        match circuit.missing? count with
        | some index => .error (.outOfRange index count)
        | none =>
          .ok ⟨none, placeNames count, rowsOf (placeNames count) fun row => circuit.output row⟩
      else .error (.tooManyVariables count capacity.limit) := by
  have hcount (bits : Nat) : (⟨placeNames count, bits⟩ : Assignment).count = count :=
    length_placeNames count
  cases hmissing : circuit.missing? count with
  | none =>
    refine ofFunction_eq (fun row => circuit.output row) (fun bits _ => ?_) capacity
    rw [Circuit.eval_eq_missing?, hcount, hmissing]
  | some index =>
    have hrows : tabulate (placeNames count) (circuit.eval ·) = .error (.outOfRange index count) :=
      tabulate_eq_error fun bits => by rw [Circuit.eval_eq_missing?, hcount, hmissing]
    rw [ofFunction, Capacity.check, hrows]
    split <;> rfl

example :
    let circuit : Circuit := .gate .xor (.named "x0") (.not (.place 3))
    ofFunction 2 ⟨20, (· ≤ 4)⟩ (circuit.eval ·) = .error (.outOfRange 3 2) := by decide +kernel

end TruthTable

end BooleanTables
