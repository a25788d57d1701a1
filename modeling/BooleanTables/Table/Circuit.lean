import BooleanTables.Table.Basic

/-!
# Circuits

Functions on assignments which are built from gates over questions about the row: the value at a
place, the value of a name, whether a name is there, the row number, and the majority of the values.
-/

namespace BooleanTables

inductive Gate
  | and
  | or
  | xor
  deriving DecidableEq, Repr

def Gate.apply : Gate → Bool → Bool → Bool
  | .and, a, b => a && b
  | .or, a, b => a || b
  | .xor, a, b => a ^^ b

inductive Circuit
  | const (value : Bool)
  | place (index : Nat)
  | named (name : String)
  | bound (name : String)
  | row (number : Nat)
  | oddRow
  | majority
  | not (operand : Circuit)
  | gate (op : Gate) (left right : Circuit)
  deriving DecidableEq, Repr

/-- The output of a circuit. Both inputs of a gate are always evaluated, the left one first; a name
that is not there counts as false. -/
def Circuit.eval (assignment : Assignment) : Circuit → Except Error Bool
  | .const value => .ok value
  | .place index => assignment.at? index
  | .named name => .ok ((assignment.get? name).getD false)
  | .bound name => .ok (assignment.get? name).isSome
  | .row number => .ok (assignment.bits == number)
  | .oddRow => .ok (assignment.bits % 2 == 1)
  | .majority => .ok (assignment.count < 2 * assignment.values.count true)
  | .not operand => do
    let value ← operand.eval assignment
    return !value
  | .gate op left right => do
    let a ← left.eval assignment
    let b ← right.eval assignment
    return op.apply a b

end BooleanTables
