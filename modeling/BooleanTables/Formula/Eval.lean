import BooleanTables.Formula.Basic
import BooleanTables.Table.Assignment

/-!
# Values of formulas

A formula has a value under an assignment that gives a value to each of its variables.
-/

namespace BooleanTables

/-- The truth value under an assignment. Both operands are always evaluated, the left one first. -/
def Formula.eval (assignment : Assignment) : Formula → Except Error Bool
  | .const value => .ok value
  | .var name => (assignment.get? name).elim (.error (.unboundVariable name)) .ok
  | .not operand => do
    let value ← operand.eval assignment
    return !value
  | .binary op left right => do
    let a ← left.eval assignment
    let b ← right.eval assignment
    return op.apply a b

end BooleanTables
