import BooleanTables.Error

/-!
# Assignments

An assignment gives a list of names the bits of a row number, the first name the most significant
bit. Where a name is repeated its first place counts.
-/

namespace BooleanTables

structure Assignment where
  names : List String
  bits : Nat
  deriving DecidableEq, Repr

namespace Assignment

def count (assignment : Assignment) : Nat := assignment.names.length

/-- The bit of a place. It means something for places below `count`. -/
def bit (assignment : Assignment) (place : Nat) : Bool :=
  assignment.bits.testBit (assignment.count - 1 - place)

def at? (assignment : Assignment) (place : Nat) : Except Error Bool :=
  if place < assignment.count then .ok (assignment.bit place)
  else .error (.outOfRange place assignment.count)

def get? (assignment : Assignment) (name : String) : Option Bool :=
  (assignment.names.idxOf? name).map assignment.bit

def values (assignment : Assignment) : List Bool :=
  (List.range assignment.count).map assignment.bit

def toList (assignment : Assignment) : List (String × Bool) :=
  assignment.names.zip assignment.values

end Assignment

end BooleanTables
