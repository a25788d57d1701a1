import BooleanTables.Formula.Eval

/-!
# Truth tables

Row `i` of a table over `n` variables assigns them the bits of `i`, so the `2 ^ n` rows stand in
lexicographic order with false before true. A table belongs to a formula or to a function on
assignments. Memory for all rows is reserved before any of them is computed; whether it can be had
is up to the machine, and without it a table is refused as if it had too many variables.
-/

namespace BooleanTables

structure Row where
  assignment : Assignment
  value : Bool
  deriving DecidableEq, Repr

structure TruthTable where
  /-- A table of a function has none. -/
  formula : Option Formula
  vars : List String
  rows : List Row
  deriving DecidableEq, Repr

/-- The number of variables that is allowed by default. -/
def defaultMaxVariables : Nat := 20

/-- No setting allows more variables than this. -/
def hardMaxVariables : Nat := 24

/-- What bounds the tables: the number of variables that is allowed, and the numbers of rows that
memory can be reserved for. -/
structure Capacity where
  maxVariables : Nat
  reserves : Nat → Bool

namespace Capacity

def limit (capacity : Capacity) : Nat := min capacity.maxVariables hardMaxVariables

def Admits (capacity : Capacity) (count : Nat) : Prop :=
  count ≤ capacity.limit ∧ capacity.reserves (1 <<< count)

instance (capacity : Capacity) (count : Nat) : Decidable (capacity.Admits count) :=
  inferInstanceAs (Decidable (_ ∧ _))

def check (capacity : Capacity) (count : Nat) : Except Error Unit :=
  if capacity.Admits count then .ok () else .error (.tooManyVariables count capacity.limit)

end Capacity

namespace TruthTable

/-- The heading of the last column. -/
def title (table : TruthTable) : String := table.formula.elim "f" Formula.text

def successes (table : TruthTable) : List Row := table.rows.filter (·.value)

def failures (table : TruthTable) : List Row := table.rows.filter (!·.value)

def isTautology (table : TruthTable) : Bool := table.failures.isEmpty

def isContradiction (table : TruthTable) : Bool := table.successes.isEmpty

def isSatisfiable (table : TruthTable) : Bool := !table.isContradiction

def tabulate (names : List String) (f : Assignment → Except Error Bool) :
    Except Error (List Row) :=
  (List.range (1 <<< names.length)).mapM fun bits => do
    let value ← f ⟨names, bits⟩
    return ⟨⟨names, bits⟩, value⟩

def ofFormula (capacity : Capacity) (formula : Formula) : Except Error TruthTable := do
  capacity.check formula.vars.length
  let rows ← tabulate formula.vars (formula.eval ·)
  return ⟨some formula, formula.vars, rows⟩

/-- The names `x0`, `x1`, … of variables known by their places. -/
def placeNames (count : Nat) : List String := (List.range count).map fun i => "x" ++ toString i

def ofFunction (count : Nat) (capacity : Capacity) (f : Assignment → Except Error Bool) :
    Except Error TruthTable := do
  capacity.check count
  let rows ← tabulate (placeNames count) f
  return ⟨none, placeNames count, rows⟩

end TruthTable

end BooleanTables
