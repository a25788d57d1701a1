import BooleanTables.Table.Basic

/-!
# Selections and verdicts

Which rows of a table are shown, and the line that sums them up.
-/

namespace BooleanTables

inductive Selection
  | all
  | successes
  | failures
  deriving DecidableEq, Repr

namespace Selection

def name : Selection → String
  | .all => "All"
  | .successes => "Successes"
  | .failures => "Failures"

def rows : Selection → TruthTable → List Row
  | .all, table => table.rows
  | .successes, table => table.successes
  | .failures, table => table.failures

end Selection

def truthMark (value : Bool) : String := if value then "T" else "F"

def TruthTable.verdict (table : TruthTable) : Selection → String
  | .all =>
    if table.isTautology then "This is a tautology!"
    else if table.isContradiction then "This is a contradiction!"
    else "This is NOT a tautology!"
  | .successes =>
    toString table.successes.length ++ " of " ++ toString table.rows.length ++ " rows are true"
  | .failures =>
    toString table.failures.length ++ " of " ++ toString table.rows.length ++ " rows are false"

end BooleanTables
