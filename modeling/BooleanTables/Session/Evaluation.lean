import BooleanTables.Event
import BooleanTables.Formula.Parser

/-!
# Evaluation of texts

A text is parsed with the symbols of a lexicon and tabulated if its variables are not too many and
there is memory for the rows.
-/

namespace BooleanTables

def ParseFault.toError (fault : ParseFault) (input : String) : Error :=
  .parse (fault.position input) fault.cause.message

/-- The formula of a text, with faults placed and worded for the user. -/
def SymbolTable.parse (table : SymbolTable) (input : String) : Except Error Formula :=
  match Formula.parse table input with
  | .ok formula => .ok formula
  | .error fault => .error (fault.toError input)

namespace Lexicon

def parse (lexicon : Lexicon) (input : String) : Except Error Formula :=
  lexicon.symbols.parse input

def evaluate (lexicon : Lexicon) (capacity : Capacity) (input : String) :
    Except Error TruthTable := do
  let formula ← lexicon.parse input
  TruthTable.ofFormula capacity formula

def evaluateRows (lexicon : Lexicon) (capacity : Capacity) (input : String) (value : Bool) :
    Except Error (List Row) := do
  let table ← lexicon.evaluate capacity input
  return table.rows.filter (·.value == value)

def evaluateSuccesses (lexicon : Lexicon) (capacity : Capacity) (input : String) :
    Except Error (List Row) :=
  lexicon.evaluateRows capacity input true

def evaluateFailures (lexicon : Lexicon) (capacity : Capacity) (input : String) :
    Except Error (List Row) :=
  lexicon.evaluateRows capacity input false

def evaluationEvents (lexicon : Lexicon) (input : String) : List Event :=
  match lexicon.parse input with
  | .ok formula => [.parsed input formula, .evaluating formula]
  | .error _ => []

end Lexicon

end BooleanTables
