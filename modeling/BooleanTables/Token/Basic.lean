import BooleanTables.Lexicon.Key
import BooleanTables.Text.Alphanumeric

/-!
# Tokens

A token is a symbol of the lexicon, known by its slot, or a variable. A lexeme is a token with the
byte offsets at which its text starts and stops.
-/

namespace BooleanTables

inductive Token
  | symbol (key : Key)
  | var (name : String)
  deriving DecidableEq, Repr

/-- How a message names the token. -/
def Token.text : Token → String
  | .symbol key => key.id
  | .var name => "variable `" ++ name ++ "`"

def isNameChar (c : Char) : Bool := Text.isAlphanumeric c || c == '_' || c == '\''

structure Lexeme where
  start : Nat
  token : Token
  stop : Nat
  deriving DecidableEq, Repr

/-- Text that is neither a symbol nor a variable name. -/
structure Stray where
  start : Nat
  text : String
  deriving DecidableEq, Repr

/-- The lexemes of a text. Stray text ends it, so what follows is not read. -/
structure Scan where
  lexemes : List Lexeme
  stray : Option Stray
  deriving DecidableEq, Repr

end BooleanTables
