import BooleanTables.Token.Basic

/-!
# Terminals of the grammar

A terminal stands for all tokens that the grammar does not tell apart: those of one slot, or the
variables.
-/

namespace BooleanTables

inductive Terminal
  | symbol (key : Key)
  | var
  deriving DecidableEq, Repr

def Token.terminal : Token → Terminal
  | .symbol key => .symbol key
  | .var _ => .var

namespace Terminal

def name : Terminal → String
  | .symbol .litTrue => "true"
  | .symbol .litFalse => "false"
  | .symbol .leftParen => "("
  | .symbol .rightParen => ")"
  | .symbol key => key.id
  | .var => "var"

/-- All terminals in the order of their names. -/
def all : List Terminal :=
  [.symbol .leftParen, .symbol .rightParen, .symbol .and, .symbol .equality, .symbol .litFalse,
    .symbol .implication, .symbol .not, .symbol .or, .symbol .litTrue, .var, .symbol .xor]

/-- One of the tokens that the terminal stands for. -/
def token : Terminal → Token
  | .symbol key => .symbol key
  | .var => .var ""

end Terminal

end BooleanTables
