/-!
# The slots of a lexicon

Every literal, operator and parenthesis of an expression is spelled by what the user stores in its
slot.
-/

namespace BooleanTables

inductive Key
  | litTrue
  | litFalse
  | not
  | and
  | xor
  | or
  | implication
  | equality
  | leftParen
  | rightParen
  deriving DecidableEq, Repr

namespace Key

/-- All slots. Where spellings of one length compete, the earlier slot wins. -/
def all : List Key :=
  [.litTrue, .litFalse, .not, .and, .xor, .or, .implication, .equality, .leftParen, .rightParen]

@[simp] theorem mem_all (key : Key) : key ∈ all := by
  cases key <;> decide

def id : Key → String
  | .litTrue => "lit-true"
  | .litFalse => "lit-false"
  | .not => "not"
  | .and => "and"
  | .xor => "xor"
  | .or => "or"
  | .implication => "implication"
  | .equality => "equality"
  | .leftParen => "left-paren"
  | .rightParen => "right-paren"

/-- What a slot holds until the user changes it: aliases with commas between them. -/
def standard : Key → String
  | .litTrue => "true"
  | .litFalse => "false"
  | .not => "¬, not, !, ~"
  | .and => "∧, and, &&, &, *"
  | .xor => "⊕, xor, ^"
  | .or => "∨, or, ||, |, +"
  | .implication => "→, ->, =>"
  | .equality => "≡, <=>, ==, ="
  | .leftParen => "(, \x7b, ["
  | .rightParen => "), \x7d, ]"

def ofId? (id : String) : Option Key := all.find? (·.id == id)

theorem ofId?_id (key : Key) : ofId? key.id = some key := by
  cases key <;> decide

theorem id_of_ofId? {id : String} {key : Key} (h : ofId? id = some key) : key.id = id := by
  simpa using List.find?_some h

end Key

end BooleanTables
