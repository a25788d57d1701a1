import BooleanTables.Text.Columns.Ligature

/-!
# Columns of a terminal

A text on a terminal may hold escape sequences that set a colour. Their characters after the escape
itself are counted apart and taken off the columns of the whole text.
-/

namespace BooleanTables.Text

/-- Where in an escape sequence a character stands. -/
inductive EscapePart
  | outside
  | escape
  | inside
  deriving DecidableEq, Repr

def isControl (c : Char) : Bool := c < ' ' || ('\x7f' ≤ c && c < '\u00A0')

/-- Whether a character shows when it stands by itself. -/
def isShown (c : Char) : Bool := !isControl c && charColumns c ≠ 0

/-- The number of characters inside escape sequences that would show elsewhere. -/
def hiddenFrom : EscapePart → List Char → Nat
  | _, [] => 0
  | .outside, c :: rest => hiddenFrom (if c = '\x1b' then .escape else .outside) rest
  | .escape, c :: rest =>
    if c = '[' then 1 + hiddenFrom .inside rest else hiddenFrom .outside rest
  | .inside, c :: rest =>
    (if isShown c then 1 else 0) + hiddenFrom (if c = 'm' then .outside else .inside) rest

def terminalColumns (text : List Char) : Nat := columns text - hiddenFrom .outside text

end BooleanTables.Text
