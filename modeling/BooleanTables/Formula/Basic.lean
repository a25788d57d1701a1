/-!
# Formulas

Boolean formulas over named variables, their variables in order of first appearance, and their text
with a pair of parentheses around every connective.
-/

namespace BooleanTables

inductive Connective
  | and
  | or
  | xor
  | implies
  | equates
  deriving DecidableEq, Repr

namespace Connective

def apply : Connective → Bool → Bool → Bool
  | .and, a, b => a && b
  | .or, a, b => a || b
  | .xor, a, b => a ^^ b
  | .implies, a, b => !a || b
  | .equates, a, b => a == b

def sign : Connective → String
  | .and => "∧"
  | .or => "∨"
  | .xor => "⊕"
  | .implies => "⇒"
  | .equates => "⇔"

/-- How tightly a connective binds. Every rank is above zero and below that of negation. -/
def rank : Connective → Nat
  | .equates => 1
  | .implies => 2
  | .or => 3
  | .xor => 4
  | .and => 5

theorem rank_pos (op : Connective) : 0 < op.rank := by
  cases op <;> decide

theorem rank_injective {a b : Connective} (h : a.rank = b.rank) : a = b := by
  cases a <;> cases b <;> first | rfl | exact absurd h (by decide)

end Connective

inductive Formula
  | const (value : Bool)
  | var (name : String)
  | not (operand : Formula)
  | binary (op : Connective) (left right : Formula)
  deriving DecidableEq, Repr

/-- The items of a list without repetitions, in the order of their first appearance. -/
def firstAppearances (names : List String) : List String :=
  names.foldl (fun seen name => if name ∈ seen then seen else seen ++ [name]) []

namespace Formula

/-- The variables at the leaves from left to right, with repetitions, before some more names. -/
def namesBefore (more : List String) : Formula → List String
  | .const _ => more
  | .var name => name :: more
  | .not operand => operand.namesBefore more
  | .binary _ left right => left.namesBefore (right.namesBefore more)

def names (formula : Formula) : List String := formula.namesBefore []

theorem namesBefore_eq (formula : Formula) (more : List String) :
    formula.namesBefore more = formula.names ++ more := by
  unfold names
  induction formula generalizing more with
  | const | var => rfl
  | not operand ih => exact ih more
  | binary op left right ihl ihr =>
    simp only [namesBefore]
    rw [ihl (right.namesBefore more), ihr more, ihl (right.namesBefore []), List.append_assoc]

@[simp] theorem names_const (value : Bool) : (const value).names = [] := rfl

@[simp] theorem names_var (name : String) : (var name).names = [name] := rfl

@[simp] theorem names_not (operand : Formula) : operand.not.names = operand.names := rfl

@[simp] theorem names_binary (op : Connective) (left right : Formula) :
    (binary op left right).names = left.names ++ right.names :=
  left.namesBefore_eq right.names

def vars (formula : Formula) : List String := firstAppearances formula.names

/-- Some text with that of a formula after it. -/
def textAfter (before : String) : Formula → String
  | .const value => before ++ if value then "1" else "0"
  | .var name => before ++ name
  | .not operand => operand.textAfter (before ++ "¬")
  | .binary op left right =>
    right.textAfter (left.textAfter (before ++ "(") ++ " " ++ op.sign ++ " ") ++ ")"

def text (formula : Formula) : String := formula.textAfter ""

theorem textAfter_eq (before : String) (formula : Formula) :
    formula.textAfter before = before ++ formula.text := by
  unfold text
  induction formula generalizing before with
  | const | var => simp [textAfter]
  | not operand ih =>
    simp only [textAfter]
    rw [ih (before ++ "¬"), ih ("" ++ "¬")]
    simp [String.append_assoc]
  | binary op left right ihl ihr =>
    simp only [textAfter]
    rw [ihr, ihl, ihr (left.textAfter ("" ++ "(") ++ " " ++ op.sign ++ " "), ihl ("" ++ "(")]
    simp [String.append_assoc]

@[simp] theorem text_const (value : Bool) : (const value).text = if value then "1" else "0" := by
  simp [text, textAfter]

@[simp] theorem text_var (name : String) : (var name).text = name := by
  simp [text, textAfter]

@[simp] theorem text_not (operand : Formula) : operand.not.text = "¬" ++ operand.text := by
  simp [text, textAfter, textAfter_eq "¬"]

@[simp] theorem text_binary (op : Connective) (left right : Formula) :
    (binary op left right).text =
      "(" ++ left.text ++ " " ++ op.sign ++ " " ++ right.text ++ ")" := by
  rw [text]
  simp only [textAfter]
  rw [textAfter_eq _ right, textAfter_eq _ left]
  simp [String.append_assoc]

end Formula

end BooleanTables
