/-!
# Equality up to the case of ASCII letters

Two texts agree when folding the ASCII capital letters of both gives one text. All other letters
keep their case.
-/

namespace BooleanTables.Text

def foldCase (text : List Char) : List Char := text.map Char.toLower

def sameUpToCase (a b : List Char) : Bool := foldCase a == foldCase b

/-- Whether the second text begins with the first, up to the case of ASCII letters. -/
def startsUpToCase : List Char → List Char → Bool
  | [], _ => true
  | _ :: _, [] => false
  | a :: as, b :: bs => a.toLower == b.toLower && startsUpToCase as bs

theorem startsUpToCase_iff {a b : List Char} :
    startsUpToCase a b = true ↔ foldCase a <+: foldCase b := by
  induction a generalizing b with
  | nil => simp [startsUpToCase, foldCase]
  | cons x a ih =>
    cases b with
    | nil => simp [startsUpToCase, foldCase]
    | cons y b => simpa [startsUpToCase, foldCase, List.cons_prefix_cons] using fun _ => ih

end BooleanTables.Text
