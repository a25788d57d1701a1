import BooleanTables.Text.Unprintable

/-!
# Quoted text

Text between double quotes, as messages show it. Quotes, backslashes and the usual controls are
escaped by a backslash, and characters that would not show are given by their code points.
-/

namespace BooleanTables.Text

def hexDigits (n : Nat) : List Char := Nat.toDigits 16 n

def escape (c : Char) : List Char :=
  match c with
  | '\"' => ['\\', '\"']
  | '\\' => ['\\', '\\']
  | '\n' => ['\\', 'n']
  | '\r' => ['\\', 'r']
  | '\t' => ['\\', 't']
  | '\x00' => ['\\', '0']
  | c => if isUnprintable c then ['\\', 'u', '\x7b'] ++ hexDigits c.toNat ++ ['\x7d'] else [c]

def quote (text : String) : String :=
  String.ofList ('\"' :: text.toList.flatMap escape ++ ['\"'])

/-- Quoted texts between brackets, with commas between them. -/
def quoteList (texts : List String) : String :=
  "[" ++ ", ".intercalate (texts.map quote) ++ "]"

end BooleanTables.Text
