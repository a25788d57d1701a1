import BooleanTables.Lexicon.Key
import BooleanTables.Text.Blank

/-!
# Overrides

A slot and a value with an equals sign between them. The first equals sign counts, white space
around the slot does not, and the value is kept as it is.
-/

namespace BooleanTables

open Text

inductive OverrideFault
  | noEqualsSign (text : String)
  | unknownKey (id : String)
  deriving DecidableEq, Repr

def OverrideFault.message : OverrideFault → String
  | .noEqualsSign text => "expected KEY=VALUE, got `" ++ text ++ "`"
  | .unknownKey id => "unknown option key `" ++ id ++ "`"

def splitAtEquals : List Char → Option (List Char × List Char)
  | [] => none
  | c :: rest =>
    if c = '=' then some ([], rest)
    else (splitAtEquals rest).map fun (before, after) => (c :: before, after)

def parseOverride (text : String) : Except OverrideFault (Key × String) :=
  match splitAtEquals text.toList with
  | none => .error (.noEqualsSign text)
  | some (before, after) =>
    let id := String.ofList (trim before)
    match Key.ofId? id with
    | none => .error (.unknownKey id)
    | some key => .ok (key, String.ofList after)

end BooleanTables
