import BooleanTables.Table.Selection

/-!
# Flags and options

The names of flags and of options that take a value, the values that an option can take, and the
faults of a command line.
-/

namespace BooleanTables

/-- Why arguments are not run. A request for help or for the version counts too. -/
inductive UsageFault
  | missingRequiredArgument
  | unknownArgument
  | invalidValue
  | valueValidation
  | argumentConflict
  | tooManyValues
  | displayHelp
  | displayVersion
  deriving DecidableEq, Repr

def UsageFault.name : UsageFault → String
  | .missingRequiredArgument => "MissingRequiredArgument"
  | .unknownArgument => "UnknownArgument"
  | .invalidValue => "InvalidValue"
  | .valueValidation => "ValueValidation"
  | .argumentConflict => "ArgumentConflict"
  | .tooManyValues => "TooManyValues"
  | .displayHelp => "DisplayHelp"
  | .displayVersion => "DisplayVersion"

inductive Flag
  | noTable
  | listOptions
  | help
  | version
  deriving DecidableEq, Repr

inductive ValueOption
  | selection
  | override
  | maxVariables
  deriving DecidableEq, Repr

inductive Switch
  | flag (flag : Flag)
  | option (option : ValueOption)
  deriving DecidableEq, Repr

namespace Switch

def ofLong? (name : String) : Option Switch :=
  match name with
  | "no-table" => some (.flag .noTable)
  | "list-options" => some (.flag .listOptions)
  | "help" => some (.flag .help)
  | "version" => some (.flag .version)
  | "show" => some (.option .selection)
  | "set" => some (.option .override)
  | "max-vars" => some (.option .maxVariables)
  | _ => none

def ofShort? (c : Char) : Option Switch :=
  match c with
  | 'n' => some (.flag .noTable)
  | 'h' => some (.flag .help)
  | 'V' => some (.flag .version)
  | 's' => some (.option .selection)
  | _ => none

end Switch

def Selection.ofName? (name : String) : Option Selection :=
  match name with
  | "all" => some .all
  | "successes" => some .successes
  | "failures" => some .failures
  | _ => none

def largestMaxVariables : Nat := 0xFFFFFFFFFFFFFFFF

/-- A number in decimal digits, perhaps after a plus sign. -/
def parseMaxVariables? (text : String) : Option Nat :=
  let digits := match text.toList with
    | '+' :: rest => rest
    | text => text
  if digits ≠ [] ∧ digits.all Char.isDigit then
    let number := digits.foldl (fun n c => 10 * n + (c.toNat - '0'.toNat)) 0
    if number ≤ largestMaxVariables then some number else none
  else none

end BooleanTables
