import BooleanTables.CommandLine.Override
import BooleanTables.CommandLine.Switch

/-!
# Arguments of the command line

Arguments are read from left to right. An option takes its value from the same argument or from the
next one; the value is checked when the argument after it is read, so that an unknown argument there
is reported first. After `--` every argument is an expression.
-/

namespace BooleanTables

structure Arguments where
  expression : Option String
  noTable : Bool
  selection : Selection
  overrides : List (Key × String)
  maxVariables : Nat
  listOptions : Bool
  deriving DecidableEq, Repr

/-- What has been read so far. -/
structure Reader where
  expression : Option String
  noTable : Bool
  selection : Option Selection
  overrides : List (Key × String)
  maxVariables : Option Nat
  listOptions : Bool
  /-- The option whose value is awaited or not yet checked. -/
  pending : Option (ValueOption × Option String)

namespace Reader

def start : Reader := ⟨none, false, none, [], none, false, none⟩

/-- Checks the value of an option and keeps it. Only overrides may be repeated. -/
def assign (reader : Reader) (option : ValueOption) (value : String) : Except UsageFault Reader :=
  match option with
  | .selection =>
    if reader.selection.isSome then .error .argumentConflict
    else match Selection.ofName? value with
      | some selection => .ok { reader with selection := some selection }
      | none => .error .invalidValue
  | .override =>
    match parseOverride value with
    | .ok override => .ok { reader with overrides := reader.overrides ++ [override] }
    | .error _ => .error .valueValidation
  | .maxVariables =>
    if reader.maxVariables.isSome then .error .argumentConflict
    else match parseMaxVariables? value with
      | some number => .ok { reader with maxVariables := some number }
      | none => .error .valueValidation

def settle (reader : Reader) : Except UsageFault Reader :=
  match reader.pending with
  | none => .ok reader
  | some (_, none) => .error .invalidValue
  | some (option, some value) => { reader with pending := none }.assign option value

def raise (reader : Reader) (flag : Flag) : Except UsageFault Reader := do
  let reader ← reader.settle
  match flag with
  | .noTable =>
    if reader.noTable then .error .argumentConflict else .ok { reader with noTable := true }
  | .listOptions =>
    if reader.listOptions then .error .argumentConflict else .ok { reader with listOptions := true }
  | .help => .error .displayHelp
  | .version => .error .displayVersion

/-- Begins an option, with the value that the same argument gives, if it gives one. -/
def begin (reader : Reader) (option : ValueOption) (value : Option (List Char)) :
    Except UsageFault Reader := do
  let reader ← reader.settle
  match value with
  | some value => reader.assign option (String.ofList value)
  | none => .ok { reader with pending := some (option, none) }

def long (reader : Reader) (text : List Char) : Except UsageFault Reader :=
  let (name, value) := match splitAtEquals text with
    | some (name, value) => (name, some value)
    | none => (text, none)
  match Switch.ofLong? (String.ofList name), value with
  | none, _ => .error .unknownArgument
  | some (.flag _), some _ => .error .tooManyValues
  | some (.flag flag), none => reader.raise flag
  | some (.option option), value => reader.begin option value

/-- The value that follows the letter of an option in the same argument. -/
def attached : List Char → Option (List Char)
  | [] => none
  | '=' :: value => some value
  | value => some value

def short (reader : Reader) : List Char → Except UsageFault Reader
  | [] => .ok reader
  | c :: rest =>
    match Switch.ofShort? c with
    | none => .error .unknownArgument
    | some (.flag flag) =>
      match reader.raise flag with
      | .ok reader => reader.short rest
      | .error fault => .error fault
    | some (.option option) => reader.begin option (attached rest)

def positional (reader : Reader) (text : String) : Except UsageFault Reader :=
  match reader.expression with
  | some _ => .error .unknownArgument
  | none => reader.settle.map ({ · with expression := some text })

/-- Reads one argument: an option, letters of options, the value that is awaited, or the
expression. -/
def argument (reader : Reader) (text : String) : Except UsageFault Reader :=
  match text.toList with
  | '-' :: '-' :: rest => reader.long rest
  | '-' :: c :: rest => reader.short (c :: rest)
  | _ =>
    match reader.pending with
    | some (option, none) => .ok { reader with pending := some (option, some text) }
    | _ => reader.positional text

def arguments (reader : Reader) : List String → Except UsageFault Reader
  | [] => reader.settle
  | text :: rest =>
    if text = "--" then do
      let reader ← rest.foldlM positional reader
      reader.settle
    else do
      let reader ← reader.argument text
      reader.arguments rest

def finish (reader : Reader) : Except UsageFault Arguments :=
  if reader.expression.isNone && !reader.listOptions then .error .missingRequiredArgument
  else .ok ⟨reader.expression, reader.noTable, reader.selection.getD .all, reader.overrides,
    reader.maxVariables.getD defaultMaxVariables, reader.listOptions⟩

end Reader

def Arguments.parse (texts : List String) : Except UsageFault Arguments := do
  let reader ← Reader.start.arguments texts
  reader.finish

end BooleanTables
