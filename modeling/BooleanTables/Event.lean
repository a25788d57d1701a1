import BooleanTables.Formula.Basic
import BooleanTables.Lexicon.Aliases
import BooleanTables.Lexicon.Basic
import BooleanTables.Table.Selection
import BooleanTables.Text.Casing
import BooleanTables.Text.Quoted

/-!
# Events

What operations report while they run, each with a level.
-/

namespace BooleanTables

open Text

inductive Level
  | warn
  | info
  | debug
  | trace
  deriving DecidableEq, Repr

namespace Level

def name : Level → String
  | .warn => "WARN"
  | .info => "INFO"
  | .debug => "DEBUG"
  | .trace => "TRACE"

def verbosity : Level → Nat
  | .warn => 0
  | .info => 1
  | .debug => 2
  | .trace => 3

end Level

inductive Event
  | creatingSession
  | initializing
  | withoutBacking
  | storingDefault (key : Key)
  | loaded (count : Nat)
  | changed (key : Key) (value : String)
  | neverMatches (spelling : List Char) (key : Key)
  | alsoUsed (spelling : List Char) (key other : Key)
  | rendering (selection : Selection) (input : String)
  | parsed (input : String) (formula : Formula)
  | evaluating (formula : Formula)
  deriving DecidableEq, Repr

namespace Event

def level : Event → Level
  | .creatingSession | .initializing | .loaded _ | .changed .. => .info
  | .withoutBacking | .storingDefault _ | .rendering .. | .evaluating _ => .debug
  | .neverMatches .. | .alsoUsed .. => .warn
  | .parsed .. => .trace

def message : Event → String
  | .creatingSession => "creating session"
  | .initializing => "initializing storage"
  | .withoutBacking => "option store initialized without backing"
  | .storingDefault key => "`" ++ key.id ++ "` missing from backing, storing default"
  | .loaded count => "loaded " ++ toString count ++ " option values from backing"
  | .changed key value => "option `" ++ key.id ++ "` set to " ++ quote value
  | .neverMatches spelling key =>
    "symbol " ++ quote (String.ofList spelling) ++ " for `" ++ key.id ++
      "` contains whitespace and will never match"
  | .alsoUsed spelling key other =>
    "symbol " ++ quote (String.ofList spelling) ++ " for `" ++ key.id ++ "` is also used by `" ++
      other.id ++ "`"
  | .rendering selection input => "rendering " ++ selection.name ++ " rows of " ++ quote input
  | .parsed input formula =>
    "parsed " ++ quote input ++ " as " ++ formula.text ++ " over " ++ quoteList formula.vars
  | .evaluating formula =>
    "evaluating " ++ formula.text ++ " over " ++ toString formula.vars.length ++ " variables"

def record (event : Event) : String := event.level.name ++ " " ++ event.message

def kept (most : Level) (event : Event) : Bool := event.level.verbosity ≤ most.verbosity

end Event

namespace Lexicon

/-- The other slots that have the spelling already, up to the case of ASCII letters. -/
def usersOf (lexicon : Lexicon) (key : Key) (spelling : List Char) : List Key :=
  Key.all.filter fun other =>
    other ≠ key && (aliases (lexicon.value other)).any fun used => sameUpToCase used spelling

/-- What a change of a value reports: the change, then the aliases that cannot match, then the
aliases that other slots use as well. -/
def changeEvents (lexicon : Lexicon) (key : Key) (value : String) : List Event :=
  .changed key value :: (unmatchableAliases value).map (.neverMatches · key) ++
    (aliases value).flatMap fun spelling =>
      (lexicon.usersOf key spelling).map (.alsoUsed spelling key)

inductive Change
  | set (key : Key) (value : String)
  | reset
  deriving DecidableEq, Repr

def apply (lexicon : Lexicon) : Change → Lexicon × List Event
  | .set key value => (lexicon.set key value, lexicon.changeEvents key value)
  | .reset => (lexicon.reset, [])

end Lexicon

end BooleanTables
