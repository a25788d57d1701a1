import BooleanTables.CommandLine.Arguments
import BooleanTables.Grid.Tables
import BooleanTables.Session.Basic

/-!
# The command line

A session without a backing, whose host is the text printed so far: overrides are changes of values,
then the slots are listed if that is asked for, then the expression is rendered. The first error
ends it.
-/

namespace BooleanTables

namespace Terminal

def renderer (noTable : Bool) : Renderer String where
  render table selection printed :=
    (.ok (), printed ++ (if noTable then "" else (table.grid selection).render) ++
      table.verdict selection ++ "\n")

end Terminal

namespace Arguments

def session (arguments : Arguments) (reserves : Nat → Bool) : Session String :=
  ⟨arguments.maxVariables, fun _ => reserves, none, Terminal.renderer arguments.noTable⟩

def override (session : Session String) :
    List (Key × String) → Lexicon → String → Except Error Unit × Lexicon × String
  | [], lexicon, printed => (.ok (), lexicon, printed)
  | (key, value) :: rest, lexicon, printed =>
    let outcome := session.changeValue key.id value lexicon printed
    match outcome.result with
    | .error e => (.error e, outcome.lexicon, outcome.host)
    | .ok () => override session rest outcome.lexicon outcome.host

/-- What is printed, and how it ends, where there is memory for these numbers of rows. -/
def run (arguments : Arguments) (reserves : Nat → Bool) : Except Error Unit × String :=
  let session := arguments.session reserves
  let opened := session.initStorage .standard ""
  match opened.result with
  | .error e => (.error e, opened.host)
  | .ok () =>
    match override session arguments.overrides opened.lexicon opened.host with
    | (.error e, _, printed) => (.error e, printed)
    | (.ok (), lexicon, printed) =>
      let printed := if arguments.listOptions then printed ++ lexicon.grid.render else printed
      match arguments.expression with
      | none => (.ok (), printed)
      | some expression =>
        let outcome := session.render arguments.selection expression lexicon printed
        (outcome.result, outcome.host)

end Arguments

/-- What a run of the program leaves: its exit code and its two outputs. -/
structure Report where
  exit : Nat
  stdout : String
  stderr : String
  deriving DecidableEq, Repr

def Arguments.report (arguments : Arguments) (reserves : Nat → Bool) : Report :=
  match arguments.run reserves with
  | (.ok (), printed) => ⟨0, printed, ""⟩
  | (.error e, printed) => ⟨1, printed, "error: " ++ e.message ++ "\n"⟩

end BooleanTables
