import BooleanTables.CommandLine.Run

/-!
# The program

Prints what a run of the command line leaves, if there is memory for every table. Exit code 1 stands
for an error of the run and 2 for arguments that were not run.
-/

namespace BooleanTables

def version : String := "boolean-tables 0.1.0"

def help : String :=
  "Truth tables of boolean expressions in symbols of your choice

Usage: boolean-tables [OPTIONS] [EXPRESSION]

Arguments:
  [EXPRESSION]  Boolean expression, e.g. \"(a -> b) and a -> b\"

Options:
  -n, --no-table         Only print the verdict
  -s, --show <SHOW>      Which rows to print: all, successes or failures
      --set <KEY=VALUE>  Override an operator symbol, e.g. --set and=&
      --max-vars <N>     Refuse expressions with more distinct variables than this
      --list-options     Print the operator symbols in effect
  -h, --help             Print help
  -V, --version          Print version"

end BooleanTables

open BooleanTables

def main (texts : List String) : IO UInt32 := do
  match Arguments.parse texts with
  | .error .displayHelp =>
    IO.println help
    return 0
  | .error .displayVersion =>
    IO.println version
    return 0
  | .error fault =>
    IO.eprintln ("error: " ++ fault.name)
    return 2
  | .ok arguments =>
    let report := arguments.report fun _ => true
    IO.print report.stdout
    IO.eprint report.stderr
    return report.exit.toUInt32
