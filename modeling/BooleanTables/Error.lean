/-!
# Errors

Why an operation fails, and the wording of each cause.
-/

namespace BooleanTables

/-- All errors are answers but `outOfRange`: it stands for the panic of an assignment that is asked
for a place which it does not have. -/
inductive Error
  | parse (position : Nat) (detail : String)
  | unknownKey (id : String)
  | unboundVariable (name : String)
  | tooManyVariables (count limit : Nat)
  | outOfRange (index count : Nat)
  | notInitialized
  | host (detail : String)
  deriving DecidableEq, Repr

def Error.message : Error → String
  | .parse position detail => "parse error at position " ++ toString position ++ ": " ++ detail
  | .unknownKey id => "unknown option key `" ++ id ++ "`"
  | .unboundVariable name => "variable `" ++ name ++ "` has no value in this assignment"
  | .tooManyVariables count limit =>
    "expression uses " ++ toString count ++ " variables, the limit is " ++ toString limit
  | .outOfRange index count =>
    "variable " ++ toString index ++ " out of range for " ++ toString count ++ " variables"
  | .notInitialized => "storage has not been initialized, call `init_storage` first"
  | .host detail => "host error: " ++ detail

end BooleanTables
