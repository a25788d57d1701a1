import BooleanTables.Text.Blank

/-!
# Aliases

A stored value is a list of aliases with commas between them. White space around an alias does not
count, and an item with nothing else in it is no alias.
-/

namespace BooleanTables

open Text

/-- The text between the commas: one piece more than there are commas. -/
def commaPieces : List Char → List (List Char)
  | [] => [[]]
  | c :: rest =>
    if c = ',' then [] :: commaPieces rest
    else match commaPieces rest with
      | [] => [[c]]
      | piece :: pieces => (c :: piece) :: pieces

def aliases (value : String) : List (List Char) :=
  ((commaPieces value.toList).map trim).filter (· ≠ [])

/-- The aliases that no expression can contain, since white space ends every lexeme. -/
def unmatchableAliases (value : String) : List (List Char) :=
  (aliases value).filter (·.any isBlank)

theorem ne_nil_of_mem_aliases {value : String} {spelling : List Char}
    (h : spelling ∈ aliases value) : spelling ≠ [] := by
  simpa using (List.mem_filter.1 h).2

end BooleanTables
