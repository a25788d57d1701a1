import BooleanTables.Lexicon.Aliases
import Mathlib.Data.List.Basic

/-!
# Aliases of a stored value

A stored value is cut at its commas. No piece has a comma in it, so pieces that are put together
with commas between them are the pieces of what they make up, and aliases can be taken out of a
value without a change to the others.
-/

namespace BooleanTables

open Text

theorem commaPieces_eq_splitOn (text : List Char) : commaPieces text = text.splitOn ',' := by
  induction text with
  | nil => rfl
  | cons c text ih =>
    rw [commaPieces, List.splitOn_cons_eq_if_modifyHead, ih]
    by_cases hc : c = ','
    · simp [hc]
    · obtain ⟨piece, pieces, hpieces⟩ := List.exists_cons_of_ne_nil (List.splitOn_ne_nil ',' text)
      simp [hc, hpieces]

theorem comma_not_mem_of_mem_commaPieces {text piece : List Char} (h : piece ∈ commaPieces text) :
    ',' ∉ piece := by
  induction text generalizing piece with
  | nil => simp_all [commaPieces]
  | cons c text ih =>
    unfold commaPieces at h
    split at h
    · rcases List.mem_cons.1 h with rfl | h
      · simp
      · exact ih h
    · next hc =>
      cases hpieces : commaPieces text with
      | nil =>
        rw [hpieces] at h
        rw [List.mem_singleton.1 h]
        simpa using Ne.symm hc
      | cons first rest =>
        rw [hpieces] at h ih
        rcases List.mem_cons.1 h with rfl | h
        · have hfirst := ih List.mem_cons_self
          simpa [Ne.symm hc] using hfirst
        · exact ih (List.mem_cons_of_mem _ h)

theorem commaPieces_intercalate {pieces : List (List Char)} (hne : pieces ≠ [])
    (h : ∀ piece ∈ pieces, ',' ∉ piece) :
    commaPieces ([','].intercalate pieces) = pieces := by
  rw [commaPieces_eq_splitOn]
  exact List.splitOn_intercalate ',' h hne

theorem aliases_of_pieces {value : String} {pieces : List (List Char)}
    (hvalue : value.toList = [','].intercalate pieces) (h : ∀ piece ∈ pieces, ',' ∉ piece) :
    aliases value = (pieces.map trim).filter (· ≠ []) := by
  rw [aliases, hvalue]
  by_cases hnil : pieces = []
  · rw [hnil]
    rfl
  · rw [commaPieces_intercalate hnil h]

/-- The value without the aliases that the test refuses. -/
def keepAliases (test : List Char → Bool) (value : String) : String :=
  String.ofList ([','].intercalate ((commaPieces value.toList).filter (test ∘ trim)))

theorem aliases_keepAliases (test : List Char → Bool) (value : String) :
    aliases (keepAliases test value) = (aliases value).filter test := by
  have hkept : (aliases value).filter test =
      (((commaPieces value.toList).filter (test ∘ trim)).map trim).filter (· ≠ []) := by
    rw [aliases, List.filter_comm, List.filter_map]
  rw [hkept]
  apply aliases_of_pieces String.toList_ofList
  intro piece hmem
  exact comma_not_mem_of_mem_commaPieces (List.mem_of_mem_filter hmem)

def withoutUnmatchable (value : String) : String := keepAliases (!·.any isBlank) value

theorem not_mem_unmatchableAliases_iff {value : String} {spelling : List Char}
    (h : spelling ∈ aliases value) :
    spelling ∉ unmatchableAliases value ↔ spelling.any isBlank = false := by
  simp [unmatchableAliases, h]

theorem filter_not_mem_unmatchableAliases (value : String) :
    (aliases value).filter (· ∉ unmatchableAliases value) =
      (aliases value).filter (!·.any isBlank) := by
  refine List.filter_congr ?_
  intro spelling hmem
  rw [Bool.eq_iff_iff, decide_eq_true_iff, not_mem_unmatchableAliases_iff hmem, Bool.not_eq_true']

end BooleanTables
