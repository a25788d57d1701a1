import BooleanTables.Event
import BooleanTables.Lexicon.SymbolTable
import BooleanTables.Proofs.Lexicon.Aliases
import BooleanTables.Proofs.Text.Trimming

/-!
# The normal form of a value

An alias is not empty, and it has no comma in it and no white space at either end. A list of such
texts is what every value comes to that has them between its commas, whatever white space is around
them and however many pieces without a text are among them, and no other value comes to it. So a
value can be stored as its aliases with a comma and a blank between them.
-/

namespace BooleanTables

open Text

structure IsAlias (spelling : List Char) : Prop where
  ne_nil : spelling ≠ []
  unsplit : ',' ∉ spelling
  trimmed : IsTrimmed spelling

instance (spelling : List Char) : Decidable (IsAlias spelling) :=
  decidable_of_iff (spelling ≠ [] ∧ ',' ∉ spelling ∧ IsTrimmed spelling)
    ⟨fun ⟨hne, hcomma, htrimmed⟩ => ⟨hne, hcomma, htrimmed⟩,
      fun h => ⟨h.ne_nil, h.unsplit, h.trimmed⟩⟩

/-- The pieces are the spellings, in their order and each with white space around it, and some more
pieces of white space alone. -/
inductive PiecesSpell : List (List Char) → List (List Char) → Prop
  | nil : PiecesSpell [] []
  | blank {piece : List Char} {pieces spellings : List (List Char)}
    (hb : ∀ c ∈ piece, isBlank c = true) (h : PiecesSpell pieces spellings) :
    PiecesSpell (piece :: pieces) spellings
  | spelling {before spelling behind : List Char} {pieces spellings : List (List Char)}
    (hb : ∀ c ∈ before, isBlank c = true) (ha : ∀ c ∈ behind, isBlank c = true)
    (h : PiecesSpell pieces spellings) :
    PiecesSpell ((before ++ spelling ++ behind) :: pieces) (spelling :: spellings)

/-- The value is the spellings with commas between them, with any white space around the commas and
any pieces of white space among the spellings. -/
def Lists (value : String) (spellings : List (List Char)) : Prop :=
  ∃ pieces, value.toList = [','].intercalate pieces ∧ PiecesSpell pieces spellings

def normalForm (value : String) : String := ", ".intercalate ((aliases value).map String.ofList)

/-! ### What pieces come to -/

theorem comma_not_mem_blanks {blanks : List Char} (h : ∀ c ∈ blanks, isBlank c = true) :
    ',' ∉ blanks :=
  not_mem_blanks (by decide) h

section Pieces

variable {pieces spellings : List (List Char)}

theorem PiecesSpell.indented {before spelling : List Char} (hb : ∀ c ∈ before, isBlank c = true)
    (h : PiecesSpell pieces spellings) :
    PiecesSpell ((before ++ spelling) :: pieces) (spelling :: spellings) := by
  have hspell : PiecesSpell ((before ++ spelling ++ []) :: pieces) (spelling :: spellings) :=
    .spelling hb (by simp) h
  rwa [List.append_nil] at hspell

theorem PiecesSpell.comma_not_mem (h : PiecesSpell pieces spellings)
    (ha : ∀ spelling ∈ spellings, IsAlias spelling) : ∀ piece ∈ pieces, ',' ∉ piece := by
  induction h with
  | nil => simp
  | blank hb _ ih => exact List.forall_mem_cons.2 ⟨comma_not_mem_blanks hb, ih ha⟩
  | spelling hb hbehind _ ih =>
    obtain ⟨hfirst, hrest⟩ := List.forall_mem_cons.1 ha
    refine List.forall_mem_cons.2 ⟨?_, ih hrest⟩
    simp [comma_not_mem_blanks hb, hfirst.unsplit, comma_not_mem_blanks hbehind]

theorem PiecesSpell.filter_trim (h : PiecesSpell pieces spellings)
    (ha : ∀ spelling ∈ spellings, IsAlias spelling) :
    (pieces.map trim).filter (· ≠ []) = spellings := by
  induction h with
  | nil => rfl
  | blank hb _ ih =>
    rw [List.map_cons, List.filter_cons_of_neg (by simpa using trim_eq_nil_iff.2 hb)]
    exact ih ha
  | spelling hb hbehind _ ih =>
    obtain ⟨hfirst, hrest⟩ := List.forall_mem_cons.1 ha
    rw [List.map_cons, hfirst.trimmed.trim_append hb hbehind,
      List.filter_cons_of_pos (by simpa using hfirst.ne_nil), ih hrest]

theorem piecesSpell_filter_trim (pieces : List (List Char)) :
    PiecesSpell pieces ((pieces.map trim).filter (· ≠ [])) := by
  induction pieces with
  | nil => exact .nil
  | cons piece pieces ih =>
    by_cases hnil : trim piece = []
    · rw [List.map_cons, List.filter_cons_of_neg (by simpa using hnil)]
      exact .blank (trim_eq_nil_iff.1 hnil) ih
    · rw [List.map_cons, List.filter_cons_of_pos (by simpa using hnil)]
      obtain ⟨before, behind, hb, ha, hpiece⟩ := exists_trim_append piece
      have hspell : PiecesSpell ((before ++ trim piece ++ behind) :: pieces) _ := .spelling hb ha ih
      rwa [← hpiece] at hspell

end Pieces

/-! ### What values come to -/

theorem isAlias_of_mem_aliases {value : String} {spelling : List Char}
    (h : spelling ∈ aliases value) :
    IsAlias spelling := by
  obtain ⟨hmem, -⟩ := List.mem_filter.1 h
  obtain ⟨piece, hpiece, rfl⟩ := List.mem_map.1 hmem
  exact ⟨ne_nil_of_mem_aliases h,
    fun hcomma => comma_not_mem_of_mem_commaPieces hpiece (mem_of_mem_trim hcomma),
    isTrimmed_trim piece⟩

theorem lists_aliases (value : String) : Lists value (aliases value) := by
  refine ⟨commaPieces value.toList, ?_, piecesSpell_filter_trim _⟩
  rw [commaPieces_eq_splitOn, List.intercalate_splitOn]

theorem Lists.aliases_eq {value : String} {spellings : List (List Char)} (h : Lists value spellings)
    (ha : ∀ spelling ∈ spellings, IsAlias spelling) : aliases value = spellings := by
  obtain ⟨pieces, hvalue, hpieces⟩ := h
  rw [aliases_of_pieces hvalue (hpieces.comma_not_mem ha)]
  exact hpieces.filter_trim ha

theorem aliases_eq_iff {value : String} {spellings : List (List Char)}
    (ha : ∀ spelling ∈ spellings, IsAlias spelling) :
    aliases value = spellings ↔ Lists value spellings := by
  constructor
  · rintro rfl
    exact lists_aliases value
  · exact fun h => h.aliases_eq ha

/-! ### The normal form -/

theorem intercalate_cons_head (separator piece : List Char) (c : Char) (pieces : List (List Char)) :
    separator.intercalate ((c :: piece) :: pieces) =
      c :: separator.intercalate (piece :: pieces) := by
  cases pieces with
  | nil => simp
  | cons next pieces => simp [List.intercalate_cons_cons]

theorem intercalate_comma_blank (piece : List Char) (pieces : List (List Char)) :
    [',', ' '].intercalate (piece :: pieces) =
      [','].intercalate (piece :: pieces.map (' ' :: ·)) := by
  induction pieces generalizing piece with
  | nil => simp
  | cons next pieces ih =>
    rw [List.map_cons, List.intercalate_cons_cons, List.intercalate_cons_cons,
      intercalate_cons_head, ih]
    simp

theorem piecesSpell_map_blank (spellings : List (List Char)) :
    PiecesSpell (spellings.map (' ' :: ·)) spellings := by
  induction spellings with
  | nil => exact .nil
  | cons spelling spellings ih =>
    have hblank : ∀ c ∈ [' '], isBlank c = true := List.forall_mem_singleton.2 (by decide)
    exact ih.indented hblank

theorem lists_normalForm (value : String) : Lists (normalForm value) (aliases value) := by
  have htext : (normalForm value).toList = [',', ' '].intercalate (aliases value) := by
    simp [normalForm, String.toList_intercalate]
  cases haliases : aliases value with
  | nil => exact ⟨[], by simp [htext, haliases], .nil⟩
  | cons first rest =>
    refine ⟨first :: rest.map (' ' :: ·), ?_,
      (piecesSpell_map_blank rest).indented (List.forall_mem_nil _)⟩
    rw [htext, haliases, intercalate_comma_blank]

theorem aliases_normalForm (value : String) : aliases (normalForm value) = aliases value :=
  (lists_normalForm value).aliases_eq fun _ => isAlias_of_mem_aliases

example : normalForm " a ,, b\t," = "a, b" := by decide +kernel

namespace Lexicon

variable (lexicon : Lexicon) (key : Key) {value other : String}

theorem symbols_set_congr (h : aliases value = aliases other) :
    (lexicon.set key value).symbols = (lexicon.set key other).symbols := by
  have haliases (slot : Key) :
      aliases ((lexicon.set key value).value slot) =
        aliases ((lexicon.set key other).value slot) := by
    rw [value_set, value_set]
    split
    · exact h
    · rfl
  simp only [symbols, symbolList, haliases]

theorem tail_changeEvents_congr (h : aliases value = aliases other) :
    (lexicon.changeEvents key value).tail = (lexicon.changeEvents key other).tail := by
  simp only [changeEvents, unmatchableAliases, h, List.cons_append, List.tail_cons]

end Lexicon

/-- The aliases of a value are not empty, have no comma in them and no white space at either end.
Texts like that are the aliases of a value if and only if the value is the texts with commas between
them, with white space and pieces without a text anywhere around the commas. A change of a value to
its aliases with a comma and a blank between them makes the same symbol table as a change to the
value, and warns of the same. -/
theorem aliases_normal_form :
    (∀ value, ∀ spelling ∈ aliases value, IsAlias spelling) ∧
      (∀ spellings : List (List Char), (∀ spelling ∈ spellings, IsAlias spelling) →
        ∀ value, aliases value = spellings ↔ Lists value spellings) ∧
      ∀ (lexicon : Lexicon) (key : Key) (value : String),
        (lexicon.apply (.set key (normalForm value))).1.symbols =
          (lexicon.apply (.set key value)).1.symbols ∧
          (lexicon.apply (.set key (normalForm value))).2.tail =
            (lexicon.apply (.set key value)).2.tail := by
  refine ⟨fun value spelling => isAlias_of_mem_aliases,
    fun spellings ha value => aliases_eq_iff ha, ?_⟩
  intro lexicon key value
  have haliases := aliases_normalForm value
  exact ⟨lexicon.symbols_set_congr key haliases, lexicon.tail_changeEvents_congr key haliases⟩

theorem aliases_normal_form_spaced :
    let value := " not  so ,,\t¬\u3000, ,!,"
    let spellings := ["not  so".toList, "¬".toList, "!".toList]
    (∀ spelling ∈ spellings, IsAlias spelling) ∧ Lists value spellings ∧ aliases value = spellings ∧
      "not  so".toList ∈ aliases value ∧ IsAlias "not  so".toList ∧
      normalForm value = "not  so, ¬, !" ∧
      (Lexicon.standard.apply (.set .not "not  so, ¬, !")).1.symbols =
        (Lexicon.standard.apply (.set .not value)).1.symbols ∧
      (Lexicon.standard.apply (.set .not "not  so, ¬, !")).2.tail =
        [.neverMatches "not  so".toList .not] := by
  intro value spellings
  have hblank (c : Char) (hc : isBlank c = true) : ∀ b ∈ [c], isBlank b = true :=
    List.forall_mem_singleton.2 hc
  have hspellings : ∀ spelling ∈ spellings, IsAlias spelling := by decide +kernel
  have hpieces : PiecesSpell
      [[' '] ++ "not  so".toList ++ [' '], [], ['\t'] ++ "¬".toList ++ ['\u3000'], [' '],
        [] ++ "!".toList ++ [], []] spellings :=
    .spelling (hblank ' ' (by decide)) (hblank ' ' (by decide)) <| .blank (by simp) <|
      .spelling (hblank '\t' (by decide)) (hblank '\u3000' (by decide)) <|
      .blank (hblank ' ' (by decide)) <| .spelling (by simp) (by simp) <| .blank (by simp) .nil
  have hvalue : Lists value spellings := ⟨_, by decide +kernel, hpieces⟩
  obtain ⟨hmem, hlists, hset⟩ := aliases_normal_form
  have haliases : aliases value = spellings := (hlists spellings hspellings value).2 hvalue
  have hfirst : "not  so".toList ∈ aliases value := haliases ▸ List.mem_cons_self
  have hnormal : normalForm value = "not  so, ¬, !" := by decide +kernel
  obtain ⟨hsymbols, htail⟩ := hset Lexicon.standard .not value
  rw [hnormal] at hsymbols htail
  refine ⟨hspellings, hvalue, haliases, hfirst, hmem value _ hfirst, hnormal, hsymbols, ?_⟩
  rw [htail]
  decide +kernel

end BooleanTables
