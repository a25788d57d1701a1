import BooleanTables.Proofs.Lexing.Unmatchable
import BooleanTables.Proofs.Parsing.Composition
import BooleanTables.Proofs.Text.Names

/-!
# Spelling tokens

A token is spelled by a text that alone is read as it: a variable by its name if no symbol begins
anywhere in it, a symbol by an alias that no earlier slot has. Spellings with blanks between them
are read as their tokens again. Every token that is read has a spelling, and a name that is read
inside a longer run of characters spells itself alone.
-/

namespace BooleanTables

open Text

namespace Lexicon

variable {lexicon : Lexicon}

/-! ### Places without symbols -/

theorem longest?_eq_none_of_append {text more : List Char}
    (h : lexicon.longest? (text ++ more) = none) :
    lexicon.longest? text = none := by
  rw [← match?_symbols] at h ⊢
  apply List.find?_eq_none.2
  intro symbol hmem hstarts
  apply List.find?_eq_none.1 h symbol hmem
  have hbegins := startsUpToCase_iff.1 hstarts
  apply startsUpToCase_iff.2
  rw [foldCase, foldCase, List.map_append]
  exact hbegins.trans (List.prefix_append _ _)

theorem longest?_drop_of_lt_symbolPlace {text : List Char} {place : Nat}
    (h : place < lexicon.symbolPlace text) :
    lexicon.longest? (text.drop place) = none := by
  induction text generalizing place with
  | nil => cases h
  | cons c text ih =>
    rw [symbolPlace_cons] at h
    split at h
    · cases h
    · next hfirst =>
      cases place with
      | zero => simpa using hfirst
      | succ place => exact ih (Nat.lt_of_succ_lt_succ h)

theorem longest?_drop_take_symbolPlace {chunk : List Char} {place : Nat}
    (h : place < lexicon.symbolPlace chunk) :
    lexicon.longest? ((chunk.take (lexicon.symbolPlace chunk)).drop place) = none := by
  have hwhole := longest?_drop_of_lt_symbolPlace h
  have hsplit : chunk.drop place = (chunk.take (lexicon.symbolPlace chunk)).drop place ++
      chunk.drop (lexicon.symbolPlace chunk) := by
    have hle : place ≤ (chunk.take (lexicon.symbolPlace chunk)).length := by
      have hbound := lexicon.symbolPlace_le chunk
      rw [List.length_take]
      omega
    rw [← List.drop_append_of_le_length hle, List.take_append_drop]
  rw [hsplit] at hwhole
  exact longest?_eq_none_of_append hwhole

/-! ### Spellings -/

/-- Characters of names, at least one, and no alias begins at any of them. -/
structure IsName (lexicon : Lexicon) (name : String) : Prop where
  ne_empty : name ≠ ""
  isNameChar : ∀ c ∈ name.toList, BooleanTables.isNameChar c = true
  unmatched : ∀ place < name.toList.length, lexicon.symbols.match? (name.toList.drop place) = none

/-- How a token may be spelled: a variable by its name, a symbol by an alias of its slot that has no
white space and is, up to the case of ASCII letters, no alias of an earlier slot. -/
inductive Spells (lexicon : Lexicon) : Token → String → Prop
  | name {name : String} (isName : lexicon.IsName name) : Spells lexicon (.var name) name
  | symbol {key : Key} {spelling : List Char} (mem : spelling ∈ aliases (lexicon.value key))
    (unbroken : spelling.any isBlank = false)
    (earliest : ∀ other : Key, other.index < key.index →
      ∀ used ∈ aliases (lexicon.value other), ¬ sameUpToCase used spelling = true) :
    Spells lexicon (.symbol key) (String.ofList spelling)

theorem IsName.lexesTo {name : String} (h : lexicon.IsName name) :
    lexicon.symbols.LexesTo name [.var name] := by
  have hne : name.toList ≠ [] := mt String.toList_eq_nil_iff.1 h.ne_empty
  have hc : IsChunk name.toList [] :=
    ⟨fun c hmem => isBlank_of_isNameChar (h.isNameChar c hmem), by simp⟩
  have hunmatched (place : Nat) (hlt : place < name.toList.length) :
      lexicon.longest? (name.toList.drop place) = none := by
    rw [← match?_symbols]
    exact h.unmatched place hlt
  have hplace : lexicon.symbolPlace name.toList = name.toList.length := by
    have hle := lexicon.symbolPlace_le name.toList
    rcases Nat.lt_or_eq_of_le hle with hlt | heq
    · exact symbolPlace_eq_length (hunmatched _ hlt)
    · exact heq
  have hnone : lexicon.longest? name.toList = none := hunmatched 0 (List.length_pos_iff.2 hne)
  have hread := @Cursor.read_of_longest?_none lexicon 0 name.toList [] hc hne hnone
  rw [hplace, List.take_length, List.drop_length, if_pos (List.all_eq_true.2 h.isNameChar),
    List.append_nil, String.ofList_toList] at hread
  unfold SymbolTable.LexesTo SymbolTable.scan
  rw [Cursor.scan_of_lexeme hread, List.append_nil, Cursor.scan_nil]
  rfl

/-- An alias alone in a text is one lexeme, of the slot that no earlier slot disputes. -/
theorem lexesTo_alias {key : Key} {spelling : List Char}
    (hmem : spelling ∈ aliases (lexicon.value key)) (hunbroken : spelling.any isBlank = false)
    (hearliest : ∀ other : Key, other.index < key.index →
      ∀ used ∈ aliases (lexicon.value other), ¬ sameUpToCase used spelling = true) :
    lexicon.symbols.LexesTo (String.ofList spelling) [.symbol key] := by
  obtain ⟨first, hfirst, hscan⟩ := scan_spelling hmem hunbroken
  obtain ⟨hused, hearlier⟩ := Key.first_of_find? hfirst
  obtain ⟨used, hin, hsame⟩ := List.any_eq_true.1 hused
  have hkey : first = key := by
    apply Key.index_injective
    apply Nat.le_antisymm
    · apply Nat.le_of_not_lt
      intro hlt
      exact hearlier key hlt (List.any_eq_true.2 ⟨spelling, hmem, beq_self_eq_true _⟩)
    · apply Nat.le_of_not_lt
      intro hlt
      exact hearliest first hlt used hin hsame
  unfold SymbolTable.LexesTo
  rw [hscan, hkey]
  rfl

theorem Spells.lexesTo {token : Token} {text : String} (h : lexicon.Spells token text) :
    lexicon.symbols.LexesTo text [token] := by
  cases h with
  | name hname => exact hname.lexesTo
  | symbol hmem hunbroken hearliest => exact lexesTo_alias hmem hunbroken hearliest

theorem lexesTo_intercalate {tokens : List Token} {texts : List String}
    (h : List.Forall₂ lexicon.Spells tokens texts) :
    lexicon.symbols.LexesTo (" ".intercalate texts) tokens := by
  induction h with
  | nil =>
    unfold SymbolTable.LexesTo
    rw [String.intercalate_nil, SymbolTable.scan_empty]
    rfl
  | @cons token text tokens texts hfirst hrest ih =>
    cases hrest with
    | nil => exact hfirst.lexesTo
    | cons hsecond hothers =>
      rw [String.intercalate_cons_of_ne_nil (List.cons_ne_nil _ _)]
      exact hfirst.lexesTo.blank ih

/-! ### Spellings of what is read -/

theorem spells_of_longest? {chunk : List Char} {symbol : Symbol}
    (hc : ∀ c ∈ chunk, isBlank c = false) (h : lexicon.longest? chunk = some symbol) :
    lexicon.Spells (.symbol symbol.key) (String.ofList symbol.spelling) := by
  have hstarts := startsIn_of_longest? h
  rw [← match?_symbols] at h
  have hlongest := beginsLongest_of_match? h
  have hmem : symbol ∈ lexicon.symbolList := mem_longestFirst.1 (List.mem_of_find?_eq_some h)
  have hunbroken : symbol.spelling.any isBlank = false := by
    rw [← any_isBlank_take_of_starts hstarts, List.any_eq_false]
    intro c hin
    simp [hc c (List.mem_of_mem_take hin)]
  refine .symbol (mem_symbolList.1 hmem) hunbroken ?_
  intro other hlt used hused hsame
  -- an earlier slot with the alias would have been found in its place
  have hfold : foldCase used = foldCase symbol.spelling := beq_iff_eq.1 hsame
  let rival : Symbol := ⟨other, used, ne_nil_of_mem_aliases hused⟩
  have hrival : rival ∈ lexicon.symbols.entries := mem_longestFirst.2 (mem_symbolList.2 hused)
  have hbegins : rival.startsIn chunk = true := by
    apply startsUpToCase_iff.2
    rw [hfold]
    exact startsUpToCase_iff.1 hstarts
  have hbytes : rival.byteLength = symbol.byteLength := by
    have hequal := congrArg byteLength hfold
    rwa [byteLength_foldCase, byteLength_foldCase] at hequal
  exact hlongest.earliest other hlt (begins_iff.2 ⟨rival, hrival, hbegins, rfl, hbytes⟩)

theorem isName_take_symbolPlace {chunk : List Char} (hne : chunk ≠ [])
    (h : lexicon.longest? chunk = none)
    (hname : (chunk.take (lexicon.symbolPlace chunk)).all BooleanTables.isNameChar = true) :
    lexicon.IsName (String.ofList (chunk.take (lexicon.symbolPlace chunk))) where
  ne_empty := by
    intro hempty
    apply take_symbolPlace_ne_nil hne h
    rw [← String.toList_ofList (l := chunk.take (lexicon.symbolPlace chunk)), hempty]
    rfl
  isNameChar := by
    rw [String.toList_ofList]
    exact List.all_eq_true.1 hname
  unmatched := by
    intro place hlt
    rw [String.toList_ofList, List.length_take] at hlt
    rw [String.toList_ofList, match?_symbols]
    exact longest?_drop_take_symbolPlace (Nat.lt_of_lt_of_le hlt (Nat.min_le_left _ _))

theorem exists_spells_of_read {cursor next : Cursor} {lexeme : Lexeme}
    (h : cursor.read lexicon.symbols = .lexeme lexeme next) :
    ∃ text, lexicon.Spells lexeme.token text := by
  have hrest : cursor.skipBlanks.rest ≠ [] := mt Cursor.read_of_skipBlanks_nil (by rw [h]; simp)
  obtain ⟨chunk, more, hskip, hc, hne, -⟩ := Cursor.exists_isChunk hrest
  rw [← Cursor.read_skipBlanks, hskip] at h
  cases hl : lexicon.longest? chunk with
  | some symbol =>
    rw [Cursor.read_of_longest? hc hne hl] at h
    cases h
    exact ⟨_, spells_of_longest? hc.unbroken hl⟩
  | none =>
    rw [Cursor.read_of_longest?_none hc hne hl] at h
    split at h
    · next hname =>
      cases h
      exact ⟨_, .name (isName_take_symbolPlace hne hl hname)⟩
    · cases h

theorem exists_spells_of_scan {cursor : Cursor} :
    ∃ texts, List.Forall₂ lexicon.Spells
      ((cursor.scan lexicon.symbols).lexemes.map Lexeme.token) texts := by
  fun_induction Cursor.scan lexicon.symbols cursor with
  | case1 cursor hread => exact ⟨[], .nil⟩
  | case2 cursor stray hread => exact ⟨[], .nil⟩
  | case3 cursor lexeme next hread rest ih =>
    obtain ⟨text, htext⟩ := exists_spells_of_read hread
    obtain ⟨texts, htexts⟩ := ih
    exact ⟨text :: texts, .cons htext htexts⟩

theorem Spells.isName {name text : String} (h : lexicon.Spells (.var name) text) :
    lexicon.IsName name := by
  cases h with
  | name hname => exact hname

theorem isName_of_mem {tokens : List Token} {texts : List String}
    (h : List.Forall₂ lexicon.Spells tokens texts) {name : String} (hmem : .var name ∈ tokens) :
    lexicon.IsName name := by
  induction h with
  | nil => cases hmem
  | cons hfirst hrest ih =>
    rcases List.mem_cons.1 hmem with rfl | hmem
    · exact hfirst.isName
    · exact ih hmem

theorem isName_of_parse {input : String} {formula : Formula} (h : lexicon.parse input = .ok formula)
    {name : String} (hname : name ∈ formula.names) : lexicon.IsName name := by
  have hparse := SymbolTable.parse_eq_ok_iff.1 h
  obtain ⟨texts, htexts⟩ := @exists_spells_of_scan lexicon ⟨0, input.toList⟩
  exact isName_of_mem htexts ((Formula.derives_of_parse hparse).mem_names hname)

/-- Spellings with blanks between them are read as the tokens that they spell. The tokens of a text
without stray text have spellings, every name in them is one alone as well, and a text of their
spellings has the same tokens and is parsed alike, but for the place of an error. -/
theorem lexes_respelled (lexicon : Lexicon) :
    (∀ tokens texts, List.Forall₂ lexicon.Spells tokens texts →
      lexicon.symbols.LexesTo (" ".intercalate texts) tokens) ∧
    ∀ input tokens, lexicon.symbols.LexesTo input tokens →
      (∀ name, .var name ∈ tokens → lexicon.IsName name) ∧
      (∃ texts, List.Forall₂ lexicon.Spells tokens texts) ∧
      ∀ texts, List.Forall₂ lexicon.Spells tokens texts →
        lexicon.symbols.LexesTo (" ".intercalate texts) tokens ∧
        (lexicon.parse (" ".intercalate texts)).mapError Error.unplaced =
          (lexicon.parse input).mapError Error.unplaced ∧
        ∀ formula vars, lexicon.symbols.ParsesTo (" ".intercalate texts) formula vars ↔
          lexicon.symbols.ParsesTo input formula vars := by
  refine ⟨fun tokens texts h => lexesTo_intercalate h, ?_⟩
  intro input tokens hinput
  have htokens : (lexicon.symbols.scan input).lexemes.map Lexeme.token = tokens :=
    (Prod.mk.inj hinput).1
  obtain ⟨spellings, hspellings⟩ := @exists_spells_of_scan lexicon ⟨0, input.toList⟩
  change List.Forall₂ lexicon.Spells
    ((lexicon.symbols.scan input).lexemes.map Lexeme.token) spellings at hspellings
  rw [htokens] at hspellings
  refine ⟨fun name hmem => isName_of_mem hspellings hmem, ⟨spellings, hspellings⟩, ?_⟩
  intro texts htexts
  have hjoined := lexesTo_intercalate htexts
  have hfound : (lexicon.symbols.scan (" ".intercalate texts)).found =
      (lexicon.symbols.scan input).found :=
    hjoined.trans hinput.symm
  refine ⟨hjoined, SymbolTable.parse_congr _ hfound, ?_⟩
  intro formula vars
  rw [SymbolTable.parsesTo_iff, SymbolTable.parsesTo_iff]
  unfold SymbolTable.LexesTo
  rw [hfound]

/-- The slot of the disjunction has the alias `an`, with which `and` begins, and `AND`, which
belongs to the slot of the conjunction. -/
theorem lexes_respelled_overlapping :
    let lexicon := standard.set .or "AND, an"
    let tokens := [.var "x", .symbol .and, .var "y'", .symbol .or, .symbol .not, .var "z"]
    lexicon.symbols.LexesTo "x&&y' anNOTz" tokens ∧ lexicon.IsName "y'" ∧
      lexicon.symbols.LexesTo "x and y' an ~ z" tokens ∧
      lexicon.symbols.ParsesTo "x and y' an ~ z"
        (.binary .or (.binary .and (.var "x") (.var "y'")) (.not (.var "z"))) ["x", "y'", "z"] := by
  intro lexicon tokens
  have hinput : lexicon.symbols.LexesTo "x&&y' anNOTz" tokens := by decide +kernel
  have hx : lexicon.IsName "x" :=
    ⟨by decide, List.all_eq_true.1 (by decide +kernel), by decide +kernel⟩
  have hy : lexicon.IsName "y'" :=
    ⟨by decide, List.all_eq_true.1 (by decide +kernel), by decide +kernel⟩
  have hz : lexicon.IsName "z" :=
    ⟨by decide, List.all_eq_true.1 (by decide +kernel), by decide +kernel⟩
  have hand : lexicon.Spells (.symbol .and) (String.ofList "and".toList) :=
    .symbol (by decide +kernel) (by decide +kernel) (by intro other; cases other <;> decide +kernel)
  have hor : lexicon.Spells (.symbol .or) (String.ofList "an".toList) :=
    .symbol (by decide +kernel) (by decide +kernel) (by intro other; cases other <;> decide +kernel)
  have hnot : lexicon.Spells (.symbol .not) (String.ofList "~".toList) :=
    .symbol (by decide +kernel) (by decide +kernel) (by intro other; cases other <;> decide +kernel)
  have htexts : List.Forall₂ lexicon.Spells tokens
      ["x", String.ofList "and".toList, "y'", String.ofList "an".toList,
        String.ofList "~".toList, "z"] :=
    .cons (.name hx)
      (.cons hand (.cons (.name hy) (.cons hor (.cons hnot (.cons (.name hz) .nil)))))
  obtain ⟨hname, -, hrespelled⟩ := (lexes_respelled lexicon).2 _ _ hinput
  obtain ⟨hlexes, -, hparses⟩ := hrespelled _ htexts
  refine ⟨hinput, hname "y'" (by decide), hlexes, (hparses _ _).2 ?_⟩
  exact ⟨by decide +kernel, by decide +kernel⟩

end Lexicon

end BooleanTables
