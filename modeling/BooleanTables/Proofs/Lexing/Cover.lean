import BooleanTables.Proofs.Lexing.Chunks
import Mathlib.Data.List.TakeWhile

/-!
# What lexemes cover

Where no stray text ends it, a scan covers every character of a text but white space. Its lexemes
stand in the order of the text and do not overlap, each of them lies in one chunk, and a variable is
named by the text that it covers.
-/

namespace BooleanTables

open Text

/-- Whether a token may stand for some text: a variable for its name, a symbol for a spelling of its
slot. -/
def Token.StandsFor (table : SymbolTable) : Token → List Char → Prop
  | .var name, word => name = String.ofList word ∧ word.all isNameChar = true
  | .symbol key, word => ∃ symbol ∈ table.entries, symbol.key = key ∧
    foldCase word = foldCase symbol.spelling

namespace SymbolTable

/-- A cut takes text without white space, and stops where a symbol begins if it finds one. -/
theorem cut_spec {table : SymbolTable} {text word : List Char} {symbol : Option Symbol}
    (h : table.cut text = (word, symbol)) :
    ∃ rest, text = word ++ rest ∧ (∀ c ∈ word, isBlank c = false) ∧
      ∀ s ∈ symbol, table.matchInChunk? rest = some s := by
  induction text generalizing word with
  | nil => cases h; exact ⟨[], rfl, by simp, by simp⟩
  | cons c text ih =>
    rw [cut] at h
    split at h
    · cases h
      exact ⟨c :: text, rfl, by simp, by simp⟩
    · next hblank =>
      split at h
      · next s hm =>
        cases h
        exact ⟨c :: text, rfl, by simp, by simpa using hm⟩
      · cases hcut : table.cut text with
        | mk tail found =>
          rw [hcut] at h
          cases h
          obtain ⟨rest, rfl, hunbroken, hfound⟩ := ih hcut
          refine ⟨rest, rfl, fun d hd => ?_, hfound⟩
          rcases List.mem_cons.1 hd with rfl | hd
          · exact Bool.eq_false_iff.2 hblank
          · exact hunbroken d hd

theorem matchInChunk?_spec {table : SymbolTable} {text : List Char} {symbol : Symbol}
    (h : table.matchInChunk? text = some symbol) :
    symbol ∈ table.entries ∧ symbol.startsIn text = true ∧ symbol.spelling.any isBlank = false := by
  have hfits := List.find?_some h
  simp only [Bool.and_eq_true, Bool.not_eq_true'] at hfits
  exact ⟨List.mem_of_find?_eq_some h, hfits⟩

end SymbolTable

/-- A lexeme takes the first text of a cursor that is no white space, and the next cursor stands
behind it. -/
structure Cursor.Takes (table : SymbolTable) (cursor : Cursor) (blanks word : List Char)
    (lexeme : Lexeme) (next : Cursor) : Prop where
  rest_eq : cursor.rest = blanks ++ (word ++ next.rest)
  blank : ∀ c ∈ blanks, isBlank c = true
  ne_nil : word ≠ []
  unbroken : ∀ c ∈ word, isBlank c = false
  start_eq : lexeme.start = cursor.offset + byteLength blanks
  stop_eq : lexeme.stop = lexeme.start + byteLength word
  next_eq : next.offset = lexeme.stop
  standsFor : lexeme.token.StandsFor table word

namespace Cursor

/-- The number of characters that a cursor takes behind white space decides what its lexeme takes. -/
theorem takes_of_take {table : SymbolTable} {cursor next : Cursor} {lexeme : Lexeme} {token : Token}
    {count : Nat} (h : cursor.skipBlanks.take token count = .lexeme lexeme next)
    (hcount : 0 < count) (hle : count ≤ cursor.skipBlanks.rest.length)
    (hunbroken : ∀ c ∈ cursor.skipBlanks.rest.take count, isBlank c = false)
    (hstands : token.StandsFor table (cursor.skipBlanks.rest.take count)) :
    ∃ blanks word, cursor.Takes table blanks word lexeme next := by
  cases h
  refine ⟨cursor.rest.takeWhile isBlank, cursor.skipBlanks.rest.take count, ?_⟩
  exact {
    rest_eq := by
      change _ = _ ++ (cursor.skipBlanks.rest.take count ++ cursor.skipBlanks.rest.drop count)
      rw [List.take_append_drop]
      exact List.takeWhile_append_dropWhile.symm
    blank := List.all_eq_true.1 List.all_takeWhile
    ne_nil := by
      rw [← List.length_pos_iff, List.length_take]
      omega
    unbroken := hunbroken
    start_eq := rfl
    stop_eq := rfl
    next_eq := rfl
    standsFor := hstands }

theorem takes_of_read {table : SymbolTable} {cursor next : Cursor} {lexeme : Lexeme}
    (h : cursor.read table = .lexeme lexeme next) :
    ∃ blanks word, cursor.Takes table blanks word lexeme next := by
  rw [read] at h
  split at h
  · cases h
  · next hne =>
    have hlen := List.length_pos_iff.2 hne
    split at h
    · next symbol hcut =>
      obtain ⟨rest, hrest, -, hsymbol⟩ := SymbolTable.cut_spec hcut
      rw [List.nil_append] at hrest
      obtain ⟨hmem, hstarts, hspelling⟩ := SymbolTable.matchInChunk?_spec (hsymbol symbol rfl)
      rw [← hrest] at hstarts
      have hunbroken := any_isBlank_take_of_starts hstarts
      rw [hspelling] at hunbroken
      refine takes_of_take h (List.length_pos_iff.2 symbol.spelling_ne_nil)
        (length_le_of_starts hstarts) ?_ ?_
      · simpa using hunbroken
      · exact ⟨symbol, hmem, rfl, startsUpToCase_iff_take.1 hstarts⟩
    · next text symbol hcase hcut =>
      obtain ⟨rest, hrest, hunbroken, hsymbol⟩ := SymbolTable.cut_spec hcut
      split at h
      · next hname =>
        have htake : cursor.skipBlanks.rest.take text.length = text := by rw [hrest]; simp
        have hne : text ≠ [] := by
          rintro rfl
          cases symbol with
          | none => exact cut_skipBlanks_ne_nil hne hcut
          | some symbol => exact hcase symbol rfl rfl
        refine takes_of_take h (List.length_pos_iff.2 hne) ?_ (by rwa [htake]) ?_
        · rw [hrest, List.length_append]
          omega
        · rw [htake]
          exact ⟨rfl, hname⟩
      · cases h

theorem blank_of_read_done {table : SymbolTable} {cursor : Cursor} (h : cursor.read table = .done) :
    ∀ c ∈ cursor.rest, isBlank c = true := by
  rw [read] at h
  split at h
  · next hnil => exact List.dropWhile_eq_nil_iff.1 hnil
  · split at h
    · cases h
    · split at h <;> cases h

end Cursor

/-- Lexemes that follow each other through a text, with nothing but white space before, between and
after them. -/
inductive Tiles : Nat → List Char → List Lexeme → Prop
  | done {offset : Nat} {text : List Char} (blank : ∀ c ∈ text, isBlank c = true) :
    Tiles offset text []
  | lexeme {offset : Nat} {blanks word rest : List Char} {lexeme : Lexeme} {lexemes : List Lexeme}
    (blank : ∀ c ∈ blanks, isBlank c = true) (ne_nil : word ≠ [])
    (unbroken : ∀ c ∈ word, isBlank c = false)
    (start_eq : lexeme.start = offset + byteLength blanks)
    (stop_eq : lexeme.stop = lexeme.start + byteLength word)
    (name_eq : ∀ name, lexeme.token = .var name → name = String.ofList word)
    (tiles : Tiles lexeme.stop rest lexemes) :
    Tiles offset (blanks ++ (word ++ rest)) (lexeme :: lexemes)

theorem Cursor.tiles_scan {table : SymbolTable} {cursor : Cursor}
    (h : (cursor.scan table).stray = none) :
    Tiles cursor.offset cursor.rest (cursor.scan table).lexemes := by
  fun_induction Cursor.scan table cursor with
  | case1 cursor hread => exact .done (blank_of_read_done hread)
  | case2 cursor stray hread => cases h
  | case3 cursor lexeme next hread rest ih =>
    obtain ⟨blanks, word, htakes⟩ := takes_of_read hread
    have hrest := ih h
    rw [htakes.next_eq] at hrest
    rw [htakes.rest_eq]
    refine .lexeme htakes.blank htakes.ne_nil htakes.unbroken htakes.start_eq
      htakes.stop_eq ?_ hrest
    intro name hname
    have hstands := htakes.standsFor
    rw [hname] at hstands
    exact hstands.1

namespace Tiles

variable {offset : Nat} {text : List Char} {lexemes : List Lexeme}

theorem span (h : Tiles offset text lexemes) {lexeme : Lexeme} (hl : lexeme ∈ lexemes) :
    ∃ before word after, text = before ++ (word ++ after) ∧ word ≠ [] ∧
      (∀ c ∈ word, isBlank c = false) ∧ lexeme.start = offset + byteLength before ∧
      lexeme.stop = lexeme.start + byteLength word ∧
      ∀ name, lexeme.token = .var name → name = String.ofList word := by
  induction h with
  | done => cases hl
  | @lexeme offset blanks word rest first lexemes _ hne hunbroken hstart hstop hname _ ih =>
    rcases List.mem_cons.1 hl with rfl | hl
    · exact ⟨blanks, word, rest, rfl, hne, hunbroken, hstart, hstop, hname⟩
    · obtain ⟨before, inner, after, rfl, hspan⟩ := ih hl
      refine ⟨blanks ++ (word ++ before), inner, after, by simp, hspan.1, hspan.2.1, ?_,
        hspan.2.2.2⟩
      rw [hspan.2.2.1, hstop, hstart]
      simp only [byteLength_append]
      omega

theorem offset_le_start (h : Tiles offset text lexemes) {lexeme : Lexeme} (hl : lexeme ∈ lexemes) :
    offset ≤ lexeme.start := by
  obtain ⟨before, word, after, -, -, -, hstart, -⟩ := h.span hl
  omega

theorem start_lt_stop (h : Tiles offset text lexemes) {lexeme : Lexeme} (hl : lexeme ∈ lexemes) :
    lexeme.start < lexeme.stop := by
  obtain ⟨before, word, after, -, hne, -, -, hstop, -⟩ := h.span hl
  have hpos := byteLength_pos hne
  omega

theorem ordered (h : Tiles offset text lexemes) : lexemes.Pairwise fun a b => a.stop ≤ b.start := by
  induction h with
  | done => exact .nil
  | lexeme _ _ _ _ _ _ htiles ih => exact .cons (fun _ hl => htiles.offset_le_start hl) ih

end Tiles

theorem append_eq_append_cons_cases {α : Type} {front back before after : List α} {c : α}
    (h : front ++ back = before ++ c :: after) :
    (∃ rest, front = before ++ c :: rest) ∨ ∃ rest, before = front ++ rest ∧
      back = rest ++ c :: after := by
  rcases List.append_eq_append_iff.1 h with ⟨rest, hbefore, hback⟩ | ⟨rest, hfront, hafter⟩
  · exact .inr ⟨rest, hbefore, hback⟩
  · cases rest with
    | nil => exact .inr ⟨[], by simpa using hfront.symm, by simpa using hafter.symm⟩
    | cons d rest =>
      obtain ⟨rfl, -⟩ := List.cons.inj hafter
      exact .inl ⟨rest, hfront⟩

theorem Tiles.covered_iff {offset : Nat} {text : List Char} {lexemes : List Lexeme}
    (h : Tiles offset text lexemes) {before after : List Char} {c : Char}
    (ht : text = before ++ c :: after) {byte : Nat} (hb : byte < c.utf8Size) :
    (∃ lexeme ∈ lexemes, lexeme.start ≤ offset + byteLength before + byte ∧
      offset + byteLength before + byte < lexeme.stop) ↔ isBlank c = false := by
  induction h generalizing before with
  | done hblank =>
    have hc := hblank c (by simp [ht])
    simp [hc]
  | @lexeme offset blanks word rest first lexemes hblank hne hunbroken hstart hstop _ htiles ih =>
    have hlater (lexeme : Lexeme) (hl : lexeme ∈ lexemes) : first.stop ≤ lexeme.start :=
      htiles.offset_le_start hl
    rcases append_eq_append_cons_cases ht with ⟨tail, rfl⟩ | ⟨tail, rfl, ht'⟩
    · have hc := hblank c (by simp)
      simp only [byteLength_append, byteLength_cons] at hstart
      refine iff_of_false ?_ (by simp [hc])
      rintro ⟨lexeme, hl, hle, -⟩
      rcases List.mem_cons.1 hl with rfl | hl
      · omega
      · have hlt := hlater lexeme hl
        omega
    · rcases append_eq_append_cons_cases ht' with ⟨inner, rfl⟩ | ⟨inner, rfl, hrest⟩
      · have hc := hunbroken c (by simp)
        refine iff_of_true ⟨first, List.mem_cons_self, ?_, ?_⟩ hc
        · rw [hstart, byteLength_append]
          omega
        · rw [hstop, hstart]
          simp only [byteLength_append, byteLength_cons]
          omega
      · have hplace : offset + byteLength (blanks ++ (word ++ inner)) + byte =
            first.stop + byteLength inner + byte := by
          rw [hstop, hstart]
          simp only [byteLength_append]
          omega
        rw [hplace, ← ih hrest]
        constructor
        · rintro ⟨lexeme, hl, hle, hlt⟩
          rcases List.mem_cons.1 hl with rfl | hl
          · omega
          · exact ⟨lexeme, hl, hle, hlt⟩
        · rintro ⟨lexeme, hl, hspan⟩
          exact ⟨lexeme, List.mem_cons_of_mem _ hl, hspan⟩

/-! ### Lexemes and chunks -/

theorem exists_mem_chunksFrom_begun {start : Nat} {begun text : List Char} (h : begun ≠ []) :
    ∃ chunk ∈ chunksFrom start begun text, chunk.start = start ∧ begun <+: chunk.text := by
  induction text generalizing begun with
  | nil => exact ⟨⟨start, begun⟩, by simp [chunksFrom, Chunk.ofText, h], rfl, List.prefix_refl _⟩
  | cons c rest ih =>
    rw [chunksFrom]
    split
    · exact ⟨⟨start, begun⟩, by simp [Chunk.ofText, h], rfl, List.prefix_refl _⟩
    · obtain ⟨chunk, hmem, hstart, hprefix⟩ := @ih (begun ++ [c]) (by simp)
      exact ⟨chunk, hmem, hstart, (List.prefix_append _ _).trans hprefix⟩

theorem chunksFrom_append_unbroken (start : Nat) (begun after : List Char) {word : List Char}
    (h : ∀ c ∈ word, isBlank c = false) :
    chunksFrom start begun (word ++ after) = chunksFrom start (begun ++ word) after := by
  induction word generalizing begun with
  | nil => simp
  | cons c word ih =>
    have hc := h c List.mem_cons_self
    rw [List.cons_append, chunksFrom, if_neg (by simp [hc]),
      ih _ fun d hd => h d (List.mem_cons_of_mem _ hd)]
    simp

theorem exists_mem_chunksFrom {start : Nat} {begun before word after : List Char} (hne : word ≠ [])
    (h : ∀ c ∈ word, isBlank c = false) :
    ∃ chunk ∈ chunksFrom start begun (before ++ (word ++ after)),
      chunk.start ≤ start + byteLength begun + byteLength before ∧
      start + byteLength begun + byteLength before + byteLength word ≤ chunk.stop := by
  induction before generalizing start begun with
  | nil =>
    obtain ⟨chunk, hmem, hstart, tail, htail⟩ :=
      @exists_mem_chunksFrom_begun start (begun ++ word) after (by simp [hne])
    refine ⟨chunk, ?_, by omega, ?_⟩
    · rwa [List.nil_append, chunksFrom_append_unbroken _ _ _ h]
    · rw [Chunk.stop, hstart, ← htail]
      simp only [byteLength_append, byteLength_nil]
      omega
  | cons c before ih =>
    rw [List.cons_append, chunksFrom]
    split
    · obtain ⟨chunk, hmem, hstart, hstop⟩ := @ih (start + byteLength begun + c.utf8Size) []
      refine ⟨chunk, List.mem_append_right _ hmem, ?_, ?_⟩
      all_goals
        simp only [byteLength_nil, byteLength_cons] at *
        omega
    · obtain ⟨chunk, hmem, hstart, hstop⟩ := @ih start (begun ++ [c])
      refine ⟨chunk, hmem, ?_, ?_⟩
      all_goals
        simp only [byteLength_append, byteLength_nil, byteLength_cons] at *
        omega

/-- The lexemes cover a text but for its white space: they are not empty, stand in order without
overlaps, each in one chunk, and a byte belongs to a lexeme if its character is no white space. -/
structure Covers (text : List Char) (lexemes : List Lexeme) : Prop where
  start_lt_stop : ∀ lexeme ∈ lexemes, lexeme.start < lexeme.stop
  ordered : lexemes.Pairwise fun a b => a.stop ≤ b.start
  in_chunk : ∀ lexeme ∈ lexemes, ∃ chunk ∈ chunks text, chunk.start ≤ lexeme.start ∧
    lexeme.stop ≤ chunk.stop
  covered_iff : ∀ before c after, text = before ++ c :: after → ∀ byte, byte < c.utf8Size →
    ((∃ lexeme ∈ lexemes, lexeme.start ≤ byteLength before + byte ∧
      byteLength before + byte < lexeme.stop) ↔
      isBlank c = false)
  spelled : ∀ lexeme ∈ lexemes, ∃ before word after, text = before ++ (word ++ after) ∧
    lexeme.start = byteLength before ∧ lexeme.stop = lexeme.start + byteLength word ∧
    ∀ name, lexeme.token = .var name → name = String.ofList word

theorem Tiles.covers {text : List Char} {lexemes : List Lexeme} (h : Tiles 0 text lexemes) :
    Covers text lexemes where
  start_lt_stop _ hl := h.start_lt_stop hl
  ordered := h.ordered
  in_chunk lexeme hl := by
    obtain ⟨before, word, after, rfl, hne, hunbroken, hstart, hstop, -⟩ := h.span hl
    obtain ⟨chunk, hmem, hle, hge⟩ := @exists_mem_chunksFrom 0 [] before word after hne hunbroken
    simp only [byteLength_nil] at hle hge
    exact ⟨chunk, hmem, by omega, by omega⟩
  covered_iff before c after ht byte hb := by simpa using h.covered_iff ht hb
  spelled lexeme hl := by
    obtain ⟨before, word, after, ht, -, -, hstart, hstop, hname⟩ := h.span hl
    exact ⟨before, word, after, ht, by simpa using hstart, hstop, hname⟩

/-- The cursor reads what the scanner of chunks reads, and unless stray text ends it the lexemes
cover the text. -/
theorem scan_eq_scanChunks (lexicon : Lexicon) (input : String) :
    lexicon.symbols.scan input = lexicon.scanChunks (chunks input.toList) ∧
      ((lexicon.symbols.scan input).stray = none →
        Covers input.toList (lexicon.symbols.scan input).lexemes) := by
  have hscan := Cursor.scan_eq_scanChunks_from lexicon 0 [] input.toList (by simp)
  refine ⟨hscan, fun h => ?_⟩
  have htiles := Cursor.tiles_scan h
  exact htiles.covers

theorem scan_eq_scanChunks_covers :
    (Lexicon.standard.symbols.scan " NOTp  ->é&&q' ").stray = none ∧
      Covers " NOTp  ->é&&q' ".toList
        (Lexicon.standard.symbols.scan " NOTp  ->é&&q' ").lexemes := by
  have h : (Lexicon.standard.symbols.scan " NOTp  ->é&&q' ").stray = none := by decide +kernel
  exact ⟨h, (scan_eq_scanChunks Lexicon.standard " NOTp  ->é&&q' ").2 h⟩

end BooleanTables
