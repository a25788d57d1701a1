import BooleanTables.Proofs.Lexing.Longest
import BooleanTables.Token.Lexer

/-!
# Chunks

White space cuts a text into chunks, and each chunk is scanned from its left on its own. The cursor
never sees the chunks: it finds the end of the present one anew for every lexeme, and yet reads the
same lexemes.
-/

namespace BooleanTables

open Text

/-- A run of characters without white space, and the byte offset where it starts. -/
structure Chunk where
  start : Nat
  text : List Char
  deriving DecidableEq, Repr

namespace Chunk

def stop (chunk : Chunk) : Nat := chunk.start + byteLength chunk.text

def ofText (start : Nat) (text : List Char) : List Chunk :=
  if text = [] then [] else [⟨start, text⟩]

end Chunk

/-- The chunks of a text; `begun` is what has been read of the first one, which starts at the
offset. -/
def chunksFrom (start : Nat) (begun : List Char) : List Char → List Chunk
  | [] => Chunk.ofText start begun
  | c :: rest =>
    if isBlank c then
      Chunk.ofText start begun ++ chunksFrom (start + byteLength begun + c.utf8Size) [] rest
    else chunksFrom start (begun ++ [c]) rest

def chunks (text : List Char) : List Chunk := chunksFrom 0 [] text

namespace Scan

/-- The first scan, and after it the second one unless stray text has ended it. -/
def andThen (first second : Scan) : Scan :=
  match first.stray with
  | some _ => first
  | none => ⟨first.lexemes ++ second.lexemes, second.stray⟩

def cons (lexeme : Lexeme) (scan : Scan) : Scan := ⟨lexeme :: scan.lexemes, scan.stray⟩

@[simp] theorem nil_andThen (scan : Scan) : (⟨[], none⟩ : Scan).andThen scan = scan := rfl

@[simp] theorem andThen_nil (scan : Scan) : scan.andThen ⟨[], none⟩ = scan := by
  obtain ⟨lexemes, stray⟩ := scan
  cases stray <;> simp [andThen]

@[simp] theorem cons_andThen (lexeme : Lexeme) (first second : Scan) :
    (first.cons lexeme).andThen second = (first.andThen second).cons lexeme := by
  obtain ⟨lexemes, stray⟩ := first
  cases stray <;> rfl

end Scan

namespace Lexicon

/-- The first place of a text where a symbol begins, or its end. -/
def symbolPlace (lexicon : Lexicon) (text : List Char) : Nat :=
  ((List.range text.length).find? fun place =>
    (lexicon.longest? (text.drop place)).isSome).getD text.length

theorem symbolPlace_cons (lexicon : Lexicon) (c : Char) (rest : List Char) :
    lexicon.symbolPlace (c :: rest) =
      if (lexicon.longest? (c :: rest)).isSome then 0 else lexicon.symbolPlace rest + 1 := by
  rw [symbolPlace, List.length_cons, List.range_succ_eq_map, List.find?_cons, List.find?_map]
  cases hc : (lexicon.longest? (c :: rest)).isSome with
  | true => simp [hc]
  | false =>
    have hp : (fun place => (lexicon.longest? ((c :: rest).drop place)).isSome) ∘ Nat.succ =
        fun place => (lexicon.longest? (rest.drop place)).isSome := rfl
    simp only [List.drop_zero, hc, hp, symbolPlace, Bool.false_eq_true, if_false]
    cases (List.range rest.length).find? fun place =>
      (lexicon.longest? (rest.drop place)).isSome <;> rfl

theorem symbolPlace_le (lexicon : Lexicon) (text : List Char) :
    lexicon.symbolPlace text ≤ text.length := by
  induction text with
  | nil => exact Nat.le_refl 0
  | cons c rest ih =>
    rw [symbolPlace_cons]
    split
    · exact Nat.zero_le _
    · exact Nat.succ_le_succ ih

theorem symbolPlace_pos {lexicon : Lexicon} {text : List Char} (h : text ≠ [])
    (hl : lexicon.longest? text = none) : 0 < lexicon.symbolPlace text := by
  cases text with
  | nil => exact absurd rfl h
  | cons c rest => simp [symbolPlace_cons, hl]

theorem take_symbolPlace_ne_nil {lexicon : Lexicon} {text : List Char} (h : text ≠ [])
    (hl : lexicon.longest? text = none) : text.take (lexicon.symbolPlace text) ≠ [] := by
  rw [Ne, List.take_eq_nil_iff]
  simp [h, Nat.ne_of_gt (symbolPlace_pos h hl)]

/-- Scans the text of a chunk from its left: where a symbol begins the longest one is taken,
elsewhere the text up to the first place where one does, which has to be a name. -/
def scanChunk (lexicon : Lexicon) (start : Nat) (text : List Char) : Scan :=
  if _h : text = [] then ⟨[], none⟩
  else match _hl : lexicon.longest? text with
    | some symbol =>
      let stop := start + symbol.byteLength
      (scanChunk lexicon stop (text.drop symbol.spelling.length)).cons
        ⟨start, .symbol symbol.key, stop⟩
    | none =>
      let word := text.take (lexicon.symbolPlace text)
      let stop := start + byteLength word
      if word.all isNameChar then
        (scanChunk lexicon stop (text.drop (lexicon.symbolPlace text))).cons
          ⟨start, .var (String.ofList word), stop⟩
      else ⟨[], some ⟨start, String.ofList word⟩⟩
termination_by text.length
decreasing_by
  · have hs := List.length_pos_iff.2 symbol.spelling_ne_nil
    have ht := List.length_pos_iff.2 _h
    rw [List.length_drop]
    omega
  · have hw := symbolPlace_pos _h _hl
    have ht := List.length_pos_iff.2 _h
    rw [List.length_drop]
    omega

def scanChunks (lexicon : Lexicon) (chunks : List Chunk) : Scan :=
  chunks.foldr (fun chunk rest => (lexicon.scanChunk chunk.start chunk.text).andThen rest)
    ⟨[], none⟩

@[simp] theorem scanChunk_nil (lexicon : Lexicon) (start : Nat) :
    lexicon.scanChunk start [] = ⟨[], none⟩ := by
  rw [scanChunk, dif_pos rfl]

theorem scanChunks_ofText (lexicon : Lexicon) (start : Nat) (text : List Char) (rest : List Chunk) :
    lexicon.scanChunks (Chunk.ofText start text ++ rest) =
      (lexicon.scanChunk start text).andThen (lexicon.scanChunks rest) := by
  rw [Chunk.ofText]
  split
  · next h => simp [h]
  · rfl

end Lexicon

/-! ### The cursor in a chunk -/

namespace SymbolTable

theorem cut_of_longest? {lexicon : Lexicon} {chunk more : List Char} {symbol : Symbol}
    (hc : IsChunk chunk more) (hne : chunk ≠ []) (h : lexicon.longest? chunk = some symbol) :
    lexicon.symbols.cut (chunk ++ more) = ([], some symbol) := by
  cases chunk with
  | nil => exact absurd rfl hne
  | cons c chunk =>
    have hm := matchInChunk?_append lexicon hc
    rw [h] at hm
    rw [List.cons_append] at hm ⊢
    rw [cut, if_neg (by simp [hc.unbroken c List.mem_cons_self]), hm]

theorem fst_cut_append {lexicon : Lexicon} {chunk more : List Char} (hc : IsChunk chunk more) :
    (lexicon.symbols.cut (chunk ++ more)).1 = chunk.take (lexicon.symbolPlace chunk) := by
  induction chunk with
  | nil =>
    cases more with
    | nil => rfl
    | cons b more => simp [cut, hc.bounded b rfl]
  | cons c chunk ih =>
    cases hl : lexicon.longest? (c :: chunk) with
    | some symbol => rw [cut_of_longest? hc (by simp) hl]; simp [Lexicon.symbolPlace_cons, hl]
    | none =>
      have hm := matchInChunk?_append lexicon hc
      rw [hl] at hm
      rw [List.cons_append] at hm ⊢
      rw [cut, if_neg (by simp [hc.unbroken c List.mem_cons_self]), hm]
      simp [Lexicon.symbolPlace_cons, hl, ih hc.tail]

end SymbolTable

namespace Cursor

theorem skipBlanks_of_isChunk {offset : Nat} {chunk more : List Char} (hc : IsChunk chunk more)
    (hne : chunk ≠ []) :
    (⟨offset, chunk ++ more⟩ : Cursor).skipBlanks = ⟨offset, chunk ++ more⟩ := by
  cases chunk with
  | nil => exact absurd rfl hne
  | cons c chunk => simp [skipBlanks, hc.unbroken c List.mem_cons_self]

theorem scan_cons_blank {table : SymbolTable} {offset : Nat} {c : Char} {rest : List Char}
    (h : isBlank c = true) :
    scan table ⟨offset, c :: rest⟩ = scan table ⟨offset + c.utf8Size, rest⟩ := by
  have hskip : (⟨offset, c :: rest⟩ : Cursor).skipBlanks =
      (⟨offset + c.utf8Size, rest⟩ : Cursor).skipBlanks := by
    simp [skipBlanks, h, Nat.add_assoc]
  have hread : (⟨offset, c :: rest⟩ : Cursor).read table =
      (⟨offset + c.utf8Size, rest⟩ : Cursor).read table := by
    rw [read, hskip]
    rfl
  rw [scan, scan, hread]

theorem scan_of_done {table : SymbolTable} {cursor : Cursor} (h : cursor.read table = .done) :
    scan table cursor = ⟨[], none⟩ := by
  rw [scan]
  split
  · rfl
  · next hd => rw [h] at hd; cases hd
  · next hd => rw [h] at hd; cases hd

theorem scan_nil (table : SymbolTable) (offset : Nat) : scan table ⟨offset, []⟩ = ⟨[], none⟩ :=
  scan_of_done rfl

theorem scan_of_lexeme {table : SymbolTable} {cursor next : Cursor} {lexeme : Lexeme}
    (h : cursor.read table = .lexeme lexeme next) :
    scan table cursor = (scan table next).cons lexeme := by
  rw [scan]
  split
  · next hd => rw [h] at hd; cases hd
  · next hd => rw [h] at hd; cases hd
  · next hd => rw [h] at hd; cases hd; rfl

theorem scan_of_stray {table : SymbolTable} {cursor : Cursor} {stray : Stray}
    (h : cursor.read table = .stray stray) : scan table cursor = ⟨[], some stray⟩ := by
  rw [scan]
  split
  · next hd => rw [h] at hd; cases hd
  · next hd => rw [h] at hd; cases hd; rfl
  · next hd => rw [h] at hd; cases hd

theorem advance_append {offset count : Nat} {chunk more : List Char} (h : count ≤ chunk.length) :
    (⟨offset, chunk ++ more⟩ : Cursor).advance count =
      ⟨offset + byteLength (chunk.take count), chunk.drop count ++ more⟩ := by
  rw [advance, List.take_append_of_le_length h, List.drop_append_of_le_length h]

theorem read_of_longest? {lexicon : Lexicon} {offset : Nat} {chunk more : List Char}
    {symbol : Symbol} (hc : IsChunk chunk more) (hne : chunk ≠ [])
    (h : lexicon.longest? chunk = some symbol) :
    (⟨offset, chunk ++ more⟩ : Cursor).read lexicon.symbols =
      .lexeme ⟨offset, .symbol symbol.key, offset + symbol.byteLength⟩
        ⟨offset + symbol.byteLength, chunk.drop symbol.spelling.length ++ more⟩ := by
  have hstarts := Lexicon.startsIn_of_longest? h
  have hbytes : byteLength (chunk.take symbol.spelling.length) = symbol.byteLength :=
    byteLength_take_of_starts hstarts
  rw [read]
  simp only [skipBlanks_of_isChunk hc hne, SymbolTable.cut_of_longest? hc hne h]
  rw [if_neg (by simp [hne]), take, advance_append (length_le_of_starts hstarts), hbytes]

theorem read_of_longest?_none {lexicon : Lexicon} {offset : Nat} {chunk more : List Char}
    (hc : IsChunk chunk more) (hne : chunk ≠ []) (h : lexicon.longest? chunk = none) :
    (⟨offset, chunk ++ more⟩ : Cursor).read lexicon.symbols =
      if (chunk.take (lexicon.symbolPlace chunk)).all isNameChar then
        .lexeme ⟨offset, .var (String.ofList (chunk.take (lexicon.symbolPlace chunk))),
            offset + byteLength (chunk.take (lexicon.symbolPlace chunk))⟩
          ⟨offset + byteLength (chunk.take (lexicon.symbolPlace chunk)),
            chunk.drop (lexicon.symbolPlace chunk) ++ more⟩
      else .stray ⟨offset, String.ofList (chunk.take (lexicon.symbolPlace chunk))⟩ := by
  have hfst := @SymbolTable.fst_cut_append lexicon chunk more hc
  have hpos := Lexicon.symbolPlace_pos hne h
  have hle := lexicon.symbolPlace_le chunk
  rw [read]
  simp only [skipBlanks_of_isChunk hc hne]
  rw [if_neg (by simp [hne])]
  split
  · next symbol hcut =>
    rw [hcut] at hfst
    have hlen := congrArg List.length hfst
    rw [List.length_take, List.length_nil] at hlen
    omega
  · next text symbol _ hcut =>
    rw [hcut] at hfst
    obtain rfl : text = chunk.take (lexicon.symbolPlace chunk) := hfst
    rw [List.length_take, Nat.min_eq_left hle]
    simp only [take, advance_append hle]

theorem scan_append (lexicon : Lexicon) {offset : Nat} {chunk more : List Char}
    (hc : IsChunk chunk more) :
    scan lexicon.symbols ⟨offset, chunk ++ more⟩ =
      (lexicon.scanChunk offset chunk).andThen
        (scan lexicon.symbols ⟨offset + byteLength chunk, more⟩) := by
  induction hn : chunk.length using Nat.strong_induction_on generalizing offset chunk with
  | _ n ih =>
    by_cases hne : chunk = []
    · subst hne
      simp
    · have hlen := List.length_pos_iff.2 hne
      have hrest (count : Nat) (hcount : 0 < count) (stop : Nat)
          (hstop : stop = offset + byteLength (chunk.take count)) :
          scan lexicon.symbols ⟨stop, chunk.drop count ++ more⟩ =
            (lexicon.scanChunk stop (chunk.drop count)).andThen
              (scan lexicon.symbols ⟨offset + byteLength chunk, more⟩) := by
        have hbytes : stop + byteLength (chunk.drop count) = offset + byteLength chunk := by
          rw [hstop, Nat.add_assoc, ← byteLength_append, List.take_append_drop]
        rw [ih _ (by rw [List.length_drop]; omega) (hc.drop count) rfl, hbytes]
      rw [Lexicon.scanChunk, dif_neg hne]
      split
      · next symbol hl =>
        have hspelling := List.length_pos_iff.2 symbol.spelling_ne_nil
        have hbytes := byteLength_take_of_starts (Lexicon.startsIn_of_longest? hl)
        rw [scan_of_lexeme (read_of_longest? hc hne hl), hrest _ hspelling _ (by rw [hbytes]; rfl)]
        simp
      · next hl =>
        have hread := @read_of_longest?_none lexicon offset chunk more hc hne hl
        have hpos := Lexicon.symbolPlace_pos hne hl
        simp only
        split
        · next hname =>
          rw [if_pos hname] at hread
          rw [scan_of_lexeme hread, hrest _ hpos _ rfl]
          simp
        · next hname =>
          rw [if_neg hname] at hread
          rw [scan_of_stray hread]
          rfl

/-- The cursor reads a text as the scanner reads its chunks, also where a part of the first chunk is
known. -/
theorem scan_eq_scanChunks_from (lexicon : Lexicon) (start : Nat) (begun text : List Char)
    (hb : ∀ c ∈ begun, isBlank c = false) :
    scan lexicon.symbols ⟨start, begun ++ text⟩ =
      lexicon.scanChunks (chunksFrom start begun text) := by
  induction text generalizing start begun with
  | nil =>
    have hchunk := lexicon.scanChunks_ofText start begun []
    rw [List.append_nil] at hchunk
    rw [scan_append lexicon ⟨hb, by simp⟩, scan_nil, chunksFrom, hchunk]
    rfl
  | cons c rest ih =>
    rw [chunksFrom]
    split
    · next hblank =>
      rw [scan_append lexicon ⟨hb, by simpa using hblank⟩, scan_cons_blank hblank,
        lexicon.scanChunks_ofText, ← ih _ [] (by simp), List.nil_append]
    · next hblank =>
      have hb' : ∀ d ∈ begun ++ [c], isBlank d = false := by
        intro d hd
        rcases List.mem_append.1 hd with hd | hd
        · exact hb d hd
        · simpa [List.mem_singleton.1 hd] using hblank
      rw [← ih start (begun ++ [c]) hb', List.append_assoc, List.singleton_append]

end Cursor

end BooleanTables
