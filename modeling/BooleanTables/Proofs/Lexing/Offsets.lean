import BooleanTables.Proofs.Lexing.Chunks
import BooleanTables.Proofs.Text.Slices

/-!
# Reading by byte offsets

A reader may know its place in a text by a byte offset alone, and slice the text there anew for
every lexeme. No offset of such a reader is inside a character, so it reads what the cursor reads,
and it comes to an end.
-/

namespace BooleanTables

open Text

def Scan.items (scan : Scan) : List (Except Stray Lexeme) :=
  scan.lexemes.map .ok ++ scan.stray.toList.map .error

@[simp] theorem Scan.items_cons (lexeme : Lexeme) (scan : Scan) :
    (scan.cons lexeme).items = .ok lexeme :: scan.items := rfl

theorem Scan.length_items_of_error {scan : Scan} {index : Nat} {stray : Stray}
    (h : scan.items[index]? = some (.error stray)) : scan.items.length = index + 1 := by
  obtain ⟨lexemes, last⟩ := scan
  induction lexemes generalizing index with
  | nil =>
    cases last with
    | none => cases h
    | some found =>
      cases index with
      | zero => rfl
      | succ index => cases h
  | cons lexeme lexemes ih =>
    cases index with
    | zero => cases h
    | succ index => exact congrArg (· + 1) (ih h)

/-- One turn of a reader: the item it gives, unless none is left, and the offset where it stops. -/
structure Turn where
  item : Option (Except Stray Lexeme)
  next : Nat
  deriving DecidableEq

namespace Turn

def ofSymbol (start : Nat) (symbol : Symbol) : Turn :=
  ⟨some (.ok ⟨start, .symbol symbol.key, start + symbol.byteLength⟩), start + symbol.byteLength⟩

/-- A word that is no name sends the reader to the end of the text, so that this item is the last
one. -/
def ofWord (start length stop : Nat) (word : List Char) : Turn :=
  if word.all isNameChar then
    ⟨some (.ok ⟨start, .var (String.ofList word), start + length⟩), start + length⟩
  else ⟨some (.error ⟨start, String.ofList word⟩), stop⟩

end Turn

/-- The offsets where the characters of a text begin, if the text itself begins at the first one. -/
def charOffsets (offset : Nat) : List Char → List Nat
  | [] => []
  | c :: rest => offset :: charOffsets (offset + c.utf8Size) rest

namespace SymbolTable

/-- The first symbol that is up to case a slice at the start of the text. A symbol whose last byte
would be inside a character is passed over. -/
def matchSlice? (table : SymbolTable) (text : List Char) : Option Symbol :=
  table.entries.find? fun symbol =>
    (sliceTo? text symbol.byteLength).any (sameUpToCase · symbol.spelling)

/-- The first of the offsets where a symbol begins, and that symbol. There is no answer at all if
the slice at an offset cannot be taken. -/
def firstAt? (table : SymbolTable) (chunk : List Char) : List Nat → Option (Option (Nat × Symbol))
  | [] => some none
  | offset :: offsets => do
    match table.matchSlice? (← sliceFrom? chunk offset) with
    | some symbol => return some (offset, symbol)
    | none => table.firstAt? chunk offsets

/-- The turn at the start of a chunk, in a text that ends at `stop`. -/
def turnInChunk? (table : SymbolTable) (start stop : Nat) (chunk : List Char) : Option Turn := do
  match ← table.firstAt? chunk (charOffsets 0 chunk) with
  | some (0, symbol) => return .ofSymbol start symbol
  | some (place, _) => return .ofWord start place stop (← sliceTo? chunk place)
  | none => return .ofWord start (byteLength chunk) stop chunk

/-- The turn of a reader at an offset. There is no answer if one of its slices cannot be taken. -/
def turn? (table : SymbolTable) (text : List Char) (offset : Nat) : Option Turn := do
  let rest ← sliceFrom? text offset
  let start := offset + (byteLength rest - byteLength (trimStart rest))
  let rest ← sliceFrom? text start
  if rest = [] then return ⟨none, start⟩
  let chunk ← sliceTo? rest (byteLength (rest.takeWhile fun c => !isBlank c))
  table.turnInChunk? start (byteLength text) chunk

def offsetAfter? (table : SymbolTable) (text : List Char) : Nat → Option Nat
  | 0 => some 0
  | turns + 1 => do return (← table.turn? text (← table.offsetAfter? text turns)).next

def itemAfter? (table : SymbolTable) (text : List Char) (turns : Nat) :
    Option (Option (Except Stray Lexeme)) := do
  return (← table.turn? text (← table.offsetAfter? text turns)).item

theorem any_sliceTo? (symbol : Symbol) (text : List Char) :
    (sliceTo? text symbol.byteLength).any (sameUpToCase · symbol.spelling) =
      symbol.startsIn text := by
  rw [Bool.eq_iff_iff, Option.any_eq_true]
  constructor
  · rintro ⟨head, hslice, hsame⟩
    obtain ⟨hbegins, -⟩ := sliceTo?_eq_some_iff.1 hslice
    have hfold : foldCase head = foldCase symbol.spelling := beq_iff_eq.1 hsame
    have hlength := congrArg List.length hfold
    rw [length_foldCase, length_foldCase] at hlength
    rw [Symbol.startsIn, startsUpToCase_iff_take, ← hlength, ← List.prefix_iff_eq_take.1 hbegins]
    exact hfold
  · intro hstarts
    exact ⟨text.take symbol.spelling.length,
      sliceTo?_eq_some_iff.2 ⟨List.take_prefix _ _, (byteLength_take_of_starts hstarts).symm⟩,
      beq_iff_eq.2 (startsUpToCase_iff_take.1 hstarts)⟩

theorem matchSlice?_eq_match? (table : SymbolTable) (text : List Char) :
    table.matchSlice? text = table.match? text := by
  rw [matchSlice?, match?]
  congr 1
  funext symbol
  exact any_sliceTo? symbol text

end SymbolTable

namespace Lexicon

theorem longest?_nil (lexicon : Lexicon) : lexicon.longest? [] = none := by
  cases hl : lexicon.longest? [] with
  | none => rfl
  | some symbol =>
    have hlength := length_le_of_starts (startsIn_of_longest? hl)
    exact absurd (List.length_eq_zero_iff.1 (Nat.le_zero.1 hlength)) symbol.spelling_ne_nil

theorem symbolPlace_eq_zero {lexicon : Lexicon} {text : List Char} {symbol : Symbol}
    (h : lexicon.longest? text = some symbol) : lexicon.symbolPlace text = 0 := by
  cases text with
  | nil => rfl
  | cons c rest => rw [symbolPlace_cons, if_pos (by rw [h]; rfl)]

theorem symbolPlace_eq_length {lexicon : Lexicon} {text : List Char}
    (h : lexicon.longest? (text.drop (lexicon.symbolPlace text)) = none) :
    lexicon.symbolPlace text = text.length := by
  induction text with
  | nil => rfl
  | cons c rest ih =>
    rw [symbolPlace_cons] at h ⊢
    split at h
    · next hl => rw [List.drop_zero] at h; rw [h] at hl; cases hl
    · next hl => rw [if_neg hl, ih h, List.length_cons]

theorem firstAt?_charOffsets (lexicon : Lexicon) (before text : List Char) :
    lexicon.symbols.firstAt? (before ++ text) (charOffsets (byteLength before) text) =
      some ((lexicon.longest? (text.drop (lexicon.symbolPlace text))).map fun symbol =>
        (byteLength (before ++ text.take (lexicon.symbolPlace text)), symbol)) := by
  induction text generalizing before with
  | nil => simp [charOffsets, SymbolTable.firstAt?, longest?_nil]
  | cons c rest ih =>
    have hmatch : lexicon.symbols.matchSlice? (c :: rest) = lexicon.longest? (c :: rest) := by
      rw [SymbolTable.matchSlice?_eq_match?, match?_symbols]
    rw [charOffsets, SymbolTable.firstAt?, sliceFrom?_append]
    cases hl : lexicon.longest? (c :: rest) with
    | some symbol => simp [hmatch, hl, symbolPlace_eq_zero hl]
    | none =>
      -- what has been passed over is one character longer from here on
      have hrest := ih (before ++ [c])
      rw [List.append_assoc, List.singleton_append, byteLength_append, byteLength_cons,
        byteLength_nil, Nat.add_zero] at hrest
      simp [hmatch, hl, symbolPlace_cons, hrest]

theorem turnInChunk?_of_longest? {lexicon : Lexicon} {chunk : List Char} {symbol : Symbol}
    (start stop : Nat) (h : lexicon.longest? chunk = some symbol) :
    lexicon.symbols.turnInChunk? start stop chunk = some (.ofSymbol start symbol) := by
  have hfirst : lexicon.symbols.firstAt? chunk (charOffsets 0 chunk) = some (some (0, symbol)) := by
    have hplaces := lexicon.firstAt?_charOffsets [] chunk
    rw [symbolPlace_eq_zero h, List.drop_zero, h] at hplaces
    exact hplaces
  simp [SymbolTable.turnInChunk?, hfirst]

theorem turnInChunk?_of_longest?_none {lexicon : Lexicon} {chunk : List Char} (start stop : Nat)
    (hne : chunk ≠ []) (h : lexicon.longest? chunk = none) :
    lexicon.symbols.turnInChunk? start stop chunk =
      some (.ofWord start (byteLength (chunk.take (lexicon.symbolPlace chunk))) stop
        (chunk.take (lexicon.symbolPlace chunk))) := by
  have hplaces := lexicon.firstAt?_charOffsets [] chunk
  rw [List.nil_append, List.nil_append] at hplaces
  rw [SymbolTable.turnInChunk?]
  cases hl : lexicon.longest? (chunk.drop (lexicon.symbolPlace chunk)) with
  | none =>
    rw [hl] at hplaces
    rw [symbolPlace_eq_length hl, List.take_length]
    simp [show lexicon.symbols.firstAt? chunk (charOffsets 0 chunk) = some none from hplaces]
  | some symbol =>
    rw [hl] at hplaces
    generalize hword : chunk.take (lexicon.symbolPlace chunk) = word at hplaces ⊢
    have hpos : byteLength word ≠ 0 :=
      Nat.ne_of_gt (byteLength_pos (hword ▸ take_symbolPlace_ne_nil hne h))
    have hslice : sliceTo? chunk (byteLength word) = some word :=
      sliceTo?_eq_some_iff.2 ⟨hword ▸ List.take_prefix _ _, rfl⟩
    have hfirst : lexicon.symbols.firstAt? chunk (charOffsets 0 chunk) =
        some (some (byteLength word, symbol)) :=
      hplaces
    simp [hfirst, hslice]

end Lexicon

/-! ### The cursor of a reader -/

theorem isChunk_takeWhile (text : List Char) :
    IsChunk (text.takeWhile fun c => !isBlank c) (text.dropWhile fun c => !isBlank c) where
  unbroken c hc := by simpa using List.all_eq_true.1 List.all_takeWhile c hc
  bounded c hc := by
    have hhead := List.head?_dropWhile_not (fun c => !isBlank c) text
    rw [Option.mem_def.1 hc] at hhead
    simpa using hhead

namespace Cursor

theorem isBlank_head_skipBlanks {cursor : Cursor} {c : Char} {rest : List Char}
    (h : cursor.skipBlanks.rest = c :: rest) : isBlank c = false := by
  have hhead := List.head?_dropWhile_not isBlank cursor.rest
  rw [show cursor.rest.dropWhile isBlank = c :: rest from h] at hhead
  simpa using hhead

theorem skipBlanks_skipBlanks (cursor : Cursor) :
    cursor.skipBlanks.skipBlanks = cursor.skipBlanks := by
  have hfixed : ∀ start : Cursor, (∀ c rest, start.rest = c :: rest → isBlank c = false) →
      start.skipBlanks = start := by
    rintro ⟨offset, _ | ⟨c, rest⟩⟩ hblank
    · rfl
    · simp [skipBlanks, hblank c rest rfl]
  exact hfixed _ fun c rest hrest => isBlank_head_skipBlanks hrest

theorem read_skipBlanks (table : SymbolTable) (cursor : Cursor) :
    cursor.skipBlanks.read table = cursor.read table := by
  rw [read, read, skipBlanks_skipBlanks]

theorem read_of_skipBlanks_nil {table : SymbolTable} {cursor : Cursor}
    (h : cursor.skipBlanks.rest = []) :
    cursor.read table = .done := by
  rw [read]
  exact if_pos h

/-- The cursor holds what is left of a text from its offset on. -/
def StandsIn (cursor : Cursor) (text : List Char) : Prop :=
  ∃ before, text = before ++ cursor.rest ∧ cursor.offset = byteLength before

namespace StandsIn

variable {text : List Char} {cursor : Cursor}

theorem behind {offset : Nat} (front : List Char) {back : List Char}
    (h : (⟨offset, front ++ back⟩ : Cursor).StandsIn text) :
    (⟨offset + byteLength front, back⟩ : Cursor).StandsIn text := by
  obtain ⟨before, rfl, hoffset⟩ := h
  dsimp only at hoffset ⊢
  exact ⟨before ++ front, by simp, by simp [hoffset]⟩

theorem behind_take {offset : Nat} {chunk more : List Char} (count : Nat)
    (h : (⟨offset, chunk ++ more⟩ : Cursor).StandsIn text) :
    (⟨offset + byteLength (chunk.take count), chunk.drop count ++ more⟩ :
      Cursor).StandsIn text := by
  refine behind (chunk.take count) ?_
  rwa [← List.append_assoc, List.take_append_drop]

theorem skipBlanks (h : cursor.StandsIn text) : cursor.skipBlanks.StandsIn text := by
  refine behind (cursor.rest.takeWhile isBlank) ?_
  rwa [List.takeWhile_append_dropWhile]

theorem sliceFrom?_eq (h : cursor.StandsIn text) :
    sliceFrom? text cursor.offset = some cursor.rest := by
  obtain ⟨before, rfl, hoffset⟩ := h
  rw [hoffset, sliceFrom?_append]

theorem isValid {input : String} (h : cursor.StandsIn input.toList) :
    String.Pos.Raw.IsValid input ⟨cursor.offset⟩ := by
  obtain ⟨before, htext, hoffset⟩ := h
  rw [← isSome_cutAt?_iff, htext, hoffset, cutAt?_append]
  rfl

theorem turn?_eq (h : cursor.StandsIn text) (table : SymbolTable) :
    table.turn? text cursor.offset =
      if cursor.skipBlanks.rest = [] then some ⟨none, cursor.skipBlanks.offset⟩
      else table.turnInChunk? cursor.skipBlanks.offset (byteLength text)
        (cursor.skipBlanks.rest.takeWhile fun c => !isBlank c) := by
  have hstart : cursor.offset + (byteLength cursor.rest - byteLength (trimStart cursor.rest)) =
      cursor.skipBlanks.offset := by
    have hbytes := congrArg byteLength (@List.takeWhile_append_dropWhile _ isBlank cursor.rest)
    rw [byteLength_append] at hbytes
    rw [trimStart, ← hbytes, Nat.add_sub_cancel]
    rfl
  have hchunk : sliceTo? cursor.skipBlanks.rest
      (byteLength (cursor.skipBlanks.rest.takeWhile fun c => !isBlank c)) =
        some (cursor.skipBlanks.rest.takeWhile fun c => !isBlank c) :=
    sliceTo?_eq_some_iff.2 ⟨List.takeWhile_prefix _, rfl⟩
  simp only [SymbolTable.turn?, h.sliceFrom?_eq, hstart, h.skipBlanks.sliceFrom?_eq,
    Option.bind_eq_bind, Option.bind_some, hchunk]
  rfl

end StandsIn

/-- A turn of a reader at a cursor, and the cursor where it stops: the item is the first one of the
scan, and the others are left. -/
structure TurnsTo (lexicon : Lexicon) (text : List Char) (cursor next : Cursor) : Prop where
  standsIn : next.StandsIn text
  turn?_eq : lexicon.symbols.turn? text cursor.offset =
    some ⟨(cursor.scan lexicon.symbols).items.head?, next.offset⟩
  items_eq : (next.scan lexicon.symbols).items = (cursor.scan lexicon.symbols).items.tail
  lt_of_ok : ∀ lexeme, (cursor.scan lexicon.symbols).items.head? = some (.ok lexeme) →
    cursor.offset < next.offset

namespace TurnsTo

variable {lexicon : Lexicon} {text : List Char} {cursor next : Cursor}

theorem offsetAfter?_succ {turns : Nat} (h : TurnsTo lexicon text cursor next)
    (hoffset : lexicon.symbols.offsetAfter? text turns = some cursor.offset) :
    lexicon.symbols.offsetAfter? text (turns + 1) = some next.offset := by
  rw [SymbolTable.offsetAfter?, hoffset]
  simp [h.turn?_eq]

theorem of_done (h : cursor.StandsIn text) (hrest : cursor.skipBlanks.rest = []) :
    TurnsTo lexicon text cursor cursor.skipBlanks := by
  have hread : cursor.read lexicon.symbols = .done := read_of_skipBlanks_nil hrest
  have hscan : cursor.scan lexicon.symbols = ⟨[], none⟩ := scan_of_done hread
  have hskipped : cursor.skipBlanks.scan lexicon.symbols = ⟨[], none⟩ :=
    scan_of_done (by rw [read_skipBlanks, hread])
  exact {
    standsIn := h.skipBlanks
    turn?_eq := by rw [h.turn?_eq, if_pos hrest, hscan]; rfl
    items_eq := by rw [hscan, hskipped]; rfl
    lt_of_ok := by intro lexeme hhead; rw [hscan] at hhead; cases hhead }

theorem of_lexeme {lexeme : Lexeme} (hnext : next.StandsIn text)
    (hread : cursor.read lexicon.symbols = .lexeme lexeme next) (hlt : cursor.offset < next.offset)
    (hturn : lexicon.symbols.turn? text cursor.offset = some ⟨some (.ok lexeme), next.offset⟩) :
    TurnsTo lexicon text cursor next := by
  have hitems : (cursor.scan lexicon.symbols).items =
      .ok lexeme :: (next.scan lexicon.symbols).items := by
    rw [scan_of_lexeme hread, Scan.items_cons]
  exact {
    standsIn := hnext
    turn?_eq := by rw [hturn, hitems, List.head?_cons]
    items_eq := by rw [hitems, List.tail_cons]
    lt_of_ok := fun _ _ => hlt }

theorem of_stray {stray : Stray} (hread : cursor.read lexicon.symbols = .stray stray)
    (hturn : lexicon.symbols.turn? text cursor.offset =
      some ⟨some (.error stray), byteLength text⟩) :
    TurnsTo lexicon text cursor ⟨byteLength text, []⟩ := by
  have hscan := scan_of_stray hread
  exact {
    standsIn := ⟨text, (List.append_nil text).symm, rfl⟩
    turn?_eq := by rw [hturn, hscan]; rfl
    items_eq := by rw [hscan, scan_nil]; rfl
    lt_of_ok := by intro lexeme hhead; rw [hscan] at hhead; cases hhead }

end TurnsTo

theorem exists_isChunk {cursor : Cursor} (h : cursor.skipBlanks.rest ≠ []) :
    ∃ chunk more, cursor.skipBlanks = ⟨cursor.skipBlanks.offset, chunk ++ more⟩ ∧
      IsChunk chunk more ∧
      chunk ≠ [] ∧ (cursor.skipBlanks.rest.takeWhile fun c => !isBlank c) = chunk := by
  have hne : (cursor.skipBlanks.rest.takeWhile fun c => !isBlank c) ≠ [] := by
    obtain ⟨c, rest, hrest⟩ := List.exists_cons_of_ne_nil h
    simp [hrest, isBlank_head_skipBlanks hrest]
  exact ⟨_, _, by rw [List.takeWhile_append_dropWhile], isChunk_takeWhile _, hne, rfl⟩

/-- From a boundary a reader turns to a boundary, and gives what the cursor there reads. -/
theorem StandsIn.exists_turnsTo {text : List Char} {cursor : Cursor} (h : cursor.StandsIn text)
    (lexicon : Lexicon) : ∃ next, TurnsTo lexicon text cursor next := by
  by_cases hrest : cursor.skipBlanks.rest = []
  · exact ⟨cursor.skipBlanks, .of_done h hrest⟩
  · have hle : cursor.offset ≤ cursor.skipBlanks.offset := Nat.le_add_right _ _
    obtain ⟨chunk, more, hskip, hc, hne, hchunk⟩ := exists_isChunk hrest
    have hturn := h.turn?_eq lexicon.symbols
    rw [if_neg hrest, hchunk] at hturn
    have hstart := h.skipBlanks
    have hread := cursor.read_skipBlanks lexicon.symbols
    rw [hskip] at hstart hread
    generalize cursor.skipBlanks.offset = start at *
    cases hl : lexicon.longest? chunk with
    | some symbol =>
      rw [read_of_longest? hc hne hl] at hread
      rw [Lexicon.turnInChunk?_of_longest? _ _ hl] at hturn
      have hpos := byteLength_pos symbol.spelling_ne_nil
      have hnext := hstart.behind_take symbol.spelling.length
      rw [byteLength_take_of_starts (Lexicon.startsIn_of_longest? hl)] at hnext
      exact ⟨_, .of_lexeme hnext hread.symm (by dsimp only; omega) hturn⟩
    | none =>
      rw [read_of_longest?_none hc hne hl] at hread
      rw [Lexicon.turnInChunk?_of_longest?_none _ _ hne hl, Turn.ofWord] at hturn
      split at hread
      · next hname =>
        rw [if_pos hname] at hturn
        have hpos := byteLength_pos (Lexicon.take_symbolPlace_ne_nil hne hl)
        exact ⟨_, .of_lexeme (hstart.behind_take _) hread.symm (by dsimp only; omega) hturn⟩
      · next hname =>
        rw [if_neg hname] at hturn
        exact ⟨_, .of_stray hread.symm hturn⟩

theorem length_items_scan_le (table : SymbolTable) (cursor : Cursor) :
    (cursor.scan table).items.length ≤ cursor.rest.length := by
  fun_induction scan table cursor with
  | case1 cursor hread => exact Nat.zero_le _
  | case2 cursor stray hread =>
    have hrest : cursor.skipBlanks.rest ≠ [] := by
      intro hnil
      rw [read_of_skipBlanks_nil hnil] at hread
      cases hread
    exact Nat.lt_of_lt_of_le (List.length_pos_iff.2 hrest) cursor.length_skipBlanks_le
  | case3 cursor lexeme next hread rest ih =>
    have hshorter := length_read_lt hread
    change (scan table next).items.length + 1 ≤ _
    omega

end Cursor

/-- After some turns a reader stands where a cursor does, and has given as many items of the
scan. -/
theorem exists_offsetAfter? (lexicon : Lexicon) (input : String) (turns : Nat) :
    ∃ cursor : Cursor, cursor.StandsIn input.toList ∧
      lexicon.symbols.offsetAfter? input.toList turns = some cursor.offset ∧
      (cursor.scan lexicon.symbols).items = (lexicon.symbols.scan input).items.drop turns := by
  induction turns with
  | zero => exact ⟨⟨0, input.toList⟩, ⟨[], rfl, rfl⟩, rfl, rfl⟩
  | succ turns ih =>
    obtain ⟨cursor, hstands, hoffset, hitems⟩ := ih
    obtain ⟨next, hnext⟩ := hstands.exists_turnsTo lexicon
    refine ⟨next, hnext.standsIn, hnext.offsetAfter?_succ hoffset, ?_⟩
    rw [hnext.items_eq, hitems, List.tail_drop]

theorem itemAfter?_eq (lexicon : Lexicon) (input : String) (turns : Nat) :
    lexicon.symbols.itemAfter? input.toList turns =
      some (lexicon.symbols.scan input).items[turns]? := by
  obtain ⟨cursor, hstands, hoffset, hitems⟩ := exists_offsetAfter? lexicon input turns
  obtain ⟨next, hnext⟩ := hstands.exists_turnsTo lexicon
  have hhead : (cursor.scan lexicon.symbols).items.head? =
      (lexicon.symbols.scan input).items[turns]? := by
    rw [hitems, List.head?_drop]
  simp [SymbolTable.itemAfter?, hoffset, hnext.turn?_eq, hhead]

theorem offsetAfter?_lt_of_ok {lexicon : Lexicon} {input : String} {turns : Nat} {lexeme : Lexeme}
    (h : lexicon.symbols.itemAfter? input.toList turns = some (some (.ok lexeme))) :
    ∃ offset next, lexicon.symbols.offsetAfter? input.toList turns = some offset ∧
      lexicon.symbols.offsetAfter? input.toList (turns + 1) = some next ∧ offset < next := by
  obtain ⟨cursor, hstands, hoffset, hitems⟩ := exists_offsetAfter? lexicon input turns
  obtain ⟨next, hnext⟩ := hstands.exists_turnsTo lexicon
  have hhead : (cursor.scan lexicon.symbols).items.head? = some (.ok lexeme) := by
    rw [hitems, List.head?_drop]
    exact Option.some.inj ((itemAfter?_eq lexicon input turns).symm.trans h)
  exact ⟨cursor.offset, next.offset, hoffset, hnext.offsetAfter?_succ hoffset,
    hnext.lt_of_ok lexeme hhead⟩

/-- A reader by offsets is always at a boundary of characters, and it gives the items of the scan in
turn. -/
structure ReadsBySlices (table : SymbolTable) (input : String) : Prop where
  boundary : ∀ turns, ∃ offset, table.offsetAfter? input.toList turns = some offset ∧
    String.Pos.Raw.IsValid input ⟨offset⟩
  items : ∀ turns, table.itemAfter? input.toList turns = some (table.scan input).items[turns]?
  advances : ∀ turns lexeme, table.itemAfter? input.toList turns = some (some (.ok lexeme)) →
    ∃ offset next, table.offsetAfter? input.toList turns = some offset ∧
      table.offsetAfter? input.toList (turns + 1) = some next ∧ offset < next
  stray_last : ∀ turns stray, table.itemAfter? input.toList turns = some (some (.error stray)) →
    ∀ later, turns < later → table.itemAfter? input.toList later = some none
  ends : ∀ turns, input.length ≤ turns → table.itemAfter? input.toList turns = some none

/-- A table holds the aliases of its lexicon, and a reader that has only a byte offset never slices
inside a character, moves on with every lexeme, and gives no more items than there are
characters. -/
theorem readsBySlices_symbols (lexicon : Lexicon) (input : String) :
    (∀ key spelling, spelling ∈ lexicon.symbols.spellings key ↔
      spelling ∈ aliases (lexicon.value key)) ∧
      ReadsBySlices lexicon.symbols input := by
  have hitem := itemAfter?_eq lexicon input
  refine ⟨fun key spelling => Lexicon.mem_spellings_symbols, ?_⟩
  exact {
    boundary := by
      intro turns
      obtain ⟨cursor, hstands, hoffset, -⟩ := exists_offsetAfter? lexicon input turns
      exact ⟨cursor.offset, hoffset, hstands.isValid⟩
    items := hitem
    advances := fun turns lexeme hok => offsetAfter?_lt_of_ok hok
    stray_last := by
      intro turns stray herror later hlater
      have hlength := Scan.length_items_of_error (Option.some.inj ((hitem turns).symm.trans herror))
      rw [hitem, List.getElem?_eq_none (by omega)]
    ends := by
      intro turns hturns
      have hlength : (lexicon.symbols.scan input).items.length ≤ input.toList.length :=
        Cursor.length_items_scan_le lexicon.symbols ⟨0, input.toList⟩
      rw [String.length_toList] at hlength
      rw [hitem, List.getElem?_eq_none (by omega)] }

example : (List.range 6).map (Lexicon.standard.symbols.offsetAfter? "é∧ x @ y".toList) =
    [some 0, some 2, some 5, some 7, some 11, some 11] := by
  decide +kernel

end BooleanTables
