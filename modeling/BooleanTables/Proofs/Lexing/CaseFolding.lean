import BooleanTables.Proofs.Lexing.Offsets
import BooleanTables.Proofs.Text.Letters

/-!
# Texts and lexicons that differ in case

Folding the case of ASCII letters in all values of a lexicon and in a text commutes with every step
of the scan: the values are cut into the folded aliases, these are sorted alike, and the same places
are found in the text. So texts that are equal up to case are read alike in lexicons that are equal
up to case.
-/

namespace BooleanTables

open Text

/-! ### Folded aliases -/

theorem commaPieces_foldCase (text : List Char) :
    commaPieces (foldCase text) = (commaPieces text).map foldCase := by
  induction text with
  | nil => rfl
  | cons c text ih =>
    rw [foldCase_cons, commaPieces, commaPieces, ih]
    by_cases hc : c = ','
    · rw [if_pos (toLower_eq_comma_iff.2 hc), if_pos hc]
      rfl
    · rw [if_neg (mt toLower_eq_comma_iff.1 hc), if_neg hc]
      cases commaPieces text <;> rfl

theorem takeWhile_isBlank_foldCase (text : List Char) :
    (foldCase text).takeWhile isBlank = foldCase (text.takeWhile isBlank) := by
  have hblank : isBlank ∘ Char.toLower = isBlank := funext isBlank_toLower
  unfold foldCase
  rw [List.takeWhile_map, hblank]

theorem dropWhile_isBlank_foldCase (text : List Char) :
    (foldCase text).dropWhile isBlank = foldCase (text.dropWhile isBlank) := by
  have hblank : isBlank ∘ Char.toLower = isBlank := funext isBlank_toLower
  unfold foldCase
  rw [List.dropWhile_map, hblank]

theorem reverse_foldCase (text : List Char) : (foldCase text).reverse = foldCase text.reverse :=
  List.map_reverse.symm

theorem trim_foldCase (text : List Char) : trim (foldCase text) = foldCase (trim text) := by
  unfold trim trimEnd trimStart
  rw [dropWhile_isBlank_foldCase, reverse_foldCase, dropWhile_isBlank_foldCase, reverse_foldCase]

def folded (text : String) : String := String.ofList (foldCase text.toList)

theorem aliases_folded (value : String) :
    aliases (folded value) = (aliases value).map foldCase := by
  have hne : (fun spelling : List Char => decide (spelling ≠ [])) ∘ foldCase = fun spelling =>
      decide (spelling ≠ []) := by
    funext spelling
    simp [foldCase]
  have htrim : trim ∘ foldCase = foldCase ∘ trim := funext trim_foldCase
  unfold aliases folded
  rw [String.toList_ofList, commaPieces_foldCase, List.map_map, htrim, ← List.map_map,
    List.filter_map, hne]

/-! ### Folded tables -/

namespace Symbol

def folded (symbol : Symbol) : Symbol :=
  ⟨symbol.key, foldCase symbol.spelling, by simpa [foldCase] using symbol.spelling_ne_nil⟩

theorem byteLength_folded (symbol : Symbol) : symbol.folded.byteLength = symbol.byteLength :=
  byteLength_foldCase symbol.spelling

theorem startsIn_folded (symbol : Symbol) (text : List Char) :
    symbol.folded.startsIn (foldCase text) = symbol.startsIn text :=
  startsUpToCase_foldCase symbol.spelling text

theorem ofSpelling?_foldCase (key : Key) (spelling : List Char) :
    ofSpelling? key (foldCase spelling) = (ofSpelling? key spelling).map folded := by
  unfold ofSpelling?
  by_cases h : spelling = []
  · subst h
    rfl
  · have hfold : foldCase spelling ≠ [] := by simpa [foldCase] using h
    rw [dif_pos hfold, dif_pos h]
    rfl

theorem place_folded (symbol : Symbol) (symbols : List Symbol) :
    symbol.folded.place (symbols.map folded) = (symbol.place symbols).map folded := by
  induction symbols with
  | nil => rfl
  | cons first rest ih =>
    rw [List.map_cons, place, place, byteLength_folded, byteLength_folded, ih]
    split <;> rfl

end Symbol

theorem longestFirst_folded (symbols : List Symbol) :
    longestFirst (symbols.map Symbol.folded) = (longestFirst symbols).map Symbol.folded := by
  induction symbols with
  | nil => rfl
  | cons symbol rest ih =>
    change symbol.folded.place (longestFirst (rest.map Symbol.folded)) =
      (symbol.place (longestFirst rest)).map Symbol.folded
    rw [ih, Symbol.place_folded]

def SymbolTable.folded (table : SymbolTable) : SymbolTable := ⟨table.entries.map Symbol.folded⟩

def Lexicon.folded (lexicon : Lexicon) : Lexicon :=
  ⟨fun key => BooleanTables.folded (lexicon.value key)⟩

theorem Lexicon.symbols_folded (lexicon : Lexicon) :
    lexicon.folded.symbols = lexicon.symbols.folded := by
  have hlist : lexicon.folded.symbolList = lexicon.symbolList.map Symbol.folded := by
    unfold symbolList
    rw [List.map_flatMap]
    apply List.flatMap_congr
    intro key _
    change (aliases (BooleanTables.folded (lexicon.value key))).filterMap _ = _
    rw [aliases_folded, List.filterMap_map, List.map_filterMap]
    apply List.filterMap_congr
    intro spelling _
    exact Symbol.ofSpelling?_foldCase key spelling
  unfold symbols SymbolTable.folded
  rw [hlist, longestFirst_folded]

namespace SymbolTable

variable (table : SymbolTable)

theorem matchInChunk?_folded (text : List Char) :
    table.folded.matchInChunk? (foldCase text) = (table.matchInChunk? text).map Symbol.folded := by
  unfold matchInChunk? folded
  rw [List.find?_map]
  congr 2
  funext symbol
  change (symbol.folded.startsIn (foldCase text) && !(foldCase symbol.spelling).any isBlank) = _
  rw [Symbol.startsIn_folded, any_isBlank_foldCase]

theorem cut_folded (text : List Char) :
    table.folded.cut (foldCase text) =
      ((foldCase (table.cut text).1), (table.cut text).2.map Symbol.folded) := by
  induction text with
  | nil => rfl
  | cons c text ih =>
    have hmatch := matchInChunk?_folded table (c :: text)
    rw [foldCase_cons] at hmatch ⊢
    rw [cut, cut, isBlank_toLower, hmatch, ih]
    cases isBlank c with
    | true => rfl
    | false => cases table.matchInChunk? (c :: text) <;> rfl

end SymbolTable

/-! ### Folded scans -/

def Token.folded : Token → Token
  | .symbol key => .symbol key
  | .var name => .var (BooleanTables.folded name)

def Lexeme.folded (lexeme : Lexeme) : Lexeme := ⟨lexeme.start, lexeme.token.folded, lexeme.stop⟩

def Stray.folded (stray : Stray) : Stray := ⟨stray.start, BooleanTables.folded stray.text⟩

def Scan.folded (scan : Scan) : Scan :=
  ⟨scan.lexemes.map Lexeme.folded, scan.stray.map Stray.folded⟩

def Cursor.folded (cursor : Cursor) : Cursor := ⟨cursor.offset, foldCase cursor.rest⟩

def Reading.folded : Reading → Reading
  | .done => .done
  | .stray found => .stray found.folded
  | .lexeme found next => .lexeme found.folded next.folded

namespace Cursor

variable (table : SymbolTable)

theorem skipBlanks_folded (cursor : Cursor) :
    cursor.folded.skipBlanks = cursor.skipBlanks.folded := by
  unfold skipBlanks folded
  rw [takeWhile_isBlank_foldCase, dropWhile_isBlank_foldCase, byteLength_foldCase]

theorem take_folded (cursor : Cursor) (token : Token) (count : Nat) :
    cursor.folded.take token.folded count = (cursor.take token count).folded := by
  have htake : (foldCase cursor.rest).take count = foldCase (cursor.rest.take count) :=
    List.map_take.symm
  have hdrop : (foldCase cursor.rest).drop count = foldCase (cursor.rest.drop count) :=
    List.map_drop.symm
  unfold take advance folded
  rw [htake, hdrop, byteLength_foldCase]
  rfl

theorem take_word_folded (cursor : Cursor) (word : List Char) :
    (if (foldCase word).all isNameChar then
        cursor.folded.take (.var (String.ofList (foldCase word))) (foldCase word).length
      else .stray ⟨cursor.offset, String.ofList (foldCase word)⟩) =
      (if word.all isNameChar then cursor.take (.var (String.ofList word)) word.length
        else .stray ⟨cursor.offset, String.ofList word⟩ : Reading).folded := by
  have hname : (foldCase word).all isNameChar = word.all isNameChar := by
    have hchar : isNameChar ∘ Char.toLower = isNameChar := funext isNameChar_toLower
    unfold foldCase
    rw [List.all_map, hchar]
  have hword : BooleanTables.folded (String.ofList word) = String.ofList (foldCase word) := by
    unfold BooleanTables.folded
    rw [String.toList_ofList]
  have htoken : (Token.var (String.ofList word)).folded = .var (String.ofList (foldCase word)) :=
    congrArg Token.var hword
  have htake := take_folded cursor (.var (String.ofList word)) word.length
  rw [htoken] at htake
  rw [hname, length_foldCase, htake]
  split
  · rfl
  · exact congrArg (fun text => Reading.stray ⟨cursor.offset, text⟩) hword.symm

theorem read_folded (cursor : Cursor) :
    cursor.folded.read table.folded = (cursor.read table).folded := by
  unfold read
  rw [skipBlanks_folded]
  generalize cursor.skipBlanks = start
  have hnil : start.folded.rest = [] ↔ start.rest = [] := List.map_eq_nil_iff
  have hcut := table.cut_folded start.rest
  change table.folded.cut start.folded.rest = _ at hcut
  by_cases hrest : start.rest = []
  · dsimp only
    rw [if_pos (hnil.2 hrest), if_pos hrest]
    rfl
  · dsimp only
    rw [if_neg (mt hnil.1 hrest), if_neg hrest, hcut]
    rcases table.cut start.rest with ⟨_ | ⟨c, word⟩, _ | symbol⟩
    · exact take_word_folded start []
    · have hlength : symbol.folded.spelling.length = symbol.spelling.length :=
        length_foldCase symbol.spelling
      change start.folded.take (.symbol symbol.key) symbol.folded.spelling.length = _
      rw [hlength]
      exact take_folded start (.symbol symbol.key) symbol.spelling.length
    · exact take_word_folded start (c :: word)
    · exact take_word_folded start (c :: word)

theorem scan_folded (cursor : Cursor) :
    scan table.folded cursor.folded = (scan table cursor).folded := by
  fun_induction scan table cursor with
  | case1 cursor hread =>
    apply scan_of_done
    rw [read_folded, hread]
    rfl
  | case2 cursor stray hread =>
    apply scan_of_stray
    rw [read_folded, hread]
    rfl
  | case3 cursor lexeme next hread rest ih =>
    have hfolded := read_folded table cursor
    rw [hread] at hfolded
    rw [scan_of_lexeme hfolded, ih]
    rfl

end Cursor

/-! ### Scans that differ in case -/

/-- Items at one place: symbols of one slot, or names or stray texts that differ at most in the case
of ASCII letters. -/
inductive SameItem : Except Stray Lexeme → Except Stray Lexeme → Prop
  | symbol (start : Nat) (key : Key) (stop : Nat) :
    SameItem (.ok ⟨start, .symbol key, stop⟩) (.ok ⟨start, .symbol key, stop⟩)
  | var (start stop : Nat) {name other : String} (same : EqualUpToCase name.toList other.toList) :
    SameItem (.ok ⟨start, .var name, stop⟩) (.ok ⟨start, .var other, stop⟩)
  | stray (start : Nat) {text other : String} (same : EqualUpToCase text.toList other.toList) :
    SameItem (.error ⟨start, text⟩) (.error ⟨start, other⟩)

theorem folded_eq_iff {a b : String} : folded a = folded b ↔ EqualUpToCase a.toList b.toList := by
  unfold folded
  rw [String.ofList_inj, foldCase_eq_iff]

def foldedItem : Except Stray Lexeme → Except Stray Lexeme
  | .ok lexeme => .ok lexeme.folded
  | .error stray => .error stray.folded

theorem Scan.items_folded (scan : Scan) : scan.folded.items = scan.items.map foldedItem := by
  obtain ⟨lexemes, stray⟩ := scan
  cases stray <;> simp [items, Scan.folded, foldedItem, Function.comp_def]

theorem sameItem_of_foldedItem_eq {a b : Except Stray Lexeme} (h : foldedItem a = foldedItem b) :
    SameItem a b := by
  rcases a with ⟨start, text⟩ | ⟨start, token, stop⟩
  · rcases b with ⟨place, other⟩ | lexeme
    · obtain ⟨rfl, htext⟩ := Stray.mk.inj (Except.error.inj h)
      exact .stray start (folded_eq_iff.1 htext)
    · cases h
  · rcases b with stray | ⟨place, other, last⟩
    · cases h
    · obtain ⟨rfl, htoken, rfl⟩ := Lexeme.mk.inj (Except.ok.inj h)
      cases token with
      | symbol key =>
        cases other with
        | symbol same =>
          cases htoken
          exact .symbol start key stop
        | var name => cases htoken
      | var name =>
        cases other with
        | symbol key => cases htoken
        | var second => exact .var start stop (folded_eq_iff.1 (Token.var.inj htoken))

theorem SymbolTable.scan_folded (table : SymbolTable) (input : String) :
    table.folded.scan (BooleanTables.folded input) = (table.scan input).folded := by
  have hscan := Cursor.scan_folded table ⟨0, input.toList⟩
  unfold scan BooleanTables.folded
  rw [String.toList_ofList]
  exact hscan

/-- What a symbol is found by is equality up to the case of ASCII letters, and nothing wider. Texts
that differ at most in that case have the same items in lexicons that differ at most in it, but for
the case of names and of stray text, and the scan of the one ends in stray text if that of the other
does. -/
theorem scan_equalUpToCase :
    (∀ (symbol : Symbol) (text : List Char),
      symbol.startsIn text = true ↔ ∃ head, head <+: text ∧ EqualUpToCase head symbol.spelling) ∧
    ∀ (a b : Lexicon) (first second : String),
      (∀ key, EqualUpToCase (a.value key).toList (b.value key).toList) →
      EqualUpToCase first.toList second.toList →
      List.Forall₂ SameItem (a.symbols.scan first).items (b.symbols.scan second).items ∧
        (a.symbols.scan first).stray.isSome = (b.symbols.scan second).stray.isSome := by
  refine ⟨fun symbol text => startsUpToCase_iff_exists, ?_⟩
  intro a b first second hvalues hinputs
  have hlexicon : a.folded = b.folded := by
    apply Lexicon.ext
    funext key
    exact folded_eq_iff.2 (hvalues key)
  have hfolded : (a.symbols.scan first).folded = (b.symbols.scan second).folded := by
    rw [← SymbolTable.scan_folded, ← SymbolTable.scan_folded, ← Lexicon.symbols_folded,
      ← Lexicon.symbols_folded, hlexicon, folded_eq_iff.2 hinputs]
  constructor
  · have hitems := congrArg Scan.items hfolded
    rw [Scan.items_folded, Scan.items_folded, ← List.forall₂_eq_eq_eq, List.forall₂_map_left_iff,
      List.forall₂_map_right_iff] at hitems
    exact hitems.imp fun _ _ h => sameItem_of_foldedItem_eq h
  · have hstray := congrArg (fun scan => scan.stray.isSome) hfolded
    simpa [Scan.folded] using hstray

/-- The alias `Éor` is not found in `éor`, whose first letter has another case outside ASCII; `or`
is. -/
theorem scan_equalUpToCase_mixed :
    let first := Lexicon.standard.set .or "oK, or, Éor"
    let second := Lexicon.standard.set .or "Ok, OR, ÉOR"
    (first.symbols.scan "Na oK b éor @X").items =
        [.ok ⟨0, .var "Na", 2⟩, .ok ⟨3, .symbol .or, 5⟩, .ok ⟨6, .var "b", 7⟩,
          .ok ⟨8, .var "é", 10⟩, .ok ⟨10, .symbol .or, 12⟩, .error ⟨13, "@X"⟩] ∧
      List.Forall₂ SameItem (first.symbols.scan "Na oK b éor @X").items
        (second.symbols.scan "nA OK b éOR @x").items ∧
      (second.symbols.scan "nA OK b éOR @x").stray.isSome = true := by
  intro first second
  have hall : ∀ key ∈ Key.all,
      EqualUpToCase (first.value key).toList (second.value key).toList := by
    decide +kernel
  have hinputs : EqualUpToCase "Na oK b éor @X".toList "nA OK b éOR @x".toList := by
    decide +kernel
  have hitems :=
    scan_equalUpToCase.2 first second _ _ (fun key => hall key (Key.mem_all key)) hinputs
  refine ⟨by decide +kernel, hitems.1, ?_⟩
  rw [← hitems.2]
  decide +kernel

end BooleanTables
