import BooleanTables.Proofs.Text.Folding
import BooleanTables.Lexicon.SymbolTable
import Mathlib.Data.List.MinMax

/-!
# The longest symbol

The order of a symbol table makes the first symbol that fits the longest one that fits, and the one
of the earliest slot among several. In a chunk, which holds no white space, the text after the chunk
does not matter.
-/

namespace BooleanTables

open Text

namespace Symbol

def Descending (symbols : List Symbol) : Prop :=
  symbols.Pairwise fun a b => b.byteLength ≤ a.byteLength

theorem mem_place {symbol other : Symbol} {symbols : List Symbol} :
    other ∈ symbol.place symbols ↔ other = symbol ∨ other ∈ symbols := by
  induction symbols with
  | nil => simp [place]
  | cons first rest ih =>
    rw [place]
    split
    · rw [List.mem_cons, ih, List.mem_cons]
      tauto
    · rw [List.mem_cons]

theorem descending_place {symbol : Symbol} {symbols : List Symbol} (h : Descending symbols) :
    Descending (symbol.place symbols) := by
  induction symbols with
  | nil => exact List.pairwise_singleton _ _
  | cons first rest ih =>
    obtain ⟨hfirst, hrest⟩ := List.pairwise_cons.1 h
    rw [place]
    split
    · next hlt =>
      refine List.pairwise_cons.2 ⟨fun other ho => ?_, ih hrest⟩
      rcases mem_place.1 ho with rfl | ho
      · exact Nat.le_of_lt hlt
      · exact hfirst other ho
    · next hle =>
      refine List.pairwise_cons.2 ⟨fun other ho => ?_, h⟩
      rcases List.mem_cons.1 ho with rfl | ho
      · exact Nat.le_of_not_lt hle
      · exact Nat.le_trans (hfirst other ho) (Nat.le_of_not_lt hle)

/-- The better of two symbols: the longer one, or the first. -/
def better (symbol : Symbol) : Option Symbol → Option Symbol
  | none => some symbol
  | some other => if symbol.byteLength < other.byteLength then some other else some symbol

theorem find?_place {symbol : Symbol} {symbols : List Symbol} (h : Descending symbols)
    (p : Symbol → Bool) :
    (symbol.place symbols).find? p =
      if p symbol then symbol.better (symbols.find? p) else symbols.find? p := by
  induction symbols with
  | nil => cases hp : p symbol <;> simp [place, hp, better]
  | cons first rest ih =>
    obtain ⟨hfirst, hrest⟩ := List.pairwise_cons.1 h
    rw [place]
    split
    · next hlt =>
      rw [List.find?_cons, List.find?_cons, ih hrest]
      cases hf : p first with
      | true => simp [better, hlt]
      | false => rfl
    · next hle =>
      rw [List.find?_cons]
      cases hp : p symbol with
      | false => rfl
      | true =>
        -- no symbol after the place is longer
        cases hfound : (first :: rest).find? p with
        | none => rfl
        | some other =>
          have hmem := List.mem_of_find?_eq_some hfound
          have hother : other.byteLength ≤ symbol.byteLength := by
            rcases List.mem_cons.1 hmem with rfl | ho
            · exact Nat.le_of_not_lt hle
            · exact Nat.le_trans (hfirst other ho) (Nat.le_of_not_lt hle)
          simp [better, Nat.not_lt.2 hother]

end Symbol

theorem descending_longestFirst (symbols : List Symbol) :
    Symbol.Descending (longestFirst symbols) := by
  induction symbols with
  | nil => exact List.Pairwise.nil
  | cons symbol rest ih => exact Symbol.descending_place ih

theorem mem_longestFirst {symbol : Symbol} {symbols : List Symbol} :
    symbol ∈ longestFirst symbols ↔ symbol ∈ symbols := by
  induction symbols with
  | nil => rfl
  | cons first rest ih =>
    change symbol ∈ first.place (longestFirst rest) ↔ _
    rw [Symbol.mem_place, ih, List.mem_cons]

/-- The first symbol in a table that fits is the longest of those that fit; of several the
earliest. -/
theorem find?_longestFirst (symbols : List Symbol) (p : Symbol → Bool) :
    (longestFirst symbols).find? p = (symbols.filter p).argmax Symbol.byteLength := by
  induction symbols with
  | nil => rfl
  | cons symbol rest ih =>
    change (symbol.place (longestFirst rest)).find? p = _
    rw [Symbol.find?_place (descending_longestFirst rest), ih, List.filter_cons]
    split
    · rw [List.argmax_cons]
      cases (rest.filter p).argmax Symbol.byteLength <;> rfl
    · rfl

namespace Lexicon

theorem mem_symbolList {lexicon : Lexicon} {symbol : Symbol} :
    symbol ∈ lexicon.symbolList ↔ symbol.spelling ∈ aliases (lexicon.value symbol.key) := by
  rw [symbolList, List.mem_flatMap]
  constructor
  · rintro ⟨key, -, hmem⟩
    obtain ⟨spelling, halias, hsymbol⟩ := List.mem_filterMap.1 hmem
    rw [Symbol.ofSpelling?] at hsymbol
    split at hsymbol
    · cases hsymbol
      exact halias
    · cases hsymbol
  · intro halias
    exact ⟨symbol.key, Key.mem_all symbol.key, List.mem_filterMap.2
      ⟨symbol.spelling, halias, dif_pos symbol.spelling_ne_nil⟩⟩

/-- The table of a lexicon spells a slot with the aliases in its value, and with nothing else. -/
theorem mem_spellings_symbols {lexicon : Lexicon} {key : Key} {spelling : List Char} :
    spelling ∈ lexicon.symbols.spellings key ↔ spelling ∈ aliases (lexicon.value key) := by
  rw [SymbolTable.spellings, List.mem_map]
  constructor
  · rintro ⟨symbol, hmem, rfl⟩
    obtain ⟨hentry, hkey⟩ := List.mem_filter.1 hmem
    rw [← of_decide_eq_true hkey]
    exact mem_symbolList.1 (mem_longestFirst.1 hentry)
  · intro halias
    refine ⟨⟨key, spelling, ne_nil_of_mem_aliases halias⟩,
      List.mem_filter.2 ⟨?_, decide_eq_true rfl⟩, rfl⟩
    exact mem_longestFirst.2 (mem_symbolList.2 halias)

/-- The longest symbol of a lexicon that a text begins with; of several the one of the earliest
slot. -/
def longest? (lexicon : Lexicon) (text : List Char) : Option Symbol :=
  (lexicon.symbolList.filter (·.startsIn text)).argmax Symbol.byteLength

theorem match?_symbols (lexicon : Lexicon) (text : List Char) :
    lexicon.symbols.match? text = lexicon.longest? text :=
  find?_longestFirst _ _

theorem startsIn_of_longest? {lexicon : Lexicon} {text : List Char} {symbol : Symbol}
    (h : lexicon.longest? text = some symbol) : symbol.startsIn text = true := by
  have hmem := List.argmax_mem h
  exact (List.mem_filter.1 hmem).2

end Lexicon

/-- A text without white space that ends where white space follows, or at the end. -/
structure IsChunk (chunk more : List Char) : Prop where
  unbroken : ∀ c ∈ chunk, isBlank c = false
  bounded : ∀ c ∈ more.head?, isBlank c = true

theorem IsChunk.drop {chunk more : List Char} (h : IsChunk chunk more) (count : Nat) :
    IsChunk (chunk.drop count) more :=
  ⟨fun other ho => h.unbroken other (List.mem_of_mem_drop ho), h.bounded⟩

theorem IsChunk.tail {c : Char} {chunk more : List Char} (h : IsChunk (c :: chunk) more) :
    IsChunk chunk more :=
  h.drop 1

theorem startsUpToCase_append_chunk {spelling chunk more : List Char} (h : IsChunk chunk more) :
    (startsUpToCase spelling (chunk ++ more) && !spelling.any isBlank) =
      startsUpToCase spelling chunk := by
  induction spelling generalizing chunk with
  | nil => simp [startsUpToCase]
  | cons a spelling ih =>
    cases chunk with
    | nil =>
      cases more with
      | nil => simp [startsUpToCase]
      | cons b more =>
        have hb : isBlank b = true := h.bounded b rfl
        by_cases hab : a.toLower = b.toLower
        · simp [startsUpToCase, isBlank_eq_of_toLower_eq hab, hb]
        · simp [startsUpToCase, hab]
    | cons b chunk =>
      have hb : isBlank b = false := h.unbroken b List.mem_cons_self
      have hrest := ih h.tail
      by_cases hab : a.toLower = b.toLower
      · simp [startsUpToCase, isBlank_eq_of_toLower_eq hab, hb, hab, ← hrest]
      · simp [startsUpToCase, beq_false_of_ne hab]

theorem matchInChunk?_append (lexicon : Lexicon) {chunk more : List Char} (h : IsChunk chunk more) :
    lexicon.symbols.matchInChunk? (chunk ++ more) = lexicon.longest? chunk := by
  rw [← lexicon.match?_symbols, SymbolTable.match?, SymbolTable.matchInChunk?]
  congr 1
  funext symbol
  exact startsUpToCase_append_chunk h

end BooleanTables
