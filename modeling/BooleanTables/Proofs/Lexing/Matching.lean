import BooleanTables.Proofs.Lexing.Offsets

/-!
# What a text begins with

A table is sorted by the length of its symbols and keeps the order of the slots among those of one
length. So the first symbol that a text begins with is the longest alias that it begins with, and it
is of the first slot that has an alias of that length there. How the aliases of one slot are ordered
or repeated does not matter.
-/

namespace BooleanTables

open Text

/-- The slot of the symbol that a text begins with, and how many bytes the symbol takes. -/
def SymbolTable.beginning? (table : SymbolTable) (text : List Char) : Option (Key × Nat) :=
  (table.match? text).map fun symbol => (symbol.key, symbol.byteLength)

def Key.index (key : Key) : Nat := Key.all.idxOf key

theorem Key.index_injective {a b : Key} (h : a.index = b.index) : a = b :=
  (List.idxOf_inj (Key.mem_all a)).1 h

theorem Key.pairwise_all : Key.all.Pairwise fun a b => a.index ≤ b.index := by
  decide

namespace Symbol

def Precedes (a b : Symbol) : Prop :=
  b.byteLength < a.byteLength ∨ (b.byteLength = a.byteLength ∧ a.key.index ≤ b.key.index)

theorem precedes_refl (symbol : Symbol) : symbol.Precedes symbol := .inr ⟨rfl, Nat.le_refl _⟩

/-- A symbol goes behind all longer ones and before all others, whose slots are not earlier. -/
theorem pairwise_place {symbol : Symbol} {symbols : List Symbol} (h : symbols.Pairwise Precedes)
    (hkey : ∀ other ∈ symbols, symbol.key.index ≤ other.key.index) :
    (symbol.place symbols).Pairwise Precedes := by
  induction symbols with
  | nil => exact List.pairwise_singleton _ _
  | cons first rest ih =>
    obtain ⟨hfirst, hrest⟩ := List.pairwise_cons.1 h
    unfold place
    split
    · next hlt =>
      have htail := ih hrest fun other ho => hkey other (List.mem_cons_of_mem _ ho)
      refine List.pairwise_cons.2 ⟨?_, htail⟩
      intro other ho
      rcases mem_place.1 ho with rfl | ho
      · exact .inl hlt
      · exact hfirst other ho
    · next hle =>
      refine List.pairwise_cons.2 ⟨?_, h⟩
      intro other ho
      have hindex := hkey other ho
      have hother : other.byteLength ≤ first.byteLength := by
        rcases List.mem_cons.1 ho with rfl | ho
        · exact Nat.le_refl _
        · have := hfirst other ho
          unfold Precedes at this
          omega
      unfold Precedes
      omega

end Symbol

theorem pairwise_longestFirst {symbols : List Symbol}
    (h : symbols.Pairwise fun a b => a.key.index ≤ b.key.index) :
    (longestFirst symbols).Pairwise Symbol.Precedes := by
  induction symbols with
  | nil => exact List.Pairwise.nil
  | cons symbol rest ih =>
    obtain ⟨hsymbol, hrest⟩ := List.pairwise_cons.1 h
    apply Symbol.pairwise_place (ih hrest)
    intro other ho
    exact hsymbol other (mem_longestFirst.1 ho)

namespace Lexicon

theorem pairwise_symbolList (lexicon : Lexicon) :
    lexicon.symbolList.Pairwise fun a b => a.key.index ≤ b.key.index := by
  have hkey {key : Key} {symbol : Symbol}
      (h : symbol ∈ (aliases (lexicon.value key)).filterMap (Symbol.ofSpelling? key)) :
        symbol.key = key := by
    obtain ⟨spelling, -, hsymbol⟩ := List.mem_filterMap.1 h
    unfold Symbol.ofSpelling? at hsymbol
    split at hsymbol <;> cases hsymbol
    rfl
  refine List.pairwise_flatMap.2 ⟨?_, ?_⟩
  · intro key _
    apply List.pairwise_of_forall_mem_list
    intro a ha b hb
    rw [hkey ha, hkey hb]
  · refine Key.pairwise_all.imp ?_
    intro first second hle a ha b hb
    rwa [hkey ha, hkey hb]

theorem precedes_of_match? {lexicon : Lexicon} {text : List Char} {symbol other : Symbol}
    (h : lexicon.symbols.match? text = some symbol) (hmem : other ∈ lexicon.symbols.entries)
    (hstarts : other.startsIn text = true) : symbol.Precedes other := by
  obtain ⟨-, before, after, hentries, hbefore⟩ := List.find?_eq_some_iff_append.1 h
  have hsorted := pairwise_longestFirst lexicon.pairwise_symbolList
  change lexicon.symbols.entries.Pairwise Symbol.Precedes at hsorted
  rw [hentries] at hsorted hmem
  rcases List.mem_append.1 hmem with ho | ho
  · have hfails := hbefore other ho
    simp [hstarts] at hfails
  · rcases List.mem_cons.1 ho with rfl | ho
    · exact Symbol.precedes_refl other
    · have hrest := (List.pairwise_append.1 hsorted).2.1
      exact (List.pairwise_cons.1 hrest).1 other ho

/-- The slice at the start of the text that has so many bytes is an alias of the slot up to the case
of ASCII letters. -/
def Begins (lexicon : Lexicon) (text : List Char) (key : Key) (size : Nat) : Prop :=
  ∃ spelling ∈ aliases (lexicon.value key), byteLength spelling = size ∧
    ∃ head, sliceTo? text size = some head ∧ sameUpToCase head spelling = true

theorem begins_iff {lexicon : Lexicon} {text : List Char} {key : Key} {size : Nat} :
    lexicon.Begins text key size ↔ ∃ symbol ∈ lexicon.symbols.entries,
      symbol.startsIn text = true ∧ symbol.key = key ∧ symbol.byteLength = size := by
  have hstarts (symbol : Symbol) : symbol.startsIn text = true ↔
      ∃ head, sliceTo? text symbol.byteLength = some head ∧
      sameUpToCase head symbol.spelling = true := by
    rw [← SymbolTable.any_sliceTo?, Option.any_eq_true]
  constructor
  · rintro ⟨spelling, halias, rfl, hslice⟩
    let symbol : Symbol := ⟨key, spelling, ne_nil_of_mem_aliases halias⟩
    have hmem : symbol ∈ lexicon.symbolList := mem_symbolList.2 halias
    exact ⟨symbol, mem_longestFirst.2 hmem, (hstarts symbol).2 hslice, rfl, rfl⟩
  · rintro ⟨symbol, hmem, hbegins, rfl, rfl⟩
    have halias := mem_symbolList.1 (mem_longestFirst.1 hmem)
    exact ⟨symbol.spelling, halias, rfl, (hstarts symbol).1 hbegins⟩

/-- No alias that the text begins with is longer, and the slot is the first one with an alias of
that size there. -/
structure BeginsLongest (lexicon : Lexicon) (text : List Char) (key : Key) (size : Nat) : Prop where
  begins : lexicon.Begins text key size
  longest : ∀ other longer, size < longer → ¬ lexicon.Begins text other longer
  earliest : ∀ other, other.index < key.index → ¬ lexicon.Begins text other size

theorem BeginsLongest.unique {lexicon : Lexicon} {text : List Char} {key other : Key}
    {size length : Nat} (h : lexicon.BeginsLongest text key size)
    (ho : lexicon.BeginsLongest text other length) :
    key = other ∧ size = length := by
  have hsize : size = length := by
    apply Nat.le_antisymm
    · exact Nat.le_of_not_lt fun hlt => ho.longest key size hlt h.begins
    · exact Nat.le_of_not_lt fun hlt => h.longest other length hlt ho.begins
  subst hsize
  refine ⟨Key.index_injective ?_, rfl⟩
  apply Nat.le_antisymm
  · exact Nat.le_of_not_lt fun hlt => h.earliest other hlt ho.begins
  · exact Nat.le_of_not_lt fun hlt => ho.earliest key hlt h.begins

theorem beginsLongest_of_match? {lexicon : Lexicon} {text : List Char} {symbol : Symbol}
    (h : lexicon.symbols.match? text = some symbol) :
    lexicon.BeginsLongest text symbol.key symbol.byteLength where
  begins := by
    have hstarts : symbol.startsIn text = true := by simpa using List.find?_some h
    exact begins_iff.2 ⟨symbol, List.mem_of_find?_eq_some h, hstarts, rfl, rfl⟩
  longest := by
    intro key size hlt hbegins
    obtain ⟨other, hmem, hstarts, rfl, rfl⟩ := begins_iff.1 hbegins
    have hprecedes := precedes_of_match? h hmem hstarts
    unfold Symbol.Precedes at hprecedes
    omega
  earliest := by
    intro key hlt hbegins
    obtain ⟨other, hmem, hstarts, rfl, hsize⟩ := begins_iff.1 hbegins
    have hprecedes := precedes_of_match? h hmem hstarts
    unfold Symbol.Precedes at hprecedes
    omega

theorem match?_symbols_eq_none_iff {lexicon : Lexicon} {text : List Char} :
    lexicon.symbols.match? text = none ↔ ∀ key size, ¬ lexicon.Begins text key size := by
  constructor
  · intro h key size hbegins
    obtain ⟨symbol, hmem, hstarts, -, -⟩ := begins_iff.1 hbegins
    exact List.find?_eq_none.1 h symbol hmem hstarts
  · intro h
    refine List.find?_eq_none.2 ?_
    intro symbol hmem hstarts
    exact h symbol.key symbol.byteLength (begins_iff.2 ⟨symbol, hmem, hstarts, rfl, rfl⟩)

theorem beginning?_eq_some_iff {lexicon : Lexicon} {text : List Char} {key : Key} {size : Nat} :
    lexicon.symbols.beginning? text = some (key, size) ↔ lexicon.BeginsLongest text key size := by
  constructor
  · intro h
    obtain ⟨symbol, hmatch, hpair⟩ := Option.map_eq_some_iff.1 h
    cases hpair
    exact beginsLongest_of_match? hmatch
  · intro h
    cases hmatch : lexicon.symbols.match? text with
    | none => exact absurd h.begins (match?_symbols_eq_none_iff.1 hmatch key size)
    | some symbol =>
      obtain ⟨rfl, rfl⟩ := h.unique (beginsLongest_of_match? hmatch)
      simp [SymbolTable.beginning?, hmatch]

theorem beginning?_eq_none_iff {lexicon : Lexicon} {text : List Char} :
    lexicon.symbols.beginning? text = none ↔ ∀ key size, ¬ lexicon.Begins text key size := by
  rw [SymbolTable.beginning?, Option.map_eq_none_iff, match?_symbols_eq_none_iff]

theorem Begins.isValid {lexicon : Lexicon} {text : String} {key : Key} {size : Nat}
    (h : lexicon.Begins text.toList key size) : String.Pos.Raw.IsValid text ⟨size⟩ := by
  obtain ⟨spelling, -, -, head, hslice, -⟩ := h
  obtain ⟨cut, hcut, -⟩ := Option.map_eq_some_iff.1 hslice
  exact isSome_cutAt?_iff.1 (Option.isSome_of_eq_some hcut)

/-- Every slot has the same aliases, in whatever order and however often. -/
def SameAliases (a b : Lexicon) : Prop :=
  ∀ key spelling, spelling ∈ aliases (a.value key) ↔ spelling ∈ aliases (b.value key)

namespace SameAliases

variable {a b : Lexicon} {text : List Char} {key : Key} {size : Nat}

theorem symm (h : a.SameAliases b) : b.SameAliases a := fun key spelling => (h key spelling).symm

theorem begins (h : a.SameAliases b) (hb : a.Begins text key size) : b.Begins text key size := by
  obtain ⟨spelling, halias, hslice⟩ := hb
  exact ⟨spelling, (h key spelling).1 halias, hslice⟩

theorem beginsLongest (h : a.SameAliases b) (hl : a.BeginsLongest text key size) :
    b.BeginsLongest text key size where
  begins := h.begins hl.begins
  longest := fun other longer hlt hb => hl.longest other longer hlt (h.symm.begins hb)
  earliest := fun other hlt hb => hl.earliest other hlt (h.symm.begins hb)

theorem beginning?_eq (h : a.SameAliases b) (text : List Char) :
    a.symbols.beginning? text = b.symbols.beginning? text := by
  apply Option.ext
  rintro ⟨key, size⟩
  rw [beginning?_eq_some_iff, beginning?_eq_some_iff]
  exact ⟨h.beginsLongest, h.symm.beginsLongest⟩

end SameAliases

/-- A table finds the longest alias that a text begins with, and of several slots with it the first
one; it finds nothing only where the text begins with no alias. An alias whose last byte would be
inside a character is none that the text begins with, and the order and the repetition of the
aliases of a slot do not count. -/
theorem beginning?_symbols (lexicon : Lexicon) (text : String) :
    (∀ key size, lexicon.symbols.beginning? text.toList = some (key, size) ↔
        lexicon.BeginsLongest text.toList key size) ∧
      (lexicon.symbols.beginning? text.toList = none ↔
        ∀ key size, ¬ lexicon.Begins text.toList key size) ∧
      (∀ key size, lexicon.Begins text.toList key size → String.Pos.Raw.IsValid text ⟨size⟩) ∧
      ∀ other : Lexicon, lexicon.SameAliases other →
        lexicon.symbols.beginning? text.toList = other.symbols.beginning? text.toList :=
  ⟨fun _ _ => beginning?_eq_some_iff, beginning?_eq_none_iff, fun _ _ h => h.isValid,
    fun _ h => h.beginning?_eq _⟩

/-- `and` and `or` share an alias, and `andé` would end inside the character `∧`. -/
theorem beginning?_symbols_shared :
    let first := standard.set .or "and, andé, AND, an"
    let second := standard.set .or "an,,AND, and ,andé,and"
    first.SameAliases second ∧ first.BeginsLongest "And∧ b".toList .and 3 ∧
      second.symbols.beginning? "And∧ b".toList = some (.and, 3) := by
  intro first second
  have hsame : first.SameAliases second := by
    have hall : ∀ key ∈ Key.all,
        (∀ spelling ∈ aliases (first.value key), spelling ∈ aliases (second.value key)) ∧
        ∀ spelling ∈ aliases (second.value key), spelling ∈ aliases (first.value key) := by
      decide +kernel
    intro key spelling
    have hkey := hall key (Key.mem_all key)
    exact ⟨hkey.1 spelling, hkey.2 spelling⟩
  have hfound : first.symbols.beginning? "And∧ b".toList = some (.and, 3) := by decide +kernel
  obtain ⟨hsome, -, -, hother⟩ := beginning?_symbols first "And∧ b"
  refine ⟨hsame, (hsome .and 3).1 hfound, ?_⟩
  rw [← hother second hsame, hfound]

end Lexicon

end BooleanTables
