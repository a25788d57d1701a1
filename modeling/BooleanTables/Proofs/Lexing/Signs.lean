import BooleanTables.Formula.Parser
import BooleanTables.Proofs.Text.Folding
import BooleanTables.Proofs.Text.Names

/-!
# The lexicon of signs

The text of a formula shows every literal, operator and parenthesis by one character, its sign. In
the lexicon that spells every slot by its sign alone a sign is read wherever it stands, and a name
without signs is read whole if white space or a sign follows it.
-/

namespace BooleanTables

open Text

namespace Key

/-- The character that stands for a slot in the text of a formula. -/
def sign : Key → Char
  | .litTrue => '1'
  | .litFalse => '0'
  | .not => '¬'
  | .and => '∧'
  | .xor => '⊕'
  | .or => '∨'
  | .implication => '⇒'
  | .equality => '⇔'
  | .leftParen => '('
  | .rightParen => ')'

theorem sign_injective {a b : Key} (h : a.sign = b.sign) : a = b := by
  cases a <;> cases b <;> first | rfl | exact absurd h (by decide)

@[simp] theorem isBlank_sign (key : Key) : isBlank key.sign = false := by
  cases key <;> decide

theorem eq_digit_of_isNameChar_sign {key : Key} (h : isNameChar key.sign = true) :
    key.sign = '0' ∨ key.sign = '1' := by
  cases key <;> first | exact .inl rfl | exact .inr rfl | exact absurd h (by decide +kernel)

theorem eq_sign_of_toLower_eq {key : Key} {c : Char} (h : key.sign.toLower = c.toLower) :
    c = key.sign := by
  have hsign : key.sign.toLower = key.sign := by cases key <;> decide
  rcases toLower_cases c with hc | ⟨-, hc⟩
  · rw [← hc, ← h, hsign]
  · rw [← h] at hc
    exfalso
    revert hc
    cases key <;> decide +kernel

end Key

def Symbol.ofSign (key : Key) : Symbol := ⟨key, [key.sign], by simp⟩

theorem Symbol.startsIn_ofSign {key : Key} {c : Char} {rest : List Char} :
    (Symbol.ofSign key).startsIn (c :: rest) = true ↔ c = key.sign := by
  rw [startsIn, ofSign, startsUpToCase, startsUpToCase, Bool.and_true, beq_iff_eq]
  exact ⟨Key.eq_sign_of_toLower_eq, fun h => by rw [h]⟩

/-- The lexicon that spells every slot by its sign alone. -/
def Lexicon.signs : Lexicon := ⟨fun key => key.sign.toString⟩

namespace SymbolTable

theorem entries_signs : Lexicon.signs.symbols.entries =
    [.and, .xor, .or, .implication, .equality, .not, .litTrue, .litFalse, .leftParen,
      .rightParen].map Symbol.ofSign := by
  decide +kernel

theorem mem_entries_signs {symbol : Symbol} :
    symbol ∈ Lexicon.signs.symbols.entries ↔ ∃ key, symbol = .ofSign key := by
  rw [entries_signs]
  constructor
  · intro h
    obtain ⟨key, -, rfl⟩ := List.mem_map.1 h
    exact ⟨key, rfl⟩
  · rintro ⟨key, rfl⟩
    exact List.mem_map_of_mem (by cases key <;> decide)

theorem matchInChunk?_sign (key : Key) (rest : List Char) :
    Lexicon.signs.symbols.matchInChunk? (key.sign :: rest) = some (.ofSign key) := by
  have hstarts : (Symbol.ofSign key).startsIn (key.sign :: rest) = true :=
    Symbol.startsIn_ofSign.2 rfl
  have hfits : ((Symbol.ofSign key).startsIn (key.sign :: rest) &&
      !(Symbol.ofSign key).spelling.any isBlank) = true := by
    rw [hstarts]
    simp [Symbol.ofSign]
  cases hfound : Lexicon.signs.symbols.matchInChunk? (key.sign :: rest) with
  | none =>
    have hnone := List.find?_eq_none.1 hfound _ (mem_entries_signs.2 ⟨key, rfl⟩)
    exact absurd hfits hnone
  | some symbol =>
    obtain ⟨other, rfl⟩ := mem_entries_signs.1 (List.mem_of_find?_eq_some hfound)
    have hother := List.find?_some hfound
    rw [Bool.and_eq_true, Symbol.startsIn_ofSign] at hother
    rw [Key.sign_injective hother.1]

theorem matchInChunk?_signs_eq_none {c : Char} (h : ∀ key : Key, c ≠ key.sign) (rest : List Char) :
    Lexicon.signs.symbols.matchInChunk? (c :: rest) = none := by
  refine List.find?_eq_none.2 fun symbol hmem => ?_
  obtain ⟨key, rfl⟩ := mem_entries_signs.1 hmem
  rw [Bool.and_eq_true, Symbol.startsIn_ofSign]
  exact fun hstarts => h key hstarts.1

end SymbolTable

/-- Characters of names, at least one, and none of the digits that are signs. -/
structure IsPlainName (name : List Char) : Prop where
  ne_nil : name ≠ []
  isNameChar : ∀ c ∈ name, isNameChar c = true
  ne_zero : '0' ∉ name
  ne_one : '1' ∉ name

instance (name : List Char) : Decidable (IsPlainName name) :=
  decidable_of_iff
    ((!name.isEmpty && name.all BooleanTables.isNameChar && !name.contains '0' &&
      !name.contains '1') = true) <| by
    refine ⟨fun h => ?_, fun h => ?_⟩
    · simp only [Bool.and_eq_true, Bool.not_eq_true', List.isEmpty_eq_false_iff, List.all_eq_true,
        List.contains_eq_mem, decide_eq_false_iff_not] at h
      obtain ⟨⟨⟨hnil, hchars⟩, hzero⟩, hone⟩ := h
      exact ⟨hnil, hchars, hzero, hone⟩
    · simpa [h.ne_nil, h.ne_zero, h.ne_one] using h.isNameChar

theorem IsPlainName.ne_sign {name : List Char} (h : IsPlainName name) {c : Char} (hc : c ∈ name)
    (key : Key) :
    c ≠ key.sign := by
  rintro rfl
  rcases Key.eq_digit_of_isNameChar_sign (h.isNameChar _ hc) with hd | hd
  · exact h.ne_zero (hd ▸ hc)
  · exact h.ne_one (hd ▸ hc)

/-- What may follow a name: nothing, white space or a sign. -/
def EndsName (rest : List Char) : Prop :=
  ∀ c ∈ rest.head?, isBlank c = true ∨ ∃ key : Key, c = key.sign

theorem endsName_nil : EndsName [] := by
  intro c hc
  cases hc

theorem endsName_sign (key : Key) (rest : List Char) : EndsName (key.sign :: rest) := by
  intro c hc
  obtain rfl : key.sign = c := by simpa using hc
  exact .inr ⟨key, rfl⟩

theorem endsName_blank (rest : List Char) : EndsName (' ' :: rest) := by
  intro c hc
  obtain rfl : ' ' = c := by simpa using hc
  exact .inl (by decide)

theorem SymbolTable.fst_cut_signs {word rest : List Char} (hb : ∀ c ∈ word, isBlank c = false)
    (hs : ∀ c ∈ word, ∀ key : Key, c ≠ key.sign) (hr : EndsName rest) :
    (Lexicon.signs.symbols.cut (word ++ rest)).1 = word := by
  induction word with
  | nil =>
    cases rest with
    | nil => rfl
    | cons c rest =>
      rcases hr c rfl with hc | ⟨key, rfl⟩
      · simp [cut, hc]
      · simp [cut, matchInChunk?_sign]
  | cons c word ih =>
    have hm := matchInChunk?_signs_eq_none (hs c List.mem_cons_self) (word ++ rest)
    have htail := ih (fun d hd => hb d (List.mem_cons_of_mem _ hd)) fun d hd =>
      hs d (List.mem_cons_of_mem _ hd)
    rw [List.cons_append, cut, if_neg (by simp [hb c List.mem_cons_self]), hm]
    simp [htail]

namespace Cursor

theorem read_sign (key : Key) (offset : Nat) (rest : List Char) :
    (⟨offset, key.sign :: rest⟩ : Cursor).read Lexicon.signs.symbols =
      .lexeme ⟨offset, .symbol key, offset + key.sign.utf8Size⟩
        ⟨offset + key.sign.utf8Size, rest⟩ := by
  have hskip : (⟨offset, key.sign :: rest⟩ : Cursor).skipBlanks = ⟨offset, key.sign :: rest⟩ := by
    simp [skipBlanks]
  have hcut : Lexicon.signs.symbols.cut (key.sign :: rest) = ([], some (.ofSign key)) := by
    rw [SymbolTable.cut, if_neg (by simp), SymbolTable.matchInChunk?_sign]
  rw [read]
  simp only [hskip, hcut]
  rw [if_neg (List.cons_ne_nil _ _)]
  simp [take, advance, Symbol.ofSign]

theorem read_plainName {name : List Char} (h : IsPlainName name) (offset : Nat) {rest : List Char}
    (hr : EndsName rest) :
    (⟨offset, name ++ rest⟩ : Cursor).read Lexicon.signs.symbols =
      .lexeme ⟨offset, .var (String.ofList name), offset + byteLength name⟩
        ⟨offset + byteLength name, rest⟩ := by
  have hblank : ∀ c ∈ name, isBlank c = false :=
    fun c hc => isBlank_of_isNameChar (h.isNameChar c hc)
  have hskip : (⟨offset, name ++ rest⟩ : Cursor).skipBlanks = ⟨offset, name ++ rest⟩ := by
    cases name with
    | nil => exact absurd rfl h.ne_nil
    | cons c name => simp [skipBlanks, hblank c List.mem_cons_self]
  have hcut := SymbolTable.fst_cut_signs hblank (fun _ hc => h.ne_sign hc) hr
  rw [read]
  simp only [hskip]
  rw [if_neg (by simp [h.ne_nil])]
  split
  · next symbol hempty =>
    rw [hempty] at hcut
    exact absurd hcut.symm h.ne_nil
  · next text symbol _ htext =>
    rw [htext] at hcut
    obtain rfl : text = name := hcut
    rw [if_pos (List.all_eq_true.2 h.isNameChar)]
    simp [take, advance]

end Cursor

end BooleanTables
