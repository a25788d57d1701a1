import BooleanTables.Proofs.Lexicon.Aliases
import BooleanTables.Proofs.Lexing.Matching

/-!
# Aliases that cannot match

An alias with white space in it is never found, as white space ends every chunk: without it a
lexicon reads every text as with it. Every other alias is found at least where it stands alone,
although the token may be of another slot, which comes earlier and has the alias as well.
-/

namespace BooleanTables

open Text

/-! ### Tables that find the same symbols -/

namespace SymbolTable

variable {a b : SymbolTable}

theorem cut_congr (h : ∀ text, a.matchInChunk? text = b.matchInChunk? text) (text : List Char) :
    a.cut text = b.cut text := by
  induction text with
  | nil => rfl
  | cons c text ih => rw [cut, cut, h, ih]

theorem scan_congr (h : ∀ text, a.matchInChunk? text = b.matchInChunk? text) (input : String) :
    a.scan input = b.scan input := by
  have hread (cursor : Cursor) : cursor.read a = cursor.read b := by
    rw [Cursor.read, Cursor.read, cut_congr h]
  unfold scan
  generalize (⟨0, input.toList⟩ : Cursor) = cursor
  fun_induction Cursor.scan a cursor with
  | case1 cursor hdone => rw [Cursor.scan_of_done (hread cursor ▸ hdone)]
  | case2 cursor stray hstray => rw [Cursor.scan_of_stray (hread cursor ▸ hstray)]
  | case3 cursor lexeme next hlexeme rest ih =>
    rw [Cursor.scan_of_lexeme (hread cursor ▸ hlexeme), ← ih]
    rfl

end SymbolTable

theorem Symbol.spelling_of_ofSpelling? {key : Key} {spelling : List Char} {symbol : Symbol}
    (h : ofSpelling? key spelling = some symbol) : symbol.spelling = spelling := by
  unfold ofSpelling? at h
  split at h <;> cases h
  rfl

namespace Lexicon

variable {lexicon : Lexicon} {key : Key}

theorem matchInChunk?_set {value : String}
    (h : aliases value = (aliases (lexicon.value key)).filter (!·.any isBlank)) (text : List Char) :
    (lexicon.set key value).symbols.matchInChunk? text = lexicon.symbols.matchInChunk? text := by
  unfold SymbolTable.matchInChunk? symbols
  rw [find?_longestFirst, find?_longestFirst]
  congr 1
  unfold symbolList
  rw [List.filter_flatMap, List.filter_flatMap]
  apply List.flatMap_congr
  intro other _
  by_cases hkey : other = key
  · subst hkey
    rw [value_set, if_pos rfl, h, List.filterMap_filter, List.filter_filterMap,
      List.filter_filterMap]
    apply List.filterMap_congr
    intro spelling _
    cases hblank : spelling.any isBlank with
    | false => rfl
    | true =>
      refine Eq.symm (Option.filter_eq_none_iff.2 ?_)
      intro symbol hsymbol
      rw [Symbol.spelling_of_ofSpelling? hsymbol, hblank]
      simp
  · rw [value_set, if_neg hkey]

/-! ### Aliases that stand alone -/

/-- The first slot that has the spelling among its aliases, up to the case of ASCII letters. -/
def firstUser? (lexicon : Lexicon) (spelling : List Char) : Option Key :=
  Key.all.find? fun key => (aliases (lexicon.value key)).any (sameUpToCase · spelling)

end Lexicon

theorem Key.first_of_find? {test : Key → Bool} {key : Key} (h : Key.all.find? test = some key) :
    test key = true ∧ ∀ other : Key, other.index < key.index → ¬ test other = true := by
  obtain ⟨hkey, before, after, hall, hbefore⟩ := List.find?_eq_some_iff_append.1 h
  refine ⟨hkey, ?_⟩
  intro other hlt
  have hsorted := Key.pairwise_all
  have hmem := Key.mem_all other
  rw [hall] at hsorted hmem
  rcases List.mem_append.1 hmem with hin | hin
  · simpa using hbefore other hin
  · exfalso
    have hlater := (List.pairwise_append.1 hsorted).2.1
    rcases List.mem_cons.1 hin with rfl | hin
    · exact Nat.lt_irrefl _ hlt
    · exact Nat.not_lt.2 ((List.pairwise_cons.1 hlater).1 other hin) hlt

namespace Lexicon

variable {lexicon : Lexicon} {key : Key} {spelling : List Char}

theorem begins_whole_iff : lexicon.Begins spelling key (byteLength spelling) ↔
    (aliases (lexicon.value key)).any (sameUpToCase · spelling) = true := by
  have hwhole : sliceTo? spelling (byteLength spelling) = some spelling :=
    sliceTo?_eq_some_iff.2 ⟨List.prefix_refl _, rfl⟩
  rw [List.any_eq_true]
  constructor
  · rintro ⟨used, hmem, -, head, hhead, hsame⟩
    obtain rfl := Option.some.inj (hwhole.symm.trans hhead)
    have hfold : foldCase spelling = foldCase used := beq_iff_eq.1 hsame
    exact ⟨used, hmem, beq_iff_eq.2 hfold.symm⟩
  · rintro ⟨used, hmem, hsame⟩
    have hfold : foldCase used = foldCase spelling := beq_iff_eq.1 hsame
    have hbytes := congrArg byteLength hfold
    rw [byteLength_foldCase, byteLength_foldCase] at hbytes
    exact ⟨used, hmem, hbytes, spelling, hwhole, beq_iff_eq.2 hfold.symm⟩

theorem beginsLongest_of_firstUser? (h : lexicon.firstUser? spelling = some key) :
    lexicon.BeginsLongest spelling key (byteLength spelling) := by
  obtain ⟨hused, hearlier⟩ := Key.first_of_find? h
  constructor
  case begins => exact begins_whole_iff.2 hused
  case longest =>
    rintro other longer hlt ⟨used, -, -, head, hhead, -⟩
    obtain ⟨⟨rest, rfl⟩, rfl⟩ := sliceTo?_eq_some_iff.1 hhead
    rw [byteLength_append] at hlt
    omega
  case earliest => exact fun other hlt hbegins => hearlier other hlt (begins_whole_iff.1 hbegins)

/-- Alone in a text an alias without white space is one lexeme, of the first slot that has it. -/
theorem scan_spelling (halias : spelling ∈ aliases (lexicon.value key))
    (hblank : spelling.any isBlank = false) :
    ∃ first, lexicon.firstUser? spelling = some first ∧
      lexicon.symbols.scan (String.ofList spelling) =
        ⟨[⟨0, .symbol first, byteLength spelling⟩], none⟩ := by
  have hused : (aliases (lexicon.value key)).any (sameUpToCase · spelling) = true :=
    List.any_eq_true.2 ⟨spelling, halias, beq_self_eq_true _⟩
  have hsome : (lexicon.firstUser? spelling).isSome = true := by
    unfold firstUser?
    rw [List.find?_isSome]
    exact ⟨key, Key.mem_all key, hused⟩
  obtain ⟨first, hfirst⟩ := Option.isSome_iff_exists.1 hsome
  refine ⟨first, hfirst, ?_⟩
  obtain ⟨symbol, hmatch, hpair⟩ :=
    Option.map_eq_some_iff.1 (beginning?_eq_some_iff.2 (beginsLongest_of_firstUser? hfirst))
  obtain ⟨rfl, hbytes⟩ := Prod.mk.inj hpair
  rw [match?_symbols] at hmatch
  have hnothing : spelling.drop symbol.spelling.length = [] := by
    have htaken : byteLength (spelling.take symbol.spelling.length) = symbol.byteLength :=
      byteLength_take_of_starts (startsIn_of_longest? hmatch)
    have hsplit := congrArg byteLength (List.take_append_drop symbol.spelling.length spelling)
    rw [byteLength_append, htaken, hbytes] at hsplit
    by_contra hne
    have hpos := byteLength_pos hne
    omega
  have hc : IsChunk spelling [] := ⟨by simpa using hblank, by simp⟩
  have hread :=
    @Cursor.read_of_longest? lexicon 0 spelling [] symbol hc (ne_nil_of_mem_aliases halias) hmatch
  rw [List.append_nil, hnothing, List.append_nil, hbytes, Nat.zero_add] at hread
  unfold SymbolTable.scan
  rw [String.toList_ofList, Cursor.scan_of_lexeme hread, Cursor.scan_nil]
  rfl

/-- A text is read without the aliases of a slot that are reported as unmatchable as it is with
them, and there is a value without them. Every other alias stands, alone in a text, for one symbol,
which is of the first slot that has it up to case. -/
theorem unmatchable_exact (lexicon : Lexicon) (key : Key) :
    (∀ value, aliases value = (aliases (lexicon.value key)).filter
      (· ∉ unmatchableAliases (lexicon.value key)) →
      ∀ input, (lexicon.set key value).symbols.scan input = lexicon.symbols.scan input) ∧
    aliases (withoutUnmatchable (lexicon.value key)) =
      (aliases (lexicon.value key)).filter (· ∉ unmatchableAliases (lexicon.value key)) ∧
    ∀ spelling ∈ aliases (lexicon.value key), spelling ∉ unmatchableAliases (lexicon.value key) →
      ∃ first, lexicon.firstUser? spelling = some first ∧
        (lexicon.symbols.scan (String.ofList spelling)).items =
          [.ok ⟨0, .symbol first, (String.ofList spelling).utf8ByteSize⟩] := by
  rw [filter_not_mem_unmatchableAliases]
  refine ⟨?_, aliases_keepAliases _ _, ?_⟩
  · intro value h input
    exact SymbolTable.scan_congr (matchInChunk?_set h) input
  · intro spelling halias hreported
    have hblank := (not_mem_unmatchableAliases_iff halias).1 hreported
    obtain ⟨first, hfirst, hscan⟩ := scan_spelling halias hblank
    refine ⟨first, hfirst, ?_⟩
    rw [hscan, utf8ByteSize_ofList]
    rfl

theorem unmatchable_exact_shared :
    let lexicon := standard.set .or "or else, AND ,∨"
    withoutUnmatchable (lexicon.value .or) = " AND ,∨" ∧
      (lexicon.set .or " AND ,∨").symbols.scan "a or else ∨b" =
        lexicon.symbols.scan "a or else ∨b" ∧
      (lexicon.symbols.scan "AND").items = [.ok ⟨0, .symbol .and, 3⟩] := by
  intro lexicon
  have hvalue : withoutUnmatchable (lexicon.value .or) = " AND ,∨" := by decide +kernel
  have halias : "AND".toList ∈ aliases (lexicon.value .or) := by decide +kernel
  have hreported : "AND".toList ∉ unmatchableAliases (lexicon.value .or) := by decide +kernel
  have hfirst : lexicon.firstUser? "AND".toList = some .and := by decide +kernel
  obtain ⟨hremoved, haliases, halone⟩ := unmatchable_exact lexicon .or
  rw [hvalue] at haliases
  obtain ⟨first, hfound, hitems⟩ := halone "AND".toList halias hreported
  obtain rfl := Option.some.inj (hfirst.symm.trans hfound)
  exact ⟨hvalue, hremoved " AND ,∨" haliases "a or else ∨b", hitems⟩

end Lexicon

end BooleanTables
