import BooleanTables.Event
import BooleanTables.Proofs.Lexing.Matching
import BooleanTables.Proofs.Text.Letters
import Mathlib.Data.List.ProdSigma

/-!
# Collisions of aliases

A change of a value warns of every alias that another slot uses as well, up to the case of ASCII
letters. The standard values share no alias, so they share none after changes either, as long as no
change has warned. The longest aliases that a text begins with are then all of one slot, and it does
not matter in which order the slots are tried.
-/

namespace BooleanTables

open Text

namespace Lexicon

/-- Another slot uses the spelling already, up to the case of ASCII letters. -/
def Collides (lexicon : Lexicon) (key : Key) (spelling : List Char) (other : Key) : Prop :=
  other ≠ key ∧ ∃ used ∈ aliases (lexicon.value other), EqualUpToCase used spelling

instance (lexicon : Lexicon) (key : Key) (spelling : List Char) (other : Key) :
    Decidable (lexicon.Collides key spelling other) :=
  inferInstanceAs (Decidable (_ ∧ _))

/-- No two slots share an alias, up to the case of ASCII letters. -/
def Unambiguous (lexicon : Lexicon) : Prop :=
  ∀ key other, key ≠ other → ∀ a ∈ aliases (lexicon.value key), ∀ b ∈ aliases (lexicon.value other),
    ¬ EqualUpToCase a b

/-- The lexicon after some changes, and what they report, the first one first. -/
def applyAll (lexicon : Lexicon) : List Change → Lexicon × List Event
  | [] => (lexicon, [])
  | change :: changes =>
    let (next, events) := lexicon.apply change
    let (last, more) := next.applyAll changes
    (last, events ++ more)

/-! ### What a change reports -/

variable {lexicon : Lexicon} {key other : Key} {value : String} {spelling : List Char}

theorem usersOf_eq_filter (lexicon : Lexicon) (key : Key) (spelling : List Char) :
    lexicon.usersOf key spelling = Key.all.filter fun other =>
      lexicon.Collides key spelling other := by
  apply List.filter_congr
  intro other _
  have hany : (aliases (lexicon.value other)).any (fun used => sameUpToCase used spelling) = true ↔
      ∃ used ∈ aliases (lexicon.value other), EqualUpToCase used spelling := by
    simp only [List.any_eq_true, sameUpToCase_iff]
  rw [Bool.eq_iff_iff, Bool.and_eq_true, decide_eq_true_iff, decide_eq_true_iff, hany]
  rfl

theorem flatMap_usersOf (lexicon : Lexicon) (key : Key) (spellings : List (List Char)) :
    (spellings.flatMap fun spelling =>
      (lexicon.usersOf key spelling).map (.alsoUsed spelling key)) =
      ((spellings ×ˢ Key.all).filter fun pair => lexicon.Collides key pair.1 pair.2).map
        fun pair => Event.alsoUsed pair.1 key pair.2 := by
  induction spellings with
  | nil => rfl
  | cons spelling spellings ih =>
    rw [List.flatMap_cons, List.product_cons, List.filter_append, List.map_append, ih,
      List.filter_map, List.map_map, usersOf_eq_filter]
    rfl

theorem changeEvents_eq (lexicon : Lexicon) (key : Key) (value : String) :
    lexicon.changeEvents key value =
      .changed key value :: ((aliases value).filter (·.any isBlank)).map (.neverMatches · key) ++
        ((aliases value ×ˢ Key.all).filter fun pair => lexicon.Collides key pair.1 pair.2).map
          fun pair => .alsoUsed pair.1 key pair.2 := by
  unfold changeEvents
  rw [flatMap_usersOf]
  rfl

theorem level_changeEvents (lexicon : Lexicon) (key : Key) (value : String) :
    (lexicon.changeEvents key value).map Event.level =
      .info :: (lexicon.changeEvents key value).tail.map fun _ => .warn := by
  rw [changeEvents_eq]
  simp [Event.level, Function.comp_def]

theorem alsoUsed_mem_changeEvents (hspelling : spelling ∈ aliases value)
    (h : lexicon.Collides key spelling other) :
    .alsoUsed spelling key other ∈ lexicon.changeEvents key value := by
  have hpair : (spelling, other) ∈ aliases value ×ˢ Key.all :=
    List.pair_mem_product.2 ⟨hspelling, Key.mem_all other⟩
  rw [changeEvents_eq]
  apply List.mem_append_right
  exact List.mem_map.2 ⟨(spelling, other), List.mem_filter.2 ⟨hpair, decide_eq_true h⟩, rfl⟩

/-! ### Lexicons without collisions -/

def ReportsNoCollision (events : List Event) : Prop :=
  ∀ spelling key other, .alsoUsed spelling key other ∉ events

theorem ReportsNoCollision.of_append {events more : List Event}
    (h : ReportsNoCollision (events ++ more)) :
    ReportsNoCollision events ∧ ReportsNoCollision more := by
  constructor
  · intro spelling key other hmem
    exact h spelling key other (List.mem_append_left _ hmem)
  · intro spelling key other hmem
    exact h spelling key other (List.mem_append_right _ hmem)

theorem unambiguous_standard : standard.Unambiguous := by
  have hall : ∀ key ∈ Key.all, ∀ other ∈ Key.all, key ≠ other → ∀ a ∈ aliases key.standard,
      ∀ b ∈ aliases other.standard, ¬ EqualUpToCase a b := by
    decide +kernel
  intro key other
  exact hall key (Key.mem_all key) other (Key.mem_all other)

theorem Unambiguous.set (h : lexicon.Unambiguous)
    (hnew : ∀ other, other ≠ key → ∀ a ∈ aliases value, ∀ b ∈ aliases (lexicon.value other),
      ¬ EqualUpToCase a b) :
    (lexicon.set key value).Unambiguous := by
  intro first second hne a ha b hb
  rw [value_set] at ha hb
  by_cases hfirst : first = key
  · subst hfirst
    rw [if_pos rfl] at ha
    rw [if_neg (Ne.symm hne)] at hb
    exact hnew second (Ne.symm hne) a ha b hb
  · rw [if_neg hfirst] at ha
    by_cases hsecond : second = key
    · subst hsecond
      rw [if_pos rfl] at hb
      intro hsame
      exact hnew first hfirst b hb a ha hsame.symm
    · rw [if_neg hsecond] at hb
      exact h first second hne a ha b hb

theorem Unambiguous.apply (h : lexicon.Unambiguous) {change : Change}
    (hquiet : ReportsNoCollision (lexicon.apply change).2) :
    (lexicon.apply change).1.Unambiguous := by
  cases change with
  | set key value =>
    apply h.set
    intro other hother a ha b hb hsame
    exact hquiet a key other (alsoUsed_mem_changeEvents ha ⟨hother, b, hb, hsame.symm⟩)
  | reset =>
    have hreset : (lexicon.apply .reset).1 = standard := reset_eq_standard lexicon
    rw [hreset]
    exact unambiguous_standard

theorem Unambiguous.applyAll (h : lexicon.Unambiguous) {changes : List Change}
    (hquiet : ReportsNoCollision (lexicon.applyAll changes).2) :
    (lexicon.applyAll changes).1.Unambiguous := by
  induction changes generalizing lexicon with
  | nil => exact h
  | cons change changes ih =>
    obtain ⟨hfirst, hrest⟩ := hquiet.of_append
    exact ih (h.apply hfirst) hrest

end Lexicon

/-! ### The longest symbols -/

/-- The symbol is among the longest of those that the text begins with. -/
structure LongestOf (symbols : List Symbol) (text : List Char) (symbol : Symbol) : Prop where
  mem : symbol ∈ symbols
  starts : symbol.startsIn text = true
  longest : ∀ other ∈ symbols, other.startsIn text = true → other.byteLength ≤ symbol.byteLength

theorem LongestOf.byteLength_eq {symbols : List Symbol} {text : List Char} {a b : Symbol}
    (ha : LongestOf symbols text a) (hb : LongestOf symbols text b) : a.byteLength = b.byteLength :=
  Nat.le_antisymm (hb.longest a ha.mem ha.starts) (ha.longest b hb.mem hb.starts)

theorem longestOf_of_match? {symbols : List Symbol} {text : List Char} {symbol : Symbol}
    (h : (⟨longestFirst symbols⟩ : SymbolTable).match? text = some symbol) :
    LongestOf symbols text symbol := by
  have hmax : symbol ∈ (symbols.filter (·.startsIn text)).argmax Symbol.byteLength :=
    (find?_longestFirst symbols (·.startsIn text)).symm.trans h
  obtain ⟨hmem, hstarts⟩ := List.mem_filter.1 (List.argmax_mem hmax)
  refine ⟨hmem, hstarts, ?_⟩
  intro other ho hbegins
  exact List.le_of_mem_argmax (List.mem_filter.2 ⟨ho, hbegins⟩) hmax

theorem match?_longestFirst_eq_none_iff {symbols : List Symbol} {text : List Char} :
    (⟨longestFirst symbols⟩ : SymbolTable).match? text = none ↔
    ∀ symbol ∈ symbols, ¬ symbol.startsIn text = true := by
  unfold SymbolTable.match?
  simp only [List.find?_eq_none, mem_longestFirst]

theorem equalUpToCase_of_startsIn {text : List Char} {a b : Symbol} (ha : a.startsIn text = true)
    (hb : b.startsIn text = true) (hsize : a.byteLength = b.byteLength) :
    EqualUpToCase a.spelling b.spelling := by
  rw [← SymbolTable.any_sliceTo?, Option.any_eq_true] at ha hb
  obtain ⟨head, hslice, hsame⟩ := ha
  obtain ⟨front, hfront, hother⟩ := hb
  have hfound : some head = some front := by rw [← hslice, hsize, hfront]
  cases hfound
  exact (sameUpToCase_iff.1 hsame).symm.trans (sameUpToCase_iff.1 hother)

namespace Lexicon

theorem Unambiguous.key_eq {lexicon : Lexicon} (h : lexicon.Unambiguous) {text : List Char}
    {a b : Symbol} (ha : LongestOf lexicon.symbolList text a)
    (hb : LongestOf lexicon.symbolList text b) : a.key = b.key := by
  have hsame := equalUpToCase_of_startsIn ha.starts hb.starts (ha.byteLength_eq hb)
  by_contra hne
  exact h a.key b.key hne a.spelling (mem_symbolList.1 ha.mem) b.spelling
    (mem_symbolList.1 hb.mem) hsame

/-- The order in which the symbols of one size are tried does not matter. -/
theorem Unambiguous.beginning?_eq {lexicon : Lexicon} (h : lexicon.Unambiguous)
    {symbols : List Symbol} (hperm : symbols.Perm lexicon.symbolList) (text : List Char) :
    (⟨longestFirst symbols⟩ : SymbolTable).beginning? text = lexicon.symbols.beginning? text := by
  have hlongest {symbol : Symbol} (hs : LongestOf symbols text symbol) :
      LongestOf lexicon.symbolList text symbol :=
    ⟨hperm.mem_iff.1 hs.mem, hs.starts, fun other ho => hs.longest other (hperm.mem_iff.2 ho)⟩
  unfold SymbolTable.beginning?
  cases hfound : lexicon.symbols.match? text with
  | none =>
    have hnone : (⟨longestFirst symbols⟩ : SymbolTable).match? text = none := by
      apply match?_longestFirst_eq_none_iff.2
      intro symbol hmem
      exact match?_longestFirst_eq_none_iff.1 hfound symbol (hperm.mem_iff.1 hmem)
    rw [hnone]
  | some found =>
    have hbest : LongestOf lexicon.symbolList text found := longestOf_of_match? hfound
    cases hother : (⟨longestFirst symbols⟩ : SymbolTable).match? text with
    | none =>
      have hnone := match?_longestFirst_eq_none_iff.1 hother
      exact absurd hbest.starts (hnone found (hperm.mem_iff.2 hbest.mem))
    | some symbol =>
      have hs := hlongest (longestOf_of_match? hother)
      rw [Option.map_some, Option.map_some, h.key_eq hs hbest, hs.byteLength_eq hbest]

/-- A change reports itself, then the aliases that cannot match, then each alias with each slot that
uses it already, and replaces one value. As long as no collision is reported after the start, no two
slots share an alias, the longest aliases that a text begins with are of one slot, and the order of
the slots does not matter. -/
theorem collisions_reported :
    (∀ (lexicon : Lexicon) (key : Key) (value : String),
      (lexicon.apply (.set key value)).2 =
          .changed key value ::
            ((aliases value).filter (·.any isBlank)).map (.neverMatches · key) ++
            ((aliases value ×ˢ Key.all).filter fun pair => lexicon.Collides key pair.1 pair.2).map
              (fun pair => .alsoUsed pair.1 key pair.2) ∧
        (lexicon.apply (.set key value)).2.map Event.level =
          .info :: (lexicon.apply (.set key value)).2.tail.map (fun _ => .warn) ∧
        (lexicon.apply (.set key value)).1.value = Function.update lexicon.value key value) ∧
      ∀ changes, ReportsNoCollision (standard.applyAll changes).2 →
        (standard.applyAll changes).1.Unambiguous ∧
        ∀ text,
          (∀ a b, LongestOf (standard.applyAll changes).1.symbolList text a →
            LongestOf (standard.applyAll changes).1.symbolList text b → a.key = b.key) ∧
          ∀ symbols : List Symbol, symbols.Perm (standard.applyAll changes).1.symbolList →
            (⟨longestFirst symbols⟩ : SymbolTable).beginning? text =
              (standard.applyAll changes).1.symbols.beginning? text := by
  constructor
  · intro lexicon key value
    refine ⟨lexicon.changeEvents_eq key value, lexicon.level_changeEvents key value, ?_⟩
    funext other
    exact (Function.update_apply _ _ _ _).symm
  · intro changes hquiet
    have hclear : (standard.applyAll changes).1.Unambiguous := unambiguous_standard.applyAll hquiet
    refine ⟨hclear, fun text => ⟨?_, ?_⟩⟩
    · intro a b ha hb
      exact hclear.key_eq ha hb
    · intro symbols hperm
      exact hclear.beginning?_eq hperm text

theorem collisions_reported_quiet :
    let changes : List Change :=
      [.set .xor "x, Neg", .reset, .set .and "and also, &", .set .or "∧, |",
        .set .not "NOT, neg, not"]
    let lexicon := (standard.applyAll changes).1
    let first : Symbol := ⟨.not, "NOT".toList, by decide⟩
    let second : Symbol := ⟨.not, "not".toList, by decide⟩
    (lexicon.apply (.set .xor "Neg,neg a,|")).2 =
        [.changed .xor "Neg,neg a,|", .neverMatches "neg a".toList .xor,
          .alsoUsed "Neg".toList .xor .not, .alsoUsed "|".toList .xor .or] ∧
      ReportsNoCollision (standard.applyAll changes).2 ∧ lexicon.Unambiguous ∧
      LongestOf lexicon.symbolList "nOt x".toList first ∧
      LongestOf lexicon.symbolList "nOt x".toList second ∧
      first.key = second.key ∧ lexicon.symbolList.reverse.Perm lexicon.symbolList ∧
      (⟨longestFirst lexicon.symbolList.reverse⟩ : SymbolTable).beginning? "nOt x".toList =
        lexicon.symbols.beginning? "nOt x".toList := by
  intro changes lexicon first second
  have hevents : (standard.applyAll changes).2 =
      [.changed .xor "x, Neg", .changed .and "and also, &", .neverMatches "and also".toList .and,
        .changed .or "∧, |", .changed .not "NOT, neg, not"] := by
    decide +kernel
  have hquiet : ReportsNoCollision (standard.applyAll changes).2 := by
    intro spelling key other hmem
    rw [hevents] at hmem
    simp at hmem
  have hfirst : LongestOf lexicon.symbolList "nOt x".toList first :=
    ⟨by decide +kernel, by decide +kernel, by decide +kernel⟩
  have hsecond : LongestOf lexicon.symbolList "nOt x".toList second :=
    ⟨by decide +kernel, by decide +kernel, by decide +kernel⟩
  have hreverse := List.reverse_perm lexicon.symbolList
  obtain ⟨hreports, hclear⟩ := collisions_reported
  obtain ⟨hunambiguous, hlongest⟩ := hclear changes hquiet
  obtain ⟨hkeys, horder⟩ := hlongest "nOt x".toList
  refine ⟨?_, hquiet, hunambiguous, hfirst, hsecond, hkeys first second hfirst hsecond, hreverse,
    horder _ hreverse⟩
  rw [(hreports lexicon .xor "Neg,neg a,|").1]
  decide +kernel

end Lexicon

end BooleanTables
