import BooleanTables.Proofs.Lexing.Cover
import BooleanTables.Proofs.Lexing.Offsets
import BooleanTables.Session.Evaluation
import Mathlib.Logic.Relation

/-!
# White space between texts

White space ends every symbol and every name, and a cursor behind it keeps nothing of what it has
read before but its offset. So a text with white space between it and another one is read as if it
stood alone, and what is behind the white space is read as if it stood alone and further on. How
much white space there is, and of which characters, changes the places of what is read, and nothing
else.
-/

namespace BooleanTables

open Text

/-! ### Reading further on in a text -/

def Lexeme.shift (distance : Nat) (lexeme : Lexeme) : Lexeme :=
  ⟨lexeme.start + distance, lexeme.token, lexeme.stop + distance⟩

def Stray.shift (distance : Nat) (stray : Stray) : Stray := ⟨stray.start + distance, stray.text⟩

namespace Scan

def shift (distance : Nat) (scan : Scan) : Scan :=
  ⟨scan.lexemes.map (.shift distance), scan.stray.map (.shift distance)⟩

def shiftItem (distance : Nat) : Except Stray Lexeme → Except Stray Lexeme
  | .ok lexeme => .ok (lexeme.shift distance)
  | .error stray => .error (stray.shift distance)

theorem items_shift (distance : Nat) (scan : Scan) :
    (scan.shift distance).items = scan.items.map (shiftItem distance) := by
  obtain ⟨lexemes, stray⟩ := scan
  cases stray <;> simp [items, shift, shiftItem, Function.comp_def]

theorem items_andThen_of_none {first : Scan} (h : first.stray = none) (second : Scan) :
    (first.andThen second).items = first.items ++ second.items := by
  obtain ⟨lexemes, stray⟩ := first
  cases h
  simp [items, andThen]

theorem andThen_of_some {first : Scan} (h : first.stray ≠ none) (second : Scan) :
    first.andThen second = first := by
  obtain ⟨lexemes, stray⟩ := first
  cases stray with
  | none => exact absurd rfl h
  | some stray => rfl

end Scan

namespace Reading

def shift (distance : Nat) : Reading → Reading
  | .done => .done
  | .stray found => .stray (found.shift distance)
  | .lexeme found next => .lexeme (found.shift distance) ⟨next.offset + distance, next.rest⟩

def append (more : List Char) : Reading → Reading
  | .done => .done
  | .stray found => .stray found
  | .lexeme found next => .lexeme found ⟨next.offset, next.rest ++ more⟩

end Reading

namespace Cursor

variable (table : SymbolTable)

theorem take_shift (offset distance : Nat) (rest : List Char) (token : Token) (count : Nat) :
    (⟨offset + distance, rest⟩ : Cursor).take token count =
      ((⟨offset, rest⟩ : Cursor).take token count).shift distance := by
  simp [take, advance, Reading.shift, Lexeme.shift, Nat.add_right_comm]

theorem read_shift (distance : Nat) (cursor : Cursor) :
    (⟨cursor.offset + distance, cursor.rest⟩ : Cursor).read table =
      (cursor.read table).shift distance := by
  have hskip : (⟨cursor.offset + distance, cursor.rest⟩ : Cursor).skipBlanks =
      ⟨cursor.skipBlanks.offset + distance, cursor.skipBlanks.rest⟩ := by
    simp [skipBlanks, Nat.add_right_comm]
  rw [read, read]
  simp only [hskip]
  split
  · rfl
  · split
    · exact take_shift ..
    · split
      · exact take_shift ..
      · rfl

theorem scan_shift (distance : Nat) (cursor : Cursor) :
    scan table ⟨cursor.offset + distance, cursor.rest⟩ = (scan table cursor).shift distance := by
  fun_induction scan table cursor with
  | case1 cursor hread =>
    apply scan_of_done
    rw [read_shift, hread]
    rfl
  | case2 cursor stray hread =>
    apply scan_of_stray
    rw [read_shift, hread]
    rfl
  | case3 cursor lexeme next hread rest ih =>
    have hshifted := read_shift table distance cursor
    rw [hread] at hshifted
    rw [scan_of_lexeme hshifted, ih]
    rfl

end Cursor

/-! ### Reading up to white space -/

theorem startsUpToCase_append_blank {blank : Char} (hb : isBlank blank = true)
    (spelling text more : List Char) :
    (startsUpToCase spelling (text ++ blank :: more) && !spelling.any isBlank) =
      (startsUpToCase spelling text && !spelling.any isBlank) := by
  induction spelling generalizing text with
  | nil => simp [startsUpToCase]
  | cons a spelling ih =>
    cases text with
    | nil =>
      by_cases hab : a.toLower = blank.toLower
      · simp [isBlank_eq_of_toLower_eq hab, hb]
      · simp [startsUpToCase, hab]
    | cons b text =>
      have hrest := ih text
      cases ha : isBlank a with
      | true => simp [ha]
      | false => simp [startsUpToCase, ha, Bool.and_assoc, hrest]

namespace SymbolTable

variable (table : SymbolTable) {blank : Char}

theorem matchInChunk?_append_blank (hb : isBlank blank = true) (text more : List Char) :
    table.matchInChunk? (text ++ blank :: more) = table.matchInChunk? text := by
  unfold matchInChunk?
  congr 1
  funext symbol
  exact startsUpToCase_append_blank hb symbol.spelling text more

theorem cut_append_blank (hb : isBlank blank = true) (text more : List Char) :
    table.cut (text ++ blank :: more) = table.cut text := by
  induction text with
  | nil => simp [cut, hb]
  | cons c text ih =>
    have hmatch := matchInChunk?_append_blank table hb (c :: text) more
    rw [List.cons_append] at hmatch ⊢
    rw [cut, cut, hmatch, ih]

end SymbolTable

namespace Cursor

variable (table : SymbolTable)

theorem take_append {cursor : Cursor} {token : Token} {count : Nat} (h : count ≤ cursor.rest.length)
    (more : List Char) :
    (⟨cursor.offset, cursor.rest ++ more⟩ : Cursor).take token count =
      (cursor.take token count).append more := by
  rw [take, advance_append h]
  rfl

theorem skipBlanks_append {cursor : Cursor} (h : cursor.skipBlanks.rest ≠ []) (more : List Char) :
    (⟨cursor.offset, cursor.rest ++ more⟩ : Cursor).skipBlanks =
      ⟨cursor.skipBlanks.offset, cursor.skipBlanks.rest ++ more⟩ := by
  obtain ⟨c, rest, hrest⟩ := List.exists_cons_of_ne_nil h
  have hc := isBlank_head_skipBlanks hrest
  have hblank : ∀ d ∈ cursor.rest.takeWhile isBlank, isBlank d = true :=
    List.all_eq_true.1 List.all_takeWhile
  have hsplit : cursor.rest ++ more = cursor.rest.takeWhile isBlank ++ c :: (rest ++ more) := by
    rw [← List.cons_append, ← hrest, ← List.append_assoc]
    exact congrArg (· ++ more) List.takeWhile_append_dropWhile.symm
  have htake : (cursor.rest ++ more).takeWhile isBlank = cursor.rest.takeWhile isBlank := by
    rw [hsplit, List.takeWhile_append_of_pos hblank]
    simp [hc]
  have hdrop : (cursor.rest ++ more).dropWhile isBlank = cursor.skipBlanks.rest ++ more := by
    rw [hsplit, List.dropWhile_append_of_pos hblank, hrest]
    simp [hc]
  rw [skipBlanks, htake, hdrop]
  rfl

/-- Where a lexeme or stray text begins before some white space, what is behind the white space does
not matter. -/
theorem read_append_blank {cursor : Cursor} {blank : Char} (hb : isBlank blank = true)
    (h : cursor.skipBlanks.rest ≠ []) (more : List Char) :
    (⟨cursor.offset, cursor.rest ++ blank :: more⟩ : Cursor).read table =
      (cursor.read table).append (blank :: more) := by
  rw [read, read]
  simp only [skipBlanks_append h, SymbolTable.cut_append_blank table hb]
  rw [if_neg (by simp), if_neg h]
  split
  · next symbol hcut =>
    obtain ⟨rest, hrest, -, hsymbol⟩ := SymbolTable.cut_spec hcut
    obtain ⟨-, hstarts, -⟩ := SymbolTable.matchInChunk?_spec (hsymbol symbol rfl)
    rw [List.nil_append] at hrest
    rw [← hrest] at hstarts
    exact take_append (length_le_of_starts hstarts) _
  · next text symbol _ hcut =>
    obtain ⟨rest, hrest, -, -⟩ := SymbolTable.cut_spec hcut
    split
    · apply take_append
      rw [hrest, List.length_append]
      exact Nat.le_add_right _ _
    · rfl

theorem scan_blanks {blanks : List Char} (h : ∀ c ∈ blanks, isBlank c = true) (offset : Nat)
    (rest : List Char) :
    scan table ⟨offset, blanks ++ rest⟩ = scan table ⟨offset + byteLength blanks, rest⟩ := by
  induction blanks generalizing offset with
  | nil => rfl
  | cons c blanks ih =>
    rw [List.cons_append, scan_cons_blank (h c List.mem_cons_self),
      ih fun d hd => h d (List.mem_cons_of_mem _ hd), byteLength_cons, Nat.add_assoc]

theorem scan_append_blank {blank : Char} (hb : isBlank blank = true) (cursor : Cursor)
    (more : List Char) :
    scan table ⟨cursor.offset, cursor.rest ++ blank :: more⟩ =
      (scan table cursor).andThen
        (scan table ⟨cursor.offset + byteLength (cursor.rest ++ [blank]), more⟩) := by
  fun_induction scan table cursor with
  | case1 cursor hread =>
    have hblanks : ∀ c ∈ cursor.rest ++ [blank], isBlank c = true := by
      intro c hc
      rcases List.mem_append.1 hc with hc | hc
      · exact blank_of_read_done hread c hc
      · rwa [List.mem_singleton.1 hc]
    have hscan := scan_blanks table hblanks cursor.offset more
    rw [List.append_assoc, List.singleton_append] at hscan
    rw [hscan, Scan.nil_andThen]
  | case2 cursor stray hread =>
    have hrest : cursor.skipBlanks.rest ≠ [] := mt read_of_skipBlanks_nil (by rw [hread]; simp)
    have happend := read_append_blank table hb hrest more
    rw [hread] at happend
    rw [scan_of_stray happend]
    rfl
  | case3 cursor lexeme next hread rest ih =>
    have hrest : cursor.skipBlanks.rest ≠ [] := mt read_of_skipBlanks_nil (by rw [hread]; simp)
    have happend := read_append_blank table hb hrest more
    rw [hread] at happend
    have hstop : next.offset + byteLength (next.rest ++ [blank]) =
        cursor.offset + byteLength (cursor.rest ++ [blank]) := by
      obtain ⟨blanks, word, htakes⟩ := takes_of_read hread
      rw [htakes.next_eq, htakes.stop_eq, htakes.start_eq, htakes.rest_eq]
      simp only [byteLength_append]
      omega
    rw [scan_of_lexeme happend, ih, hstop]
    exact (Scan.cons_andThen ..).symm

end Cursor

/-! ### Texts with white space between them -/

def IsBlankText (text : String) : Prop := ∀ c ∈ text.toList, isBlank c = true

instance (text : String) : Decidable (IsBlankText text) :=
  decidable_of_iff (text.toList.all isBlank = true) List.all_eq_true

theorem byteLength_toList (text : String) : byteLength text.toList = text.utf8ByteSize := by
  rw [← utf8ByteSize_ofList, String.ofList_toList]

namespace SymbolTable

variable (table : SymbolTable) {blanks : String}

theorem scan_empty : table.scan "" = ⟨[], none⟩ := Cursor.scan_nil table 0

theorem scan_blanks_append (hb : IsBlankText blanks) (text : String) :
    table.scan (blanks ++ text) = (table.scan text).shift blanks.utf8ByteSize := by
  unfold scan
  rw [String.toList_append, Cursor.scan_blanks table hb, byteLength_toList]
  exact Cursor.scan_shift table blanks.utf8ByteSize ⟨0, text.toList⟩

theorem scan_append_blanks (hne : blanks ≠ "") (hb : IsBlankText blanks) (before behind : String) :
    table.scan (before ++ blanks ++ behind) =
      (table.scan before).andThen ((table.scan behind).shift (before ++ blanks).utf8ByteSize) := by
  obtain ⟨blank, rest, hblanks⟩ := List.exists_cons_of_ne_nil (mt String.toList_eq_nil_iff.1 hne)
  have hb' : ∀ c ∈ blank :: rest, isBlank c = true := by
    rw [← hblanks]
    exact hb
  have hbefore := Cursor.scan_append_blank table (hb' blank List.mem_cons_self) ⟨0, before.toList⟩
    (rest ++ behind.toList)
  have hrest := Cursor.scan_blanks table (fun c hc => hb' c (List.mem_cons_of_mem _ hc))
    (0 + byteLength (before.toList ++ [blank])) behind.toList
  have hoffset : 0 + byteLength (before.toList ++ [blank]) + byteLength rest =
      0 + (before ++ blanks).utf8ByteSize := by
    rw [← byteLength_toList, String.toList_append, hblanks]
    simp only [byteLength_append, byteLength_cons, byteLength_nil]
    omega
  have hbehind := Cursor.scan_shift table (before ++ blanks).utf8ByteSize ⟨0, behind.toList⟩
  unfold scan
  rw [String.toList_append, String.toList_append, hblanks, List.append_assoc, List.cons_append,
    hbefore, hrest, hoffset, hbehind]

theorem scan_append_of_blanks (hb : IsBlankText blanks) (text : String) :
    table.scan (text ++ blanks) = table.scan text := by
  by_cases hne : blanks = ""
  · rw [hne, String.append_empty]
  · have hscan := table.scan_append_blanks hne hb text ""
    rw [String.append_empty, scan_empty] at hscan
    rw [hscan]
    exact Scan.andThen_nil _

end SymbolTable

/-! ### Places left aside -/

namespace Scan

/-- The tokens of a scan and the stray text that ends it, wherever they stand. -/
def found (scan : Scan) : List Token × Option String :=
  (scan.lexemes.map Lexeme.token, scan.stray.map Stray.text)

@[simp] theorem found_shift (distance : Nat) (scan : Scan) :
    (scan.shift distance).found = scan.found := by
  obtain ⟨lexemes, stray⟩ := scan
  cases stray <;> simp [found, shift, Lexeme.shift, Stray.shift, Function.comp_def]

theorem found_andThen (first second : Scan) :
    (first.andThen second).found =
      if first.stray = none then (first.found.1 ++ second.found.1, second.found.2)
      else first.found := by
  obtain ⟨lexemes, stray⟩ := first
  cases stray <;> simp [found, andThen]

end Scan

/-- A run depends on the places of what it reads only for the place of its fault. -/
theorem ParseState.run_congr (state : ParseState) (stop other : Nat) {stray left : Option Stray}
    {lexemes others : List Lexeme} (htokens : lexemes.map Lexeme.token = others.map Lexeme.token)
    (hstray : stray.map Stray.text = left.map Stray.text) :
    (state.run stop stray lexemes).mapError ParseFault.cause =
      (state.run other left others).mapError ParseFault.cause := by
  induction lexemes generalizing others state stop other with
  | nil =>
    obtain rfl := List.map_eq_nil_iff.1 htokens.symm
    unfold run
    cases stray with
    | none =>
      obtain rfl := Option.map_eq_none_iff.1 hstray.symm
      dsimp only
      cases state.formula? <;> rfl
    | some stray =>
      obtain ⟨found, rfl, htext⟩ := Option.map_eq_some_iff.1 hstray.symm
      simp [Except.mapError, htext]
  | cons lexeme lexemes ih =>
    obtain ⟨first, rest, rfl, htoken, hrest⟩ := List.map_eq_cons_iff.1 htokens.symm
    unfold run
    rw [htoken]
    cases state.step lexeme.token with
    | none => rfl
    | some next => exact ih next _ _ hrest.symm

def Error.unplaced : Error → Error
  | .parse _ detail => .parse 0 detail
  | error => error

theorem SymbolTable.parse_congr (table : SymbolTable) {a b : String}
    (h : (table.scan a).found = (table.scan b).found) :
    (table.parse a).mapError Error.unplaced = (table.parse b).mapError Error.unplaced := by
  obtain ⟨htokens, hstray⟩ := Prod.mk.inj h
  have hrun := ParseState.run_congr (.needed []) 0 0 htokens hstray
  change (Formula.parse table a).mapError _ = (Formula.parse table b).mapError _ at hrun
  unfold parse
  cases ha : Formula.parse table a with
  | ok formula =>
    cases hb : Formula.parse table b with
    | ok other => rw [ha, hb] at hrun; cases hrun; rfl
    | error fault => rw [ha, hb] at hrun; cases hrun
  | error fault =>
    cases hb : Formula.parse table b with
    | ok other => rw [ha, hb] at hrun; cases hrun
    | error other =>
      rw [ha, hb] at hrun
      have hcause : fault.cause = other.cause := Except.error.inj hrun
      simp [Except.mapError, ParseFault.toError, Error.unplaced, hcause]

/-- One change of white space: some of it is replaced by other white space, or some is put before or
behind a text. -/
inductive Respacing : String → String → Prop
  | replace {blanks others : String} (before behind : String) (hne : blanks ≠ "")
    (hb : IsBlankText blanks) (hne' : others ≠ "") (hb' : IsBlankText others) :
    Respacing (before ++ blanks ++ behind) (before ++ others ++ behind)
  | before {blanks : String} (hb : IsBlankText blanks) (text : String) :
    Respacing text (blanks ++ text)
  | behind {blanks : String} (hb : IsBlankText blanks) (text : String) :
    Respacing text (text ++ blanks)

theorem Respacing.found_eq (table : SymbolTable) {a b : String} (h : Respacing a b) :
    (table.scan a).found = (table.scan b).found := by
  cases h with
  | replace before behind hne hb hne' hb' =>
    rw [table.scan_append_blanks hne hb, table.scan_append_blanks hne' hb', Scan.found_andThen,
      Scan.found_andThen, Scan.found_shift, Scan.found_shift]
  | before hb text => rw [table.scan_blanks_append hb, Scan.found_shift]
  | behind hb text => rw [table.scan_append_of_blanks hb]

namespace SymbolTable

/-- White space only separates. In front of it a text is read as it is alone, and unless stray text
ends that, what is behind it is read as it is alone, with all places moved on. Other white space in
place of some, or more of it in front of a text or behind it, changes no token, no stray text and no
result of a parse but for the place of an error. -/
theorem scan_spaced (table : SymbolTable) :
    (∀ before blanks behind : String, blanks ≠ "" → IsBlankText blanks →
      ((table.scan before).stray = none → (table.scan (before ++ blanks ++ behind)).items =
        (table.scan before).items ++
          (table.scan behind).items.map (Scan.shiftItem (before ++ blanks).utf8ByteSize)) ∧
      ((table.scan before).stray ≠ none →
        (table.scan (before ++ blanks ++ behind)).items = (table.scan before).items)) ∧
    ∀ a b : String, Relation.EqvGen Respacing a b →
      (table.scan a).found = (table.scan b).found ∧
        (table.parse a).mapError Error.unplaced = (table.parse b).mapError Error.unplaced := by
  constructor
  · intro before blanks behind hne hb
    have hscan := table.scan_append_blanks hne hb before behind
    constructor
    · intro hnone
      rw [hscan, Scan.items_andThen_of_none hnone, Scan.items_shift]
    · intro hsome
      rw [hscan, Scan.andThen_of_some hsome]
  · intro a b h
    have hfound : (table.scan a).found = (table.scan b).found := by
      induction h with
      | rel a b h => exact h.found_eq table
      | refl a => rfl
      | symm a b _ ih => exact ih.symm
      | trans a b c _ _ ihab ihbc => exact ihab.trans ihbc
    exact ⟨hfound, table.parse_congr hfound⟩

theorem scan_spaced_standard :
    let table := Lexicon.standard.symbols
    (table.scan ("é∧" ++ "\u3000" ++ "b@")).items =
        [.ok ⟨0, .var "é", 2⟩, .ok ⟨2, .symbol .and, 5⟩, .error ⟨8, "b@"⟩] ∧
      (table.scan ("a@" ++ "\n" ++ "& b")).items = [.error ⟨0, "a@"⟩] ∧
      (table.parse " a -> \tb").mapError Error.unplaced =
        (table.parse "a -> b").mapError Error.unplaced := by
  intro table
  obtain ⟨hitems, hspaced⟩ := scan_spaced table
  have hnone : (table.scan "é∧").stray = none := by decide +kernel
  have hsome : (table.scan "a@").stray ≠ none := by decide +kernel
  have hreplaced : Respacing ("a ->" ++ " " ++ "b") ("a ->" ++ " \t" ++ "b") :=
    .replace "a ->" "b" (by decide) (by decide) (by decide) (by decide)
  have hput : Respacing "a -> \tb" (" " ++ "a -> \tb") := .before (by decide) "a -> \tb"
  have hchain : Relation.EqvGen Respacing " a -> \tb" "a -> b" :=
    .trans _ _ _ (.symm _ _ (.rel _ _ hput)) (.symm _ _ (.rel _ _ hreplaced))
  refine ⟨?_, ?_, (hspaced _ _ hchain).2⟩
  · rw [(hitems "é∧" "\u3000" "b@" (by decide) (by decide)).1 hnone]
    decide +kernel
  · rw [(hitems "a@" "\n" "& b" (by decide) (by decide)).2 hsome]
    decide +kernel

end SymbolTable

end BooleanTables
