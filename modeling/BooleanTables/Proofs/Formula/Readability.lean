import BooleanTables.Proofs.Parsing.Respelling
import BooleanTables.Proofs.Parsing.RoundTrip
import BooleanTables.Proofs.Table.Rows

/-!
# Unique readability

The text of a formula is a code that ends by itself: a leaf is a word of characters of names, which
the next blank or parenthesis ends, and all else begins with a sign that no word begins with. So a
text is that of one formula alone, as long as no name is the digit of a constant, and the title of a
table says which formula it belongs to.
-/

namespace BooleanTables

/-! ### Words -/

/-- Text that does not go on with a word. -/
def EndsWord (rest : List Char) : Prop := ∀ c ∈ rest.head?, isNameChar c = false

theorem endsWord_nil : EndsWord [] := by
  intro c hc
  cases hc

theorem endsWord_cons {c : Char} (h : isNameChar c = false) (rest : List Char) :
    EndsWord (c :: rest) := by
  intro d hd
  obtain rfl : c = d := by simpa using hd
  exact h

theorem takeWhile_word_append {word rest : List Char} (hw : ∀ c ∈ word, isNameChar c = true)
    (hr : EndsWord rest) :
    (word ++ rest).takeWhile isNameChar = word := by
  have hrest : rest.takeWhile isNameChar = [] := by
    cases rest with
    | nil => rfl
    | cons c rest => exact List.takeWhile_cons_of_neg (by simp [hr c rfl])
  rw [List.takeWhile_append_of_pos hw, hrest, List.append_nil]

theorem word_append_inj {a b rest more : List Char} (ha : ∀ c ∈ a, isNameChar c = true)
    (hb : ∀ c ∈ b, isNameChar c = true) (hr : EndsWord rest) (hm : EndsWord more)
    (h : a ++ rest = b ++ more) :
    a = b ∧ rest = more := by
  have hword : a = b := by
    rw [← takeWhile_word_append ha hr, h, takeWhile_word_append hb hm]
  rw [hword] at h
  exact ⟨hword, List.append_cancel_left h⟩

theorem word_append_ne_cons {word rest more : List Char} {c : Char} (hne : word ≠ [])
    (hw : ∀ d ∈ word, isNameChar d = true) (hc : isNameChar c = false) :
    word ++ rest ≠ c :: more := by
  intro h
  cases word with
  | nil => exact hne rfl
  | cons d word =>
    obtain rfl : d = c := (List.cons.inj h).1
    rw [hw d List.mem_cons_self] at hc
    cases hc

/-! ### Formulas -/

/-- Characters of names, at least one, and not the digit of a constant. -/
structure IsLeafName (name : String) : Prop where
  ne_empty : name ≠ ""
  isNameChar : ∀ c ∈ name.toList, BooleanTables.isNameChar c = true
  ne_zero : name ≠ "0"
  ne_one : name ≠ "1"

instance (name : String) : Decidable (IsLeafName name) :=
  decidable_of_iff (name ≠ "" ∧ name.toList.all BooleanTables.isNameChar = true ∧
    name ≠ "0" ∧ name ≠ "1")
    ⟨fun ⟨hempty, hchars, hzero, hone⟩ => ⟨hempty, List.all_eq_true.1 hchars, hzero, hone⟩,
      fun h => ⟨h.ne_empty, List.all_eq_true.2 h.isNameChar, h.ne_zero, h.ne_one⟩⟩

namespace Formula

/-- All names can be told from each other, and from the constants, by the words of their text. -/
def IsReadable (formula : Formula) : Prop := ∀ name ∈ formula.names, IsLeafName name

/-- The word that a leaf is shown by. -/
def word? : Formula → Option (List Char)
  | .const value => some [if value then '1' else '0']
  | .var name => some name.toList
  | .not _ | .binary .. => none

variable {a b : Formula} {leaf : List Char}

theorem IsReadable.operand (h : (not a).IsReadable) : a.IsReadable := h

theorem IsReadable.left {op : Connective} (h : (binary op a b).IsReadable) : a.IsReadable :=
  fun name hname => h name (by simp [hname])

theorem IsReadable.right {op : Connective} (h : (binary op a b).IsReadable) : b.IsReadable :=
  fun name hname => h name (by simp [hname])

theorem toList_text_of_word? (h : a.word? = some leaf) : a.text.toList = leaf := by
  cases a with
  | const value => cases value <;> cases h <;> rfl
  | var name =>
    cases h
    rw [text_var]
  | not | binary => cases h

theorem IsReadable.word (ha : a.IsReadable) (h : a.word? = some leaf) :
    leaf ≠ [] ∧ ∀ c ∈ leaf, isNameChar c = true := by
  cases a with
  | const value => cases value <;> cases h <;>
      exact ⟨List.cons_ne_nil _ _, List.all_eq_true.1 (by decide +kernel)⟩
  | var name =>
    cases h
    have hname := ha name (by simp)
    exact ⟨mt String.toList_eq_nil_iff.1 hname.ne_empty, hname.isNameChar⟩
  | not | binary => cases h

theorem IsReadable.ne_const {name : String} (ha : (var name).IsReadable) (value : Bool) :
    name.toList ≠ [if value then '1' else '0'] := by
  have hname := ha name (by simp)
  intro h
  cases value with
  | true => exact hname.ne_one (String.toList_inj.1 h)
  | false => exact hname.ne_zero (String.toList_inj.1 h)

theorem IsReadable.eq_of_word?_eq (ha : a.IsReadable) (hb : b.IsReadable)
    (hwa : a.word? = some leaf) (hwb : b.word? = some leaf) : a = b := by
  cases a with
  | const value =>
    cases b with
    | const other =>
      rw [← hwb] at hwa
      cases value <;> cases other <;> simp [word?] at hwa ⊢
    | var name => exact absurd (Option.some.inj (hwb.trans hwa.symm)) (hb.ne_const value)
    | not | binary => cases hwb
  | var name =>
    cases b with
    | const value => exact absurd (Option.some.inj (hwa.trans hwb.symm)) (ha.ne_const value)
    | var other =>
      have hnames : name.toList = other.toList := Option.some.inj (hwa.trans hwb.symm)
      rw [String.toList_inj.1 hnames]
    | not | binary => cases hwb
  | not | binary => cases hwa

theorem toList_text_not (operand : Formula) :
    operand.not.text.toList = Key.not.sign :: operand.text.toList := by
  simp [Key.sign]

theorem exists_sign_of_word?_eq_none (h : a.word? = none) :
    ∃ c rest, a.text.toList = c :: rest ∧ isNameChar c = false := by
  cases a with
  | const | var => cases h
  | not operand => exact ⟨_, _, toList_text_not operand, by decide +kernel⟩
  | binary op left right => exact ⟨_, _, toList_text_binary op left right, by decide +kernel⟩

theorem IsReadable.eq_of_word_append (ha : a.IsReadable) (hb : b.IsReadable) {rest more : List Char}
    (hr : EndsWord rest) (hm : EndsWord more) (hword : a.word? = some leaf)
    (h : a.text.toList ++ rest = b.text.toList ++ more) : a = b ∧ rest = more := by
  obtain ⟨hne, hchars⟩ := ha.word hword
  rw [toList_text_of_word? hword] at h
  cases hother : b.word? with
  | none =>
    obtain ⟨c, text, htext, hc⟩ := exists_sign_of_word?_eq_none hother
    rw [htext, List.cons_append] at h
    exact absurd h (word_append_ne_cons hne hchars hc)
  | some other =>
    rw [toList_text_of_word? hother] at h
    obtain ⟨rfl, hrest⟩ := word_append_inj hchars (hb.word hother).2 hr hm h
    exact ⟨ha.eq_of_word?_eq hb hword hother, hrest⟩

/-- A text with a formula at its start, and no word that goes on behind it, has one formula alone
there. -/
theorem IsReadable.eq_of_text_append (ha : a.IsReadable) (hb : b.IsReadable) {rest more : List Char}
    (hr : EndsWord rest) (hm : EndsWord more) (h : a.text.toList ++ rest = b.text.toList ++ more) :
    a = b ∧ rest = more := by
  have hblank (text : List Char) : EndsWord (' ' :: text) := endsWord_cons (by decide +kernel) text
  have hparen (text : List Char) : EndsWord (Key.rightParen.sign :: text) :=
    endsWord_cons (by decide +kernel) text
  induction a generalizing b rest more with
  | const value => exact ha.eq_of_word_append hb hr hm rfl h
  | var name => exact ha.eq_of_word_append hb hr hm rfl h
  | not operand ih =>
    cases b with
    | const | var => exact (hb.eq_of_word_append ha hm hr rfl h.symm).imp Eq.symm Eq.symm
    | not other =>
      rw [toList_text_not, toList_text_not, List.cons_append, List.cons_append] at h
      obtain ⟨rfl, hrest⟩ := ih ha.operand hb.operand hr hm (List.cons.inj h).2
      exact ⟨rfl, hrest⟩
    | binary op left right =>
      rw [toList_text_not, toList_text_binary, List.cons_append, List.cons_append] at h
      exact absurd (List.cons.inj h).1 (by decide)
  | binary op left right ihl ihr =>
    cases b with
    | const | var => exact (hb.eq_of_word_append ha hm hr rfl h.symm).imp Eq.symm Eq.symm
    | not other =>
      rw [toList_text_not, toList_text_binary, List.cons_append, List.cons_append] at h
      exact absurd (List.cons.inj h).1 (by decide)
    | binary sign first second =>
      -- the left operand ends at its blank, then comes the sign, and the right operand ends at the
      -- parenthesis
      simp only [toList_text_binary, List.cons_append, List.append_assoc, List.nil_append,
        List.cons.injEq, true_and] at h
      obtain ⟨rfl, hbehind⟩ := ihl ha.left hb.left (hblank _) (hblank _) h
      obtain ⟨hsign, hsecond⟩ := List.cons.inj (List.cons.inj hbehind).2
      obtain rfl : op = sign := Connective.key_injective (Key.sign_injective hsign)
      obtain ⟨rfl, hclosing⟩ :=
        ihr ha.right hb.right (hparen _) (hparen _) (List.cons.inj hsecond).2
      exact ⟨rfl, (List.cons.inj hclosing).2⟩

theorem IsReadable.eq_of_text_eq (ha : a.IsReadable) (hb : b.IsReadable) (h : a.text = b.text) :
    a = b := by
  have htexts : a.text.toList ++ [] = b.text.toList ++ [] := by rw [h]
  exact (ha.eq_of_text_append hb endsWord_nil endsWord_nil htexts).1

theorem isReadable_of_parse {lexicon : Lexicon} {input : String} {formula : Formula}
    (h : lexicon.parse input = .ok formula)
    (hdigits : ∀ name ∈ formula.names, name ≠ "0" ∧ name ≠ "1") :
    formula.IsReadable := by
  intro name hname
  have hread := Lexicon.isName_of_parse h hname
  exact ⟨hread.ne_empty, hread.isNameChar, (hdigits name hname).1, (hdigits name hname).2⟩

/-- Readable formulas with one text are one formula. So the title of a table of a text determines
the formula, and with it the table, whatever lexicon the text was written in, unless the digit of a
constant is used as a name. -/
theorem text_unambiguous :
    (∀ a b : Formula, a.IsReadable → b.IsReadable → a.text = b.text → a = b) ∧
      ∀ (lexicon other : Lexicon) (capacity most : Capacity) (input text : String)
          (table shown : TruthTable),
        lexicon.evaluate capacity input = .ok table → other.evaluate most text = .ok shown →
        (∀ name ∈ table.vars ++ shown.vars, name ≠ "0" ∧ name ≠ "1") → table.title = shown.title →
        table.formula = shown.formula ∧ table = shown := by
  refine ⟨fun a b ha hb h => ha.eq_of_text_eq hb h, ?_⟩
  intro lexicon other capacity most input text table shown htable hshown hdigits htitle
  obtain ⟨formula, hparse, rfl⟩ := Lexicon.evaluate_eq_ok htable
  obtain ⟨found, hfound, rfl⟩ := Lexicon.evaluate_eq_ok hshown
  have hformula : formula.IsReadable := isReadable_of_parse hparse fun name hname =>
    hdigits name (List.mem_append_left _ (mem_vars.2 hname))
  have hother : found.IsReadable := isReadable_of_parse hfound fun name hname =>
    hdigits name (List.mem_append_right _ (mem_vars.2 hname))
  have htext : formula.text = found.text := htitle
  rw [hformula.eq_of_text_eq hother htext]
  exact ⟨rfl, rfl⟩

theorem text_unambiguous_indexed :
    let formula : Formula :=
      .binary .implies (.not (.binary .and (.var "x0") (.var "x1"))) (.var "x0")
    (∀ other : Formula, other.IsReadable → formula.text = other.text → formula = other) ∧
      ∃ table shown, Lexicon.standard.evaluate ⟨20, (· ≤ 4)⟩ "NOT(x0 AND x1)->x0" = .ok table ∧
        (Lexicon.standard.set .implication "⇒").evaluate ⟨2, (· ≤ 4)⟩ "{~[x0&x1]}⇒x0" = .ok shown ∧
        table.title = "(¬(x0 ∧ x1) ⇒ x0)" ∧ table = shown := by
  intro formula
  have hreadable : formula.IsReadable := by
    have hnames : formula.names = ["x0", "x1", "x0"] := rfl
    rw [IsReadable, hnames]
    decide +kernel
  have htable : Lexicon.standard.evaluate ⟨20, (· ≤ 4)⟩ "NOT(x0 AND x1)->x0" =
      .ok (.complete formula) := by decide +kernel
  have hshown : (Lexicon.standard.set .implication "⇒").evaluate ⟨2, (· ≤ 4)⟩ "{~[x0&x1]}⇒x0" =
      .ok (.complete formula) := by
    decide +kernel
  refine ⟨fun other => text_unambiguous.1 formula other hreadable, _, _, htable, hshown,
    by decide +kernel, ?_⟩
  exact (text_unambiguous.2 _ _ _ _ _ _ _ _ htable hshown (by decide +kernel) rfl).2

/-- The digits of the constants are left out, as a name of one digit is shown like the constant. -/
example : (Formula.var "0").text = (Formula.const false).text := by
  rw [text_var, text_const]
  rfl

end Formula

end BooleanTables
