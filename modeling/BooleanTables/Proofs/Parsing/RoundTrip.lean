import BooleanTables.Proofs.Lexing.Chunks
import BooleanTables.Proofs.Lexing.Signs
import BooleanTables.Proofs.Parsing.Variables
import BooleanTables.Session.Evaluation

/-!
# Reading the text of a formula

The text of a formula is read back in the lexicon of signs. Its parts lex to their tokens wherever
they stand, as each of them ends where a name may end, and the grammar derives the formula from the
tokens: a pair of parentheses around every connective leaves nothing for the ranks to decide, and
negation applies to what follows.
-/

namespace BooleanTables

open Text

def Formula.tokens : Formula → List Token
  | .const value => [.symbol (if value then .litTrue else .litFalse)]
  | .var name => [.var name]
  | .not operand => .symbol .not :: operand.tokens
  | .binary op left right =>
    .symbol .leftParen :: (left.tokens ++ .symbol op.key :: (right.tokens ++ [.symbol .rightParen]))

theorem Formula.derives_tokens (formula : Formula) : Derives .negation formula.tokens formula := by
  induction formula with
  | const value =>
    cases value with
    | true => exact .term .litTrue
    | false => exact .term .litFalse
  | var name => exact .term (.var name)
  | not operand ih => exact .not ih
  | binary op left right ihl ihr =>
    have hrank : op.rank ≤ 5 := op.rank_le_and
    have hleft : Derives op.tighter left.tokens left := ihl.loosen (by simp; omega)
    have hright : Derives (.connective op) right.tokens right := ihr.loosen (by simp; omega)
    have hbinary : Derives .loosest (left.tokens ++ .symbol op.key :: right.tokens)
        (.binary op left right) :=
      (Derives.binary hleft hright).loosen op.rank_pos
    have hparens := Derives.term (.parens hbinary)
    simpa [Formula.tokens] using hparens

/-! ### Lexemes of the text -/

/-- The text is read as the tokens wherever it stands, if a name may end behind it. -/
def Lexes (text : List Char) (tokens : List Token) : Prop :=
  ∀ offset rest, EndsName rest → ∃ lexemes : List Lexeme, lexemes.map Lexeme.token = tokens ∧
    Cursor.scan Lexicon.signs.symbols ⟨offset, text ++ rest⟩ =
      (⟨lexemes, none⟩ : Scan).andThen
        (Cursor.scan Lexicon.signs.symbols ⟨offset + byteLength text, rest⟩)

namespace Lexes

theorem nil : Lexes [] [] := by
  intro offset rest _
  exact ⟨[], rfl, rfl⟩

theorem append {before after : List Char} {first second : List Token} (hb : Lexes before first)
    (ha : Lexes after second) (he : ∀ rest, EndsName rest → EndsName (after ++ rest)) :
    Lexes (before ++ after) (first ++ second) := by
  intro offset rest hr
  obtain ⟨lexemes, htokens, hscan⟩ := hb offset (after ++ rest) (he rest hr)
  obtain ⟨others, hothers, hrest⟩ := ha (offset + byteLength before) rest hr
  refine ⟨lexemes ++ others, by simp [htokens, hothers], ?_⟩
  rw [List.append_assoc, hscan, hrest, byteLength_append, Nat.add_assoc]
  simp [Scan.andThen]

theorem sign {text : List Char} {tokens : List Token} (key : Key) (h : Lexes text tokens) :
    Lexes (key.sign :: text) (.symbol key :: tokens) := by
  intro offset rest hr
  obtain ⟨lexemes, htokens, hscan⟩ := h (offset + key.sign.utf8Size) rest hr
  have hread := Cursor.read_sign key offset (text ++ rest)
  refine ⟨⟨offset, .symbol key, offset + key.sign.utf8Size⟩ :: lexemes, by simp [htokens], ?_⟩
  rw [List.cons_append, Cursor.scan_of_lexeme hread, hscan, byteLength_cons, Nat.add_assoc]
  rfl

theorem blank {text : List Char} {tokens : List Token} (h : Lexes text tokens) :
    Lexes (' ' :: text) tokens := by
  intro offset rest hr
  obtain ⟨lexemes, htokens, hscan⟩ := h (offset + ' '.utf8Size) rest hr
  refine ⟨lexemes, htokens, ?_⟩
  rw [List.cons_append, Cursor.scan_cons_blank (by decide), hscan, byteLength_cons, Nat.add_assoc]

theorem name {name : List Char} (h : IsPlainName name) :
    Lexes name [.var (String.ofList name)] := by
  intro offset rest hr
  have hread := Cursor.read_plainName h offset hr
  exact ⟨[_], rfl, Cursor.scan_of_lexeme hread⟩

end Lexes

theorem Connective.toList_sign (op : Connective) : op.sign.toList = [op.key.sign] := by
  cases op <;> rfl

theorem Formula.toList_text_binary (op : Connective) (left right : Formula) :
    (binary op left right).text.toList =
      Key.leftParen.sign :: (left.text.toList ++
        ' ' :: op.key.sign :: ' ' :: (right.text.toList ++ [Key.rightParen.sign])) := by
  simp [Connective.toList_sign, Key.sign]

theorem Formula.lexes_text {formula : Formula}
    (h : ∀ name ∈ formula.names, IsPlainName name.toList) :
    Lexes formula.text.toList formula.tokens := by
  induction formula with
  | const value =>
    cases value with
    | true => exact Lexes.nil.sign .litTrue
    | false => exact Lexes.nil.sign .litFalse
  | var name =>
    have hname := Lexes.name (h name (by simp))
    simpa [tokens] using hname
  | not operand ih =>
    have hoperand := (ih h).sign .not
    simpa [tokens, Key.sign] using hoperand
  | binary op left right ihl ihr =>
    have hleft := ihl fun name hn => h name (by simp [hn])
    have hright := ihr fun name hn => h name (by simp [hn])
    have hclosing : Lexes (right.text.toList ++ [Key.rightParen.sign])
        (right.tokens ++ [.symbol .rightParen]) :=
      hright.append (Lexes.nil.sign .rightParen) fun rest _ => endsName_sign .rightParen rest
    have hbehind := (hclosing.blank.sign op.key).blank
    have hjoined := hleft.append hbehind fun rest _ => endsName_blank _
    rw [toList_text_binary]
    exact hjoined.sign .leftParen

/-- In the lexicon of signs the text of a formula is parsed to the formula. The parse notes the
names in it as the variables, each of them once and in the order in which they first appear. -/
theorem Formula.parse_text_signs {formula : Formula}
    (h : ∀ name ∈ formula.names, IsPlainName name.toList) :
    Lexicon.signs.parse formula.text = .ok formula ∧
      parseNoting Lexicon.signs.symbols formula.text = .ok (formula, formula.vars) ∧
      formula.vars.Nodup ∧ (∀ name, name ∈ formula.vars ↔ name ∈ formula.names) ∧
      formula.vars.Pairwise fun a b => formula.names.idxOf a < formula.names.idxOf b := by
  obtain ⟨lexemes, htokens, hscan⟩ := lexes_text h 0 [] endsName_nil
  have hderives : Derives .loosest (lexemes.map Lexeme.token) formula := by
    rw [htokens]
    exact formula.derives_tokens.loosen (by decide)
  have hwhole : Lexicon.signs.symbols.scan formula.text = ⟨lexemes, none⟩ := by
    rw [List.append_nil, Cursor.scan_nil, Scan.andThen_nil] at hscan
    exact hscan
  have hparse : Formula.parse Lexicon.signs.symbols formula.text = .ok formula := by
    rw [Formula.parse, hwhole, Scan.formula, ParseState.run_eq_ok_iff,
      ParseState.steps_formula?_iff_derives]
    exact hderives
  obtain ⟨hnoting, hnodup, -, -, horder⟩ := parse_variables hparse
  refine ⟨?_, hnoting, hnodup, fun _ => mem_vars, horder⟩
  rw [Lexicon.parse, SymbolTable.parse, hparse]

theorem Formula.parse_text_signs_nested :
    let formula : Formula := .binary .implies (.not (.not (.var "q'"))) (.binary .and (.var "not")
      (.binary .equates (.const true) (.not (.binary .xor (.var "é_") (.var "q'")))))
    (∀ name ∈ formula.names, IsPlainName name.toList) ∧
      Lexicon.signs.parse "(¬¬q' ⇒ (not ∧ (1 ⇔ ¬(é_ ⊕ q'))))" = .ok formula ∧
      parseNoting Lexicon.signs.symbols "(¬¬q' ⇒ (not ∧ (1 ⇔ ¬(é_ ⊕ q'))))" =
        .ok (formula, ["q'", "not", "é_"]) := by
  intro formula
  have h : ∀ name ∈ ["q'", "not", "é_", "q'"], IsPlainName name.toList := by decide
  have htext : formula.text = "(¬¬q' ⇒ (not ∧ (1 ⇔ ¬(é_ ⊕ q'))))" := by
    simp [formula, Connective.sign]
  have hvars : formula.vars = ["q'", "not", "é_"] := by decide
  obtain ⟨hparse, hnoting, -⟩ := @Formula.parse_text_signs formula h
  rw [htext] at hparse hnoting
  rw [hvars] at hnoting
  exact ⟨h, hparse, hnoting⟩

end BooleanTables
