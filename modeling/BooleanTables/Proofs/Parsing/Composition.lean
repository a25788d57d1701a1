import BooleanTables.Proofs.Lexing.Blanks
import BooleanTables.Proofs.Parsing.Variables

/-!
# Composing texts

Texts that are formulas make up the text of a greater formula: in parentheses each of them is a
term, whatever its connectives are, and blanks keep what one text ends with apart from what the next
one begins with. The variables of the second text are noted behind those of the first one, unless
they are among them.
-/

namespace BooleanTables

open Text

/-! ### Variables of joined formulas -/

theorem firstAppearances_append (a b : List String) :
    firstAppearances (a ++ b) = firstAppearances a ++
      (firstAppearances b).filter (· ∉ firstAppearances a) := by
  induction b using List.reverseRecOn with
  | nil => exact (congrArg firstAppearances (List.append_nil a)).trans (List.append_nil _).symm
  | append_singleton b name ih =>
    rw [← List.append_assoc, firstAppearances_concat, firstAppearances_concat b, ih]
    by_cases hb : name ∈ firstAppearances b
    · rw [if_pos hb]
      refine if_pos ?_
      by_cases ha : name ∈ firstAppearances a <;> simp [ha, hb]
    · by_cases ha : name ∈ firstAppearances a <;> simp [ha, hb, List.filter_append]

theorem Formula.vars_binary (op : Connective) (left right : Formula) :
    (binary op left right).vars = left.vars ++ right.vars.filter (· ∉ left.vars) := by
  unfold vars
  rw [names_binary, firstAppearances_append]

/-! ### Tokens of joined texts -/

namespace SymbolTable

variable {table : SymbolTable}

/-- The text has these tokens and no stray text. -/
def LexesTo (table : SymbolTable) (text : String) (tokens : List Token) : Prop :=
  (table.scan text).found = (tokens, none)

instance (table : SymbolTable) (text : String)
    (tokens : List Token) : Decidable (table.LexesTo text tokens) :=
  inferInstanceAs (Decidable ((table.scan text).found = (tokens, none)))

theorem LexesTo.blank {before behind : String} {first second : List Token}
    (hb : table.LexesTo before first) (ha : table.LexesTo behind second) :
    table.LexesTo (before ++ " " ++ behind) (first ++ second) := by
  unfold LexesTo at *
  have hnone : (table.scan before).stray = none := Option.map_eq_none_iff.1 (Prod.mk.inj hb).2
  rw [table.scan_append_blanks (by decide) (by decide), Scan.found_andThen, if_pos hnone,
    Scan.found_shift, hb, ha]

/-- The text is parsed to the formula, and the parse notes these variables. -/
structure ParsesTo (table : SymbolTable) (input : String) (formula : Formula) (vars : List String) :
    Prop where
  parse_eq : table.parse input = .ok formula
  noting_eq : Formula.parseNoting table input = .ok (formula, vars)

theorem parse_eq_ok_iff {input : String} {formula : Formula} :
    table.parse input = .ok formula ↔ Formula.parse table input = .ok formula := by
  unfold parse
  cases Formula.parse table input with
  | ok other => simp
  | error fault => simp

theorem formula_parse_eq_ok_iff {input : String} {formula : Formula} :
    Formula.parse table input = .ok formula ↔
      ∃ tokens, table.LexesTo input tokens ∧ Derives .loosest tokens formula := by
  unfold LexesTo Formula.parse
  cases hscan : table.scan input with
  | mk lexemes stray =>
    cases stray with
    | none =>
      rw [formula_eq_ok_iff]
      constructor
      · intro h
        exact ⟨lexemes.map Lexeme.token, rfl, h⟩
      · rintro ⟨tokens, hfound, h⟩
        rwa [← (Prod.mk.inj hfound).1] at h
    | some stray =>
      refine iff_of_false ParseState.run_stray_ne_ok ?_
      rintro ⟨tokens, hfound, -⟩
      cases (Prod.mk.inj hfound).2

theorem parsesTo_iff {input : String} {formula : Formula} {vars : List String} :
    table.ParsesTo input formula vars ↔
      (∃ tokens, table.LexesTo input tokens ∧ Derives .loosest tokens formula) ∧
      formula.vars = vars := by
  rw [← formula_parse_eq_ok_iff]
  constructor
  · rintro ⟨hparse, hnoting⟩
    have hok := parse_eq_ok_iff.1 hparse
    rw [Formula.parseNoting_eq, hok] at hnoting
    exact ⟨hok, (Prod.mk.inj (Except.ok.inj hnoting)).2⟩
  · rintro ⟨hok, rfl⟩
    refine ⟨parse_eq_ok_iff.2 hok, ?_⟩
    rw [Formula.parseNoting_eq, hok]
    rfl

/-- A formula between two parentheses is a term, whatever its connectives are. -/
theorem ParsesTo.parens {leftParen rightParen input : String} {formula : Formula}
    {vars : List String} (h : table.ParsesTo input formula vars)
    (hl : table.LexesTo leftParen [.symbol .leftParen])
    (hr : table.LexesTo rightParen [.symbol .rightParen]) :
    ∃ tokens, table.LexesTo (leftParen ++ " " ++ input ++ " " ++ rightParen) tokens ∧
      Derives .term tokens formula := by
  obtain ⟨⟨tokens, htokens, hderives⟩, -⟩ := parsesTo_iff.1 h
  have htexts := (hl.blank htokens).blank hr
  rw [List.append_assoc, List.singleton_append] at htexts
  exact ⟨_, htexts, .parens hderives⟩

/-- With blanks between them two formulas in parentheses and a connective make up the formula that
joins the two, one in parentheses is the formula itself, and behind a negation it is negated. Any
text will do for a parenthesis, a connective or a negation that alone is one lexeme and stands for
that. -/
theorem parse_composed {leftParen rightParen first : String} {left : Formula}
    {leftVars : List String} (hl : table.LexesTo leftParen [.symbol .leftParen])
    (hr : table.LexesTo rightParen [.symbol .rightParen])
    (hfirst : table.ParsesTo first left leftVars) :
    (∀ (operator second : String) (op : Connective) (right : Formula) (rightVars : List String),
      table.LexesTo operator [.symbol op.key] → table.ParsesTo second right rightVars →
        table.ParsesTo
          (" ".intercalate [leftParen, first, rightParen, operator, leftParen, second, rightParen])
          (.binary op left right) (leftVars ++ rightVars.filter (· ∉ leftVars))) ∧
      table.ParsesTo (" ".intercalate [leftParen, first, rightParen]) left leftVars ∧
      ∀ negation : String, table.LexesTo negation [.symbol .not] →
        table.ParsesTo (" ".intercalate [negation, leftParen, first, rightParen]) left.not
          leftVars := by
  obtain ⟨before, hbefore, hleft⟩ := hfirst.parens hl hr
  have hleftVars := (parsesTo_iff.1 hfirst).2
  refine ⟨?_, ?_, ?_⟩
  · intro operator second op right rightVars ho hsecond
    obtain ⟨behind, hbehind, hright⟩ := hsecond.parens hl hr
    have hrightVars := (parsesTo_iff.1 hsecond).2
    have htokens := (hbefore.blank ho).blank hbehind
    have hjoined : Derives (.connective op) (before ++ .symbol op.key :: behind)
        (.binary op left right) :=
      .binary (hleft.loosen op.tighter.rank_le) (hright.loosen (Layer.rank_le _))
    rw [List.append_assoc, List.singleton_append] at htokens
    refine parsesTo_iff.2 ⟨⟨_, ?_, hjoined.loosen (Layer.rank_loosest_le _)⟩, ?_⟩
    · simpa [String.append_assoc] using htokens
    · rw [Formula.vars_binary, hleftVars, hrightVars]
  · exact parsesTo_iff.2 ⟨⟨before, hbefore, hleft.loosen (Layer.rank_loosest_le _)⟩, hleftVars⟩
  · intro negation hn
    have htokens := hn.blank hbefore
    have hnegated : Derives .negation (.symbol .not :: before) left.not := .not (.term hleft)
    refine parsesTo_iff.2 ⟨⟨_, ?_, hnegated.loosen (Layer.rank_loosest_le _)⟩, hleftVars⟩
    simpa [String.append_assoc] using htokens

theorem parse_composed_mixed :
    let table := Lexicon.standard.symbols
    table.ParsesTo "\x7b b -> a ) ∧ \x7b a or c )"
        (.binary .and (.binary .implies (.var "b") (.var "a")) (.binary .or (.var "a") (.var "c")))
        ["b", "a", "c"] ∧
      table.ParsesTo "\x7b b -> a )" (.binary .implies (.var "b") (.var "a")) ["b", "a"] ∧
      table.ParsesTo "NOT \x7b b -> a )" (.not (.binary .implies (.var "b") (.var "a")))
        ["b", "a"] := by
  intro table
  have hl : table.LexesTo "\x7b" [.symbol .leftParen] := by decide +kernel
  have hr : table.LexesTo ")" [.symbol .rightParen] := by decide +kernel
  have ho : table.LexesTo "∧" [.symbol Connective.and.key] := by decide +kernel
  have hn : table.LexesTo "NOT" [.symbol .not] := by decide +kernel
  have hfirst : table.ParsesTo "b -> a" (.binary .implies (.var "b") (.var "a")) ["b", "a"] :=
    ⟨by decide +kernel, by decide +kernel⟩
  have hsecond : table.ParsesTo "a or c" (.binary .or (.var "a") (.var "c")) ["a", "c"] :=
    ⟨by decide +kernel, by decide +kernel⟩
  obtain ⟨hbinary, hparens, hnot⟩ := parse_composed hl hr hfirst
  exact ⟨hbinary "∧" "a or c" .and _ _ ho hsecond, hparens, hnot "NOT" hn⟩

end SymbolTable

end BooleanTables
