import BooleanTables.Proofs.Formula.Renaming
import BooleanTables.Proofs.Parsing.Composition
import BooleanTables.Proofs.Parsing.Outline
import BooleanTables.Proofs.Parsing.Positions
import BooleanTables.Proofs.Session.Outcomes

/-!
# Texts under other names

Two texts have the same tokens but for the names of the variables. No token is in its place because
of a name, so both are formulas or both fail at the same token, and the formula of the one is that
of the other under other names. Where different variables keep different names, the tables of the
two are alike as well.
-/

namespace BooleanTables

def Token.rename (r : String → String) : Token → Token
  | .symbol key => .symbol key
  | .var name => .var (r name)

variable {r : String → String}

/-! ### Tokens of formulas -/

theorem Derives.rename {layer : Layer} {tokens : List Token} {formula : Formula}
    (h : Derives layer tokens formula) :
    Derives layer (tokens.map (.rename r)) (formula.rename r) := by
  induction h with
  | @binary op before after left right _ _ ihl ihr =>
    rw [List.map_append, List.map_cons]
    exact .binary ihl ihr
  | operand _ ih => exact .operand ih
  | not _ ih => exact .not ih
  | term _ ih => exact .term ih
  | litTrue => exact .litTrue
  | litFalse => exact .litFalse
  | var name => exact .var (r name)
  | parens _ ih =>
    rw [List.map_cons, List.map_append]
    exact .parens ih

/-! ### Runs that fail alike -/

/-- Two runs fail at tokens with the same number and under the same expectations, or at stray text,
or at the end. -/
inductive FailsAlike (r : String → String) (stop other : Nat) (first second : Scan) :
    ParseFault → ParseFault → Prop
  | token (index : Nat) {lexeme renamed : Lexeme} {expected : List Terminal}
    (first_eq : first.lexemes[index]? = some lexeme)
    (second_eq : second.lexemes[index]? = some renamed)
    (token_eq : renamed.token = lexeme.token.rename r) :
    FailsAlike r stop other first second ⟨lexeme.start, .unexpected lexeme.token expected⟩
      ⟨renamed.start, .unexpected renamed.token expected⟩
  | stray {found left : Stray} (first_eq : first.stray = some found)
    (second_eq : second.stray = some left) :
    FailsAlike r stop other first second ⟨found.start, .unknown found.text⟩
      ⟨left.start, .unknown left.text⟩
  | ending {expected : List Terminal} (first_eq : first.stray = none)
    (second_eq : second.stray = none) :
    FailsAlike r stop other first second ⟨lastStop stop first.lexemes, .unexpected none expected⟩
      ⟨lastStop other second.lexemes, .unexpected none expected⟩

theorem FailsAlike.cons {stray left : Option Stray} {lexemes others : List Lexeme}
    {lexeme renamed : Lexeme} {fault blame : ParseFault}
    (h : FailsAlike r lexeme.stop renamed.stop ⟨lexemes, stray⟩ ⟨others, left⟩ fault blame)
    (stop other : Nat) :
    FailsAlike r stop other ⟨lexeme :: lexemes, stray⟩ ⟨renamed :: others, left⟩ fault blame := by
  cases h with
  | token index hfirst hsecond htoken => exact .token (index + 1) hfirst hsecond htoken
  | stray hfirst hsecond => exact .stray hfirst hsecond
  | ending hfirst hsecond =>
    have hending :=
      @FailsAlike.ending r stop other ⟨lexeme :: lexemes, stray⟩ ⟨renamed :: others, left⟩
    simp only [lastStop_cons] at hending
    exact hending hfirst hsecond

namespace Outline

theorem step_rename (outline : Outline) (token : Token) :
    outline.step (token.rename r) = outline.step token := by
  obtain ⟨phase, depth⟩ := outline
  cases token with
  | symbol key => rfl
  | var name => cases phase <;> rfl

theorem expected_rename (outline : Outline) (token : Token) :
    outline.expected (some (token.rename r)) = outline.expected (some token) := by
  obtain ⟨phase, depth⟩ := outline
  cases token with
  | symbol key => rfl
  | var name => cases phase <;> rfl

/-- The outlines of two runs over tokens that differ in names only stay equal, up to the end of
both. -/
theorem run_rename {lexemes others : List Lexeme}
    (h : List.Forall₂ (fun lexeme renamed => renamed.token = lexeme.token.rename r) lexemes others)
    {stray left : Option Stray} (hstray : left.isSome = stray.isSome) (outline : Outline)
    (stop other : Nat) :
    (outline.run stop stray lexemes = .ok () ∧ outline.run other left others = .ok ()) ∨
      ∃ fault blame, outline.run stop stray lexemes = .error fault ∧
        outline.run other left others = .error blame ∧
        FailsAlike r stop other ⟨lexemes, stray⟩ ⟨others, left⟩ fault blame := by
  induction h generalizing outline stop other with
  | nil =>
    cases stray with
    | some found =>
      obtain ⟨rest, rfl⟩ := Option.isSome_iff_exists.1 hstray
      exact .inr ⟨_, _, rfl, rfl, .stray rfl rfl⟩
    | none =>
      obtain rfl : left = none := by simpa using hstray
      by_cases hend : outline = ⟨.complete, 0⟩
      · exact .inl ⟨if_pos hend, if_pos hend⟩
      · exact .inr ⟨_, _, if_neg hend, if_neg hend, .ending rfl rfl⟩
  | @cons lexeme renamed lexemes others htoken _ ih =>
    have hstep : outline.step renamed.token = outline.step lexeme.token := by
      rw [htoken, step_rename]
    simp only [run, hstep]
    cases outline.step lexeme.token with
    | none =>
      have hexpected : outline.expected (some renamed.token) =
          outline.expected (some lexeme.token) := by
        rw [htoken, expected_rename]
      rw [hexpected]
      exact .inr ⟨_, _, rfl, rfl, .token 0 rfl rfl htoken⟩
    | some next =>
      obtain hok | ⟨fault, blame, hfault, hblame, halike⟩ := ih next lexeme.stop renamed.stop
      · exact .inl hok
      · exact .inr ⟨fault, blame, hfault, hblame, halike.cons stop other⟩

end Outline

/-! ### Texts -/

namespace SymbolTable

/-- The second text has the tokens of the first one under other names, and it ends in stray text if
that one does. -/
structure Renames (table : SymbolTable) (r : String → String) (a b : String) : Prop where
  tokens_eq : (table.scan b).lexemes.map Lexeme.token =
    (table.scan a).lexemes.map fun lexeme => lexeme.token.rename r
  stray_eq : (table.scan b).stray.isSome = (table.scan a).stray.isSome

variable {table : SymbolTable} {a b : String}

theorem Renames.forall₂ (h : table.Renames r a b) :
    List.Forall₂ (fun lexeme renamed => renamed.token = lexeme.token.rename r)
      (table.scan a).lexemes (table.scan b).lexemes := by
  have heq := List.forall₂_eq_eq_eq ▸ h.tokens_eq
  rw [List.forall₂_map_left_iff, List.forall₂_map_right_iff] at heq
  exact heq.flip

theorem Renames.formula_parse_eq (h : table.Renames r a b) {formula : Formula}
    (hparse : Formula.parse table a = .ok formula) :
    Formula.parse table b = .ok (formula.rename r) := by
  obtain ⟨tokens, hlexes, hderives⟩ := formula_parse_eq_ok_iff.1 hparse
  obtain ⟨hmap, hnone⟩ := Prod.mk.inj hlexes
  refine formula_parse_eq_ok_iff.2 ⟨tokens.map (.rename r), Prod.ext ?_ ?_, hderives.rename⟩
  · change (table.scan b).lexemes.map Lexeme.token = tokens.map (.rename r)
    rw [h.tokens_eq, ← hmap, List.map_map]
    rfl
  · have hstray := h.stray_eq
    rw [Option.map_eq_none_iff.1 hnone] at hstray
    exact Option.map_eq_none_iff.2 (by simpa using hstray)

theorem Renames.exists_failsAlike (h : table.Renames r a b) {fault : ParseFault}
    (hparse : Formula.parse table a = .error fault) :
    ∃ blame, FailsAlike r 0 0 (table.scan a) (table.scan b) fault blame ∧
      Formula.parse table b = .error blame := by
  have ha := ParseState.map_run ParseState.valid_start 0 (table.scan a).stray (table.scan a).lexemes
  have hb := ParseState.map_run ParseState.valid_start 0 (table.scan b).stray (table.scan b).lexemes
  change (Formula.parse table a).map _ = Outline.start.run _ _ _ at ha
  change (Formula.parse table b).map _ = Outline.start.run _ _ _ at hb
  obtain ⟨hok, -⟩ | ⟨first, second, hfirst, hsecond, halike⟩ :=
    Outline.run_rename h.forall₂ h.stray_eq Outline.start 0 0
  · rw [hparse, hok] at ha
    cases ha
  · rw [hparse, hfirst] at ha
    cases ha
    rw [hsecond] at hb
    cases hother : Formula.parse table b with
    | ok formula =>
      rw [hother] at hb
      cases hb
    | error blame =>
      rw [hother] at hb
      cases hb
      exact ⟨second, halike, rfl⟩

/-- Texts with the same tokens but for the names of variables, different names for different
variables, are both parsed and both tabulated alike, or refused alike, or both fail at the same
token. -/
theorem outcomes_renamed (h : table.Renames r a b)
    (hr : Set.InjOn r {name | .var name ∈ (table.scan a).lexemes.map Lexeme.token}) :
    (∃ fault blame, FailsAlike r 0 0 (table.scan a) (table.scan b) fault blame ∧
      table.parse a = .error (fault.toError a) ∧ table.parse b = .error (blame.toError b) ∧
      ∀ (lexicon : Lexicon) (capacity : Capacity), lexicon.symbols = table →
        lexicon.evaluate capacity a = .error (fault.toError a) ∧
        lexicon.evaluate capacity b = .error (blame.toError b)) ∨
    ∃ formula vars, table.ParsesTo a formula vars ∧
      table.ParsesTo b (formula.rename r) (vars.map r) ∧
      ∀ (lexicon : Lexicon) (capacity : Capacity), lexicon.symbols = table →
        let limit := min capacity.maxVariables 24
        ((limit < vars.length ∨ capacity.reserves (2 ^ vars.length) = false) ∧
          lexicon.evaluate capacity a = .error (.tooManyVariables vars.length limit) ∧
          lexicon.evaluate capacity b = .error (.tooManyVariables vars.length limit)) ∨
        (vars.length ≤ limit ∧ capacity.reserves (2 ^ vars.length)) ∧ ∃ first second : TruthTable,
          lexicon.evaluate capacity a = .ok first ∧ lexicon.evaluate capacity b = .ok second ∧
          second.formula = first.formula.map (.rename r) ∧ second.vars = first.vars.map r ∧
          List.Forall₂ Row.Agrees first.rows second.rows ∧
          ∀ selection, second.verdict selection = first.verdict selection := by
  cases hparse : Formula.parse table a with
  | error fault =>
    obtain ⟨blame, halike, hblame⟩ := h.exists_failsAlike hparse
    have ha : table.parse a = .error (fault.toError a) := by simp [parse, hparse]
    have hb : table.parse b = .error (blame.toError b) := by simp [parse, hblame]
    refine .inl ⟨fault, blame, halike, ha, hb, ?_⟩
    rintro lexicon capacity rfl
    exact ⟨Lexicon.evaluate_of_parse_error ha capacity,
      Lexicon.evaluate_of_parse_error hb capacity⟩
  | ok formula =>
    have hrenamed := h.formula_parse_eq hparse
    obtain ⟨tokens, hlexes, hderives⟩ := formula_parse_eq_ok_iff.1 hparse
    have hnames : Set.InjOn r {name | name ∈ formula.names} := by
      refine hr.mono fun name hname => ?_
      change .var name ∈ (table.scan a).lexemes.map Lexeme.token
      rw [(Prod.mk.inj hlexes).1]
      exact hderives.mem_names hname
    have ha : table.ParsesTo a formula formula.vars :=
      parsesTo_iff.2 ⟨formula_parse_eq_ok_iff.1 hparse, rfl⟩
    have hb : table.ParsesTo b (formula.rename r) (formula.vars.map r) :=
      parsesTo_iff.2 ⟨formula_parse_eq_ok_iff.1 hrenamed, Formula.vars_rename hnames⟩
    refine .inr ⟨formula, formula.vars, ha, hb, ?_⟩
    rintro lexicon capacity rfl limit
    have hfirst : lexicon.evaluate capacity a = TruthTable.ofFormula capacity formula := by
      rw [Lexicon.evaluate, Lexicon.parse, ha.parse_eq]
      rfl
    have hsecond : lexicon.evaluate capacity b =
        TruthTable.ofFormula capacity (formula.rename r) := by
      rw [Lexicon.evaluate, Lexicon.parse, hb.parse_eq]
      rfl
    rw [hfirst, hsecond, ← Capacity.not_admits_iff, ← Capacity.admits_iff]
    exact TruthTable.ofFormula_rename hnames capacity

theorem outcomes_renamed_respelled :
    let table := Lexicon.standard.symbols
    let r := fun name => if name = "x" then "p'" else "q"
    table.Renames r "y -> (x & y)" "q=>\x7b p' AND q ]" ∧
      table.ParsesTo "q=>\x7b p' AND q ]"
        (.binary .implies (.var "q") (.binary .and (.var "p'") (.var "q"))) ["q", "p'"] ∧
      Lexicon.standard.evaluate ⟨1, (· ≤ 4)⟩ "q=>\x7b p' AND q ]" = .error (.tooManyVariables 2 1) ∧
      ∃ first second, Lexicon.standard.evaluate ⟨20, (· ≤ 4)⟩ "y -> (x & y)" = .ok first ∧
        Lexicon.standard.evaluate ⟨20, (· ≤ 4)⟩ "q=>\x7b p' AND q ]" = .ok second ∧
        List.Forall₂ Row.Agrees first.rows second.rows := by
  intro table r
  have hrenames : table.Renames r "y -> (x & y)" "q=>\x7b p' AND q ]" :=
    ⟨by decide +kernel, by decide +kernel⟩
  have hparse : table.ParsesTo "y -> (x & y)"
      (.binary .implies (.var "y") (.binary .and (.var "x") (.var "y"))) ["y", "x"] :=
    ⟨by decide +kernel, by decide +kernel⟩
  have htokens : (table.scan "y -> (x & y)").lexemes.map Lexeme.token =
      [.var "y", .symbol .implication, .symbol .leftParen, .var "x", .symbol .and, .var "y",
        .symbol .rightParen] := by
    decide +kernel
  have hr : Set.InjOn r {name | .var name ∈
      (table.scan "y -> (x & y)").lexemes.map Lexeme.token} := by
    rw [htokens]
    intro first hfirst second hsecond heq
    obtain rfl | rfl | rfl : first = "y" ∨ first = "x" ∨ first = "y" := by simpa using hfirst
    all_goals
      obtain rfl | rfl | rfl : second = "y" ∨ second = "x" ∨ second = "y" := by simpa using hsecond
      all_goals first | rfl | exact absurd heq (by decide)
  obtain ⟨fault, _, _, hfails, -⟩ | ⟨formula, vars, hfirst, hsecond, htables⟩ :=
    outcomes_renamed hrenames hr
  · rw [hparse.parse_eq] at hfails
    cases hfails
  · obtain rfl := Except.ok.inj (hparse.parse_eq.symm.trans hfirst.parse_eq)
    obtain rfl : vars = ["y", "x"] := by
      have hnoting := hfirst.noting_eq.symm.trans hparse.noting_eq
      exact (Prod.mk.inj (Except.ok.inj hnoting)).2
    refine ⟨hrenames, hsecond, ?_, ?_⟩
    · obtain ⟨-, -, hrefused⟩ | ⟨hfew, -⟩ := htables .standard ⟨1, (· ≤ 4)⟩ rfl
      · exact hrefused
      · exact absurd hfew (by decide)
    · obtain ⟨hmany, -⟩ | ⟨-, first, second, ha, hb, -, -, hrows, -⟩ :=
        htables .standard ⟨20, (· ≤ 4)⟩ rfl
      · exact absurd hmany (by decide)
      · exact ⟨first, second, ha, hb, hrows⟩

end SymbolTable

end BooleanTables
