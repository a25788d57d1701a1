import BooleanTables.Proofs.Formula.Meaning
import BooleanTables.Proofs.Parsing.Grammar

/-!
# The variables of a parse

A parse may note the name of every variable that it takes in, unless it has noted it before. However
the connectives and the parentheses group the variables, it takes them in from left to right, so at
the end it has noted the variables of the formula, each of them once and in the order in which they
first appear.
-/

namespace BooleanTables

def Token.name? : Token → Option String
  | .var name => some name
  | .symbol _ => none

/-- The names that are noted after a token. -/
def Token.note (noted : List String) (token : Token) : List String :=
  match token.name? with
  | some name => if name ∈ noted then noted else noted ++ [name]
  | none => noted

/-- Reads the lexemes in turn, and notes the names of variables as it takes them in. -/
def ParseState.runNoting (state : ParseState) (noted : List String) (stop : Nat)
    (stray : Option Stray) :
    List Lexeme → Except ParseFault (Formula × List String)
  | lexeme :: rest =>
    match state.step lexeme.token with
    | some next => next.runNoting (lexeme.token.note noted) lexeme.stop stray rest
    | none => .error ⟨lexeme.start, .unexpected lexeme.token (state.expected lexeme.token)⟩
  | [] => (state.run stop stray []).map fun formula => (formula, noted)

/-- The formula of a text and the names that its parse has noted. -/
def Formula.parseNoting (table : SymbolTable)
    (input : String) : Except ParseFault (Formula × List String) :=
  ParseState.runNoting (.needed []) [] 0 (table.scan input).stray (table.scan input).lexemes

def Formula.Mentions (name : String) : Formula → Prop
  | .const _ => False
  | .var other => name = other
  | .not operand => operand.Mentions name
  | .binary _ left right => left.Mentions name ∨ right.Mentions name

theorem Formula.mem_names_iff {name : String} {formula : Formula} :
    name ∈ formula.names ↔ formula.Mentions name := by
  induction formula with
  | const value => simp [Mentions]
  | var other => simp [Mentions]
  | not operand ih => exact ih
  | binary op left right ihl ihr => rw [names_binary, List.mem_append, ihl, ihr, Mentions]

/-! ### Names in the order of the tokens -/

theorem Derives.filterMap_name? {layer : Layer} {tokens : List Token} {formula : Formula}
    (h : Derives layer tokens formula) : tokens.filterMap Token.name? = formula.names := by
  induction h with
  | @binary op before after left right _ _ ihl ihr =>
    rw [List.filterMap_append, List.filterMap_cons, ihl, ihr, Formula.names_binary]
    rfl
  | operand _ ih => exact ih
  | not _ ih => exact ih
  | term _ ih => exact ih
  | litTrue => rfl
  | litFalse => rfl
  | var name => rfl
  | @parens tokens formula _ ih =>
    change (tokens ++ [Token.symbol .rightParen]).filterMap Token.name? = _
    rw [List.filterMap_append, ih]
    exact List.append_nil _

theorem Derives.mem_names {layer : Layer} {tokens : List Token} {formula : Formula}
    (h : Derives layer tokens formula) {name : String} (hname : name ∈ formula.names) :
    .var name ∈ tokens := by
  rw [← h.filterMap_name?] at hname
  obtain ⟨token, hmem, htoken⟩ := List.mem_filterMap.1 hname
  cases token with
  | symbol key => cases htoken
  | var other =>
    cases htoken
    exact hmem

theorem foldl_note (noted : List String) (tokens : List Token) :
    tokens.foldl Token.note noted = (tokens.filterMap Token.name?).foldl
      (fun seen name => if name ∈ seen then seen else seen ++ [name]) noted := by
  induction tokens generalizing noted with
  | nil => rfl
  | cons token tokens ih =>
    rw [List.foldl_cons, ih]
    cases token <;> rfl

theorem idxOf_var_lt {tokens : List Token} {a b : String}
    (h : (tokens.filterMap Token.name?).idxOf a < (tokens.filterMap Token.name?).idxOf b) :
    tokens.idxOf (.var a) < tokens.idxOf (.var b) := by
  induction tokens with
  | nil => exact h
  | cons token tokens ih =>
    cases token with
    | symbol key =>
      rw [List.idxOf_cons_ne _ (by simp), List.idxOf_cons_ne _ (by simp)]
      exact Nat.succ_lt_succ (ih h)
    | var name =>
      change (name :: tokens.filterMap Token.name?).idxOf a <
        (name :: tokens.filterMap Token.name?).idxOf b at h
      have hb : name ≠ b := by
        rintro rfl
        rw [List.idxOf_cons_self] at h
        exact Nat.not_lt_zero _ h
      have hvarb : Token.var name ≠ .var b := by simpa using hb
      rw [List.idxOf_cons_ne _ hb] at h
      rw [List.idxOf_cons_ne _ hvarb]
      by_cases ha : name = a
      · subst ha
        rw [List.idxOf_cons_self]
        exact Nat.succ_pos _
      · have hvara : Token.var name ≠ .var a := by simpa using ha
        rw [List.idxOf_cons_ne _ ha] at h
        rw [List.idxOf_cons_ne _ hvara]
        exact Nat.succ_lt_succ (ih (Nat.lt_of_succ_lt_succ h))

/-! ### What a parse has noted -/

namespace ParseState

theorem runNoting_eq (state : ParseState) (noted : List String) (stop : Nat) (stray : Option Stray)
    (lexemes : List Lexeme) :
    state.runNoting noted stop stray lexemes = (state.run stop stray lexemes).map fun formula =>
      (formula, (lexemes.map Lexeme.token).foldl Token.note noted) := by
  induction lexemes generalizing state noted stop with
  | nil => rfl
  | cons lexeme rest ih =>
    unfold runNoting run
    cases state.step lexeme.token with
    | none => rfl
    | some next => exact ih next _ lexeme.stop

theorem run_stray_ne_ok {state : ParseState} {stop : Nat} {stray : Stray} {lexemes : List Lexeme}
    {formula : Formula} : state.run stop (some stray) lexemes ≠ .ok formula := by
  intro h
  induction lexemes generalizing state stop with
  | nil => cases h
  | cons lexeme rest ih =>
    unfold run at h
    cases hstep : state.step lexeme.token with
    | none => rw [hstep] at h; cases h
    | some next => rw [hstep] at h; exact ih h

end ParseState

namespace Formula

theorem derives_of_parse {table : SymbolTable} {input : String} {formula : Formula}
    (h : parse table input = .ok formula) :
    Derives .loosest ((table.scan input).lexemes.map Lexeme.token) formula := by
  cases hscan : table.scan input with
  | mk lexemes stray =>
    unfold parse at h
    rw [hscan] at h
    cases stray with
    | none => exact formula_eq_ok_iff.1 h
    | some stray => exact absurd h ParseState.run_stray_ne_ok

theorem parseNoting_eq (table : SymbolTable) (input : String) :
    parseNoting table input = (parse table input).map fun formula => (formula, formula.vars) := by
  have hnoting :=
    ParseState.runNoting_eq (.needed []) [] 0 (table.scan input).stray (table.scan input).lexemes
  change parseNoting table input = (parse table input).map _ at hnoting
  rw [hnoting]
  cases hparse : parse table input with
  | error fault => rfl
  | ok formula =>
    have hnames := (derives_of_parse hparse).filterMap_name?
    simp only [Except.map]
    rw [foldl_note, hnames]
    rfl

/-- The variables of a formula that is parsed are the names that the parse has noted. Every name in
the formula is one of them, no name is listed twice, and they are in the order in which they first
appear among the tokens, and at the leaves of the formula. -/
theorem parse_variables {table : SymbolTable} {input : String} {formula : Formula}
    (h : parse table input = .ok formula) :
    parseNoting table input = .ok (formula, formula.vars) ∧
      formula.vars.Nodup ∧
      (∀ name, name ∈ formula.vars ↔ formula.Mentions name) ∧
      (formula.vars.Pairwise fun a b =>
        ((table.scan input).lexemes.map Lexeme.token).idxOf (.var a) <
          ((table.scan input).lexemes.map Lexeme.token).idxOf (.var b)) ∧
      formula.vars.Pairwise fun a b => formula.names.idxOf a < formula.names.idxOf b := by
  have hnames := (derives_of_parse h).filterMap_name?
  have hleaves := pairwise_firstAppearances formula.names
  refine ⟨?_, formula.nodup_vars, ?_, ?_, hleaves⟩
  · rw [parseNoting_eq, h]
    rfl
  · intro name
    exact mem_vars.trans mem_names_iff
  · refine hleaves.imp ?_
    intro a b hlt
    apply idxOf_var_lt
    rwa [hnames]

theorem parse_variables_nested :
    ∃ formula, parse Lexicon.standard.symbols "(B -> (b or a)) = b and B" = .ok formula ∧
      formula.vars = ["B", "b", "a"] ∧
      parseNoting Lexicon.standard.symbols "(B -> (b or a)) = b and B" =
        .ok (formula, ["B", "b", "a"]) := by
  let formula : Formula := .binary .equates
    (.binary .implies (.var "B") (.binary .or (.var "b") (.var "a")))
    (.binary .and (.var "b") (.var "B"))
  have h : parse Lexicon.standard.symbols "(B -> (b or a)) = b and B" = .ok formula := by
    decide +kernel
  exact ⟨formula, h, by decide, (parse_variables h).1⟩

end Formula

end BooleanTables
