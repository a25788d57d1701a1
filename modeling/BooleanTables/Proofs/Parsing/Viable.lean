import BooleanTables.Proofs.Parsing.Outline
import BooleanTables.Proofs.Parsing.Roots
import Mathlib.Data.List.Induction

/-!
# Viable tokens

Tokens are viable if more of them can make them a formula. A parse goes on as long as the tokens are
viable, and where it stops, it names what could have stood there: every terminal that it names keeps
the tokens viable, and so does no other one, but for two places behind a complete operand.
-/

namespace BooleanTables

def Accepted (tokens : List Token) : Prop := ∃ formula, Parses tokens formula

/-- The tokens can be completed. -/
def Viable (tokens : List Token) : Prop := ∃ more, Accepted (tokens ++ more)

def EndsOperand (tokens : List Token) : Prop :=
  ∃ token ∈ tokens.getLast?, token = .symbol .rightParen ∨ ∃ formula, token.atom? = some formula

namespace Outline

def steps (outline : Outline) (tokens : List Token) : Option Outline := tokens.foldlM step outline

theorem steps_cons (outline : Outline) (token : Token) (tokens : List Token) :
    outline.steps (token :: tokens) = (outline.step token).bind (·.steps tokens) :=
  List.foldlM_cons

theorem steps_append (outline : Outline) (before after : List Token) :
    outline.steps (before ++ after) = (outline.steps before).bind (·.steps after) :=
  List.foldlM_append

theorem steps_concat {outline last : Outline} {before : List Token}
    (h : outline.steps before = some last) (token : Token) :
    outline.steps (before ++ [token]) = last.step token := by
  rw [steps_append, h, Option.bind_some, steps_cons]
  exact Option.bind_fun_some _

end Outline

namespace ParseState

theorem map_outline_steps {state : ParseState} (hv : state.Valid) (tokens : List Token) :
    (state.steps tokens).map outline = state.outline.steps tokens := by
  induction tokens generalizing state with
  | nil => rfl
  | cons token tokens ih =>
    have hstep := map_outline_step hv token
    rw [steps_cons, Outline.steps_cons, ← hstep]
    cases hs : state.step token with
    | none => rfl
    | some next => exact ih ((step_eq_some_iff.1 hs).valid hv)

end ParseState

theorem accepted_iff {tokens : List Token} :
    Accepted tokens ↔ Outline.start.steps tokens = some ⟨.complete, 0⟩ := by
  have houtline := ParseState.map_outline_steps ParseState.valid_start tokens
  change _ = Outline.start.steps tokens at houtline
  constructor
  · rintro ⟨formula, hparses⟩
    obtain ⟨last, hsteps, hformula⟩ :=
      ParseState.steps_formula?_iff_derives.2 (parses_iff_derives.1 hparses)
    have hv := ParseState.steps_valid ParseState.valid_start hsteps
    have hend := (ParseState.isSome_formula?_iff hv).1 (Option.isSome_of_eq_some hformula)
    rw [← houtline, hsteps, Option.map_some, hend]
  · intro h
    rw [h] at houtline
    obtain ⟨last, hsteps, hlast⟩ := Option.map_eq_some_iff.1 houtline
    have hv := ParseState.steps_valid ParseState.valid_start hsteps
    obtain ⟨formula, hformula⟩ :=
      Option.isSome_iff_exists.1 ((ParseState.isSome_formula?_iff hv).2 hlast)
    exact ⟨formula,
      parses_iff_derives.2 (ParseState.steps_formula?_iff_derives.1 ⟨last, hsteps, hformula⟩)⟩

namespace Outline

/-! ### Going on -/

/-- Tokens that complete whatever has the outline. -/
def closing : Outline → List Token
  | ⟨.needed, depth⟩ => .symbol .litTrue :: List.replicate depth (.symbol .rightParen)
  | ⟨.complete, depth⟩ => List.replicate depth (.symbol .rightParen)

theorem steps_closing (outline : Outline) :
    outline.steps outline.closing = some ⟨.complete, 0⟩ := by
  have hparens (depth : Nat) :
      steps ⟨.complete, depth⟩ (List.replicate depth (.symbol .rightParen)) =
        some ⟨.complete, 0⟩ := by
    induction depth with
    | zero => rfl
    | succ depth ih => exact ih
  obtain ⟨phase, depth⟩ := outline
  cases phase with
  | needed => exact hparens depth
  | complete => exact hparens depth

def continuations : Outline → List Terminal
  | ⟨.needed, _⟩ => Terminal.openings
  | ⟨.complete, 0⟩ => Terminal.connectives
  | ⟨.complete, _ + 1⟩ => .symbol .rightParen :: Terminal.connectives

theorem isSome_step_iff (outline : Outline) (token : Token) :
    (outline.step token).isSome ↔ token.terminal ∈ outline.continuations := by
  obtain ⟨phase, depth⟩ := outline
  cases phase with
  | needed =>
    cases token with
    | var name => simp [step, continuations, Token.terminal, Terminal.openings]
    | symbol key => cases key <;> simp [step, continuations, Token.terminal, Terminal.openings]
  | complete =>
    cases token with
    | var name => cases depth <;> simp [step, continuations, Token.terminal, Terminal.connectives]
    | symbol key =>
      cases key <;> cases depth <;> simp [step, continuations, Token.terminal, Terminal.connectives]

/-- What a fault names are all terminals that are in place, but behind a complete operand nothing
for a right parenthesis and only that for the end. -/
theorem expected_cases (outline : Outline) (token : Option Token) :
    outline.expected token = outline.continuations ∨
      (outline.phase = .complete ∧ token = some (.symbol .rightParen) ∧
        outline.expected token = []) ∨
      (outline.phase = .complete ∧ token = none ∧
        outline.expected token = [.symbol .rightParen]) := by
  obtain ⟨phase, depth⟩ := outline
  cases phase with
  | needed => exact .inl rfl
  | complete =>
    match token with
    | none => exact .inr (.inr ⟨rfl, rfl, rfl⟩)
    | some (.var name) => cases depth <;> exact .inl rfl
    | some (.symbol key) =>
      cases key with
      | rightParen => exact .inr (.inl ⟨rfl, rfl, rfl⟩)
      | _ => cases depth <;> exact .inl rfl

theorem step_shape {outline next : Outline} {token : Token} (h : outline.step token = some next) :
    (next.depth : Int) = outline.depth + parenDepth [token] ∧
      (next.phase = .complete ↔ token = .symbol .rightParen ∨
        ∃ formula, token.atom? = some formula) := by
  obtain ⟨phase, depth⟩ := outline
  cases phase with
  | needed =>
    cases token with
    | var name => cases h; simp [parenDepth, Token.atom?]
    | symbol key => cases key <;> cases h <;> simp [parenDepth, Token.atom?]
  | complete =>
    cases token with
    | var name => cases h
    | symbol key =>
      cases key with
      | rightParen =>
        cases depth with
        | zero => cases h
        | succ depth =>
          cases h
          refine ⟨?_, by simp⟩
          change (depth : Int) = ((depth + 1 : Nat) : Int) + parenDepth [.symbol .rightParen]
          rw [parenDepth_rightParen]
          omega
      | _ => cases depth <;> cases h <;> simp [parenDepth, Token.atom?]

theorem shape_of_steps {tokens : List Token} {outline : Outline}
    (h : start.steps tokens = some outline) :
    parenDepth tokens = outline.depth ∧ (EndsOperand tokens ↔ outline.phase = .complete) := by
  induction tokens using List.reverseRecOn generalizing outline with
  | nil =>
    cases h
    simp [start, EndsOperand]
  | append_singleton before token ih =>
    have hsteps := h
    rw [steps_append] at hsteps
    obtain ⟨last, hbefore, -⟩ := Option.bind_eq_some_iff.1 hsteps
    rw [steps_concat hbefore] at h
    obtain ⟨hdepth, hphase⟩ := step_shape h
    constructor
    · rw [parenDepth_append, (ih hbefore).1, hdepth]
    · rw [hphase]
      simp [EndsOperand]

theorem viable_iff {tokens : List Token} :
    Viable tokens ↔ ∃ outline, start.steps tokens = some outline := by
  constructor
  · rintro ⟨more, hmore⟩
    have hsteps := accepted_iff.1 hmore
    rw [steps_append] at hsteps
    obtain ⟨outline, houtline, -⟩ := Option.bind_eq_some_iff.1 hsteps
    exact ⟨outline, houtline⟩
  · rintro ⟨outline, houtline⟩
    refine ⟨outline.closing, accepted_iff.2 ?_⟩
    rw [steps_append, houtline]
    exact outline.steps_closing

theorem viable_concat_iff {before : List Token} {last : Outline}
    (h : start.steps before = some last) (token : Token) :
    Viable (before ++ [token]) ↔ token.terminal ∈ last.continuations := by
  rw [viable_iff, steps_concat h, ← isSome_step_iff, Option.isSome_iff_exists]

end Outline

/-! ### Where a parse stops -/

/-- A right parenthesis stands behind a complete operand, and none is open. -/
def Unmatched (before : List Token) (token : Option Token) : Prop :=
  EndsOperand before ∧ token = some (.symbol .rightParen) ∧ parenDepth before = 0

/-- The end comes behind a complete operand, and parentheses are open. -/
def Unclosed (before : List Token) (token : Option Token) : Prop :=
  EndsOperand before ∧ token = none ∧ 0 < parenDepth before

/-- The tokens before a fault are viable, but not with the next one, or at the end no formula. What
could stand there is what the fault names, except where a right parenthesis is unmatched or a left
one unclosed. -/
structure Hints (before : List Token) (token : Option Token) (expected : List Terminal) : Prop where
  viable : Viable before
  not_viable : ∀ next, token = some next → ¬ Viable (before ++ [next])
  not_accepted : token = none → ¬ Accepted before
  sound : ∀ other : Token, other.terminal ∈ expected → Viable (before ++ [other])
  complete : ¬ Unmatched before token → ¬ Unclosed before token →
    ∀ other : Token, Viable (before ++ [other]) → other.terminal ∈ expected
  unmatched : Unmatched before token → expected = []
  unclosed : Unclosed before token → expected = [.symbol .rightParen]

namespace Outline

theorem depth_eq_of_step_eq_none {outline : Outline} (hp : outline.phase = .complete)
    (h : outline.step (.symbol .rightParen) = none) : outline.depth = 0 := by
  obtain ⟨phase, depth⟩ := outline
  cases hp
  cases depth with
  | zero => rfl
  | succ depth => cases h

theorem rightParen_mem_continuations {outline : Outline} (hp : outline.phase = .complete)
    (hne : outline ≠ ⟨.complete, 0⟩) :
    0 < outline.depth ∧ .symbol .rightParen ∈ outline.continuations := by
  obtain ⟨phase, depth⟩ := outline
  cases hp
  cases depth with
  | zero => exact absurd rfl hne
  | succ depth => exact ⟨Nat.succ_pos depth, List.mem_cons_self⟩

theorem hints {before : List Token} {token : Option Token} {last : Outline}
    (h : start.steps before = some last)
    (htoken : ∀ next, token = some next → last.step next = none)
    (hend : token = none → last ≠ ⟨.complete, 0⟩) : Hints before token (last.expected token) := by
  obtain ⟨hdepth, hphase⟩ := shape_of_steps h
  constructor
  case viable => exact viable_iff.2 ⟨last, h⟩
  case not_viable =>
    rintro next rfl hviable
    rw [viable_iff, steps_concat h, htoken next rfl] at hviable
    simp at hviable
  case not_accepted =>
    intro hnone haccepted
    rw [accepted_iff, h] at haccepted
    exact hend hnone (Option.some.inj haccepted)
  case sound =>
    intro other hmem
    apply (viable_concat_iff h other).2
    rcases last.expected_cases token with heq | ⟨-, -, heq⟩ | ⟨hp, hnone, heq⟩
    · rwa [heq] at hmem
    · rw [heq] at hmem
      cases hmem
    · rw [heq, List.mem_singleton] at hmem
      rw [hmem]
      exact (rightParen_mem_continuations hp (hend hnone)).2
  case complete =>
    intro hmatched hclosed other hviable
    rcases last.expected_cases token with heq | ⟨hp, hright, -⟩ | ⟨hp, hnone, -⟩
    · rw [heq]
      exact (viable_concat_iff h other).1 hviable
    · have hzero := depth_eq_of_step_eq_none hp (htoken _ hright)
      exact absurd ⟨hphase.2 hp, hright, by omega⟩ hmatched
    · have hpos := (rightParen_mem_continuations hp (hend hnone)).1
      exact absurd ⟨hphase.2 hp, hnone, by omega⟩ hclosed
  case unmatched =>
    rintro ⟨hends, rfl, -⟩
    obtain ⟨phase, depth⟩ := last
    cases hphase.1 hends
    rfl
  case unclosed =>
    rintro ⟨hends, rfl, -⟩
    obtain ⟨phase, depth⟩ := last
    cases hphase.1 hends
    rfl

end Outline

/-- The lexemes before a fault, and from it on: the first of these starts at the offset and is the
token that the fault names, or there are none and the text has come to its end. -/
structure FaultPlace (scan : Scan) (before rest : List Lexeme) (offset : Nat)
    (token : Option Token) : Prop where
  lexemes_eq : scan.lexemes = before ++ rest
  start_eq : ∀ lexeme ∈ rest.head?, lexeme.start = offset
  token_eq : rest.head?.map Lexeme.token = token
  stray_eq : token = none → scan.stray = none

/-- A run with an unexpected token, or an unexpected end, has stopped there and not before. -/
theorem Outline.exists_faultPlace {outline : Outline} {stop : Nat} {scan : Scan} {offset : Nat}
    {token : Option Token} {expected : List Terminal}
    (h : outline.run stop scan.stray scan.lexemes = .error ⟨offset, .unexpected token expected⟩) :
    ∃ before rest last, FaultPlace scan before rest offset token ∧
      outline.steps (before.map Lexeme.token) = some last ∧ last.expected token = expected ∧
      (∀ next, token = some next → last.step next = none) ∧
      (token = none → last ≠ ⟨.complete, 0⟩) := by
  obtain ⟨lexemes, stray⟩ := scan
  induction lexemes generalizing outline stop with
  | nil =>
    cases stray with
    | some stray => cases h
    | none =>
      by_cases hend : outline = ⟨.complete, 0⟩
      · rw [run, if_pos hend] at h
        cases h
      · rw [run, if_neg hend] at h
        cases h
        exact ⟨[], [], outline, ⟨rfl, by simp, rfl, fun _ => rfl⟩, rfl, rfl, by simp, fun _ => hend⟩
  | cons lexeme lexemes ih =>
    cases hstep : outline.step lexeme.token with
    | none =>
      rw [run, hstep] at h
      cases h
      refine ⟨[], lexeme :: lexemes, outline, ⟨rfl, by simp, rfl, by simp⟩, rfl, rfl, ?_, by simp⟩
      intro next hnext
      rwa [← Option.some.inj hnext]
    | some next =>
      rw [run, hstep] at h
      obtain ⟨before, rest, last, hplace, hsteps, hlast⟩ := ih h
      refine ⟨lexeme :: before, rest, last,
        ⟨?_, hplace.start_eq, hplace.token_eq, hplace.stray_eq⟩, ?_, hlast⟩
      · rw [List.cons_append, ← hplace.lexemes_eq]
      · rw [List.map_cons, steps_cons, hstep]
        exact hsteps

/-- A parse with an unexpected token, or an unexpected end, has read what can be completed, and
cannot go on; what it names are the terminals with which it could. -/
theorem Formula.hints_of_parse {table : SymbolTable} {input : String} {offset : Nat}
    {token : Option Token} {expected : List Terminal}
    (h : parse table input = .error ⟨offset, .unexpected token expected⟩) :
    ∃ before rest, FaultPlace (table.scan input) before rest offset token ∧
      Hints (before.map Lexeme.token) token expected := by
  have hrun := ParseState.map_run ParseState.valid_start 0 (table.scan input).stray
    (table.scan input).lexemes
  change (parse table input).map _ = Outline.start.run _ _ _ at hrun
  rw [h] at hrun
  obtain ⟨before, rest, last, hplace, hsteps, rfl, htoken, hend⟩ :=
    Outline.exists_faultPlace hrun.symm
  exact ⟨before, rest, hplace, Outline.hints hsteps htoken hend⟩

theorem Formula.hints_of_parse_unclosed :
    parse Lexicon.standard.symbols "a & (b -> !c" =
      .error ⟨12, .unexpected none [.symbol .rightParen]⟩ ∧
      ∃ before rest, FaultPlace (Lexicon.standard.symbols.scan "a & (b -> !c") before rest 12 none ∧
        Hints (before.map Lexeme.token) none [.symbol .rightParen] := by
  have h : parse Lexicon.standard.symbols "a & (b -> !c" =
      .error ⟨12, .unexpected none [.symbol .rightParen]⟩ := by decide +kernel
  exact ⟨h, hints_of_parse h⟩

/-- Where an operand is needed, something can stand in place of a right parenthesis even if none is
open. -/
theorem Formula.expected_ne_nil_of_rightParen :
    ¬ ∀ (table : SymbolTable) (input : String) (offset : Nat) (token : Option Token)
        (expected : List Terminal) (before rest : List Lexeme),
      parse table input = .error ⟨offset, .unexpected token expected⟩ →
      FaultPlace (table.scan input) before rest offset token → token = some (.symbol .rightParen) →
        parenDepth (before.map Lexeme.token) = 0 → expected = [] := by
  intro h
  have hparse : parse Lexicon.standard.symbols ")" =
      .error ⟨0, .unexpected (some (.symbol .rightParen)) Terminal.openings⟩ := by decide +kernel
  have hscan : Lexicon.standard.symbols.scan ")" = ⟨[⟨0, .symbol .rightParen, 1⟩], none⟩ := by
    decide +kernel
  have hplace : FaultPlace (Lexicon.standard.symbols.scan ")") [] [⟨0, .symbol .rightParen, 1⟩] 0
      (some (.symbol .rightParen)) := by
    rw [hscan]
    exact ⟨rfl, by simp, rfl, fun _ => rfl⟩
  have hnil := h _ _ _ _ _ _ _ hparse hplace rfl rfl
  cases hnil

end BooleanTables
