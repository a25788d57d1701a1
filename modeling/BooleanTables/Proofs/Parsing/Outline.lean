import BooleanTables.Proofs.Parsing.Stack
import BooleanTables.Session.Evaluation

/-!
# The outline of a parse

Whether a text is a formula, and what is wrong where it is not, depends on two things only: whether
an operand is needed, and how many parentheses are open. The ranks of the connectives have no part
in it.
-/

namespace BooleanTables

namespace Terminal

def openings : List Terminal :=
  [.symbol .leftParen, .symbol .litFalse, .symbol .not, .symbol .litTrue, .var]

def connectives : List Terminal :=
  [.symbol .and, .symbol .equality, .symbol .implication, .symbol .or, .symbol .xor]

end Terminal

inductive Phase
  | needed
  | complete
  deriving DecidableEq, Repr

structure Outline where
  phase : Phase
  depth : Nat
  deriving DecidableEq, Repr

namespace Outline

def start : Outline := ⟨.needed, 0⟩

def step : Outline → Token → Option Outline
  | ⟨.needed, depth⟩, .symbol .not => some ⟨.needed, depth⟩
  | ⟨.needed, depth⟩, .symbol .leftParen => some ⟨.needed, depth + 1⟩
  | ⟨.needed, depth⟩, .symbol .litTrue => some ⟨.complete, depth⟩
  | ⟨.needed, depth⟩, .symbol .litFalse => some ⟨.complete, depth⟩
  | ⟨.needed, depth⟩, .var _ => some ⟨.complete, depth⟩
  | ⟨.complete, depth⟩, .symbol .and => some ⟨.needed, depth⟩
  | ⟨.complete, depth⟩, .symbol .xor => some ⟨.needed, depth⟩
  | ⟨.complete, depth⟩, .symbol .or => some ⟨.needed, depth⟩
  | ⟨.complete, depth⟩, .symbol .implication => some ⟨.needed, depth⟩
  | ⟨.complete, depth⟩, .symbol .equality => some ⟨.needed, depth⟩
  | ⟨.complete, depth + 1⟩, .symbol .rightParen => some ⟨.complete, depth⟩
  | _, _ => none

/-- What could stand in place of a token that fails, or of the end. -/
def expected : Outline → Option Token → List Terminal
  | ⟨.needed, _⟩, _ => Terminal.openings
  | ⟨.complete, _⟩, none => [.symbol .rightParen]
  | ⟨.complete, _⟩, some (.symbol .rightParen) => []
  | ⟨.complete, depth⟩, some _ =>
    if depth = 0 then Terminal.connectives else .symbol .rightParen :: Terminal.connectives

/-- The names of what could stand there, as a message lists them. -/
def hint : Outline → Option Token → List String
  | ⟨.needed, _⟩, _ => ["(", "false", "not", "true", "var"]
  | ⟨.complete, _⟩, none => [")"]
  | ⟨.complete, _⟩, some (.symbol .rightParen) => []
  | ⟨.complete, 0⟩, some _ => ["and", "equality", "implication", "or", "xor"]
  | ⟨.complete, _ + 1⟩, some _ => [")", "and", "equality", "implication", "or", "xor"]

/-- What becomes of the lexemes from an outline on. A lexeme that fails ends it even if stray text
follows; at the end all parentheses have to be closed. -/
def run (outline : Outline) (stop : Nat) (stray : Option Stray) : List Lexeme →
    Except ParseFault Unit
  | lexeme :: rest =>
    match outline.step lexeme.token with
    | some next => next.run lexeme.stop stray rest
    | none => .error ⟨lexeme.start, .unexpected lexeme.token (outline.expected lexeme.token)⟩
  | [] =>
    match stray with
    | some stray => .error ⟨stray.start, .unknown stray.text⟩
    | none =>
      if outline = ⟨.complete, 0⟩ then .ok ()
      else .error ⟨stop, .unexpected none (outline.expected none)⟩

theorem map_name_expected (outline : Outline) (token : Option Token) :
    (outline.expected token).map Terminal.name = outline.hint token := by
  obtain ⟨phase, depth⟩ := outline
  cases phase with
  | needed => rfl
  | complete =>
    match token with
    | none => rfl
    | some (.var _) => cases depth <;> rfl
    | some (.symbol key) => cases key <;> cases depth <;> rfl

end Outline

namespace ParseState

def outline : ParseState → Outline
  | .needed frames => ⟨.needed, frames.count .paren⟩
  | .complete frames _ => ⟨.complete, frames.count .paren⟩

@[simp] theorem outline_ofOperand (frames : List Frame) (operand : Formula) :
    (ofOperand frames operand).outline = ⟨.complete, frames.count .paren⟩ := by
  induction frames generalizing operand with
  | nil => rfl
  | cons frame frames ih =>
    cases frame with
    | paren => rfl
    | negation => exact (ih _).trans (by simp)
    | left a op => rfl

theorem outline_connective {frames : List Frame} {operand : Formula}
    (hv : (complete frames operand).Valid) (op : Connective) :
    ((complete frames operand).step (.symbol op.key)).map outline =
      some ⟨.needed, frames.count .paren⟩ := by
  have hmove := step_eq_some_iff.2 (@Move.connective frames _ operand _ op rfl)
  have hshape := @join_shape op.rank frames _ operand _ hv.1 hv.2 rfl
  rw [hmove]
  simpa [outline] using hshape.2.2

theorem outline_closing {frames : List Frame} {operand : Formula}
    (hv : (complete frames operand).Valid) :
    ((complete frames operand).step (.symbol .rightParen)).map outline =
      Outline.step ⟨.complete, frames.count .paren⟩ (.symbol .rightParen) := by
  rcases join_zero_cases hv.1 hv.2 operand with ⟨joined, hj, hcount⟩ | ⟨rest, joined, hj, hcount⟩
  · simp [step, hj, hcount, Outline.step]
  · rw [step_eq_some_iff.2 (Move.closing hj), hcount]
    simp [Outline.step]

theorem map_outline_step {state : ParseState} (hv : state.Valid) (token : Token) :
    (state.step token).map outline = state.outline.step token := by
  cases state with
  | needed frames =>
    cases token with
    | var name => exact congrArg some (outline_ofOperand frames _)
    | symbol key =>
      cases key with
      | litTrue => exact congrArg some (outline_ofOperand frames _)
      | litFalse => exact congrArg some (outline_ofOperand frames _)
      | not => simp [step, outline, Outline.step]
      | leftParen => simp [step, outline, Outline.step]
      | _ => rfl
  | complete frames operand =>
    cases token with
    | var name => rfl
    | symbol key =>
      cases key with
      | rightParen => exact outline_closing hv
      | and => exact outline_connective hv .and
      | or => exact outline_connective hv .or
      | xor => exact outline_connective hv .xor
      | implication => exact outline_connective hv .implies
      | equality => exact outline_connective hv .equates
      | _ => rfl

/-! ### Terminals that remain possible -/

theorem joinRank_le (token : Option Token) : joinRank token ≤ Connective.and.rank := by
  match token with
  | none => exact Nat.zero_le _
  | some (.var _) => exact Nat.le_refl _
  | some (.symbol key) => cases key <;> decide

/-- Joining operands changes the outline no more than the token does that forces it, so behind a
complete operand a terminal remains possible if it is in place and does not come too late. -/
theorem allows_complete {frames : List Frame} {operand : Formula}
    (hv : (complete frames operand).Valid) (token : Option Token) (terminal : Terminal) :
    (complete frames operand).allows token terminal =
      (decide (joinRank terminal.token ≤ joinRank token) &&
        (Outline.step ⟨.complete, frames.count .paren⟩ terminal.token).isSome) := by
  rw [allows]
  cases hj : join (joinRank token) frames operand with
  | mk rest joined =>
    obtain ⟨hsettled, hstacked, hcount⟩ := join_shape hv.1 hv.2 hj
    have hjoined : (complete rest joined).Valid := ⟨hsettled.mono (joinRank_le token), hstacked⟩
    have hstep := map_outline_step hjoined terminal.token
    rw [outline, hcount] at hstep
    rw [← hstep, Option.isSome_map]

/-- Where a token or the end fails, what could stand there depends on the outline alone. -/
theorem expected_eq_outline {state : ParseState} (hv : state.Valid) {token : Option Token}
    (htoken : ∀ next, token = some next → state.outline.step next = none)
    (hend : token = none → state.outline ≠ ⟨.complete, 0⟩) :
    state.expected token = state.outline.expected token := by
  cases state with
  | needed frames => rfl
  | complete frames operand =>
    rw [outline] at htoken hend ⊢
    rw [expected, List.filter_congr fun terminal _ => allows_complete hv token terminal]
    generalize frames.count .paren = depth at htoken hend
    match token with
    | none =>
      cases depth with
      | zero => exact absurd rfl (hend rfl)
      | succ depth => rfl
    | some (.var _) => cases depth <;> rfl
    | some (.symbol key) =>
      have hstep := htoken _ rfl
      cases key <;> cases depth <;> first | rfl | cases hstep

theorem isSome_formula?_iff {state : ParseState} (hv : state.Valid) :
    state.formula?.isSome ↔ state.outline = ⟨.complete, 0⟩ := by
  cases state with
  | needed frames => simp [formula?, outline]
  | complete frames operand =>
    rcases join_zero_cases hv.1 hv.2 operand with ⟨joined, hj, hcount⟩ | ⟨rest, joined, hj, hcount⟩
    · simp [formula?, outline, hj, hcount]
    · simp [formula?, outline, hj, hcount]

/-- A run of the parser is a run of its outline. -/
theorem map_run {state : ParseState} (hv : state.Valid) (stop : Nat) (stray : Option Stray)
    (lexemes : List Lexeme) :
    (state.run stop stray lexemes).map (fun _ => ()) = state.outline.run stop stray lexemes := by
  induction lexemes generalizing state stop with
  | nil =>
    cases stray with
    | some stray => rfl
    | none =>
      have hend := isSome_formula?_iff hv
      rw [run, Outline.run]
      cases hf : state.formula? with
      | some formula => rw [if_pos (hend.1 (by simp [hf]))]; rfl
      | none =>
        have hne : state.outline ≠ ⟨.complete, 0⟩ := fun he => by simp [hf] at hend; exact hend he
        rw [if_neg hne, expected_eq_outline hv (by simp) fun _ => hne]
        rfl
  | cons lexeme rest ih =>
    have hstep := map_outline_step hv lexeme.token
    rw [run, Outline.run]
    cases hs : state.step lexeme.token with
    | some next =>
      rw [hs, Option.map_some] at hstep
      rw [← hstep]
      exact ih ((step_eq_some_iff.1 hs).valid hv) lexeme.stop
    | none =>
      rw [hs, Option.map_none] at hstep
      have hfault : ∀ next, some lexeme.token = some next → state.outline.step next = none := by
        rintro next ⟨⟩
        exact hstep.symm
      rw [← hstep, expected_eq_outline hv hfault (by simp)]
      rfl

end ParseState

/-- Whether a text is parsed, and which fault is found first where it is not, is what the outline
says: an operand is needed or complete, and parentheses are counted. -/
theorem map_parse_eq_outline (table : SymbolTable) (input : String) :
    (Formula.parse table input).map (fun _ => ()) =
        Outline.start.run 0 (table.scan input).stray (table.scan input).lexemes ∧
      (table.parse input).map (fun _ => ()) =
        (Outline.start.run 0 (table.scan input).stray (table.scan input).lexemes).mapError
          (·.toError input) ∧
      ∀ (outline : Outline) (token : Option Token),
        (outline.expected token).map Terminal.name = outline.hint token := by
  have hrun := ParseState.map_run ParseState.valid_start 0 (table.scan input).stray
    (table.scan input).lexemes
  refine ⟨hrun, ?_, Outline.map_name_expected⟩
  rw [show Outline.start = (ParseState.needed []).outline from rfl, ← hrun, SymbolTable.parse,
    Formula.parse, Scan.formula]
  cases ParseState.run (.needed []) 0 (table.scan input).stray (table.scan input).lexemes <;> rfl

end BooleanTables
