import BooleanTables.Formula.Basic
import BooleanTables.Formula.Terminal
import BooleanTables.Token.Lexer

/-!
# Formulas of a text

The parser reads one token at a time and keeps what waits for an operand in a stack of frames.
Negation binds tightest, then `and`, `xor`, `or`, implication and equality, and every connective
groups to the right. All left parentheses are alike, and so are all right ones.
-/

namespace BooleanTables

open Text

/-- What a token has begun and a later token has to end. -/
inductive Frame
  | paren
  | negation
  | left (operand : Formula) (op : Connective)
  deriving DecidableEq, Repr

inductive ParseState
  | needed (frames : List Frame)
  | complete (frames : List Frame) (operand : Formula)
  deriving DecidableEq, Repr

inductive ParseFault.Cause
  | unknown (text : String)
  | unexpected (token : Option Token) (expected : List Terminal)
  deriving DecidableEq, Repr

/-- Why a text is no formula, and the byte offset of what is wrong. -/
structure ParseFault where
  offset : Nat
  cause : ParseFault.Cause
  deriving DecidableEq, Repr

namespace ParseFault

def Cause.message : Cause → String
  | .unknown text => "unknown token `" ++ text ++ "`"
  | .unexpected token expected =>
    "unexpected " ++ (token.elim "end of input" Token.text) ++
      if expected = [] then ""
      else ", expected one of " ++ ", ".intercalate (expected.map fun t => "\"" ++ t.name ++ "\"")

/-- The place of a fault in the text, counted in characters. -/
def position (fault : ParseFault) (input : String) : Nat := charsBefore input.toList fault.offset

end ParseFault

def Key.connective? : Key → Option Connective
  | .and => some .and
  | .or => some .or
  | .xor => some .xor
  | .implication => some .implies
  | .equality => some .equates
  | _ => none

namespace ParseState

/-- Negates a complete operand once for each negation that waits for it. -/
def ofOperand : List Frame → Formula → ParseState
  | .negation :: frames, operand => ofOperand frames (.not operand)
  | frames, operand => .complete frames operand

/-- Joins a complete operand with the left operands whose connective binds tighter than the rank. -/
def join (rank : Nat) : List Frame → Formula → List Frame × Formula
  | .left operand op :: frames, right =>
    if rank < op.rank then join rank frames (.binary op operand right)
    else (.left operand op :: frames, right)
  | frames, operand => (frames, operand)

/-- The state after a token, or `none` where the token is out of place. -/
def step : ParseState → Token → Option ParseState
  | .needed frames, .var name => some (ofOperand frames (.var name))
  | .needed frames, .symbol .litTrue => some (ofOperand frames (.const true))
  | .needed frames, .symbol .litFalse => some (ofOperand frames (.const false))
  | .needed frames, .symbol .not => some (.needed (.negation :: frames))
  | .needed frames, .symbol .leftParen => some (.needed (.paren :: frames))
  | .complete frames operand, .symbol .rightParen =>
    match join 0 frames operand with
    | (.paren :: frames, operand) => some (ofOperand frames operand)
    | _ => none
  | .complete frames operand, .symbol key =>
    key.connective?.map fun op =>
      let (frames, operand) := join op.rank frames operand
      .needed (.left operand op :: frames)
  | _, _ => none

/-- The formula that has been read, if it may end here. -/
def formula? : ParseState → Option Formula
  | .complete frames operand =>
    match join 0 frames operand with
    | ([], formula) => some formula
    | _ => none
  | .needed _ => none

/-- The rank up to which a token joins the operand before it. The end of the text joins all, as a
right parenthesis does; a token that begins an operand joins nothing. -/
def joinRank : Option Token → Nat
  | none => 0
  | some (.symbol .rightParen) => 0
  | some (.symbol key) => key.connective?.elim Connective.and.rank Connective.rank
  | some (.var _) => Connective.and.rank

/-- Whether a terminal is possible once the token has joined what it joins: a connective that binds
tighter than the token comes too late then. -/
def allows (token : Option Token) (terminal : Terminal) : ParseState → Bool
  | .needed frames => ((needed frames).step terminal.token).isSome
  | .complete frames operand =>
    let (frames, operand) := join (joinRank token) frames operand
    joinRank terminal.token ≤ joinRank token &&
      ((complete frames operand).step terminal.token).isSome

def expected (state : ParseState) (token : Option Token) : List Terminal :=
  Terminal.all.filter fun terminal => state.allows token terminal

/-- Reads the lexemes in turn; the first fault ends it. `stop` is where the last lexeme ended. -/
def run (state : ParseState) (stop : Nat) (stray : Option Stray) :
    List Lexeme → Except ParseFault Formula
  | lexeme :: rest =>
    match state.step lexeme.token with
    | some next => next.run lexeme.stop stray rest
    | none => .error ⟨lexeme.start, .unexpected lexeme.token (state.expected lexeme.token)⟩
  | [] =>
    match stray with
    | some stray => .error ⟨stray.start, .unknown stray.text⟩
    | none =>
      match state.formula? with
      | some formula => .ok formula
      | none => .error ⟨stop, .unexpected none (state.expected none)⟩

end ParseState

def Scan.formula (scan : Scan) : Except ParseFault Formula :=
  ParseState.run (.needed []) 0 scan.stray scan.lexemes

def Formula.parse (table : SymbolTable) (input : String) : Except ParseFault Formula :=
  (table.scan input).formula

end BooleanTables
