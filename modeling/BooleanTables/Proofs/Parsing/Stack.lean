import BooleanTables.Formula.Parser

/-!
# The stack of a parse

The frames of a parse keep a shape: no negation waits right below an operand that is complete or
joined, and the ranks of left operands grow towards the top. Every token keeps the shape, and
joining operands stops where the rank says and leaves the parentheses as they are.
-/

namespace BooleanTables

namespace Connective

def key : Connective → Key
  | .and => .and
  | .or => .or
  | .xor => .xor
  | .implies => .implication
  | .equates => .equality

theorem rank_le_and (op : Connective) : op.rank ≤ Connective.and.rank := by
  cases op <;> decide

end Connective

@[simp] theorem Key.connective?_key (op : Connective) : op.key.connective? = some op := by
  cases op <;> rfl

theorem Connective.key_injective {a b : Connective} (h : a.key = b.key) : a = b := by
  have hconnective := congrArg Key.connective? h
  simpa using hconnective

theorem Key.connective?_eq_some_iff {key : Key} {op : Connective} :
    key.connective? = some op ↔ key = op.key := by
  constructor
  · cases key <;> simp only [connective?, Option.some.injEq, reduceCtorEq, false_implies] <;>
      (rintro rfl; rfl)
  · rintro rfl
    exact connective?_key op

/-- The formula that a literal or a variable is by itself. -/
def Token.atom? : Token → Option Formula
  | .symbol .litTrue => some (.const true)
  | .symbol .litFalse => some (.const false)
  | .symbol _ => none
  | .var name => some (.var name)

namespace ParseState

/-- What a token does to a state. -/
inductive Move : ParseState → Token → ParseState → Prop
  | atom {frames : List Frame} {token : Token} {operand : Formula}
    (h : token.atom? = some operand) :
    Move (.needed frames) token (ofOperand frames operand)
  | negation {frames : List Frame} :
    Move (.needed frames) (.symbol .not) (.needed (.negation :: frames))
  | opening {frames : List Frame} :
    Move (.needed frames) (.symbol .leftParen) (.needed (.paren :: frames))
  | connective {frames rest : List Frame} {operand joined : Formula} {op : Connective}
    (h : join op.rank frames operand = (rest, joined)) :
    Move (.complete frames operand) (.symbol op.key) (.needed (.left joined op :: rest))
  | closing {frames rest : List Frame} {operand joined : Formula}
    (h : join 0 frames operand = (.paren :: rest, joined)) :
    Move (.complete frames operand) (.symbol .rightParen) (ofOperand rest joined)

theorem step_symbol_of_ne {key : Key} (h : key ≠ .rightParen) (frames : List Frame)
    (operand : Formula) :
    (complete frames operand).step (.symbol key) = key.connective?.map fun op =>
      .needed (.left (join op.rank frames operand).2 op :: (join op.rank frames operand).1) := by
  cases key <;> first | rfl | exact absurd rfl h

theorem move_of_step {state next : ParseState} {token : Token} (h : state.step token = some next) :
    Move state token next := by
  cases state with
  | needed frames =>
    cases token with
    | var name => cases h; exact .atom rfl
    | symbol key =>
      cases key <;> first
        | cases h; exact .atom rfl
        | cases h; exact .negation
        | cases h; exact .opening
        | simp [step] at h
  | complete frames operand =>
    cases token with
    | var name => simp [step] at h
    | symbol key =>
      by_cases hr : key = .rightParen
      · subst hr
        simp only [step] at h
        split at h
        · next hj => cases h; exact .closing hj
        · cases h
      · rw [step_symbol_of_ne hr, Option.map_eq_some_iff] at h
        obtain ⟨op, hop, rfl⟩ := h
        rw [Key.connective?_eq_some_iff.1 hop]
        exact .connective rfl

theorem Move.step_eq {state next : ParseState} {token : Token} (h : Move state token next) :
    state.step token = some next := by
  cases h with
  | @atom frames token operand h =>
    cases token with
    | var name => cases h; rfl
    | symbol key => cases key <;> first | (cases h; rfl) | simp [Token.atom?] at h
  | negation => rfl
  | opening => rfl
  | @connective frames rest operand joined op h =>
    have hne : op.key ≠ .rightParen := by cases op <;> decide
    rw [step_symbol_of_ne hne, Key.connective?_eq_some_iff.2 rfl, Option.map_some, h]
  | closing h => simp only [step]; rw [h]

theorem step_eq_some_iff {state next : ParseState} {token : Token} :
    state.step token = some next ↔ Move state token next :=
  ⟨move_of_step, Move.step_eq⟩

theorem formula?_eq_some_iff {state : ParseState} {formula : Formula} :
    state.formula? = some formula ↔
      ∃ frames operand, state = .complete frames operand ∧
        join 0 frames operand = ([], formula) := by
  constructor
  · intro h
    cases state with
    | needed frames => cases h
    | complete frames operand =>
      rw [formula?] at h
      split at h
      · next hj => cases h; exact ⟨frames, operand, rfl, hj⟩
      · cases h
  · rintro ⟨frames, operand, rfl, h⟩
    simp [formula?, h]

def steps (state : ParseState) (tokens : List Token) : Option ParseState := tokens.foldlM step state

@[simp] theorem steps_nil (state : ParseState) : state.steps [] = some state := rfl

theorem steps_cons (state : ParseState) (token : Token) (tokens : List Token) :
    state.steps (token :: tokens) = (state.step token).bind (·.steps tokens) :=
  List.foldlM_cons

theorem steps_append (state : ParseState) (before after : List Token) :
    state.steps (before ++ after) = (state.steps before).bind (·.steps after) :=
  List.foldlM_append

theorem run_eq_ok_iff {state : ParseState} {stop : Nat} {lexemes : List Lexeme}
    {formula : Formula} :
    state.run stop none lexemes = .ok formula ↔
      ∃ last, state.steps (lexemes.map Lexeme.token) = some last ∧
        last.formula? = some formula := by
  induction lexemes generalizing state stop with
  | nil =>
    rw [run]
    simp only [List.map_nil, steps_nil, Option.some.injEq, exists_eq_left']
    cases state.formula? <;> simp
  | cons lexeme rest ih =>
    rw [run, List.map_cons, steps_cons]
    cases state.step lexeme.token with
    | none => simp
    | some next => exact ih

/-! ### Shape -/

/-- Nothing on top of the frames is ready to take an operand whose connectives have at least the
rank. -/
def Settled (rank : Nat) : List Frame → Prop
  | .negation :: _ => False
  | .left _ op :: _ => op.rank ≤ rank
  | _ => True

theorem Settled.mono {low high : Nat} {frames : List Frame} (h : Settled low frames)
    (hle : low ≤ high) :
    Settled high frames := by
  match frames, h with
  | [], _ => trivial
  | .paren :: _, _ => trivial
  | .left _ _ :: _, h => exact Nat.le_trans h hle

/-- Every left operand was joined when its connective was read. -/
def Stacked : List Frame → Prop
  | [] => True
  | .left _ op :: rest => Settled op.rank rest ∧ Stacked rest
  | _ :: rest => Stacked rest

theorem join_of_settled {rank : Nat} {frames : List Frame} (h : Settled rank frames)
    (operand : Formula) :
    join rank frames operand = (frames, operand) := by
  match frames, h with
  | [], _ => rfl
  | .paren :: _, _ => rfl
  | .left _ op :: _, h => exact if_neg (Nat.not_lt.2 h)

theorem ofOperand_of_settled {rank : Nat} {frames : List Frame} (h : Settled rank frames)
    (operand : Formula) : ofOperand frames operand = .complete frames operand := by
  match frames, h with
  | [], _ => rfl
  | .paren :: _, _ => rfl
  | .left _ _ :: _, _ => rfl

/-- Joining stops at frames that are settled, and takes no parenthesis away. -/
theorem join_shape {rank : Nat} {frames rest : List Frame} {operand joined : Formula}
    (hs : Settled Connective.and.rank frames) (ht : Stacked frames)
    (h : join rank frames operand = (rest, joined)) :
    Settled rank rest ∧ Stacked rest ∧ rest.count .paren = frames.count .paren := by
  induction frames generalizing operand with
  | nil => cases h; exact ⟨trivial, trivial, rfl⟩
  | cons frame frames ih =>
    cases frame with
    | paren => cases h; exact ⟨trivial, ht, rfl⟩
    | negation => exact hs.elim
    | left a op =>
      rw [join] at h
      split at h
      · have hj := ih (ht.1.mono op.rank_le_and) ht.2 h
        exact ⟨hj.1, hj.2.1, by simpa using hj.2.2⟩
      · next hle =>
        cases h
        exact ⟨Nat.le_of_not_lt hle, ht, rfl⟩

/-- The shape that every state of a parse has. -/
def Valid : ParseState → Prop
  | .needed frames => Stacked frames
  | .complete frames _ => Settled Connective.and.rank frames ∧ Stacked frames

theorem valid_ofOperand {frames : List Frame} (h : Stacked frames) (operand : Formula) :
    (ofOperand frames operand).Valid := by
  induction frames generalizing operand with
  | nil => exact ⟨trivial, trivial⟩
  | cons frame frames ih =>
    cases frame with
    | paren => exact ⟨trivial, h⟩
    | negation => exact ih h _
    | left a op => exact ⟨op.rank_le_and, h⟩

theorem Move.valid {state next : ParseState} {token : Token} (h : Move state token next)
    (hv : state.Valid) : next.Valid := by
  cases h with
  | atom => exact valid_ofOperand hv _
  | negation => exact hv
  | opening => exact hv
  | connective h =>
    have hj := join_shape hv.1 hv.2 h
    exact ⟨hj.1, hj.2.1⟩
  | @closing frames rest operand joined h =>
    have hj : Stacked rest := (join_shape hv.1 hv.2 h).2.1
    exact valid_ofOperand hj _

theorem steps_valid {state last : ParseState} {tokens : List Token} (hv : state.Valid)
    (h : state.steps tokens = some last) : last.Valid := by
  induction tokens generalizing state with
  | nil => cases h; exact hv
  | cons token tokens ih =>
    rw [steps_cons] at h
    obtain ⟨next, hstep, hrest⟩ := Option.bind_eq_some_iff.1 h
    exact ih ((step_eq_some_iff.1 hstep).valid hv) hrest

theorem valid_start : (ParseState.needed []).Valid := trivial

/-- Where all operands are joined, what is left on top is an open parenthesis or nothing. -/
theorem join_zero_cases {frames : List Frame} (hs : Settled Connective.and.rank frames)
    (ht : Stacked frames) (operand : Formula) :
    (∃ joined, join 0 frames operand = ([], joined) ∧ frames.count .paren = 0) ∨
      ∃ rest joined, join 0 frames operand = (.paren :: rest, joined) ∧
        frames.count .paren = rest.count .paren + 1 := by
  cases hj : join 0 frames operand with
  | mk rest joined =>
    obtain ⟨hsettled, -, hcount⟩ := join_shape hs ht hj
    match rest, hsettled with
    | [], _ => exact .inl ⟨joined, rfl, hcount.symm⟩
    | .paren :: rest, _ => exact .inr ⟨rest, joined, rfl, by simp [← hcount]⟩
    | .left _ op :: _, hle => exact absurd hle (Nat.not_le.2 op.rank_pos)

end ParseState

end BooleanTables
