import BooleanTables.Proofs.Parsing.Stack
import Mathlib.Data.Set.Subsingleton

/-!
# The grammar of formulas

The grammar has a layer for each connective, the loosest first, one for negation and one for terms.
A formula of one layer may stand in any looser one, and the right operand of a connective is of the
connective's own layer. A parse finds exactly the formulas that the grammar derives, and no tokens
have two of them.
-/

namespace BooleanTables

inductive Layer
  | connective (op : Connective)
  | negation
  | term
  deriving DecidableEq, Repr

namespace Layer

def loosest : Layer := .connective .equates

def rank : Layer → Nat
  | .connective op => op.rank
  | .negation => 6
  | .term => 7

theorem rank_le (layer : Layer) : layer.rank ≤ 7 := by
  cases layer with
  | connective op => exact Nat.le_trans op.rank_le_and (by decide)
  | negation => decide
  | term => decide

theorem rank_loosest_le (layer : Layer) : loosest.rank ≤ layer.rank := by
  cases layer with
  | connective op => exact op.rank_pos
  | negation => decide
  | term => decide

@[simp] theorem rank_connective (op : Connective) : (connective op).rank = op.rank := rfl

@[simp] theorem rank_negation : negation.rank = 6 := rfl

@[simp] theorem rank_term : term.rank = 7 := rfl

theorem rank_injective {a b : Layer} (h : a.rank = b.rank) : a = b := by
  have hlt (op : Connective) : op.rank < 6 := Nat.lt_succ_of_le op.rank_le_and
  cases a with
  | connective op =>
    cases b with
    | connective other => rw [Connective.rank_injective h]
    | _ => exact absurd h (by have := hlt op; simp; omega)
  | _ =>
    cases b with
    | connective other => exact absurd h (by have := hlt other; simp; omega)
    | _ => first | rfl | cases h

end Layer

/-- The layer of the operands to the left of a connective. -/
def Connective.tighter : Connective → Layer
  | .equates => .connective .implies
  | .implies => .connective .or
  | .or => .connective .xor
  | .xor => .connective .and
  | .and => .negation

@[simp] theorem Connective.rank_tighter (op : Connective) : op.tighter.rank = op.rank + 1 := by
  cases op <;> rfl

/-- The formulas that tokens spell in a layer of the grammar. -/
inductive Derives : Layer → List Token → Formula → Prop
  | binary {op : Connective} {before after : List Token} {left right : Formula} :
    Derives op.tighter before left → Derives (.connective op) after right →
      Derives (.connective op) (before ++ .symbol op.key :: after) (.binary op left right)
  | operand {op : Connective} {tokens : List Token} {formula : Formula} :
    Derives op.tighter tokens formula → Derives (.connective op) tokens formula
  | not {tokens : List Token} {formula : Formula} :
    Derives .negation tokens formula → Derives .negation (.symbol .not :: tokens) (.not formula)
  | term {tokens : List Token} {formula : Formula} :
    Derives .term tokens formula → Derives .negation tokens formula
  | litTrue : Derives .term [.symbol .litTrue] (.const true)
  | litFalse : Derives .term [.symbol .litFalse] (.const false)
  | var (name : String) : Derives .term [.var name] (.var name)
  | parens {tokens : List Token} {formula : Formula} :
    Derives .loosest tokens formula →
      Derives .term (.symbol .leftParen :: (tokens ++ [.symbol .rightParen])) formula

namespace Derives

theorem of_atom {token : Token} {formula : Formula} (h : token.atom? = some formula) :
    Derives .term [token] formula := by
  cases token with
  | var name => cases h; exact .var name
  | symbol key =>
    cases key <;> first
      | cases h; exact .litTrue
      | cases h; exact .litFalse
      | simp [Token.atom?] at h

theorem loosen {tight loose : Layer} {tokens : List Token} {formula : Formula}
    (h : Derives tight tokens formula) (hle : loose.rank ≤ tight.rank) :
    Derives loose tokens formula := by
  obtain ⟨n, hn⟩ := Nat.exists_eq_add_of_le hle
  induction n generalizing loose with
  | zero => rwa [← Layer.rank_injective hn]
  | succ n ih =>
    cases loose with
    | connective op =>
      have hr := op.rank_tighter
      simp only [Layer.rank_connective] at hn
      exact .operand (ih (by omega) (by omega))
    | negation =>
      simp only [Layer.rank_negation] at hn
      exact .term (ih (by simp; omega) (by simp; omega))
    | term =>
      have hr := tight.rank_le
      simp only [Layer.rank_term] at hn
      omega

end Derives

/-! ### What the grammar derives is parsed -/

namespace Layer

open ParseState

/-- The tokens take a parse from where an operand is needed to where the formula is complete,
perhaps not yet joined. -/
def Reads : Layer → List Token → Formula → Prop
  | .connective op, tokens, formula => ∀ frames, Settled op.rank frames →
    ∃ rest operand, (ParseState.needed frames).steps tokens = some (.complete rest operand) ∧
      ∀ rank, rank < op.rank → join rank rest operand = join rank frames formula
  | _, tokens, formula => ∀ frames,
    (ParseState.needed frames).steps tokens = some (ofOperand frames formula)

/-- Over settled frames a formula of the next tighter layer is read as one of the connective's
operands. -/
theorem Reads.operand {op : Connective} {tokens : List Token} {formula : Formula}
    (h : op.tighter.Reads tokens formula) {frames : List Frame} (hs : Settled op.rank frames) :
    ∃ rest operand, (ParseState.needed frames).steps tokens = some (.complete rest operand) ∧
      ∀ rank, rank ≤ op.rank → join rank rest operand = join rank frames formula := by
  have hconnective {inner : Connective} (hi : op.tighter = .connective inner) :
      ∃ rest operand, (ParseState.needed frames).steps tokens = some (.complete rest operand) ∧
        ∀ rank, rank ≤ op.rank → join rank rest operand = join rank frames formula := by
    have hr : inner.rank = op.rank + 1 := by rw [← op.rank_tighter, hi, Layer.rank]
    rw [hi] at h
    obtain ⟨rest, operand, hsteps, hjoin⟩ := h frames (hs.mono (by omega))
    exact ⟨rest, operand, hsteps, fun rank hle => hjoin rank (by omega)⟩
  cases op with
  | and => exact ⟨frames, formula, by rw [h frames, ofOperand_of_settled hs], fun _ _ => rfl⟩
  | _ => exact hconnective rfl

end Layer

namespace Derives

open ParseState

theorem reads {layer : Layer} {tokens : List Token} {formula : Formula}
    (h : Derives layer tokens formula) :
    layer.Reads tokens formula := by
  induction h with
  | @binary op before after left right _ _ ihl ihr =>
    intro frames hs
    obtain ⟨rest, operand, hsteps, hjoin⟩ := ihl.operand hs
    have hleft : join op.rank rest operand = (frames, left) := by
      rw [hjoin op.rank (Nat.le_refl _), join_of_settled hs]
    have hmove := step_eq_some_iff.2 (Move.connective hleft)
    obtain ⟨last, whole, hrest, hwhole⟩ := ihr (.left left op :: frames) (Nat.le_refl _)
    refine ⟨last, whole, ?_, fun rank hrank => ?_⟩
    · rw [steps_append, hsteps, Option.bind_some, steps_cons, hmove, Option.bind_some, hrest]
    · rw [hwhole rank hrank, join, if_pos hrank]
  | operand _ ih =>
    intro frames hs
    obtain ⟨rest, operand, hsteps, hjoin⟩ := ih.operand hs
    exact ⟨rest, operand, hsteps, fun rank hrank => hjoin rank (Nat.le_of_lt hrank)⟩
  | not _ ih => exact fun frames => ih (.negation :: frames)
  | term _ ih => exact ih
  | litTrue => exact fun _ => rfl
  | litFalse => exact fun _ => rfl
  | var name => exact fun _ => rfl
  | @parens tokens formula _ ih =>
    intro frames
    obtain ⟨rest, operand, hsteps, hjoin⟩ := ih (.paren :: frames) trivial
    have hmove := step_eq_some_iff.2 (Move.closing (hjoin 0 (Connective.rank_pos _)))
    have hopen := step_eq_some_iff.2 (@Move.opening frames)
    rw [steps_cons, hopen, Option.bind_some, steps_append, hsteps, Option.bind_some,
      steps_cons, hmove]
    rfl

end Derives

/-! ### What is parsed the grammar derives -/

/-- The tokens that frames stand for, the deepest frame first. -/
inductive Spelled : List Frame → List Token → Prop
  | nil : Spelled [] []
  | paren {frames : List Frame} {tokens : List Token} :
    Spelled frames tokens → Spelled (.paren :: frames) (tokens ++ [.symbol .leftParen])
  | negation {frames : List Frame} {tokens : List Token} :
    Spelled frames tokens → Spelled (.negation :: frames) (tokens ++ [.symbol .not])
  | left {frames : List Frame} {tokens before : List Token} {formula : Formula} {op : Connective} :
    Spelled frames tokens → Derives op.tighter before formula →
      Spelled (.left formula op :: frames) (tokens ++ (before ++ [.symbol op.key]))

namespace ParseState

def Spells : ParseState → List Token → Prop
  | .needed frames, tokens => Spelled frames tokens
  | .complete frames operand, tokens =>
    ∃ before after, tokens = before ++ after ∧ Spelled frames before ∧
      Derives .negation after operand

theorem spells_ofOperand {frames : List Frame} {before after : List Token} {operand : Formula}
    (hf : Spelled frames before) (hd : Derives .negation after operand) :
    (ofOperand frames operand).Spells (before ++ after) := by
  induction hf generalizing after operand with
  | nil => exact ⟨[], after, rfl, .nil, hd⟩
  | paren hf => exact ⟨_, after, rfl, .paren hf, hd⟩
  | negation _ ih =>
    have hn := ih (.not hd)
    rw [List.append_assoc]
    exact hn
  | left hf hl => exact ⟨_, after, rfl, .left hf hl, hd⟩

/-- Joining keeps the tokens, and what is joined is of a layer tighter than the rank. -/
theorem spelled_join {rank : Nat} {frames rest : List Frame} {before after : List Token}
    {layer : Layer} {operand joined : Formula} (hf : Spelled frames before)
    (hd : Derives layer after operand) (hrank : rank < layer.rank) (hs : Settled layer.rank frames)
    (ht : Stacked frames) (h : join rank frames operand = (rest, joined)) :
    ∃ front back inner, before ++ after = front ++ back ∧ Spelled rest front ∧
      Derives inner back joined ∧ rank < inner.rank := by
  induction hf generalizing layer after operand with
  | nil => cases h; exact ⟨[], after, layer, rfl, .nil, hd, hrank⟩
  | paren hf => cases h; exact ⟨_, after, layer, rfl, .paren hf, hd, hrank⟩
  | negation => exact hs.elim
  | @left frames tokens before formula op hf hl ih =>
    rw [join] at h
    split at h
    · next hlt =>
      have hwhole : Derives (.connective op) (before ++ .symbol op.key :: after)
          (.binary op formula operand) :=
        .binary hl (hd.loosen hs)
      obtain ⟨front, back, inner, happ, hfront, hback, hinner⟩ := ih hwhole hlt ht.1 ht.2 h
      exact ⟨front, back, inner, by simpa using happ, hfront, hback, hinner⟩
    · cases h
      exact ⟨_, after, layer, rfl, .left hf hl, hd, hrank⟩

theorem spells_join {rank : Nat} {frames rest : List Frame} {operand joined : Formula}
    {tokens : List Token} (hv : (complete frames operand).Valid)
    (hs : (complete frames operand).Spells tokens) (hrank : rank < 6)
    (h : join rank frames operand = (rest, joined)) :
    ∃ front back inner, tokens = front ++ back ∧ Spelled rest front ∧ Derives inner back joined ∧
      rank < inner.rank := by
  obtain ⟨before, after, rfl, hf, hd⟩ := hs
  exact spelled_join hf hd hrank (hv.1.mono (by decide)) hv.2 h

theorem Move.spells {state next : ParseState} {token : Token} {tokens : List Token}
    (h : Move state token next) (hv : state.Valid) (hs : state.Spells tokens) :
    next.Spells (tokens ++ [token]) := by
  cases h with
  | atom h => exact spells_ofOperand hs (.term (.of_atom h))
  | negation => exact .negation hs
  | opening => exact .paren hs
  | @connective frames rest operand joined op h =>
    have hrank : op.rank < 6 := Nat.lt_succ_of_le op.rank_le_and
    obtain ⟨front, back, inner, rfl, hf, hd, hi⟩ := spells_join hv hs hrank h
    rw [List.append_assoc]
    exact .left hf (hd.loosen (by rw [op.rank_tighter]; exact hi))
  | @closing frames rest operand joined h =>
    obtain ⟨front, back, inner, rfl, hf, hd, hi⟩ := spells_join hv hs (by decide) h
    cases hf with
    | paren hf =>
      have hparens := spells_ofOperand hf (.term (.parens (hd.loosen hi)))
      simpa using hparens

theorem steps_spells {state last : ParseState} {before after : List Token} (hv : state.Valid)
    (hs : state.Spells before) (h : state.steps after = some last) :
    last.Spells (before ++ after) := by
  induction after generalizing state before with
  | nil => cases h; simpa using hs
  | cons token tokens ih =>
    rw [steps_cons] at h
    obtain ⟨next, hstep, hrest⟩ := Option.bind_eq_some_iff.1 h
    have hmove := step_eq_some_iff.1 hstep
    have hlast := ih (hmove.valid hv) (hmove.spells hv hs) hrest
    simpa using hlast

theorem steps_formula?_iff_derives {tokens : List Token} {formula : Formula} :
    (∃ last, (ParseState.needed []).steps tokens = some last ∧ last.formula? = some formula) ↔
      Derives .loosest tokens formula := by
  constructor
  · rintro ⟨last, hsteps, hformula⟩
    obtain ⟨frames, operand, rfl, hjoin⟩ := formula?_eq_some_iff.1 hformula
    have hs := steps_spells valid_start .nil hsteps
    obtain ⟨front, back, inner, happ, hf, hd, hi⟩ :=
      spells_join (steps_valid valid_start hsteps) hs (by decide) hjoin
    cases hf
    have htokens : tokens = back := by simpa using happ
    exact htokens ▸ hd.loosen hi
  · intro h
    obtain ⟨rest, operand, hsteps, hjoin⟩ := h.reads [] trivial
    exact ⟨_, hsteps, formula?_eq_some_iff.2 ⟨rest, operand, rfl, hjoin 0 (Connective.rank_pos _)⟩⟩

end ParseState

theorem formula_eq_ok_iff {lexemes : List Lexeme} {formula : Formula} :
    Scan.formula ⟨lexemes, none⟩ = .ok formula ↔
    Derives .loosest (lexemes.map Lexeme.token) formula := by
  rw [Scan.formula, ParseState.run_eq_ok_iff, ParseState.steps_formula?_iff_derives]

/-- The tokens are parsed to the formula, wherever they stand in a text. -/
def Parses (tokens : List Token) (formula : Formula) : Prop :=
  ∀ lexemes : List Lexeme, lexemes.map Lexeme.token = tokens →
    Scan.formula ⟨lexemes, none⟩ = .ok formula

theorem parses_iff_derives {tokens : List Token} {formula : Formula} :
    Parses tokens formula ↔ Derives .loosest tokens formula := by
  constructor
  · intro h
    have htokens : (tokens.map fun token => (⟨0, token, 0⟩ : Lexeme)).map Lexeme.token =
        tokens := by
      simp [Function.comp_def]
    have hderives := formula_eq_ok_iff.1 (h _ htokens)
    rwa [htokens] at hderives
  · intro h lexemes htokens
    apply formula_eq_ok_iff.2
    rwa [htokens]

theorem Derives.parses {layer : Layer} {tokens : List Token} {formula : Formula}
    (h : Derives layer tokens formula) : Parses tokens formula :=
  parses_iff_derives.2 (h.loosen layer.rank_loosest_le)

/-- Without stray text a parse has a formula exactly where the grammar derives it from the tokens,
and the grammar is not ambiguous. -/
theorem formula_eq_ok_iff_derives (lexemes : List Lexeme) :
    (∀ formula, Scan.formula ⟨lexemes, none⟩ = .ok formula ↔
      Derives .loosest (lexemes.map Lexeme.token) formula) ∧
    {formula | Derives .loosest (lexemes.map Lexeme.token) formula}.Subsingleton := by
  have hiff (formula : Formula) : Scan.formula ⟨lexemes, none⟩ = .ok formula ↔
      Derives .loosest (lexemes.map Lexeme.token) formula := by
    rw [Scan.formula, ParseState.run_eq_ok_iff, ParseState.steps_formula?_iff_derives]
  refine ⟨hiff, fun a ha b hb => ?_⟩
  have hab := ((hiff a).2 ha).symm.trans ((hiff b).2 hb)
  exact Except.ok.inj hab

end BooleanTables
