import BooleanTables.Proofs.Table.Rows
import BooleanTables.Session.Memory
import Mathlib.Data.Finset.Card

/-!
# Outcomes of an evaluation

An evaluation fails as the parse of its text does, or else because the formula has too many
different names for the limit or for the memory, and otherwise there is a table: every row gives
each name of the formula a value. All that start from an evaluation fail where it does, and only the
renderer adds errors of its own.
-/

namespace BooleanTables

theorem Formula.length_vars (formula : Formula) :
    formula.vars.length = formula.names.toFinset.card := by
  have hnames : formula.vars.toFinset = formula.names.toFinset := by
    ext name
    rw [List.mem_toFinset, List.mem_toFinset, mem_vars]
  rw [← hnames, List.toFinset_card_of_nodup formula.nodup_vars]

namespace Lexicon

theorem parse_eq_error {lexicon : Lexicon} {input : String} {e : Error}
    (h : lexicon.parse input = .error e) :
    ∃ position detail, e = .parse position detail := by
  rw [parse, SymbolTable.parse] at h
  split at h
  · cases h
  · next fault _ =>
    cases h
    exact ⟨fault.position input, fault.cause.message, rfl⟩

theorem evaluate_of_parse_error {lexicon : Lexicon} {input : String} {e : Error}
    (h : lexicon.parse input = .error e) (capacity : Capacity) :
    lexicon.evaluate capacity input = .error e := by
  rw [evaluate, h]
  rfl

theorem evaluate_of_parse_ok {lexicon : Lexicon} {input : String} {formula : Formula}
    (h : lexicon.parse input = .ok formula) (capacity : Capacity) :
    lexicon.evaluate capacity input =
      if capacity.Admits formula.names.toFinset.card then .ok (.complete formula)
      else .error (.tooManyVariables formula.names.toFinset.card capacity.limit) := by
  rw [evaluate, h, ← formula.length_vars, ← TruthTable.ofFormula_eq]
  rfl

theorem evaluate_eq_error_iff {lexicon : Lexicon} {capacity : Capacity} {input : String}
    {e : Error} :
    lexicon.evaluate capacity input = .error e ↔
      (∃ position detail, e = .parse position detail ∧ lexicon.parse input = .error e) ∨
      ∃ formula, lexicon.parse input = .ok formula ∧
        ¬ capacity.Admits formula.names.toFinset.card ∧
        e = .tooManyVariables formula.names.toFinset.card capacity.limit := by
  cases hp : lexicon.parse input with
  | error fault =>
    obtain ⟨position, detail, rfl⟩ := parse_eq_error hp
    rw [evaluate_of_parse_error hp]
    constructor
    · intro he
      cases he
      exact .inl ⟨position, detail, rfl, rfl⟩
    · rintro (⟨_, _, -, he⟩ | ⟨_, hok, -⟩)
      · cases he
        rfl
      · cases hok
  | ok formula =>
    rw [evaluate_of_parse_ok hp]
    constructor
    · intro he
      split at he
      · cases he
      · next hcount =>
        cases he
        exact .inr ⟨formula, rfl, hcount, rfl⟩
    · rintro (⟨_, _, -, hfault⟩ | ⟨_, hok, hcount, rfl⟩)
      · cases hfault
      · cases hok
        rw [if_neg hcount]

theorem evaluate_eq_ok_iff {lexicon : Lexicon} {capacity : Capacity} {input : String}
    {table : TruthTable} :
    lexicon.evaluate capacity input = .ok table ↔
      ∃ formula, lexicon.parse input = .ok formula ∧
        capacity.Admits formula.names.toFinset.card ∧ table = .complete formula := by
  constructor
  · intro ht
    obtain ⟨formula, hp, rfl⟩ := evaluate_eq_ok ht
    rw [evaluate_of_parse_ok hp] at ht
    split at ht
    · next hcount => exact ⟨formula, hp, hcount, rfl⟩
    · cases ht
  · rintro ⟨formula, hp, hcount, rfl⟩
    rw [evaluate_of_parse_ok hp, if_pos hcount]

theorem evaluateRows_eq_error_iff {lexicon : Lexicon} {capacity : Capacity} {input : String}
    {value : Bool} {e : Error} :
    lexicon.evaluateRows capacity input value = .error e ↔
      lexicon.evaluate capacity input = .error e := by
  rw [evaluateRows]
  cases lexicon.evaluate capacity input with
  | error fault =>
    change (Except.error fault : Except Error (List Row)) = .error e ↔ _
    rw [Except.error.injEq, Except.error.injEq]
  | ok table => exact iff_of_false (by rintro ⟨⟩) (by rintro ⟨⟩)

end Lexicon

variable {σ : Type}

theorem Session.render_eq_error_iff {session : Session σ} {selection : Selection} {input : String}
    {lexicon : Lexicon} {host : σ} {e : Error} :
    (session.render selection input lexicon host).result = .error e ↔
      lexicon.evaluate (session.capacity host) input = .error e ∨
      ∃ table, lexicon.evaluate (session.capacity host) input = .ok table ∧
        (session.renderer.render table selection host).1 = .error e := by
  rw [render]
  cases lexicon.evaluate (session.capacity host) input with
  | error fault => simp
  | ok table => simp

/-- There is memory for every table within the limit. -/
def Capacity.Suffices (capacity : Capacity) : Prop :=
  ∀ count ≤ min capacity.maxVariables 24, capacity.reserves (2 ^ count)

instance (capacity : Capacity) : Decidable capacity.Suffices :=
  inferInstanceAs (Decidable (∀ count ≤ _, _))

theorem Capacity.Suffices.admits_iff {capacity : Capacity} (h : capacity.Suffices) {count : Nat} :
    capacity.Admits count ↔ count ≤ min capacity.maxVariables 24 := by
  rw [Capacity.admits_iff]
  exact and_iff_left_of_imp (h count)

namespace Lexicon

/-- A text is evaluated to an error of its parse, or else refused for its different names, or to a
table, and never to a name without a value. It is refused if it has more names than the limit or no
memory is left for the rows, so only for the limit where there is always memory. Selecting rows and
rendering fail in the same way, but for errors of the renderer. -/
theorem evaluate_outcomes (lexicon : Lexicon) (capacity : Capacity) (input : String) :
    let limit := min capacity.maxVariables 24
    (∀ e, lexicon.evaluate capacity input = .error e ↔
      (∃ position detail, e = .parse position detail ∧ lexicon.parse input = .error e) ∨
      ∃ formula, lexicon.parse input = .ok formula ∧
        (limit < formula.names.toFinset.card ∨
          capacity.reserves (2 ^ formula.names.toFinset.card) = false) ∧
        e = .tooManyVariables formula.names.toFinset.card limit) ∧
    (∀ table, lexicon.evaluate capacity input = .ok table ↔
      ∃ formula, lexicon.parse input = .ok formula ∧
        (formula.names.toFinset.card ≤ limit ∧
          capacity.reserves (2 ^ formula.names.toFinset.card)) ∧
        table = .complete formula) ∧
    (capacity.Suffices →
      (∀ e, lexicon.evaluate capacity input = .error e ↔
        (∃ position detail, e = .parse position detail ∧ lexicon.parse input = .error e) ∨
        ∃ formula, lexicon.parse input = .ok formula ∧ limit < formula.names.toFinset.card ∧
          e = .tooManyVariables formula.names.toFinset.card limit) ∧
      ∀ table, lexicon.evaluate capacity input = .ok table ↔
        ∃ formula, lexicon.parse input = .ok formula ∧ formula.names.toFinset.card ≤ limit ∧
          table = .complete formula) ∧
    (∀ name, lexicon.evaluate capacity input ≠ .error (.unboundVariable name)) ∧
    (∀ e, lexicon.evaluateSuccesses capacity input = .error e ↔
      lexicon.evaluate capacity input = .error e) ∧
    (∀ e, lexicon.evaluateFailures capacity input = .error e ↔
      lexicon.evaluate capacity input = .error e) ∧
    ∀ (σ : Type) (session : Session σ) (selection : Selection) (host : σ) (e : Error),
      session.capacity host = capacity →
        ((session.render selection input lexicon host).result = .error e ↔
          lexicon.evaluate capacity input = .error e ∨
          ∃ table, lexicon.evaluate capacity input = .ok table ∧
            (session.renderer.render table selection host).1 = .error e) := by
  intro limit
  refine ⟨fun e => ?_, fun table => ?_, fun h => ⟨fun e => ?_, fun table => ?_⟩,
    fun name hname => ?_, fun e => evaluateRows_eq_error_iff,
    fun e => evaluateRows_eq_error_iff, ?_⟩
  · simp only [evaluate_eq_error_iff, Capacity.not_admits_iff]
    rfl
  · simp only [evaluate_eq_ok_iff, Capacity.admits_iff]
    rfl
  · simp only [evaluate_eq_error_iff, h.admits_iff, Nat.not_le]
    rfl
  · simp only [evaluate_eq_ok_iff, h.admits_iff]
    rfl
  · rcases evaluate_eq_error_iff.1 hname with ⟨_, _, hparse, -⟩ | ⟨_, -, -, hcount⟩
    · cases hparse
    · cases hcount
  · rintro σ session selection host e rfl
    exact Session.render_eq_error_iff

/-- With two variables and memory for four rows, three names are too many for the limit; with memory
for the four rows alone, they are too many for that. -/
theorem evaluate_outcomes_tooMany :
    Capacity.Suffices ⟨2, (· ≤ 4)⟩ ∧
      Lexicon.standard.evaluate ⟨2, (· ≤ 4)⟩ "b -> (a = b) ^ !c" =
        .error (.tooManyVariables 3 2) ∧
      Lexicon.standard.evaluateFailures ⟨2, (· ≤ 4)⟩ "b -> (a = b) ^ !c" =
        .error (.tooManyVariables 3 2) ∧
      Lexicon.standard.evaluate ⟨20, (· ≤ 4)⟩ "b -> (a = b) ^ !c" =
        .error (.tooManyVariables 3 20) ∧
      ((Memory.session 2 true).render .all "b -> (a = b) ^ !c" .standard
        (.holding fun _ => none)).result = .error (.tooManyVariables 3 2) := by
  have hparse : Lexicon.standard.parse "b -> (a = b) ^ !c" =
      .ok (.binary .implies (.var "b") (.binary .xor (.binary .equates (.var "a") (.var "b"))
        (.not (.var "c")))) := by
    decide +kernel
  have hsuffices : Capacity.Suffices ⟨2, (· ≤ 4)⟩ := by decide
  obtain ⟨-, -, hlimit, -, -, hfailures, -⟩ :=
    evaluate_outcomes .standard ⟨2, (· ≤ 4)⟩ "b -> (a = b) ^ !c"
  have htoo := ((hlimit hsuffices).1 (.tooManyVariables 3 2)).2
    (.inr ⟨_, hparse, by decide, by decide⟩)
  obtain ⟨hmemory, -⟩ := evaluate_outcomes .standard ⟨20, (· ≤ 4)⟩ "b -> (a = b) ^ !c"
  have hfull := (hmemory (.tooManyVariables 3 20)).2
    (.inr ⟨_, hparse, .inr (by decide), by decide⟩)
  obtain ⟨hroom, -, -, -, -, -, hrender⟩ :=
    evaluate_outcomes .standard ⟨2, fun _ => true⟩ "b -> (a = b) ^ !c"
  have hmany := (hroom (.tooManyVariables 3 2)).2
    (.inr ⟨_, hparse, .inl (by decide), by decide⟩)
  exact ⟨hsuffices, htoo, (hfailures _).2 htoo, hfull,
    (hrender _ (Memory.session 2 true) _ _ _ rfl).2 (.inl hmany)⟩

end Lexicon

end BooleanTables
