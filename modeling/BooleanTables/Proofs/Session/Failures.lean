import BooleanTables.Proofs.Session.Runs
import BooleanTables.Proofs.Session.Slots
import BooleanTables.Session.Memory

/-!
# Failed operations

An operation fails at a call of the backing, at the evaluation of a text, at the renderer, or at an
id that names no slot. What it has done to the lexicon by then stays. Only a change does anything
before it can fail: the lexicon takes the new value, and then the backing may fail to save it.
-/

namespace BooleanTables

variable {σ : Type}

theorem Backing.loadAll_error {backing : Backing σ} {lexicon : Lexicon} {keys : List Key} {host : σ}
    {e : Error} (h : (backing.loadAll lexicon keys host).1 = .error e) :
    ∃ key ∈ keys, ∃ stop : σ, (backing.load key stop).1 = .error e ∨
      (backing.save key (lexicon.value key) stop).1 = .error e := by
  obtain ⟨before, key, after, found, reached, rfl, -, hfails⟩ := exists_fails_of_loadAll h
  refine ⟨key, List.mem_append_right _ List.mem_cons_self, ?_⟩
  cases hfails with
  | load hload => exact ⟨reached, .inl (congrArg Prod.fst hload)⟩
  | @save loaded _ hsave => exact ⟨loaded, .inr (congrArg Prod.fst hsave)⟩

namespace Session

variable {session : Session σ} {state : State σ} {operation : Operation} {e : Error}

/-- The step has given the slot a value that the backing has then failed to save. -/
structure Step.LeavesUnsaved (session : Session σ) (step : Step σ) (key : Key) (value : String)
    (e : Error) : Prop where
  operation_eq : ∃ id, step.operation = .changeValue id value ∧ Key.ofId? id = some key
  save_eq : ∃ backing, session.backing = some backing ∧
    (backing.save key value step.before.host).1 = .error e

/-- Where a step may fail, and what it has done by then. -/
inductive Failure (session : Session σ) (step : Step σ) (e : Error) : Prop
  | unloaded {backing : Backing σ} {key : Key} {stop : σ}
    (operation_eq : step.operation = .initStorage) (backing_eq : session.backing = some backing)
    (failure : (backing.load key stop).1 = .error e ∨
      (backing.save key (step.before.lexicon.value key) stop).1 = .error e)
    (lexicon_eq : step.after.lexicon = step.before.lexicon)
  | unevaluated {selection : Selection} {input : String}
    (operation_eq : step.operation = .render selection input)
    (failure : step.before.lexicon.evaluate (session.capacity step.before.host) input = .error e)
    (after_eq : step.after = step.before)
  | unshown {selection : Selection} {input : String} {table : TruthTable}
    (operation_eq : step.operation = .render selection input)
    (evaluate_eq : step.before.lexicon.evaluate (session.capacity step.before.host) input =
      .ok table) (failure : (session.renderer.render table selection step.before.host).1 = .error e)
      (lexicon_eq : step.after.lexicon = step.before.lexicon)
  | unknownKey {id : String}
    (operation_eq : (∃ value, step.operation = .changeValue id value) ∨
      step.operation = .getValue id) (key_eq : Key.ofId? id = none) (error_eq : e = .unknownKey id)
      (after_eq : step.after = step.before)
  | unsaved {key : Key} {value : String} (unsaved : step.LeavesUnsaved session key value e)
    (lexicon_eq : step.after.lexicon = step.before.lexicon.set key value)

theorem map_eq_error {α β : Type} {f : α → β} {result : Except Error α}
    (h : result.map f = .error e) :
    result = .error e := by
  cases result with
  | ok value => cases h
  | error fault =>
    cases h
    rfl

theorem Failure.of_initStorage (h : (session.step state .initStorage).result = .error e) :
    Failure session (session.step state .initStorage) e := by
  have hresult : (session.initStorage state.lexicon state.host).result = .error e := map_eq_error h
  cases hb : session.backing with
  | none => simp [initStorage, hb] at hresult
  | some backing =>
    obtain ⟨key, -, stop, hfails⟩ := Backing.loadAll_error (loadAll_of_initStorage_error hb hresult)
    exact .unloaded rfl hb hfails (lexicon_of_initStorage_error hresult)

theorem Failure.of_render {selection : Selection} {input : String}
    (h : (session.step state (.render selection input)).result = .error e) :
    Failure session (session.step state (.render selection input)) e := by
  have hresult : (session.render selection input state.lexicon state.host).result = .error e :=
    map_eq_error h
  cases heval : state.lexicon.evaluate (session.capacity state.host) input with
  | error fault =>
    have hrender := render_of_error heval selection
    rw [hrender] at hresult
    cases hresult
    exact .unevaluated rfl heval
      (congrArg (fun outcome => State.mk outcome.lexicon outcome.host) hrender)
  | ok table =>
    have hrender := render_of_ok heval selection
    rw [hrender] at hresult
    exact .unshown rfl heval hresult (congrArg Outcome.lexicon hrender)

theorem Failure.of_changeValue {id value : String}
    (h : (session.step state (.changeValue id value)).result = .error e) :
    Failure session (session.step state (.changeValue id value)) e := by
  have hresult : (session.changeValue id value state.lexicon state.host).result = .error e :=
    map_eq_error h
  cases hkey : Key.ofId? id with
  | none =>
    have hchange := changeValue_of_unknownKey hkey session value state.lexicon state.host
    rw [hchange] at hresult
    cases hresult
    exact .unknownKey (.inl ⟨value, rfl⟩) hkey rfl
      (congrArg (fun outcome => State.mk outcome.lexicon outcome.host) hchange)
  | some key =>
    cases hb : session.backing with
    | none => simp [changeValue, Key.ofId, hkey, hb] at hresult
    | some backing =>
      have hchange := changeValue_of_backing hkey hb value state.lexicon state.host
      rw [hchange] at hresult
      exact .unsaved ⟨⟨id, rfl, hkey⟩, backing, hb, hresult⟩ (congrArg Outcome.lexicon hchange)

theorem Failure.of_getValue {id : String}
    (h : (session.step state (.getValue id)).result = .error e) :
    Failure session (session.step state (.getValue id)) e := by
  have hresult : (session.getValue id state.lexicon state.host).result = .error e := map_eq_error h
  cases hkey : Key.ofId? id with
  | none =>
    simp only [getValue, Key.ofId, hkey, Option.elim, Except.map] at hresult
    cases hresult
    exact .unknownKey (.inr rfl) hkey rfl rfl
  | some key => simp [getValue, Key.ofId, hkey, Except.map] at hresult

theorem step_failure (h : (session.step state operation).result = .error e) :
    Failure session (session.step state operation) e := by
  cases operation with
  | initStorage => exact .of_initStorage h
  | render selection input => exact .of_render h
  | changeValue id value => exact .of_changeValue h
  | getValue id => exact .of_getValue h

theorem Step.LeavesUnsaved.lexicon_eq {key : Key} {value : String}
    (h : (session.step state operation).LeavesUnsaved session key value e) :
    (session.step state operation).after.lexicon = state.lexicon.set key value := by
  obtain ⟨⟨id, hoperation, hkey⟩, backing, hb, -⟩ := h
  obtain rfl : operation = .changeValue id value := hoperation
  exact congrArg Outcome.lexicon (changeValue_of_backing hkey hb value state.lexicon state.host)

/-- A failed operation leaves every slot as it was, but for the slot of a change that the backing
has failed to save, which keeps the new value. -/
theorem value_of_failure (h : (session.step state operation).result = .error e) (key : Key) :
    (∃ value, (session.step state operation).LeavesUnsaved session key value e ∧
        (session.step state operation).after.lexicon.value key = value) ∨
      (∀ value, ¬ (session.step state operation).LeavesUnsaved session key value e) ∧
        (session.step state operation).after.lexicon.value key = state.lexicon.value key := by
  by_cases hunsaved : ∃ value, (session.step state operation).LeavesUnsaved session key value e
  · obtain ⟨value, hvalue⟩ := hunsaved
    refine .inl ⟨value, hvalue, ?_⟩
    rw [hvalue.lexicon_eq, Lexicon.value_set, if_pos rfl]
  · have hnone := not_exists.1 hunsaved
    refine .inr ⟨hnone, ?_⟩
    cases step_failure h with
    | unloaded _ _ _ hlexicon => exact congrArg (fun lexicon => lexicon.value key) hlexicon
    | unevaluated _ _ hafter => exact congrArg (fun after => after.lexicon.value key) hafter
    | unshown _ _ _ hlexicon => exact congrArg (fun lexicon => lexicon.value key) hlexicon
    | unknownKey _ _ _ hafter => exact congrArg (fun after => after.lexicon.value key) hafter
    | @unsaved other value hother hlexicon =>
      have hne : key ≠ other := by
        rintro rfl
        exact hnone value hother
      rw [hlexicon, Lexicon.value_set, if_neg hne]
      rfl

def unsavedAnd : State Memory :=
  ⟨.standard, { Memory.holding (fun key => some key.standard) with
    callFails := fun _ call => call = .save .and }⟩

theorem value_of_failure_unsavedAnd :
    let step := (Memory.session 12 true).step unsavedAnd (.changeValue "and" "&")
    step.result = .error (.host "cannot save and") ∧ step.after.lexicon.value .and = "&" ∧
      step.after.lexicon.value .or = Key.or.standard := by
  intro step
  have hresult : step.result = .error (.host "cannot save and") := rfl
  have hunsaved (key : Key) (value : String)
      (h : step.LeavesUnsaved (Memory.session 12 true) key value (.host "cannot save and")) :
      key = .and ∧ value = "&" := by
    obtain ⟨⟨id, hoperation, hkey⟩, -⟩ := h
    cases hoperation
    exact ⟨Option.some.inj (hkey.symm.trans (Key.ofId?_id .and)), rfl⟩
  refine ⟨hresult, ?_, ?_⟩
  · obtain ⟨value, hvalue, hafter⟩ | ⟨hnone, -⟩ := value_of_failure hresult .and
    · rw [hafter, (hunsaved _ _ hvalue).2]
    · exact absurd ⟨⟨"and", rfl, Key.ofId?_id .and⟩, Memory.backing, rfl, rfl⟩ (hnone "&")
  · obtain ⟨value, hvalue, -⟩ | ⟨-, hafter⟩ := value_of_failure hresult .or
    · exact absurd (hunsaved _ _ hvalue).1 (by decide)
    · exact hafter

theorem failure_changes_lexicon :
    ¬ ∀ (σ : Type) (session : Session σ) (state : State σ) (operation : Operation) (e : Error),
      (session.step state operation).result = .error e →
        ∀ key, (session.step state operation).after.lexicon.value key =
          state.lexicon.value key := by
  intro h
  have hand := h Memory (Memory.session 12 true) unsavedAnd (.changeValue "and" "&")
    (.host "cannot save and") rfl .and
  exact absurd hand (by decide)

end Session

end BooleanTables
