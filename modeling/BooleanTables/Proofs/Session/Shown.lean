import BooleanTables.Proofs.Session.Outcomes
import BooleanTables.Proofs.Session.Runs
import BooleanTables.Proofs.Session.Loading

/-!
# Tables that are shown

A session is traced by a host that keeps a list of all calls made of it. The trace changes nothing
else, and over whole runs it has one call of the renderer for each text that is evaluated with the
lexicon of its own moment, in the order of the run. A render makes no other call, and it leaves the
lexicon as it was.
-/

namespace BooleanTables

inductive HostCall
  | load (key : Key)
  | save (key : Key) (value : String)
  | render (table : TruthTable) (selection : Selection)
  deriving DecidableEq, Repr

def HostCall.shown? : HostCall → Option (TruthTable × Selection)
  | .render table selection => some (table, selection)
  | _ => none

/-- A host and the calls made of it, the first one first. -/
structure Traced (σ : Type) where
  host : σ
  calls : List HostCall

variable {σ : Type}

def Traced.shown (traced : Traced σ) : List (TruthTable × Selection) :=
  traced.calls.filterMap HostCall.shown?

theorem Traced.shown_call (traced : Traced σ) (host : σ) (call : HostCall) :
    (⟨host, traced.calls ++ [call]⟩ : Traced σ).shown = traced.shown ++ call.shown?.toList := by
  rw [shown, List.filterMap_append, shown]
  cases call <;> rfl

def Outcome.untraced {α : Type} (outcome : Outcome (Traced σ) α) : Outcome σ α :=
  ⟨outcome.result, outcome.lexicon, outcome.host.host, outcome.events⟩

def Backing.traced (backing : Backing σ) : Backing (Traced σ) where
  load key traced :=
    ((backing.load key traced.host).1,
      ⟨(backing.load key traced.host).2, traced.calls ++ [.load key]⟩)
  save key value traced :=
    ((backing.save key value traced.host).1,
      ⟨(backing.save key value traced.host).2, traced.calls ++ [.save key value]⟩)

def Renderer.traced (renderer : Renderer σ) : Renderer (Traced σ) where
  render table selection traced :=
    ((renderer.render table selection traced.host).1,
      ⟨(renderer.render table selection traced.host).2, traced.calls ++ [.render table selection]⟩)

def Session.traced (session : Session σ) : Session (Traced σ) :=
  ⟨session.maxVariables, fun traced => session.reserves traced.host,
    session.backing.map Backing.traced, session.renderer.traced⟩

theorem Backing.loadAll_traced (backing : Backing σ) (lexicon : Lexicon) (keys : List Key)
    (traced : Traced σ) :
    Prod.map id (Prod.map Traced.host id) (backing.traced.loadAll lexicon keys traced) =
      backing.loadAll lexicon keys traced.host := by
  induction keys generalizing traced with
  | nil => rfl
  | cons key keys ih =>
    obtain ⟨host, calls⟩ := traced
    have hrest (next : σ) (more : List HostCall) :
        Prod.map id (Prod.map Traced.host id) (backing.traced.loadAll lexicon keys ⟨next, more⟩) =
          backing.loadAll lexicon keys next := ih ⟨next, more⟩
    rw [loadAll, loadAll]
    dsimp only [Backing.traced]
    rcases backing.load key host with ⟨e | _ | value, next⟩
    · rfl
    · dsimp only
      rcases backing.save key (lexicon.value key) next with ⟨e | _, last⟩
      · rfl
      · dsimp only
        rw [← hrest last (calls ++ [.load key] ++ [.save key (lexicon.value key)])]
        rfl
    · dsimp only
      rw [← hrest next (calls ++ [.load key])]
      rfl

theorem Backing.shown_loadAll_traced (backing : Backing σ) (lexicon : Lexicon) (keys : List Key)
    (traced : Traced σ) :
    (backing.traced.loadAll lexicon keys traced).2.1.shown = traced.shown := by
  refine loadAll_preserves
    (P := fun later : Traced σ => later.shown = traced.shown) ?_ ?_ lexicon keys rfl
  · intro key later h
    exact (Traced.shown_call later _ (.load key)).trans ((List.append_nil _).trans h)
  · intro key value later h
    exact (Traced.shown_call later _ (.save key value)).trans ((List.append_nil _).trans h)

/-! ### One step -/

namespace Session

variable {session : Session σ}

theorem initStorage_traced (session : Session σ) (lexicon : Lexicon) (traced : Traced σ) :
    (session.traced.initStorage lexicon traced).untraced = session.initStorage lexicon traced.host ∧
      (session.traced.initStorage lexicon traced).host.shown = traced.shown := by
  rw [initStorage, initStorage]
  dsimp only [Session.traced]
  cases session.backing with
  | none => exact ⟨rfl, rfl⟩
  | some backing =>
    have hshown := backing.shown_loadAll_traced lexicon Key.all traced
    dsimp only [Option.map_some]
    rw [← backing.loadAll_traced]
    generalize backing.traced.loadAll lexicon Key.all traced = loaded at hshown ⊢
    obtain ⟨e | found, last, events⟩ := loaded
    · exact ⟨rfl, hshown⟩
    · exact ⟨rfl, hshown⟩

theorem changeValue_traced (session : Session σ) (id value : String) (lexicon : Lexicon)
    (traced : Traced σ) :
    (session.traced.changeValue id value lexicon traced).untraced =
        session.changeValue id value lexicon traced.host ∧
      (session.traced.changeValue id value lexicon traced).host.shown = traced.shown := by
  rw [changeValue, changeValue]
  dsimp only [Session.traced]
  cases Key.ofId id with
  | error e => exact ⟨rfl, rfl⟩
  | ok key =>
    cases session.backing with
    | none => exact ⟨rfl, rfl⟩
    | some backing =>
      exact ⟨rfl, (traced.shown_call _ (.save key value)).trans (List.append_nil _)⟩

def State.traced (state : State σ) : State (Traced σ) := ⟨state.lexicon, state.host, []⟩

def State.untraced (state : State (Traced σ)) : State σ := ⟨state.lexicon, state.host.host⟩

def Step.untraced (step : Step (Traced σ)) : Step σ :=
  ⟨step.operation, step.before.untraced, step.result, step.after.untraced⟩

/-- A render that evaluates its text to a table hands the table to the renderer, and does nothing
else; all other renders do nothing. -/
inductive RenderEnd (session : Session σ) (selection : Selection) (input : String)
    (step : Step (Traced σ)) : Prop
  | unevaluated {e : Error}
    (evaluate_eq : step.before.lexicon.evaluate (session.capacity step.before.host.host) input =
      .error e)
    (result_eq : step.result = .error e) (after_eq : step.after = step.before)
  | shown {table : TruthTable}
    (evaluate_eq : step.before.lexicon.evaluate (session.capacity step.before.host.host) input =
      .ok table)
    (result_eq : step.result =
      (session.renderer.render table selection step.before.host.host).1.map fun _ => none)
    (after_eq : step.after = ⟨step.before.lexicon,
      (session.renderer.render table selection step.before.host.host).2,
      step.before.host.calls ++ [.render table selection]⟩)

theorem renderEnd_step (session : Session σ) (state : State (Traced σ)) (selection : Selection)
    (input : String) :
    RenderEnd session selection input (session.traced.step state (.render selection input)) := by
  cases heval : state.lexicon.evaluate (session.capacity state.host.host) input with
  | error e =>
    rw [step_render_of_error session.traced state heval]
    exact .unevaluated heval rfl rfl
  | ok table =>
    rw [step_render_of_ok session.traced state heval]
    exact .shown heval rfl rfl

/-- What a step evaluates with the lexicon that it finds. -/
def Step.evaluated? (session : Session σ) (step : Step σ) : Option (TruthTable × Selection) :=
  step.operation.evaluated? (session.capacity step.before.host) step.before.lexicon

theorem Step.evaluated?_render_iff {step : Step σ} {selection : Selection} {input : String}
    (h : step.operation = .render selection input) {table : TruthTable} :
    step.evaluated? session = some (table, selection) ↔
      step.before.lexicon.evaluate (session.capacity step.before.host) input = .ok table := by
  rw [Step.evaluated?, h]
  cases heval : step.before.lexicon.evaluate (session.capacity step.before.host) input with
  | error e => simp [Operation.evaluated?_render_of_error heval]
  | ok found => simp [Operation.evaluated?_render_of_ok heval]

theorem Step.evaluated?_eq_some_iff {step : Step σ} {table : TruthTable} {selection : Selection} :
    step.evaluated? session = some (table, selection) ↔
      ∃ input formula, step.operation = .render selection input ∧
        step.before.lexicon.parse input = .ok formula ∧
        (session.capacity step.before.host).Admits formula.names.toFinset.card ∧
        table = .complete formula := by
  constructor
  · intro h
    cases hoperation : step.operation with
    | render shown input =>
      have hshown : shown = selection := by
        rw [evaluated?, hoperation, Operation.evaluated?] at h
        split at h <;> cases h
        rfl
      subst hshown
      obtain ⟨formula, hparse, hadmits, htable⟩ :=
        Lexicon.evaluate_eq_ok_iff.1 ((evaluated?_render_iff hoperation).1 h)
      exact ⟨input, formula, rfl, hparse, hadmits, htable⟩
    | _ => simp [evaluated?, hoperation, Operation.evaluated?] at h
  · rintro ⟨input, formula, hoperation, hparse, hadmits, rfl⟩
    exact (evaluated?_render_iff hoperation).2
      (Lexicon.evaluate_eq_ok_iff.2 ⟨formula, hparse, hadmits, rfl⟩)

/-- A step of the traced session is that of the session, and the trace has the table that it
evaluates. -/
theorem step_traced (session : Session σ) (state : State (Traced σ)) (operation : Operation) :
    (session.traced.step state operation).untraced = session.step state.untraced operation ∧
      (session.traced.step state operation).after.host.shown =
        state.host.shown ++
          (operation.evaluated? (session.capacity state.untraced.host) state.lexicon).toList := by
  cases operation with
  | initStorage =>
    obtain ⟨huntraced, hshown⟩ := session.initStorage_traced state.lexicon state.host
    refine ⟨?_, hshown.trans (List.append_nil _).symm⟩
    exact congrArg (fun outcome : Outcome σ Unit => Step.mk .initStorage state.untraced
      (outcome.result.map fun _ => none) ⟨outcome.lexicon, outcome.host⟩) huntraced
  | render selection input =>
    cases heval : state.lexicon.evaluate (session.capacity state.untraced.host) input with
    | error e =>
      rw [step_render_of_error session.traced state heval,
        step_render_of_error session state.untraced heval]
      rw [Operation.evaluated?_render_of_error heval]
      exact ⟨rfl, (List.append_nil _).symm⟩
    | ok table =>
      rw [step_render_of_ok session.traced state heval,
        step_render_of_ok session state.untraced heval]
      rw [Operation.evaluated?_render_of_ok heval]
      exact ⟨rfl, state.host.shown_call _ (.render table selection)⟩
  | changeValue id value =>
    obtain ⟨huntraced, hshown⟩ := session.changeValue_traced id value state.lexicon state.host
    refine ⟨?_, hshown.trans (List.append_nil _).symm⟩
    exact congrArg (fun outcome : Outcome σ Unit => Step.mk (.changeValue id value) state.untraced
      (outcome.result.map fun _ => none) ⟨outcome.lexicon, outcome.host⟩) huntraced
  | getValue id => exact ⟨rfl, (List.append_nil _).symm⟩

/-! ### Runs -/

theorem last_traced (session : Session σ) (start : State σ) (operations : List Operation) :
    (session.traced.last start.traced operations).untraced = session.last start operations := by
  induction operations using List.reverseRecOn with
  | nil => rfl
  | append_singleton operations operation ih =>
    have hstep := (session.step_traced (session.traced.last start.traced operations) operation).1
    rw [last_concat, last_concat, ← ih, ← hstep]
    rfl

theorem run_traced (session : Session σ) (start : State σ) (operations : List Operation) :
    (session.traced.run start.traced operations).map Step.untraced =
      session.run start operations := by
  induction operations using List.reverseRecOn with
  | nil => rfl
  | append_singleton operations operation ih =>
    have hstep := (session.step_traced (session.traced.last start.traced operations) operation).1
    rw [last_traced] at hstep
    rw [run_concat, run_concat, List.map_append, ih, List.map_singleton, hstep]

theorem shown_last_traced (session : Session σ) (start : State σ) (operations : List Operation) :
    (session.traced.last start.traced operations).host.shown =
      (session.run start operations).filterMap (Step.evaluated? session) := by
  induction operations using List.reverseRecOn with
  | nil => rfl
  | append_singleton operations operation ih =>
    have hstep := (session.step_traced (session.traced.last start.traced operations) operation).2
    have hlast := session.last_traced start operations
    have hlexicon : (session.traced.last start.traced operations).lexicon =
        (session.last start operations).lexicon := congrArg State.lexicon hlast
    rw [last_concat, run_concat, List.filterMap_append, hstep, ih, hlexicon, hlast]
    rfl

theorem RenderEnd.part_eq {session : Session σ} {selection : Selection} {input : String}
    {step : Step (Traced σ)} (h : RenderEnd session selection input step) {β : Type} {part : σ → β}
    (hpart : ∀ table selection host, part (session.renderer.render table selection host).2 =
      part host) :
    part step.after.host.host = part step.before.host.host := by
  cases h with
  | unevaluated _ _ hafter => rw [hafter]
  | shown _ _ hafter =>
    rw [hafter]
    exact hpart _ selection _

/-- The tables handed to the renderer in a run are those of the texts that are parsed, and have not
too many different names for the limit and the memory, with the lexicon of the moment, in the order
of the run. A render changes neither the lexicon nor anything of the host that the renderer does not
change itself, whether it fails or not. -/
theorem shown_eq_evaluated (session : Session σ) (start : State σ) (operations : List Operation) :
    (session.traced.run start.traced operations).map Step.untraced =
        session.run start operations ∧
      (session.traced.last start.traced operations).host.shown =
        (session.run start operations).filterMap (Step.evaluated? session) ∧
      (∀ step ∈ session.run start operations, ∀ table selection,
        step.evaluated? session = some (table, selection) ↔
          ∃ input formula, step.operation = .render selection input ∧
            step.before.lexicon.parse input = .ok formula ∧
            (formula.names.toFinset.card ≤ min session.maxVariables 24 ∧
              session.reserves step.before.host (2 ^ formula.names.toFinset.card)) ∧
            table = .complete formula) ∧
      (∀ step ∈ session.run start operations, ∀ table selection input,
        step.operation = .render selection input →
          (step.evaluated? session = some (table, selection) ↔
            step.before.lexicon.evaluate (session.capacity step.before.host) input =
              .ok table)) ∧
      ∀ step ∈ session.traced.run start.traced operations, ∀ selection input,
        step.operation = .render selection input →
          RenderEnd session selection input step ∧ step.after.lexicon = step.before.lexicon ∧
          ∀ (β : Type) (part : σ → β),
            (∀ table selection host,
              part (session.renderer.render table selection host).2 = part host) →
            part step.after.host.host = part step.before.host.host := by
  refine ⟨session.run_traced start operations, session.shown_last_traced start operations,
    fun step _ table selection => ?_,
    fun step _ table selection input hoperation => Step.evaluated?_render_iff hoperation,
    fun step hstep selection input hoperation => ?_⟩
  · simp only [Step.evaluated?_eq_some_iff, Capacity.admits_iff]
    rfl
  have hend : RenderEnd session selection input step := by
    rw [eq_step_of_mem_run hstep, hoperation]
    exact session.renderEnd_step step.before selection input
  refine ⟨hend, ?_, fun β part hpart => hend.part_eq hpart⟩
  cases hend with
  | unevaluated _ _ hafter => rw [hafter]
  | shown _ _ hafter => rw [hafter]

/-- The same text is shown twice, with two lexicons, although the save of the first change and the
second render fail; a text with three names and one that is no formula are not shown. -/
theorem shown_eq_evaluated_sameText :
    let session := Memory.session 2 true
    let start : State Memory := ⟨.standard, { Memory.holding fun _ => none with
      callFails := fun _ call => call = .save .and
      showFails := (· == 1) }⟩
    let operations : List Operation := [.render .all "a & b", .changeValue "and" "+",
      .changeValue "or" "&", .render .failures "a & b", .render .all "a & (b + c)",
      .render .all "a &", .render .successes "b + a"]
    (session.run start operations).map Step.result =
        [.ok none, .error (.host "cannot save and"), .ok none, .error (.host "cannot render"),
          .error (.tooManyVariables 3 2),
          .error (.parse 3
            "unexpected end of input, expected one of \"(\", \"false\", \"not\", \"true\", \"var\""),
          .ok none] ∧
      (session.traced.last start.traced operations).host.shown =
        [(.complete (.binary .and (.var "a") (.var "b")), .all),
          (.complete (.binary .or (.var "a") (.var "b")), .failures),
          (.complete (.binary .and (.var "b") (.var "a")), .successes)] := by
  intro session start operations
  have hshown := (session.shown_eq_evaluated start operations).2.1
  exact ⟨by decide +kernel, hshown.trans (by decide +kernel)⟩

end Session

end BooleanTables
