import BooleanTables.Session.Basic

/-!
# Runs of a session

A run performs operations one after the other and records each of them with its answer and the
states around it. What has become of a slot is read off the record, from its end backwards.
-/

namespace BooleanTables

inductive Operation
  | initStorage
  | render (selection : Selection) (input : String)
  | changeValue (id value : String)
  | getValue (id : String)
  deriving DecidableEq, Repr

/-- The table of the text that an operation evaluates, and the rows of it that are asked for. -/
def Operation.evaluated? (capacity : Capacity) (lexicon : Lexicon) : Operation →
    Option (TruthTable × Selection)
  | .render selection input =>
    match lexicon.evaluate capacity input with
    | .ok table => some (table, selection)
    | .error _ => none
  | _ => none

theorem Operation.evaluated?_render_of_ok {capacity : Capacity} {lexicon : Lexicon} {input : String}
    {table : TruthTable} (h : lexicon.evaluate capacity input = .ok table) (selection : Selection) :
    (Operation.render selection input).evaluated? capacity lexicon = some (table, selection) := by
  simp [evaluated?, h]

theorem Operation.evaluated?_render_of_error {capacity : Capacity} {lexicon : Lexicon}
    {input : String} {e : Error} (h : lexicon.evaluate capacity input = .error e)
    (selection : Selection) :
    (Operation.render selection input).evaluated? capacity lexicon = none := by
  simp [evaluated?, h]

def Outcome.map {σ α β : Type} (f : α → β) (outcome : Outcome σ α) : Outcome σ β :=
  ⟨outcome.result.map f, outcome.lexicon, outcome.host, outcome.events⟩

namespace Session

structure State (σ : Type) where
  lexicon : Lexicon
  host : σ

/-- An operation that has ended. Its result is the value that it was asked for, if any. -/
structure Step (σ : Type) where
  operation : Operation
  before : State σ
  result : Except Error (Option String)
  after : State σ

variable {σ : Type}

def perform (session : Session σ) (operation : Operation) (lexicon : Lexicon) (host : σ) :
    Outcome σ (Option String) :=
  match operation with
  | .initStorage => (session.initStorage lexicon host).map fun _ => none
  | .render selection input => (session.render selection input lexicon host).map fun _ => none
  | .changeValue id value => (session.changeValue id value lexicon host).map fun _ => none
  | .getValue id => (session.getValue id lexicon host).map some

def step (session : Session σ) (state : State σ) (operation : Operation) : Step σ :=
  let outcome := session.perform operation state.lexicon state.host
  ⟨operation, state, outcome.result, ⟨outcome.lexicon, outcome.host⟩⟩

def run (session : Session σ) (start : State σ) : List Operation → List (Step σ)
  | [] => []
  | operation :: rest => session.step start operation ::
    session.run (session.step start operation).after rest

def last (session : Session σ) (start : State σ) (operations : List Operation) : State σ :=
  operations.foldl (fun state operation => (session.step state operation).after) start

theorem run_concat (session : Session σ) (start : State σ) (operations : List Operation)
    (operation : Operation) :
    session.run start (operations ++ [operation]) =
      session.run start operations ++ [session.step (session.last start operations) operation] := by
  induction operations generalizing start with
  | nil => rfl
  | cons first rest ih =>
    rw [List.cons_append, run, ih]
    rfl

theorem last_concat (session : Session σ) (start : State σ) (operations : List Operation)
    (operation : Operation) :
    session.last start (operations ++ [operation]) =
      (session.step (session.last start operations) operation).after := by
  rw [last, List.foldl_append]
  rfl

theorem eq_step_of_mem_run {session : Session σ} {start : State σ} {operations : List Operation}
    {step : Step σ} (h : step ∈ session.run start operations) :
    step = session.step step.before step.operation := by
  induction operations generalizing start with
  | nil => cases h
  | cons first rest ih =>
    obtain rfl | hrest := List.mem_cons.1 h
    · rfl
    · exact ih hrest

/-! ### What an operation comes to -/

section Initializations

variable {session : Session σ} {backing : Backing σ} {lexicon : Lexicon} {host last : σ} {e : Error}
  {events : List Event}

theorem initStorage_of_loadAll_error (hb : session.backing = some backing)
    (h : backing.loadAll lexicon Key.all host = (.error e, last, events)) :
    session.initStorage lexicon host = ⟨.error e, lexicon, last, .initializing :: events⟩ := by
  rw [initStorage, hb]
  dsimp only
  rw [h]

theorem initStorage_of_loadAll_ok {found : List (Key × String)}
    (hb : session.backing = some backing)
    (h : backing.loadAll lexicon Key.all host = (.ok found, last, events)) :
    session.initStorage lexicon host =
      ⟨.ok (), lexicon.setAll found, last, .initializing :: events ++ [.loaded found.length]⟩ := by
  rw [initStorage, hb]
  dsimp only
  rw [h]

theorem loadAll_of_initStorage_error (hb : session.backing = some backing)
    (h : (session.initStorage lexicon host).result = .error e) :
    (backing.loadAll lexicon Key.all host).1 = .error e := by
  rcases hload : backing.loadAll lexicon Key.all host with ⟨blame | found, last, events⟩
  · rw [initStorage_of_loadAll_error hb hload] at h
    cases h
    rfl
  · rw [initStorage_of_loadAll_ok hb hload] at h
    cases h

theorem host_initStorage (hb : session.backing = some backing) (lexicon : Lexicon) (host : σ) :
    (session.initStorage lexicon host).host = (backing.loadAll lexicon Key.all host).2.1 := by
  rcases hload : backing.loadAll lexicon Key.all host with ⟨blame | found, last, events⟩
  · rw [initStorage_of_loadAll_error hb hload]
  · rw [initStorage_of_loadAll_ok hb hload]

theorem lexicon_of_initStorage_error (h : (session.initStorage lexicon host).result = .error e) :
    (session.initStorage lexicon host).lexicon = lexicon := by
  cases hb : session.backing with
  | none => simp [initStorage, hb] at h
  | some backing =>
    rcases hload : backing.loadAll lexicon Key.all host with ⟨blame | found, last, events⟩
    · rw [initStorage_of_loadAll_error hb hload]
    · rw [initStorage_of_loadAll_ok hb hload] at h
      cases h

end Initializations

theorem render_of_error {session : Session σ} {input : String} {lexicon : Lexicon} {host : σ}
    {e : Error} (h : lexicon.evaluate (session.capacity host) input = .error e)
    (selection : Selection) :
    session.render selection input lexicon host =
      ⟨.error e, lexicon, host, .rendering selection input :: lexicon.evaluationEvents input⟩ := by
  rw [render, h]

theorem render_of_ok {session : Session σ} {input : String} {lexicon : Lexicon} {host : σ}
    {table : TruthTable} (h : lexicon.evaluate (session.capacity host) input = .ok table)
    (selection : Selection) :
    session.render selection input lexicon host =
      ⟨(session.renderer.render table selection host).1, lexicon,
        (session.renderer.render table selection host).2,
        .rendering selection input :: lexicon.evaluationEvents input⟩ := by
  rw [render, h]

theorem step_render_of_error (session : Session σ) (state : State σ) {input : String} {e : Error}
    (h : state.lexicon.evaluate (session.capacity state.host) input = .error e)
    (selection : Selection) :
    session.step state (.render selection input) =
      ⟨.render selection input, state, .error e, state⟩ := by
  simp only [step, perform, render_of_error h, Outcome.map]
  rfl

theorem step_render_of_ok (session : Session σ) (state : State σ) {input : String}
    {table : TruthTable}
    (h : state.lexicon.evaluate (session.capacity state.host) input = .ok table)
    (selection : Selection) :
    session.step state (.render selection input) =
      ⟨.render selection input, state,
        (session.renderer.render table selection state.host).1.map fun _ => none,
        state.lexicon, (session.renderer.render table selection state.host).2⟩ := by
  simp only [step, perform, render_of_ok h, Outcome.map]

theorem changeValue_of_unknownKey {id : String} (h : Key.ofId? id = none) (session : Session σ)
    (value : String) (lexicon : Lexicon) (host : σ) :
    session.changeValue id value lexicon host = ⟨.error (.unknownKey id), lexicon, host, []⟩ := by
  simp [changeValue, Key.ofId, h]

theorem changeValue_of_backing {session : Session σ} {id : String} {key : Key} {backing : Backing σ}
    (h : Key.ofId? id = some key) (hb : session.backing = some backing) (value : String)
    (lexicon : Lexicon) (host : σ) :
    session.changeValue id value lexicon host =
      ⟨(backing.save key value host).1, lexicon.set key value, (backing.save key value host).2,
        lexicon.changeEvents key value⟩ := by
  simp [changeValue, Key.ofId, h, hb]

theorem changeValue_of_no_backing {session : Session σ} {id : String} {key : Key}
    (h : Key.ofId? id = some key) (hb : session.backing = none) (value : String) (lexicon : Lexicon)
    (host : σ) :
    session.changeValue id value lexicon host =
      ⟨.ok (), lexicon.set key value, host, lexicon.changeEvents key value⟩ := by
  simp [changeValue, Key.ofId, h, hb]

namespace Step

def initializes (step : Step σ) : Bool := step.operation = .initStorage && step.result.isOk

def tries (key : Key) (step : Step σ) : Bool :=
  match step.operation with
  | .changeValue id _ => Key.ofId? id = some key
  | _ => false

def saved? (key : Key) (step : Step σ) : Option String :=
  match step.operation, step.result with
  | .changeValue id value, .ok _ => if Key.ofId? id = some key then some value else none
  | _, _ => none

end Step

def initialized (steps : List (Step σ)) : Bool := steps.any Step.initializes

def lastSaved? (steps : List (Step σ)) (key : Key) : Option String :=
  (steps.filterMap (Step.saved? key)).getLast?

/-- How the last change of a slot since the last successful initialization has ended. -/
def lastTried? (steps : List (Step σ)) (key : Key) : Option (Except Error (Option String)) :=
  ((steps.reverse.takeWhile (!·.initializes)).find? (Step.tries key)).map Step.result

theorem initialized_concat (steps : List (Step σ)) (step : Step σ) :
    initialized (steps ++ [step]) = (initialized steps || step.initializes) := by
  simp [initialized]

theorem lastSaved?_concat (steps : List (Step σ)) (step : Step σ) (key : Key) :
    lastSaved? (steps ++ [step]) key = (step.saved? key).or (lastSaved? steps key) := by
  rw [lastSaved?, List.filterMap_append, List.getLast?_append]
  cases h : step.saved? key <;> simp [h, lastSaved?]

theorem lastTried?_concat (steps : List (Step σ)) (step : Step σ) (key : Key) :
    lastTried? (steps ++ [step]) key =
      if step.initializes then none
      else if step.tries key then some step.result
      else lastTried? steps key := by
  rw [lastTried?, List.reverse_append, List.reverse_singleton, List.singleton_append,
    List.takeWhile_cons]
  cases step.initializes with
  | true => rfl
  | false =>
    cases h : step.tries key <;> simp [h, lastTried?]

end Session

end BooleanTables
