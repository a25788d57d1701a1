import BooleanTables.Proofs.Session.Loading
import BooleanTables.Proofs.Session.Runs
import Mathlib.Data.List.Induction

/-!
# Lexicon and backing in step

Over whole runs with failures at any point, the backing holds for every slot the last value that a
change has saved there, or else the value it held from the start or got from an initialization. Once
an initialization has succeeded the lexicon differs from the backing only in slots whose last change
has failed.
-/

namespace BooleanTables

variable {σ : Type}

/-- A session has a backing that keeps a map of slots, and showing tables leaves the map alone. -/
structure Session.Keeps (session : Session σ) (backing : Backing σ) (fit : σ → Prop)
    (held : σ → Key → Option String) : Prop where
  backing_eq : session.backing = some backing
  keeps : backing.Keeps fit held
  fit_render : ∀ table selection {host},
    fit host → fit (session.renderer.render table selection host).2
  held_render : ∀ table selection {host}, fit host →
    held (session.renderer.render table selection host).2 = held host

theorem Memory.session_keeps (maxVariables : Nat) :
    (session maxVariables true).Keeps backing (fun _ => True) values where
  backing_eq := rfl
  keeps := backing_keeps
  fit_render _ _ _ _ := trivial
  held_render _ _ _ _ := rfl

namespace Session

variable {session : Session σ} {backing : Backing σ} {fit : σ → Prop}
    {held : σ → Key → Option String}

/-! ### One step -/

/-- What an initialization leaves: a lexicon that agrees with the map, or after a failure the old
lexicon and a map with some empty slots filled. -/
inductive InitEnd (fit : σ → Prop) (held : σ → Key → Option String) (lexicon : Lexicon) (host : σ) :
    Outcome σ Unit → Prop
  | loaded {outcome : Outcome σ Unit} (result_eq : outcome.result = .ok ())
    (fit_host : fit outcome.host)
    (value_eq : ∀ key, outcome.lexicon.value key = (held host key).getD (lexicon.value key))
    (held_eq : ∀ key, held outcome.host key = some (outcome.lexicon.value key)) :
    InitEnd fit held lexicon host outcome
  | failed {outcome : Outcome σ Unit} {e : Error} (result_eq : outcome.result = .error e)
    (fit_host : fit outcome.host) (lexicon_eq : outcome.lexicon = lexicon)
    (held_cases : ∀ key, held outcome.host key = held host key ∨
      held host key = none ∧ held outcome.host key = some (lexicon.value key)) :
    InitEnd fit held lexicon host outcome

theorem initStorage_end (hb : session.backing = some backing) (hk : backing.Keeps fit held)
    (lexicon : Lexicon) {host : σ} (hf : fit host) :
    InitEnd fit held lexicon host (session.initStorage lexicon host) := by
  have hend := hk.loadAll_end lexicon Key.nodup_all hf
  rcases hload : backing.loadAll lexicon Key.all host with ⟨e | found, last, events⟩
  · rw [hload] at hend
    rw [initStorage_of_loadAll_error hb hload]
    cases hend with
    | stopped _ _ _ _ hfit hheld =>
      refine .failed rfl hfit rfl fun key => ?_
      dsimp only
      rw [hheld]
      exact lexicon.fill_cases _ _ key
  · rw [hload] at hend
    rw [initStorage_of_loadAll_ok hb hload]
    cases hend with
    | all hfit hheld =>
      refine .loaded rfl hfit (fun key => ?_) fun key => ?_
      · exact lexicon.value_setAll_all _ key
      · dsimp only
        rw [hheld, lexicon.fill_all, lexicon.value_setAll_all]

inductive Effect (held : σ → Key → Option String) (step : Step σ) : Prop
  | loaded (operation_eq : step.operation = .initStorage) (result_eq : step.result = .ok none)
    (value_eq : ∀ key, step.after.lexicon.value key =
      (held step.before.host key).getD (step.before.lexicon.value key))
    (held_eq : ∀ key, held step.after.host key = some (step.after.lexicon.value key))
  | unloaded {e : Error} (operation_eq : step.operation = .initStorage)
    (result_eq : step.result = .error e) (lexicon_eq : step.after.lexicon = step.before.lexicon)
    (held_cases : ∀ key, held step.after.host key = held step.before.host key ∨
      held step.before.host key = none ∧
        held step.after.host key = some (step.before.lexicon.value key))
  | saved {id value : String} {key : Key} (operation_eq : step.operation = .changeValue id value)
    (key_eq : Key.ofId? id = some key) (result_eq : step.result = .ok none)
    (lexicon_eq : step.after.lexicon = step.before.lexicon.set key value)
    (held_eq : held step.after.host = Function.update (held step.before.host) key (some value))
  | unsaved {id value : String} {key : Key} {e : Error}
    (operation_eq : step.operation = .changeValue id value) (key_eq : Key.ofId? id = some key)
    (result_eq : step.result = .error e)
    (lexicon_eq : step.after.lexicon = step.before.lexicon.set key value)
    (held_eq : held step.after.host = held step.before.host)
  | idle (initializes_eq : step.operation ≠ .initStorage) (tries_eq : ∀ key, step.tries key = false)
    (lexicon_eq : step.after.lexicon = step.before.lexicon)
    (held_eq : held step.after.host = held step.before.host)

theorem Keeps.fit_step (hs : session.Keeps backing fit held) {state : State σ} (hf : fit state.host)
    (operation : Operation) : fit (session.step state operation).after.host := by
  cases operation with
  | initStorage =>
    change fit (session.initStorage state.lexicon state.host).host
    cases initStorage_end hs.backing_eq hs.keeps state.lexicon hf with
    | loaded _ hfit => exact hfit
    | failed _ hfit => exact hfit
  | render selection input =>
    change fit (session.render selection input state.lexicon state.host).host
    rw [render]
    split
    · exact hf
    · next table _ => exact hs.fit_render table selection hf
  | changeValue id value =>
    change fit (session.changeValue id value state.lexicon state.host).host
    rw [changeValue, hs.backing_eq]
    split
    · exact hf
    · next key _ => exact hs.keeps.fit_save key value hf
  | getValue id => exact hf

theorem Keeps.effect_initStorage (hs : session.Keeps backing fit held) {state : State σ}
    (hf : fit state.host) : Effect held (session.step state .initStorage) := by
  cases initStorage_end hs.backing_eq hs.keeps state.lexicon hf with
  | loaded hresult _ hvalue hheld =>
    have hstep : (session.step state .initStorage).result = .ok none := by
      change (session.initStorage state.lexicon state.host).result.map _ = _
      rw [hresult]
      rfl
    exact .loaded rfl hstep hvalue hheld
  | @failed e hresult _ hlexicon hheld =>
    have hstep : (session.step state .initStorage).result = .error e := by
      change (session.initStorage state.lexicon state.host).result.map _ = _
      rw [hresult]
      rfl
    exact .unloaded rfl hstep hlexicon hheld

theorem Keeps.effect_render (hs : session.Keeps backing fit held) {state : State σ}
    (hf : fit state.host) (selection : Selection) (input : String) :
    Effect held (session.step state (.render selection input)) := by
  refine .idle (by rintro ⟨⟩) (fun _ => rfl) ?_ ?_
  · change (session.render selection input state.lexicon state.host).lexicon = state.lexicon
    rw [render]
    split <;> rfl
  · change held (session.render selection input state.lexicon state.host).host = held state.host
    rw [render]
    split
    · rfl
    · next table _ => exact hs.held_render table selection hf

theorem Keeps.effect_changeValue (hs : session.Keeps backing fit held) {state : State σ}
    (hf : fit state.host) (id value : String) :
    Effect held (session.step state (.changeValue id value)) := by
  cases hkey : Key.ofId? id with
  | none =>
    have hidle := changeValue_of_unknownKey hkey session value state.lexicon state.host
    refine .idle (by rintro ⟨⟩) (fun key => ?_) ?_ ?_
    · simp [Step.tries, step, hkey]
    · exact congrArg Outcome.lexicon hidle
    · exact congrArg (held ∘ Outcome.host) hidle
  | some key =>
    have houtcome := changeValue_of_backing hkey hs.backing_eq value state.lexicon state.host
    have hlexicon := congrArg Outcome.lexicon houtcome
    have hhost := congrArg Outcome.host houtcome
    have hresult : (session.step state (.changeValue id value)).result =
        (backing.save key value state.host).1.map fun _ => none := by
      change (session.changeValue id value state.lexicon state.host).result.map _ = _
      rw [houtcome]
    cases hsave : (backing.save key value state.host).1 with
    | ok _ =>
      rw [hsave] at hresult
      have hheld := hs.keeps.held_save key value hf hsave
      exact .saved rfl hkey hresult hlexicon ((congrArg held hhost).trans hheld)
    | error e =>
      rw [hsave] at hresult
      have hheld := hs.keeps.held_save_error key value hf e hsave
      exact .unsaved rfl hkey hresult hlexicon ((congrArg held hhost).trans hheld)

theorem Keeps.effect_step (hs : session.Keeps backing fit held) {state : State σ}
    (hf : fit state.host) (operation : Operation) : Effect held (session.step state operation) := by
  cases operation with
  | initStorage => exact hs.effect_initStorage hf
  | render selection input => exact hs.effect_render hf selection input
  | changeValue id value => exact hs.effect_changeValue hf id value
  | getValue id => exact .idle (by rintro ⟨⟩) (fun _ => rfl) rfl rfl

/-- The step is an initialization that has found the slot empty and saved the lexicon's value
there. -/
structure Step.WritesBack (held : σ → Key → Option String) (key : Key) (value : String)
    (step : Step σ) : Prop where
  operation_eq : step.operation = .initStorage
  empty : held step.before.host key = none
  value_eq : step.before.lexicon.value key = value
  held_eq : held step.after.host key = some value

namespace Effect

variable {step : Step σ}

theorem slot (h : Effect held step) (key : Key) :
    (∃ value, step.saved? key = some value ∧ held step.after.host key = some value) ∨
      (step.saved? key = none ∧ held step.after.host key = held step.before.host key) ∨
        (step.saved? key = none ∧ ∃ value, step.WritesBack held key value) := by
  cases h with
  | loaded hoperation _ hvalue hheld =>
    have hsaved : step.saved? key = none := by simp [Step.saved?, hoperation]
    cases hbefore : held step.before.host key with
    | none =>
      have hlexicon : step.before.lexicon.value key = step.after.lexicon.value key := by
        simp [hvalue, hbefore]
      exact .inr (.inr ⟨hsaved, _, hoperation, hbefore, hlexicon, hheld key⟩)
    | some value => exact .inr (.inl ⟨hsaved, by simp [hheld, hvalue, hbefore]⟩)
  | unloaded hoperation _ _ hheld =>
    have hsaved : step.saved? key = none := by simp [Step.saved?, hoperation]
    obtain hkept | ⟨hbefore, hafter⟩ := hheld key
    · exact .inr (.inl ⟨hsaved, hkept⟩)
    · exact .inr (.inr ⟨hsaved, _, hoperation, hbefore, rfl, hafter⟩)
  | @saved id value changed hoperation hkey hresult _ hheld =>
    by_cases hk : key = changed
    · subst hk
      exact .inl ⟨value, by simp [Step.saved?, hoperation, hresult, hkey], by simp [hheld]⟩
    · have hne : changed ≠ key := fun h => hk h.symm
      exact .inr (.inl ⟨by simp [Step.saved?, hoperation, hresult, hkey, hne], by simp [hheld, hk]⟩)
  | unsaved hoperation _ hresult _ hheld =>
    exact .inr (.inl ⟨by simp [Step.saved?, hoperation, hresult], congrFun hheld key⟩)
  | idle _ htries _ hheld =>
    refine .inr (.inl ⟨?_, congrFun hheld key⟩)
    have hkey := htries key
    unfold Step.tries at hkey
    unfold Step.saved?
    split
    · next id value result hoperation _ => simpa [hoperation] using hkey
    · rfl

/-- The lexicon and the map agree in a slot after a step, unless the step has tried to change the
slot and failed, or has left both as they were. A failed initialization may fill the slot as
well. -/
theorem agreement (h : Effect held step) (key : Key) :
    (step.initializes = true ∧ held step.after.host key = some (step.after.lexicon.value key)) ∨
      (step.initializes = false ∧ step.tries key = true ∧
        (held step.after.host key = some (step.after.lexicon.value key) ∨
          ∃ e, step.result = .error e)) ∨
      (step.initializes = false ∧ step.tries key = false ∧
        step.after.lexicon.value key = step.before.lexicon.value key ∧
        (held step.after.host key = held step.before.host key ∨
          held step.before.host key = none)) := by
  cases h with
  | loaded hoperation hresult _ hheld =>
    exact .inl ⟨by simp [Step.initializes, hoperation, hresult, Except.isOk, Except.toBool],
      hheld key⟩
  | unloaded hoperation hresult hlexicon hheld =>
    refine .inr (.inr ⟨?_, ?_, by rw [hlexicon], (hheld key).imp_right And.left⟩)
    · simp [Step.initializes, hresult, Except.isOk, Except.toBool]
    · simp [Step.tries, hoperation]
  | @saved id value changed hoperation hkey _ hlexicon hheld =>
    have hinit : step.initializes = false := by simp [Step.initializes, hoperation]
    by_cases hk : key = changed
    · subst hk
      have htries : step.tries key = true := by simp [Step.tries, hoperation, hkey]
      have hagree : held step.after.host key = some (step.after.lexicon.value key) := by
        simp [hheld, hlexicon]
      exact .inr (.inl ⟨hinit, htries, .inl hagree⟩)
    · have hne : changed ≠ key := fun h => hk h.symm
      have htries : step.tries key = false := by simp [Step.tries, hoperation, hkey, hne]
      exact .inr (.inr ⟨hinit, htries, by simp [hlexicon, hk], .inl (by simp [hheld, hk])⟩)
  | @unsaved id value changed e hoperation hkey hresult hlexicon hheld =>
    have hinit : step.initializes = false := by simp [Step.initializes, hoperation]
    by_cases hk : key = changed
    · subst hk
      have htries : step.tries key = true := by simp [Step.tries, hoperation, hkey]
      exact .inr (.inl ⟨hinit, htries, .inr ⟨e, hresult⟩⟩)
    · have hne : changed ≠ key := fun h => hk h.symm
      have htries : step.tries key = false := by simp [Step.tries, hoperation, hkey, hne]
      exact .inr (.inr ⟨hinit, htries, by simp [hlexicon, hk], .inl (congrFun hheld key)⟩)
  | idle hoperation htries hlexicon hheld =>
    have hinit : step.initializes = false := by simp [Step.initializes, hoperation]
    exact .inr (.inr ⟨hinit, htries key, by rw [hlexicon], .inl (congrFun hheld key)⟩)

end Effect

/-! ### Runs -/

/-- Where the value that the map holds for a slot comes from: the last change that has succeeded,
else the start, else an initialization that has found the slot empty. -/
inductive Origin (held : σ → Key → Option String) (start : σ) (steps : List (Step σ)) (key : Key) :
    String → Prop
  | saved {value : String} (saved_eq : lastSaved? steps key = some value) :
    Origin held start steps key value
  | kept {value : String} (saved_eq : lastSaved? steps key = none)
    (start_eq : held start key = some value) :
    Origin held start steps key value
  | writtenBack {value : String} {step : Step σ} (saved_eq : lastSaved? steps key = none)
    (start_eq : held start key = none) (mem : step ∈ steps)
    (writes : step.WritesBack held key value) :
    Origin held start steps key value

/-- What holds of a slot all along a run. -/
structure SlotInStep (held : σ → Key → Option String) (start : σ) (steps : List (Step σ))
    (state : State σ) (key : Key) : Prop where
  origin : ∀ {value}, held state.host key = some value → Origin held start steps key value
  empty : held state.host key = none →
    initialized steps = false ∧ lastSaved? steps key = none ∧ held start key = none
  differs : initialized steps = true → held state.host key ≠ some (state.lexicon.value key) →
    ∃ e, lastTried? steps key = some (.error e)

theorem SlotInStep.nil (state : State σ) (key : Key) : SlotInStep held state.host [] state key where
  origin h := .kept rfl h
  empty h := ⟨rfl, rfl, h⟩
  differs h := by cases h

namespace SlotInStep

variable {start : σ} {steps : List (Step σ)} {step : Step σ} {key : Key}

theorem origin_concat (h : SlotInStep held start steps step.before key) (he : Effect held step)
    {value : String} (hvalue : held step.after.host key = some value) :
    Origin held start (steps ++ [step]) key value := by
  obtain ⟨new, hsaved, hafter⟩ | ⟨hsaved, hkept⟩ | ⟨hsaved, new, hwrites⟩ := he.slot key
  · have hnew : new = value := by simpa [hvalue] using hafter.symm
    exact .saved (by rw [lastSaved?_concat, hsaved, hnew, Option.some_or])
  · have hlast : lastSaved? (steps ++ [step]) key = lastSaved? steps key := by
      rw [lastSaved?_concat, hsaved, Option.none_or]
    cases h.origin (hkept ▸ hvalue) with
    | saved hs => exact .saved (hlast.trans hs)
    | kept hs hstart => exact .kept (hlast.trans hs) hstart
    | writtenBack hs hstart hmem hw =>
        exact .writtenBack (hlast.trans hs) hstart (List.mem_append_left _ hmem) hw
  · have hnew : new = value := by simpa [hvalue] using hwrites.held_eq.symm
    obtain ⟨-, hlast, hstart⟩ := h.empty hwrites.empty
    subst hnew
    exact .writtenBack (by rw [lastSaved?_concat, hsaved, hlast, Option.none_or]) hstart
      (List.mem_append_right _ (List.mem_singleton_self step)) hwrites

theorem empty_concat (h : SlotInStep held start steps step.before key) (he : Effect held step)
    (hafter : held step.after.host key = none) :
    initialized (steps ++ [step]) = false ∧ lastSaved? (steps ++ [step]) key = none ∧
    held start key = none := by
  have hinit : step.initializes = false := by
    obtain ⟨-, hagree⟩ | ⟨hinit, -⟩ | ⟨hinit, -⟩ := he.agreement key
    · simp [hafter] at hagree
    · exact hinit
    · exact hinit
  obtain ⟨new, -, hnew⟩ | ⟨hsaved, hkept⟩ | ⟨-, new, hwrites⟩ := he.slot key
  · simp [hafter] at hnew
  · obtain ⟨hbefore, hlast, hstart⟩ := h.empty (hkept ▸ hafter)
    refine ⟨?_, ?_, hstart⟩
    · rw [initialized_concat, hbefore, hinit, Bool.or_false]
    · rw [lastSaved?_concat, hsaved, hlast, Option.none_or]
  · have hnew := hwrites.held_eq
    simp [hafter] at hnew

theorem differs_concat (h : SlotInStep held start steps step.before key) (he : Effect held step)
    (hsteps : initialized (steps ++ [step]) = true)
    (hne : held step.after.host key ≠ some (step.after.lexicon.value key)) :
    ∃ e, lastTried? (steps ++ [step]) key = some (.error e) := by
  rw [lastTried?_concat]
  rw [initialized_concat] at hsteps
  obtain ⟨-, hagree⟩ | ⟨hinit, htries, hagree | ⟨e, herror⟩⟩ | ⟨hinit, htries, hlexicon, hheld⟩ :=
    he.agreement key
  · exact absurd hagree hne
  · exact absurd hagree hne
  · exact ⟨e, by simp [hinit, htries, herror]⟩
  · have hbefore : initialized steps = true := by simpa [hinit] using hsteps
    have hkept : held step.after.host key = held step.before.host key := by
      refine hheld.resolve_right fun hempty => ?_
      simp [(h.empty hempty).1] at hbefore
    rw [hlexicon, hkept] at hne
    simpa [hinit, htries] using h.differs hbefore hne

theorem concat (h : SlotInStep held start steps step.before key) (he : Effect held step) :
    SlotInStep held start (steps ++ [step]) step.after key :=
  ⟨h.origin_concat he, h.empty_concat he, h.differs_concat he⟩

end SlotInStep

variable {start : State σ}

theorem Keeps.fit_last (hs : session.Keeps backing fit held) (hf : fit start.host)
    (operations : List Operation) :
    fit (session.last start operations).host := by
  induction operations using List.reverseRecOn with
  | nil => exact hf
  | append_singleton operations operation ih =>
    rw [last_concat]
    exact hs.fit_step ih operation

theorem Keeps.slotInStep (hs : session.Keeps backing fit held) (hf : fit start.host)
    (operations : List Operation) (key : Key) :
    SlotInStep held start.host (session.run start operations)
      (session.last start operations) key := by
  induction operations using List.reverseRecOn with
  | nil => exact .nil start key
  | append_singleton operations operation ih =>
    rw [run_concat, last_concat]
    exact SlotInStep.concat ih (hs.effect_step (hs.fit_last hf operations) operation)

/-- Once an initialization has succeeded, the map holds every slot's last value that was saved, or
else the one from the start or the one written back, the lexicon differs only where the last change
has failed, and a new session takes over what the map holds. -/
theorem Keeps.in_step (hs : session.Keeps backing fit held) (hf : fit start.host)
    (operations : List Operation) (hinit : initialized (session.run start operations) = true)
    (key : Key) :
    ∃ value, held (session.last start operations).host key = some value ∧
      Origin held start.host (session.run start operations) key value ∧
      ((session.last start operations).lexicon.value key ≠ value →
        ∃ e, lastTried? (session.run start operations) key = some (.error e)) ∧
      ∀ (other : Session σ) (fresh : Lexicon), other.backing = some backing →
        (other.initStorage fresh (session.last start operations).host).result = .ok () →
        (other.initStorage fresh (session.last start operations).host).lexicon.value key =
          value := by
  have hslot := hs.slotInStep hf operations key
  have hfit := hs.fit_last hf operations
  cases hheld : held (session.last start operations).host key with
  | none => simp [(hslot.empty hheld).1] at hinit
  | some value =>
    refine ⟨value, rfl, hslot.origin hheld, fun hne => ?_, fun other fresh hother hresult => ?_⟩
    · refine hslot.differs hinit ?_
      rw [hheld]
      exact fun heq => hne (Option.some.inj heq).symm
    · cases initStorage_end hother hs.keeps fresh hfit with
      | loaded _ _ hvalue => rw [hvalue, hheld, Option.getD_some]
      | failed herror => simp [herror] at hresult

theorem Keeps.in_step_unsaved :
    let session := Memory.session 12 true
    let start : State Memory :=
      ⟨.standard, { Memory.holding (Function.update (fun _ => none) .or (some "∨")) with
      callFails := fun _ call => call = .save .or }⟩
    let operations := [.initStorage, .changeValue "and" "&", .changeValue "or" "v"]
    initialized (session.run start operations) = true ∧
      (session.last start operations).host.values .or = some "∨" ∧
      Origin Memory.values start.host (session.run start operations) .or "∨" ∧
      (session.last start operations).lexicon.value .or = "v" ∧
      (∃ e, lastTried? (session.run start operations) .or = some (.error e)) ∧
      (session.initStorage .standard (session.last start operations).host).lexicon.value .or =
        "∨" := by
  intro session start operations
  have hinit : initialized (session.run start operations) = true := by decide
  have hheld : (session.last start operations).host.values .or = some "∨" := by decide
  have hlexicon : (session.last start operations).lexicon.value .or = "v" := by decide
  have hagain : (session.initStorage .standard (session.last start operations).host).result =
      .ok () := rfl
  obtain ⟨value, hvalue, horigin, hdiffers, hnew⟩ :=
    (Memory.session_keeps 12).in_step trivial operations hinit .or
  have heq : value = "∨" := Option.some.inj (hvalue.symm.trans hheld)
  subst heq
  have hne : (session.last start operations).lexicon.value .or ≠ "∨" := by
    rw [hlexicon]
    decide
  exact ⟨hinit, hheld, horigin, hlexicon, hdiffers hne, hnew session .standard rfl hagain⟩

end Session

end BooleanTables
