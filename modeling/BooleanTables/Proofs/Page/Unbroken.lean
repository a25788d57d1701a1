import BooleanTables.Proofs.Page.LocalStorage
import BooleanTables.Proofs.Page.Opening

/-!
# Calls that are not broken off

A request that fails breaks off the call that has made it, and the call answers with an error of the
host. A call that is not broken off has one of a few ends, whatever requests the browser might fail
later.
-/

namespace BooleanTables

namespace Browser

variable {browser : Browser}

/-! ### Requests -/

theorem requestAll_snd (requests : List Request) (browser : Browser) :
    ∃ count, (browser.requestAll requests).2 = { browser with requests := count } := by
  induction requests generalizing browser with
  | nil => exact ⟨browser.requests, rfl⟩
  | cons request rest ih =>
    obtain ⟨count, hrest⟩ := ih (browser.request request).2
    rw [requestAll]
    split
    · next next heq =>
      rw [heq] at hrest
      refine ⟨count, hrest.trans ?_⟩
      rw [← congrArg Prod.snd heq]
      rfl
    · next e next heq => exact ⟨browser.requests + 1, (congrArg Prod.snd heq).symm⟩

theorem attach_of_ok {requests : List Request} {element : Element}
    (h : (browser.attach requests element).1 = .ok ()) :
    ∃ count, (browser.attach requests element).2 =
      { browser with output := browser.output ++ [element], requests := count } := by
  obtain ⟨count, hcount⟩ := requestAll_snd requests browser
  rw [attach] at h ⊢
  split at h
  · cases h
  · next next heq =>
    rw [heq] at hcount
    dsimp only at hcount ⊢
    exact ⟨count, by rw [hcount]⟩

theorem render_of_ok {table : TruthTable} {selection : Selection}
    (h : (renderer.render table selection browser).1 = .ok ()) :
    ∃ count, (renderer.render table selection browser).2 = { browser with
      output := [table.element selection, table.verdictElement selection], requests := count } := by
  obtain ⟨found, hfound⟩ := requestAll_snd [.window, .document, .output] browser
  rw [renderer] at h ⊢
  dsimp only at h ⊢
  split at h
  · cases h
  · next cleared heq =>
    rw [heq] at hfound
    dsimp only at hfound h
    split at h
    · cases h
    · next shown htable =>
      obtain ⟨most, hmost⟩ := attach_of_ok (congrArg Prod.fst htable)
      obtain ⟨all, hall⟩ := attach_of_ok h
      rw [htable] at hmost
      dsimp only at hmost ⊢
      refine ⟨all, hall.trans ?_⟩
      rw [hmost, hfound]
      rfl

theorem Reliable.attach_eq (h : browser.Reliable) (requests : List Request) (element : Element) :
    browser.attach requests element = (.ok (), { browser with
      output := browser.output ++ [element], requests := browser.requests + requests.length }) := by
  rw [attach, h.requestAll_eq]

theorem Reliable.render_ok (h : browser.Reliable) (table : TruthTable) (selection : Selection) :
    (renderer.render table selection browser).1 = .ok () := by
  have hshown (output : List Element) (count : Nat) :
      Reliable { browser with output := output, requests := count } := h
  rw [renderer]
  dsimp only
  rw [h.requestAll_eq]
  dsimp only
  rw [(hshown _ _).attach_eq]
  dsimp only
  rw [(hshown _ _).attach_eq]

/-! ### Loads and saves -/

/-- The browser, if none of its requests failed. -/
def calm (browser : Browser) : Browser := { browser with fails := fun _ _ => false }

theorem reliable_calm (browser : Browser) : browser.calm.Reliable := fun _ _ => rfl

theorem item?_calm (browser : Browser) (name : String) :
    browser.calm.item? name = browser.item? name := rfl

theorem putItem_calm (browser : Browser) (name value : String) :
    browser.calm.putItem name value = (browser.putItem name value).calm := rfl

theorem request_calm {request : Request} {next : Browser}
    (h : browser.request request = (.ok (), next)) :
    browser.calm.request request = (.ok (), next.calm) := by
  obtain rfl : (browser.request request).2 = next := congrArg Prod.snd h
  rfl

theorem load_calm {key : Key} {found : Option String} {next : Browser}
    (h : localStorage.load key browser = (.ok found, next)) :
    localStorage.load key browser.calm = (.ok found, next.calm) := by
  rw [localStorage] at h ⊢
  dsimp only at h ⊢
  split at h
  · cases h
  · next marked hmarker =>
    rw [request_calm hmarker]
    dsimp only at h ⊢
    rw [item?_calm]
    cases hmark : marked.item? marker with
    | none =>
      rw [hmark] at h
      cases h
      rfl
    | some mark =>
      rw [hmark] at h
      dsimp only at h ⊢
      split at h
      · cases h
      · next last hitem =>
        cases h
        rw [request_calm hitem]
        rfl

theorem save_calm {key : Key} {value : String} {next : Browser}
    (h : localStorage.save key value browser = (.ok (), next)) :
    localStorage.save key value browser.calm = (.ok (), next.calm) := by
  rw [localStorage] at h ⊢
  dsimp only at h ⊢
  split at h
  · cases h
  · next put hitem =>
    rw [request_calm hitem]
    dsimp only at h ⊢
    split at h
    · cases h
    · next last hmarker =>
      cases h
      rw [putItem_calm, request_calm hmarker]
      rfl

theorem save_of_ok {key : Key} {value : String} {last : Browser}
    (h : localStorage.save key value browser = (.ok (), last)) (name : String) :
    last.item? name =
      if name = marker then some "true" else if name = key.id then some value
      else browser.item? name := by
  have hitem := (browser.reliable_calm.save_eq key value).2 name
  rw [save_calm h] at hitem
  exact hitem

variable {lexicon : Lexicon}

theorem output_save (key : Key) (value : String) (browser : Browser) :
    (localStorage.save key value browser).2.output = browser.output :=
  save_preserves (P := fun later => later.output = browser.output) (fun _ _ h => h) (fun h => h)
    (fun h => h) rfl

theorem output_loadAll (lexicon : Lexicon) (keys : List Key) (browser : Browser) :
    (localStorage.loadAll lexicon keys browser).2.1.output = browser.output :=
  loadAll_preserves (P := fun later => later.output = browser.output) (fun _ _ h => h)
    (fun _ _ _ h => h) (fun h => h) lexicon keys rfl

theorem conditions_loadAll (lexicon : Lexicon) (keys : List Key) (browser : Browser) :
    (localStorage.loadAll lexicon keys browser).2.1.conditions = browser.conditions :=
  loadAll_preserves (P := fun later => later.conditions = browser.conditions) (fun _ _ h => h)
    (fun _ _ _ h => h) (fun h => h) lexicon keys rfl

/-- What loading all slots leaves: local storage has the marker and the values of the later lexicon.
With the marker there before, these are the values that local storage held. -/
structure Loads (browser : Browser) (lexicon : Lexicon) (last : Browser) (later : Lexicon) :
    Prop where
  marked : (last.item? marker).isSome = true
  item_eq : ∀ key, last.item? key.id = some (later.value key)
  value_eq : (browser.item? marker).isSome = true →
    ∀ key, later.value key = (browser.item? key.id).getD (lexicon.value key)

theorem Reliable.loadAll_eq (h : browser.Reliable) (lexicon : Lexicon) :
    ∃ found last events, localStorage.loadAll lexicon Key.all browser = (.ok found, last, events) ∧
      browser.Loads lexicon last (lexicon.setAll found) := by
  cases hm : browser.item? marker with
  | none =>
    -- Saving the first slot's value has set the marker.
    obtain ⟨last, events, hload, hheld, hmark⟩ := h.loadAll_unmarked hm lexicon
    have hmarked : (last.item? marker).isSome = true := by
      rw [hmark]
      rfl
    refine ⟨_, last, events, hload, hmarked, fun key => ?_, fun hsome => ?_⟩
    · rw [hheld, value_setAll_foundUnmarked]
    · simp [hm] at hsome
  | some mark =>
    have hready : browser.Ready := ⟨h, by simp [hm]⟩
    obtain ⟨last, events, hload, hlast, hheld⟩ := hready.loadAll_eq lexicon Key.nodup_all
    have hvalue := lexicon.value_setAll_all fun key => browser.item? key.id
    refine ⟨_, last, events, hload, hlast.marked, fun key => ?_, fun _ => hvalue⟩
    rw [hvalue]
    exact (congrFun hheld key).trans (lexicon.fill_all _ key)

/-- A loading that has succeeded is the loading of the calm browser, so it leaves the same. -/
theorem loads_of_ok {found : List (Key × String)} {last : Browser} {events : List Event}
    (h : localStorage.loadAll lexicon Key.all browser = (.ok found, last, events)) :
    browser.Loads lexicon last (lexicon.setAll found) := by
  obtain ⟨_, _, _, hload, hmarked, hitem, hvalue⟩ := browser.reliable_calm.loadAll_eq lexicon
  have hcalm := Backing.loadAll_ok_map (f := calm) load_calm save_calm h
  rw [hload] at hcalm
  cases hcalm
  exact ⟨hmarked, hitem, hvalue⟩

end Browser

namespace Page

/-! ### Ends of a call -/

/-- Whether a request that has failed has broken off the call. No other error is one of the host. -/
def Step.breaksOff (step : Step) : Bool :=
  match step.result with
  | .error (.host _) => true
  | _ => false

/-- How a call ends that is not broken off. -/
inductive StepEnd (step : Step) : Prop
  | refused (lexicon_eq : step.before.lexicon = none) (operation_ne : step.operation ≠ .initStorage)
    (result_eq : step.result = .error .notInitialized) (after_eq : step.after = step.before)
  | initialized {opened last : Browser} {found : List (Key × String)} {events : List Event}
    (operation_eq : step.operation = .initStorage)
    (opened_eq : ∃ count, opened = { step.before.browser with requests := count })
    (load_eq : Browser.localStorage.loadAll (step.before.lexicon.getD .standard) Key.all opened =
      (.ok found, last, events))
    (result_eq : step.result = .ok none)
    (after_eq : step.after = ⟨some ((step.before.lexicon.getD .standard).setAll found), last⟩)
  | shown {lexicon : Lexicon} {table : TruthTable} {selection : Selection} {input : String}
    {count : Nat} (operation_eq : step.operation = .render selection input)
    (lexicon_eq : step.before.lexicon = some lexicon)
    (evaluate_eq : lexicon.evaluate (session.capacity step.before.browser) input = .ok table)
    (result_eq : step.result = .ok none)
    (after_eq : step.after = { step.before with browser := { step.before.browser with
      output := [table.element selection, table.verdictElement selection], requests := count } })
  | unevaluated {lexicon : Lexicon} {selection : Selection} {input : String} {e : Error}
    (operation_eq : step.operation = .render selection input)
    (lexicon_eq : step.before.lexicon = some lexicon)
    (evaluate_eq : lexicon.evaluate (session.capacity step.before.browser) input = .error e)
    (result_eq : step.result = .error e) (after_eq : step.after = step.before)
  | saved {lexicon : Lexicon} {id value : String} {key : Key} {last : Browser}
    (operation_eq : step.operation = .changeValue id value)
    (lexicon_eq : step.before.lexicon = some lexicon) (key_eq : Key.ofId? id = some key)
    (save_eq : Browser.localStorage.save key value step.before.browser = (.ok (), last))
    (result_eq : step.result = .ok none)
    (after_eq : step.after = ⟨some (lexicon.set key value), last⟩)
  | unknownKey {id value : String} (operation_eq : step.operation = .changeValue id value)
    (key_eq : Key.ofId? id = none) (result_eq : step.result = .error (.unknownKey id))
    (after_eq : step.after = step.before)
  | answered {lexicon : Lexicon} {id : String} (operation_eq : step.operation = .getValue id)
    (lexicon_eq : step.before.lexicon = some lexicon)
    (result_eq : step.result = ((Key.ofId id).map lexicon.value).map some)
    (after_eq : step.after = step.before)

variable {page : Page} {lexicon : Lexicon} {browser : Browser}

theorem Step.breaksOff_of_host {step : Step} {e : Error} (hresult : step.result = .error e)
    (he : ∃ detail, e = .host detail) : step.breaksOff = true := by
  obtain ⟨detail, rfl⟩ := he
  rw [breaksOff, hresult]

/-! ### What the calls come to -/

theorem step_render_of_error {input : String} {e : Error} (hlexicon : page.lexicon = some lexicon)
    (h : lexicon.evaluate (session.capacity page.browser) input = .error e)
    (selection : Selection) :
    page.step (.render selection input) = ⟨.render selection input, page, .error e, page⟩ := by
  obtain ⟨_, browser⟩ := page
  obtain rfl : _ = some lexicon := hlexicon
  have hstep := Session.step_render_of_error session ⟨lexicon, browser⟩ h selection
  exact (step_ofState ⟨lexicon, browser⟩ _).trans (by rw [hstep]; rfl)

theorem step_render_of_ok {input : String} {table : TruthTable}
    (hlexicon : page.lexicon = some lexicon)
    (h : lexicon.evaluate (session.capacity page.browser) input = .ok table)
    (selection : Selection) :
    page.step (.render selection input) = ⟨.render selection input, page,
      (Browser.renderer.render table selection page.browser).1.map fun _ => none,
      { page with browser := (Browser.renderer.render table selection page.browser).2 }⟩ := by
  obtain ⟨_, browser⟩ := page
  obtain rfl : _ = some lexicon := hlexicon
  have hstep := Session.step_render_of_ok session ⟨lexicon, browser⟩ h selection
  exact (step_ofState ⟨lexicon, browser⟩ _).trans (by rw [hstep]; rfl)

theorem step_changeValue_of_unknownKey {id : String} (hlexicon : page.lexicon = some lexicon)
    (h : Key.ofId? id = none) (value : String) :
    page.step (.changeValue id value) =
      ⟨.changeValue id value, page, .error (.unknownKey id), page⟩ := by
  obtain ⟨_, browser⟩ := page
  obtain rfl : _ = some lexicon := hlexicon
  have hchange := Session.changeValue_of_unknownKey h session value lexicon browser
  simp only [step, perform, changeValue, withSession, hchange, ofOutcome,
    PageOutcome.map, Except.map]

theorem step_changeValue_of_key {id : String} {key : Key} (hlexicon : page.lexicon = some lexicon)
    (h : Key.ofId? id = some key) (value : String) :
    page.step (.changeValue id value) = ⟨.changeValue id value, page,
      (Browser.localStorage.save key value page.browser).1.map fun _ => none,
      ⟨some (lexicon.set key value), (Browser.localStorage.save key value page.browser).2⟩⟩ := by
  obtain ⟨_, browser⟩ := page
  obtain rfl : _ = some lexicon := hlexicon
  have hbacking : session.backing = some Browser.localStorage := rfl
  have hchange := Session.changeValue_of_backing h hbacking value lexicon browser
  simp only [step, perform, changeValue, withSession, hchange, ofOutcome, PageOutcome.map]

theorem step_getValue (hlexicon : page.lexicon = some lexicon) (id : String) :
    page.step (.getValue id) =
      ⟨.getValue id, page, ((Key.ofId id).map lexicon.value).map some, page⟩ := by
  obtain ⟨_, browser⟩ := page
  obtain rfl : _ = some lexicon := hlexicon
  rfl

theorem step_initStorage (page : Page) :
    (∃ e, (page.browser.requestAll [.window, .openStorage, .storage]).1 = .error e ∧
        (page.step .initStorage).result = .error e) ∨
      ∃ opened : Browser, (∃ count, opened = { page.browser with requests := count }) ∧
        page.step .initStorage = ⟨.initStorage, page,
          (session.initStorage (page.lexicon.getD .standard) opened).result.map fun _ => none,
          ⟨some (session.initStorage (page.lexicon.getD .standard) opened).lexicon,
            (session.initStorage (page.lexicon.getD .standard) opened).host⟩⟩ := by
  obtain ⟨_ | lexicon, browser⟩ := page
  · cases hopen : browser.requestAll [.window, .openStorage, .storage] with
    | mk result opened =>
      have hcount := Browser.requestAll_snd [.window, .openStorage, .storage] browser
      rw [hopen] at hcount
      cases result with
      | error e =>
        refine .inl ⟨e, rfl, ?_⟩
        simp only [step, perform, initStorage, hopen, PageOutcome.map, Except.map]
      | ok _ =>
        refine .inr ⟨opened, hcount, ?_⟩
        simp only [step, perform, initStorage, hopen, PageOutcome.map, ofOutcome, Option.getD_none]
  · exact .inr ⟨browser, ⟨browser.requests, rfl⟩, rfl⟩

/-! ### The ends -/

theorem stepEnd_initStorage (h : (page.step .initStorage).breaksOff = false) :
    StepEnd (page.step .initStorage) := by
  obtain ⟨e, hopen, hresult⟩ | ⟨opened, hopened, hstep⟩ := step_initStorage page
  · rw [Step.breaksOff_of_host hresult (Browser.requestAll_error hopen)] at h
    cases h
  · rw [hstep] at h ⊢
    cases hload : Browser.localStorage.loadAll (page.lexicon.getD .standard) Key.all opened with
    | mk result rest =>
      obtain ⟨last, events⟩ := rest
      cases result with
      | error e =>
        obtain ⟨key, -, stop, hfails⟩ := Backing.loadAll_error (congrArg Prod.fst hload)
        have hhost := hfails.elim Browser.load_error Browser.save_error
        rw [Session.initStorage_of_loadAll_error rfl hload, Step.breaksOff_of_host rfl hhost] at h
        cases h
      | ok found =>
        rw [Session.initStorage_of_loadAll_ok rfl hload]
        exact .initialized rfl hopened hload rfl rfl

theorem stepEnd_render {selection : Selection} {input : String}
    (hlexicon : page.lexicon = some lexicon)
    (h : (page.step (.render selection input)).breaksOff = false) :
    StepEnd (page.step (.render selection input)) := by
  cases heval : lexicon.evaluate (session.capacity page.browser) input with
  | error e =>
    rw [step_render_of_error hlexicon heval]
    exact .unevaluated rfl hlexicon heval rfl rfl
  | ok table =>
    rw [step_render_of_ok hlexicon heval] at h ⊢
    cases hrender : (Browser.renderer.render table selection page.browser).1 with
    | error e =>
      rw [Step.breaksOff_of_host (by rw [hrender]; rfl) (Browser.render_error hrender)] at h
      cases h
    | ok _ =>
      obtain ⟨count, hafter⟩ := Browser.render_of_ok hrender
      rw [hafter]
      exact .shown rfl hlexicon heval rfl rfl

theorem stepEnd_changeValue {id value : String} (hlexicon : page.lexicon = some lexicon)
    (h : (page.step (.changeValue id value)).breaksOff = false) :
    StepEnd (page.step (.changeValue id value)) := by
  cases hkey : Key.ofId? id with
  | none =>
    rw [step_changeValue_of_unknownKey hlexicon hkey]
    exact .unknownKey rfl hkey rfl rfl
  | some key =>
    rw [step_changeValue_of_key hlexicon hkey] at h ⊢
    cases hsave : Browser.localStorage.save key value page.browser with
    | mk result last =>
      rw [hsave] at h
      cases result with
      | error e =>
        rw [Step.breaksOff_of_host rfl (Browser.save_error (congrArg Prod.fst hsave))] at h
        cases h
      | ok _ => exact .saved rfl hlexicon hkey hsave rfl rfl

theorem step_end (operation : Operation) (h : (page.step operation).breaksOff = false) :
    StepEnd (page.step operation) := by
  cases hlexicon : page.lexicon with
  | none =>
    by_cases hoperation : operation = .initStorage
    · subst hoperation
      exact stepEnd_initStorage h
    · rw [step_of_closed hlexicon hoperation]
      exact .refused hlexicon hoperation rfl rfl
  | some lexicon =>
    cases operation with
    | initStorage => exact stepEnd_initStorage h
    | render selection input => exact stepEnd_render hlexicon h
    | changeValue id value => exact stepEnd_changeValue hlexicon h
    | getValue id =>
      rw [step_getValue hlexicon]
      exact .answered rfl hlexicon rfl rfl

theorem stepEnd_of_mem {start : Page} {operations : List Operation}
    (h : ∀ step ∈ start.run operations, step.breaksOff = false) {step : Step}
    (hmem : step ∈ start.run operations) :
    StepEnd step := by
  have hstep := eq_step_of_mem_run hmem
  have hunbroken := h step hmem
  rw [hstep] at hunbroken ⊢
  exact step_end step.operation hunbroken

/-! ### Runs without failing requests -/

theorem breaksOff_initStorage (h : page.browser.Reliable) :
    (page.step .initStorage).breaksOff = false := by
  obtain ⟨e, hopen, -⟩ | ⟨opened, ⟨count, rfl⟩, hstep⟩ := step_initStorage page
  · rw [h.requestAll_eq] at hopen
    cases hopen
  · have hopened : Browser.Reliable { page.browser with requests := count } := h
    obtain ⟨found, last, events, hload, -⟩ := hopened.loadAll_eq (page.lexicon.getD .standard)
    rw [hstep, Session.initStorage_of_loadAll_ok rfl hload]
    rfl

theorem breaksOff_of_reliable (h : page.browser.Reliable) (operation : Operation) :
    (page.step operation).breaksOff = false := by
  cases hlexicon : page.lexicon with
  | none =>
    by_cases hoperation : operation = .initStorage
    · subst hoperation
      exact breaksOff_initStorage h
    · rw [step_of_closed hlexicon hoperation]
      rfl
  | some lexicon =>
    cases operation with
    | initStorage => exact breaksOff_initStorage h
    | render selection input =>
      cases heval : lexicon.evaluate (session.capacity page.browser) input with
      | error e =>
        rw [step_render_of_error hlexicon heval]
        obtain ⟨position, detail, rfl, -⟩ | ⟨formula, -, -, rfl⟩ :=
          Lexicon.evaluate_eq_error_iff.1 heval
        · rfl
        · rfl
      | ok table =>
        rw [step_render_of_ok hlexicon heval, h.render_ok]
        rfl
    | changeValue id value =>
      cases hkey : Key.ofId? id with
      | none =>
        rw [step_changeValue_of_unknownKey hlexicon hkey]
        rfl
      | some key =>
        rw [step_changeValue_of_key hlexicon hkey, (h.save_eq key value).1]
        rfl
    | getValue id =>
      rw [step_getValue hlexicon, Key.ofId]
      cases Key.ofId? id with
      | none => rfl
      | some key => rfl

theorem StepEnd.conditions_eq {step : Step} (h : StepEnd step) :
    step.after.browser.conditions = step.before.browser.conditions := by
  cases h with
  | @initialized opened last found events _ hopened hload _ hafter =>
    have hconditions :=
      Browser.conditions_loadAll (step.before.lexicon.getD .standard) Key.all opened
    obtain ⟨count, rfl⟩ := hopened
    rw [hload] at hconditions
    rw [hafter]
    exact hconditions
  | @saved lexicon id value key last _ _ _ hsave _ hafter =>
    have hconditions := Browser.conditions_save key value step.before.browser
    rw [hsave] at hconditions
    rw [hafter]
    exact hconditions
  | shown _ _ _ _ hafter =>
    rw [hafter]
    rfl
  | refused _ _ _ hafter => rw [hafter]
  | unevaluated _ _ _ _ hafter => rw [hafter]
  | unknownKey _ _ _ hafter => rw [hafter]
  | answered _ _ _ hafter => rw [hafter]

theorem reliable_step (h : page.browser.Reliable) (operation : Operation) :
    (page.step operation).after.browser.Reliable := by
  have hconditions := (step_end operation (breaksOff_of_reliable h operation)).conditions_eq
  have hfails := congrArg Prod.fst hconditions
  change (page.step operation).after.browser.fails = page.browser.fails at hfails
  intro number request
  rw [hfails]
  exact h number request

/-- Where no request fails, no call is broken off. -/
theorem unbroken_of_reliable (h : page.browser.Reliable) (operations : List Operation) :
    ∀ step ∈ page.run operations, step.breaksOff = false := by
  induction operations generalizing page with
  | nil => rintro step ⟨⟩
  | cons first rest ih =>
    rintro step hstep
    obtain rfl | hrest := List.mem_cons.1 hstep
    · exact breaksOff_of_reliable h first
    · exact ih (reliable_step h first) step hrest

end Page

end BooleanTables
