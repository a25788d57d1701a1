import BooleanTables.Proofs.Page.Runs
import BooleanTables.Proofs.Session.Failures
import BooleanTables.Proofs.Session.Outcomes

/-!
# Opening of a page

A page gets its session from the first initialization that can open local storage. Up to then it
refuses all other calls and nothing changes; from then on it refuses none, also if that
initialization has failed to load the values.
-/

namespace BooleanTables

namespace Browser

variable {browser : Browser} {e : Error}

/-! ### Errors of the browser -/

theorem request_error {request : Request} (h : (browser.request request).1 = .error e) :
    ∃ detail, e = .host detail := by
  rw [Browser.request] at h
  split at h
  · cases h
    exact ⟨_, rfl⟩
  · cases h

theorem requestAll_error {requests : List Request}
    (h : (browser.requestAll requests).1 = .error e) :
    ∃ detail, e = .host detail := by
  induction requests generalizing browser with
  | nil => cases h
  | cons request rest ih =>
    rw [requestAll] at h
    split at h
    · exact ih h
    · next fault next hrequest =>
      cases h
      exact request_error (congrArg Prod.fst hrequest)

theorem load_error {key : Key} (h : (localStorage.load key browser).1 = .error e) :
    ∃ detail, e = .host detail := by
  rw [localStorage] at h
  dsimp only at h
  split at h
  · next fault next hmarker =>
    cases h
    exact request_error (congrArg Prod.fst hmarker)
  · split at h
    · cases h
    · split at h
      · next fault next hitem =>
        cases h
        exact request_error (congrArg Prod.fst hitem)
      · cases h

theorem save_error {key : Key} {value : String}
    (h : (localStorage.save key value browser).1 = .error e) :
    ∃ detail, e = .host detail := by
  rw [localStorage] at h
  dsimp only at h
  split at h
  · next fault next hitem =>
    cases h
    exact request_error (congrArg Prod.fst hitem)
  · split at h
    · next fault next hmarker =>
      cases h
      exact request_error (congrArg Prod.fst hmarker)
    · cases h

theorem attach_error {requests : List Request} {element : Element}
    (h : (browser.attach requests element).1 = .error e) : ∃ detail, e = .host detail := by
  rw [attach] at h
  split at h
  · next fault next hrequests =>
    cases h
    exact requestAll_error (congrArg Prod.fst hrequests)
  · cases h

theorem render_error {table : TruthTable} {selection : Selection}
    (h : (renderer.render table selection browser).1 = .error e) : ∃ detail, e = .host detail := by
  rw [renderer] at h
  dsimp only at h
  split at h
  · next fault next hrequests =>
    cases h
    exact requestAll_error (congrArg Prod.fst hrequests)
  · split at h
    · next fault next htable =>
      cases h
      exact attach_error (congrArg Prod.fst htable)
    · exact attach_error h

end Browser

namespace Page

variable {page : Page} {operation : Operation}

theorem session_step_ne_notInitialized (state : Session.State Browser) (operation : Operation) :
    (session.step state operation).result ≠ .error .notInitialized := by
  intro h
  have hhost : ¬ ∃ detail, Error.notInitialized = .host detail := by
    rintro ⟨_, ⟨⟩⟩
  cases Session.step_failure h with
  | @unloaded backing key stop _ hb hfails =>
    obtain rfl : Browser.localStorage = backing := Option.some.inj hb
    exact hhost (hfails.elim Browser.load_error Browser.save_error)
  | unevaluated _ heval =>
    obtain ⟨_, _, herror, -⟩ | ⟨_, -, -, herror⟩ :=
      Lexicon.evaluate_eq_error_iff.1 heval <;> cases herror
  | unshown _ _ hrender => exact hhost (Browser.render_error hrender)
  | unknownKey _ _ herror => cases herror
  | unsaved hunsaved =>
    obtain ⟨backing, hb, hsave⟩ := hunsaved.save_eq
    obtain rfl : Browser.localStorage = backing := Option.some.inj hb
    exact hhost (Browser.save_error hsave)

/-! ### Steps and runs -/

/-- Whether the step is an initialization that can open local storage. -/
def Step.opens (step : Step) : Bool :=
  step.operation = .initStorage &&
    (step.before.browser.requestAll [.window, .openStorage, .storage]).1.isOk

def hasOpened (steps : List Step) : Bool := steps.any Step.opens

theorem hasOpened_concat (steps : List Step) (step : Step) :
    hasOpened (steps ++ [step]) = (hasOpened steps || step.opens) := by
  simp [hasOpened]

/-- A session stays, and a page without one gets it where local storage is opened. -/
theorem isSome_lexicon_step (page : Page) (operation : Operation) :
    (page.step operation).after.lexicon.isSome =
      (page.lexicon.isSome || (page.step operation).opens) := by
  obtain ⟨_ | lexicon, browser⟩ := page
  · by_cases h : operation = .initStorage
    · subst h
      change (initStorage ⟨none, browser⟩).page.lexicon.isSome =
        (browser.requestAll [.window, .openStorage, .storage]).1.isOk
      rw [initStorage]
      dsimp only
      split
      · next fault last hopen => rw [hopen]; rfl
      · next last hopen => rw [hopen]; rfl
    · rw [step_of_closed rfl h]
      simp [Step.opens, h]
  · have hstep := step_ofState ⟨lexicon, browser⟩ operation
    rw [ofState] at hstep
    rw [hstep]
    rfl

theorem isSome_lexicon_last (browser : Browser) (operations : List Operation) :
    ((fresh browser).last operations).lexicon.isSome =
      hasOpened ((fresh browser).run operations) := by
  induction operations using List.reverseRecOn with
  | nil => rfl
  | append_singleton operations operation ih =>
    rw [last_concat, run_concat, hasOpened_concat, isSome_lexicon_step, ih]

theorem isSome_lexicon_of_initializes (h : (page.step operation).initializes = true) :
    (page.step operation).after.lexicon.isSome = true := by
  obtain ⟨hoperation, hresult⟩ := Bool.and_eq_true_iff.1 h
  obtain rfl : operation = .initStorage := of_decide_eq_true hoperation
  obtain ⟨_ | lexicon, browser⟩ := page
  · change (initStorage ⟨none, browser⟩).page.lexicon.isSome = true
    change ((initStorage ⟨none, browser⟩).result.map fun _ => none).isOk = true at hresult
    rw [initStorage] at hresult ⊢
    dsimp only at hresult ⊢
    split
    · next fault last hopen =>
      rw [hopen] at hresult
      cases hresult
    · rfl
  · rw [isSome_lexicon_step]
    rfl

theorem hasOpened_of_initializes (browser : Browser) (operations : List Operation)
    (h : ((fresh browser).run operations).any Step.initializes = true) :
    hasOpened ((fresh browser).run operations) = true := by
  induction operations using List.reverseRecOn with
  | nil => cases h
  | append_singleton operations operation ih =>
    rw [run_concat, List.any_append, List.any_cons, List.any_nil, Bool.or_false, Bool.or_eq_true]
      at h
    obtain hbefore | hlast := h
    · rw [run_concat, hasOpened_concat, ih hbefore, Bool.true_or]
    · rw [← isSome_lexicon_last, last_concat]
      exact isSome_lexicon_of_initializes hlast

/-- A call is refused exactly as long as no initialization could open local storage, and a call that
is refused changes nothing. An initialization that has succeeded is one that ends this, but one that
fails while it loads is another. -/
theorem refuses_iff_unopened (browser : Browser) (operations : List Operation)
    {operation : Operation} (h : operation ≠ .initStorage) :
    ((((fresh browser).last operations).step operation).result = .error .notInitialized ↔
        hasOpened ((fresh browser).run operations) = false) ∧
      (hasOpened ((fresh browser).run operations) = false →
        (((fresh browser).last operations).step operation).after =
          (fresh browser).last operations) ∧
      (((fresh browser).run operations).any Step.initializes = true →
        hasOpened ((fresh browser).run operations) = true) := by
  have hsome := isSome_lexicon_last browser operations
  refine ⟨?_, fun hclosed => ?_, hasOpened_of_initializes browser operations⟩
  · rw [← hsome]
    cases hlexicon : ((fresh browser).last operations).lexicon with
    | none =>
      rw [step_of_closed hlexicon h]
      exact iff_of_true rfl rfl
    | some lexicon =>
      have hpage : (fresh browser).last operations =
          ofState ⟨lexicon, ((fresh browser).last operations).browser⟩ := by
        rw [ofState, ← hlexicon]
      rw [hpage, step_ofState]
      exact iff_of_false (session_step_ne_notInitialized _ operation) (by simp)
  · rw [hclosed] at hsome
    rw [step_of_closed (by simpa using hsome) h]

def unreadable : Browser :=
  { Browser.holding [] with
    fails := fun number request => number = 1 || request = .getItem Browser.marker }

theorem refuses_iff_unopened_unreadable :
    (((fresh unreadable).last [.initStorage]).step (.getValue "and")).result =
      .error .notInitialized ∧
      (((fresh unreadable).last [.initStorage, .initStorage]).step
        (.changeValue "and" "&")).result ≠ .error .notInitialized := by
  obtain ⟨hclosed, -⟩ :=
    @refuses_iff_unopened unreadable [.initStorage] (.getValue "and") (by decide)
  obtain ⟨hopen, -⟩ := @refuses_iff_unopened unreadable [.initStorage, .initStorage]
    (.changeValue "and" "&") (by decide)
  refine ⟨hclosed.2 (by decide), fun hrefused => ?_⟩
  exact absurd (hopen.1 hrefused) (by decide)

/-- After an initialization that has failed, calls may be served and change local storage. -/
theorem serves_uninitialized :
    ¬ ∀ (browser : Browser) (operations : List Operation) (operation : Operation),
      operation ≠ .initStorage →
      ((fresh browser).run operations).any Step.initializes = false →
        (((fresh browser).last operations).step operation).result = .error .notInitialized ∧
        (((fresh browser).last operations).step operation).after.browser.storage =
          ((fresh browser).last operations).browser.storage ∧
        (((fresh browser).last operations).step operation).after.browser.output =
          ((fresh browser).last operations).browser.output := by
  intro h
  obtain ⟨-, hstorage, -⟩ :=
    h { Browser.holding [] with fails := fun _ request => request = .getItem Browser.marker }
      [.initStorage] (.changeValue "and" "&") (by decide) (by decide)
  exact absurd hstorage (by decide)

end Page

end BooleanTables
