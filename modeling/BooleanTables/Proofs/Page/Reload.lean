import BooleanTables.Proofs.Page.Output

/-!
# Reloading a page

As long as no request fails, an initialization leaves local storage with the marker and every value
of the session, whatever it held before, and all later calls keep it so. A page that is loaded again
over the same storage takes over the whole lexicon, and answers as before.
-/

namespace BooleanTables

namespace Page

variable {page : Page} {lexicon : Lexicon}

/-- The page has a session, and local storage has the marker and the session's values. -/
structure Stores (page : Page) (lexicon : Lexicon) : Prop where
  lexicon_eq : page.lexicon = some lexicon
  marked : (page.browser.item? Browser.marker).isSome = true
  item_eq : ∀ key, page.browser.item? key.id = some (lexicon.value key)

/-! ### One step -/

theorem StepEnd.stores_of_initStorage {step : Step} (h : StepEnd step)
    (hinit : step.operation = .initStorage) :
    step.result = .ok none ∧ ∃ lexicon, step.after.Stores lexicon ∧
      ((step.before.browser.item? Browser.marker).isSome = true → ∀ key, lexicon.value key =
        (step.before.browser.item? key.id).getD
          ((step.before.lexicon.getD .standard).value key)) := by
  cases h with
  | initialized _ hopened hload hresult hafter =>
    obtain ⟨count, rfl⟩ := hopened
    have hloads := Browser.loads_of_ok hload
    refine ⟨hresult, _, ?_, hloads.value_eq⟩
    rw [hafter]
    exact ⟨rfl, hloads.marked, hloads.item_eq⟩
  | refused _ hoperation => exact absurd hinit hoperation
  | shown hoperation => simp [hoperation] at hinit
  | unevaluated hoperation => simp [hoperation] at hinit
  | saved hoperation => simp [hoperation] at hinit
  | unknownKey hoperation => simp [hoperation] at hinit
  | answered hoperation => simp [hoperation] at hinit

theorem StepEnd.stores {step : Step} (h : StepEnd step) (hbefore : step.before.Stores lexicon) :
    ∃ later, step.after.Stores later := by
  have hend := h
  have hidle (hafter : step.after = step.before) : ∃ later, step.after.Stores later := by
    rw [hafter]
    exact ⟨lexicon, hbefore⟩
  cases h with
  | initialized hoperation =>
    obtain ⟨-, later, hstores, -⟩ := hend.stores_of_initStorage hoperation
    exact ⟨later, hstores⟩
  | shown _ _ _ _ hafter =>
    rw [hafter]
    exact ⟨lexicon, hbefore.lexicon_eq, hbefore.marked, hbefore.item_eq⟩
  | @saved current id value key last _ hlexicon _ hsave _ hafter =>
    obtain rfl : lexicon = current := Option.some.inj (hbefore.lexicon_eq.symm.trans hlexicon)
    have hitem := Browser.save_of_ok hsave
    rw [hafter]
    refine ⟨lexicon.set key value, rfl, by simp [hitem], fun other => ?_⟩
    have hother := hbefore.item_eq other
    by_cases hkey : other = key
    · simp [hitem, Browser.id_ne_marker, hkey]
    · simp [hitem, Browser.id_ne_marker, Key.id_inj, hkey, hother]
  | refused _ _ _ hafter => exact hidle hafter
  | unevaluated _ _ _ _ hafter => exact hidle hafter
  | unknownKey _ _ _ hafter => exact hidle hafter
  | answered _ _ _ hafter => exact hidle hafter

/-! ### Runs -/

theorem exists_stores (operations : List Operation)
    (h : ∀ step ∈ page.run operations, step.breaksOff = false) (hinit : .initStorage ∈ operations) :
    ∃ lexicon, (page.last operations).Stores lexicon := by
  induction operations using List.reverseRecOn with
  | nil => cases hinit
  | append_singleton operations operation ih =>
    rw [run_concat] at h
    have hend := step_end operation (h _ (List.mem_append_right _ (List.mem_singleton_self _)))
    rw [last_concat]
    -- An initialization fills local storage whatever came before; other calls need the invariant.
    by_cases hoperation : operation = .initStorage
    · obtain ⟨-, lexicon, hstores, -⟩ := hend.stores_of_initStorage hoperation
      exact ⟨lexicon, hstores⟩
    · have hbefore : .initStorage ∈ operations := by
        obtain hmem | hmem := List.mem_append.1 hinit
        · exact hmem
        · exact absurd (List.mem_singleton.1 hmem).symm hoperation
      obtain ⟨lexicon, hstores⟩ :=
        ih (fun step hmem => h step (List.mem_append_left _ hmem)) hbefore
      exact hend.stores hstores

theorem conditions_last (operations : List Operation)
    (h : ∀ step ∈ page.run operations, step.breaksOff = false) :
    (page.last operations).browser.conditions = page.browser.conditions := by
  induction operations using List.reverseRecOn with
  | nil => rfl
  | append_singleton operations operation ih =>
    rw [run_concat] at h
    have hend := step_end operation (h _ (List.mem_append_right _ (List.mem_singleton_self _)))
    rw [last_concat, hend.conditions_eq]
    exact ih fun step hmem => h step (List.mem_append_left _ hmem)

/-! ### What a page answers -/

theorem events_render (hlexicon : page.lexicon = some lexicon) (selection : Selection)
    (input : String) :
    (page.render selection input).events =
      .rendering selection input :: lexicon.evaluationEvents input := by
  have hrender : page.render selection input =
      ofOutcome (session.render selection input lexicon page.browser) := by
    rw [render, withSession, hlexicon]
  rw [hrender]
  change (session.render selection input lexicon page.browser).events = _
  cases heval : lexicon.evaluate (session.capacity page.browser) input with
  | error e => rw [Session.render_of_error heval]
  | ok table => rw [Session.render_of_ok heval]

theorem result_getValue (hlexicon : page.lexicon = some lexicon) (key : Key) :
    (page.step (.getValue key.id)).result = .ok (some (lexicon.value key)) := by
  rw [step_getValue hlexicon, Key.ofId, Key.ofId?_id]
  rfl

theorem reload_of_stores (hstores : page.Stores lexicon) {other : Browser}
    (hstorage : other.storage = page.browser.storage)
    (h : ((fresh other).step .initStorage).breaksOff = false) :
    ((fresh other).step .initStorage).result = .ok none ∧
      ((fresh other).step .initStorage).after.lexicon = some lexicon := by
  have hitem (name : String) : other.item? name = page.browser.item? name :=
    congrArg (List.lookup name) hstorage
  obtain ⟨hresult, taken, htaken, hvalue⟩ := (step_end .initStorage h).stores_of_initStorage rfl
  have hmarked : (other.item? Browser.marker).isSome = true := by
    rw [hitem]
    exact hstores.marked
  have heq : taken = lexicon := by
    ext key
    have hvalue := hvalue hmarked key
    change taken.value key = (other.item? key.id).getD _ at hvalue
    rw [hvalue, hitem, hstores.item_eq, Option.getD_some]
  exact ⟨hresult, heq ▸ htaken.lexicon_eq⟩

/-- As long as no request fails, a page that is loaded again over the same local storage takes over
the lexicon, once there was an initialization. Every slot has the value that it had, every text is
parsed as before, and with the same memory it is evaluated as before. -/
theorem values_survive_reload {browser other : Browser} {operations : List Operation}
    (hrun : ∀ step ∈ (fresh browser).run operations, step.breaksOff = false)
    (hinit : .initStorage ∈ operations)
    (hstorage : other.storage = ((fresh browser).last operations).browser.storage)
    (hreload : ((fresh other).step .initStorage).breaksOff = false) :
    let page := (fresh browser).last operations
    let reloaded := ((fresh other).step .initStorage).after
    ((fresh other).step .initStorage).result = .ok none ∧
      ∃ lexicon, page.lexicon = some lexicon ∧ reloaded.lexicon = some lexicon ∧
        (∀ key, (page.step (.getValue key.id)).result = .ok (some (lexicon.value key)) ∧
          (reloaded.step (.getValue key.id)).result = .ok (some (lexicon.value key))) ∧
        ∀ selection input,
          (reloaded.render selection input).events = (page.render selection input).events ∧
          (other.reserves = browser.reserves →
            (page.step (.render selection input)).breaksOff = false →
            (reloaded.step (.render selection input)).breaksOff = false →
            (reloaded.step (.render selection input)).result =
              (page.step (.render selection input)).result ∧
            (reloaded.step (.render selection input)).shown? =
              (page.step (.render selection input)).shown?) := by
  intro page reloaded
  obtain ⟨lexicon, hstores⟩ := exists_stores operations hrun hinit
  have hpage : page.lexicon = some lexicon := hstores.lexicon_eq
  obtain ⟨hresult, hreloaded⟩ := reload_of_stores hstores hstorage hreload
  refine ⟨hresult, lexicon, hpage, hreloaded, fun key => ?_,
    fun selection input => ⟨?_, fun hmemory hbefore hafter => ?_⟩⟩
  · exact ⟨result_getValue hpage key, result_getValue hreloaded key⟩
  · rw [events_render hpage, events_render hreloaded]
  · have hsame : reloaded.lexicon = page.lexicon := hreloaded.trans hpage.symm
    obtain ⟨hresult, hshown⟩ := (step_end _ hbefore).render_eq rfl
    obtain ⟨hresultAgain, hshownAgain⟩ := (step_end _ hafter).render_eq rfl
    have hkept := congrArg Prod.snd ((step_end .initStorage hreload).conditions_eq)
    have hrunKept := congrArg Prod.snd (conditions_last operations hrun)
    have hcapacity : session.capacity reloaded.browser = session.capacity page.browser :=
      congrArg (Capacity.mk defaultMaxVariables) (hkept.trans (hmemory.trans hrunKept.symm))
    change _ = reloaded.lexicon.elim _ fun lexicon =>
      (lexicon.evaluate (session.capacity reloaded.browser) input).map _ at hresultAgain
    change _ = reloaded.lexicon.bind fun lexicon =>
      (Operation.render selection input).evaluated? (session.capacity reloaded.browser)
        lexicon at hshownAgain
    rw [hsame, hcapacity] at hresultAgain hshownAgain
    exact ⟨hresultAgain.trans hresult.symm, hshownAgain.trans hshown.symm⟩

theorem values_survive_reload_stale :
    let page := (fresh (Browser.holding [("and", "&")])).last
      [.initStorage, .changeValue "or" "plus"]
    let reloaded := ((fresh (Browser.holding page.browser.storage)).step .initStorage).after
    (reloaded.step (.getValue "and")).result = .ok (some "&") ∧
      (reloaded.step (.getValue "or")).result = .ok (some "plus") ∧
      (reloaded.render .all "a plus b").events = (page.render .all "a plus b").events ∧
      (reloaded.step (.render .all "a plus b")).result =
        (page.step (.render .all "a plus b")).result := by
  intro page reloaded
  have hreliable (storage : List (String × String)) :
      (fresh (Browser.holding storage)).browser.Reliable := fun _ _ => rfl
  have hstorage : (Browser.holding page.browser.storage).storage = page.browser.storage := rfl
  obtain ⟨-, lexicon, -, -, hvalue, hrender⟩ := values_survive_reload
    (unbroken_of_reliable (hreliable [("and", "&")]) [.initStorage, .changeValue "or" "plus"])
    (by decide) hstorage
    (breaksOff_of_reliable (hreliable page.browser.storage) .initStorage)
  have hand : (page.step (.getValue "and")).result = .ok (some "&") := by decide +kernel
  have hor : (page.step (.getValue "or")).result = .ok (some "plus") := by decide +kernel
  have hkept (key : Key) : (reloaded.step (.getValue key.id)).result =
      (page.step (.getValue key.id)).result :=
    (hvalue key).2.trans (hvalue key).1.symm
  obtain ⟨hevents, hsame⟩ := hrender .all "a plus b"
  exact ⟨(hkept .and).trans hand, (hkept .or).trans hor, hevents,
    (hsame rfl (by decide +kernel) (by decide +kernel)).1⟩

end Page

end BooleanTables
