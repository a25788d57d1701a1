import BooleanTables.Page.Basic
import BooleanTables.Proofs.Session.Loading

/-!
# Local storage

Where requests succeed and the marker is there, local storage keeps the slots under their ids.
Without the marker only the first slot is taken as empty: saving its value sets the marker, so what
the other slots hold counts.
-/

namespace BooleanTables

theorem Key.id_inj {key other : Key} : key.id = other.id ↔ key = other := by
  refine ⟨fun h => ?_, congrArg id⟩
  have hof := congrArg ofId? h
  rw [ofId?_id, ofId?_id] at hof
  exact Option.some.inj hof

namespace Browser

theorem id_ne_marker (key : Key) : key.id ≠ marker := by
  cases key <;> decide

def Reliable (browser : Browser) : Prop := ∀ number request, browser.fails number request = false

theorem lookup_put (name value other : String) (storage : List (String × String)) :
    (put name value storage).lookup other =
      if other = name then some value else storage.lookup other := by
  induction storage with
  | nil =>
    by_cases ho : other = name
    · simp [put, ho]
    · simp [put, List.lookup_cons, beq_false_of_ne ho, ho]
  | cons entry rest ih =>
    obtain ⟨first, held⟩ := entry
    have hbeq : other ≠ first → (other == first) = false := beq_false_of_ne
    by_cases hf : first = name
    · subst hf
      by_cases ho : other = first
      · simp [put, ho]
      · simp [put, List.lookup_cons, hbeq ho, ho]
    · by_cases ho : other = first
      · subst ho
        simp [put, hf]
      · simp [put, List.lookup_cons, hbeq ho, hf, ih]

@[simp] theorem item?_putItem (browser : Browser) (name value other : String) :
    (browser.putItem name value).item? other =
      if other = name then some value else browser.item? other :=
  lookup_put name value other browser.storage

@[simp] theorem item?_request (browser : Browser) (request : Request) (name : String) :
    (browser.request request).2.item? name = browser.item? name := rfl

variable {browser : Browser}

/-! ### Loads and saves -/

theorem load_preserves {P : Browser → Prop}
    (hrequest : ∀ request {browser}, P browser → P (browser.request request).2) (key : Key)
    (h : P browser) : P (localStorage.load key browser).2 := by
  have hmarker := hrequest (.getItem marker) h
  rw [localStorage]
  dsimp only
  split
  · next e last heq => rwa [heq] at hmarker
  · next next heq =>
    rw [heq] at hmarker
    split
    · exact hmarker
    · have hitem := hrequest (.getItem key.id) hmarker
      split
      · next e last heq => rwa [heq] at hitem
      · next last heq => rwa [heq] at hitem

theorem save_preserves {P : Browser → Prop}
    (hrequest : ∀ request {browser}, P browser → P (browser.request request).2) {key : Key}
    {value : String} (hput : ∀ {browser}, P browser → P (browser.putItem key.id value))
    (hmark : ∀ {browser}, P browser → P (browser.putItem marker "true")) (h : P browser) :
    P (localStorage.save key value browser).2 := by
  have hset := hrequest (.setItem key.id) h
  rw [localStorage]
  dsimp only
  split
  · next e last heq => rwa [heq] at hset
  · next next heq =>
    rw [heq] at hset
    have hsetMarker := hrequest (.setItem marker) (hput hset)
    split
    · next e last heq => rwa [heq] at hsetMarker
    · next last heq =>
      rw [heq] at hsetMarker
      exact hmark hsetMarker

/-- Loading slots keeps what all requests keep and what no value put under the id of a slot, and no
marker, changes. -/
theorem loadAll_preserves {P : Browser → Prop}
    (hrequest : ∀ request {browser}, P browser → P (browser.request request).2)
    (hput : ∀ (key : Key) value {browser}, P browser → P (browser.putItem key.id value))
    (hmark : ∀ {browser}, P browser → P (browser.putItem marker "true")) (lexicon : Lexicon)
    (keys : List Key) (h : P browser) : P (localStorage.loadAll lexicon keys browser).2.1 :=
  Backing.loadAll_preserves (fun key _ h => load_preserves hrequest key h)
    (fun key value _ h => save_preserves hrequest (hput key value) hmark h) lexicon keys h

theorem item?_load (key : Key) (browser : Browser) (name : String) :
    (localStorage.load key browser).2.item? name = browser.item? name :=
  load_preserves (P := fun later : Browser => later.item? name = browser.item? name)
    (fun _ _ h => h) key rfl

/-- What no call changes: which requests fail, and which memory there is. -/
def conditions (browser : Browser) : (Nat → Request → Bool) × (Nat → Bool) :=
  (browser.fails, browser.reserves)

theorem conditions_load (key : Key) (browser : Browser) :
    (localStorage.load key browser).2.conditions = browser.conditions :=
  load_preserves (P := fun later => later.conditions = browser.conditions) (fun _ _ h => h) key rfl

theorem conditions_save (key : Key) (value : String) (browser : Browser) :
    (localStorage.save key value browser).2.conditions = browser.conditions :=
  save_preserves (P := fun later => later.conditions = browser.conditions) (fun _ _ h => h)
    (fun h => h) (fun h => h) rfl

theorem fails_load (key : Key) (browser : Browser) :
    (localStorage.load key browser).2.fails = browser.fails :=
  congrArg Prod.fst (conditions_load key browser)

theorem fails_save (key : Key) (value : String) (browser : Browser) :
    (localStorage.save key value browser).2.fails = browser.fails :=
  congrArg Prod.fst (conditions_save key value browser)

namespace Reliable

theorem request_eq (h : browser.Reliable) (request : Request) :
    browser.request request = (.ok (), (browser.request request).2) := by
  simp [Browser.request, h browser.requests request]

theorem requestAll_eq (h : browser.Reliable) (requests : List Request) :
    browser.requestAll requests =
      (.ok (), { browser with requests := browser.requests + requests.length }) := by
  induction requests generalizing browser with
  | nil => rfl
  | cons request rest ih =>
    have hnext : (browser.request request).2.Reliable := h
    rw [requestAll, h.request_eq]
    dsimp only
    rw [ih hnext, List.length_cons, Nat.add_comm rest.length, ← Nat.add_assoc]
    rfl

theorem load_eq (h : browser.Reliable) (key : Key) :
    (localStorage.load key browser).1 =
      .ok (if (browser.item? marker).isSome then browser.item? key.id else none) := by
  have hnext : (browser.request (.getItem marker)).2.Reliable := h
  rw [localStorage]
  dsimp only
  rw [h.request_eq]
  dsimp only
  rw [item?_request]
  cases browser.item? marker with
  | none => rfl
  | some mark =>
    dsimp only
    rw [hnext.request_eq]
    rfl

theorem save_eq (h : browser.Reliable) (key : Key) (value : String) :
    (localStorage.save key value browser).1 = .ok () ∧
      ∀ name, (localStorage.save key value browser).2.item? name =
        if name = marker then some "true" else if name = key.id then some value
        else browser.item? name := by
  have hnext : ((browser.request (.setItem key.id)).2.putItem key.id value).Reliable := h
  rw [localStorage]
  dsimp only
  rw [h.request_eq]
  dsimp only
  rw [hnext.request_eq]
  simp

end Reliable

/-- No request fails and the marker is there. -/
structure Ready (browser : Browser) : Prop where
  reliable : browser.Reliable
  marked : (browser.item? marker).isSome = true

theorem Ready.load (h : browser.Ready) (key : Key) : (localStorage.load key browser).2.Ready where
  reliable := by
    intro number request
    rw [fails_load]
    exact h.reliable number request
  marked := by
    rw [item?_load]
    exact h.marked

theorem Reliable.ready_save (h : browser.Reliable) (key : Key) (value : String) :
    (localStorage.save key value browser).2.Ready where
  reliable := by
    intro number request
    rw [fails_save]
    exact h number request
  marked := by simp [(h.save_eq key value).2]

theorem localStorage_keeps : localStorage.Keeps Ready fun browser key => browser.item? key.id where
  fit_load key _ h := h.load key
  held_load key browser _ := funext fun other => item?_load key browser other.id
  load_eq {key browser found} h hfound := by
    rw [h.reliable.load_eq, h.marked, if_pos rfl] at hfound
    exact (Except.ok.inj hfound).symm
  fit_save key value _ h := h.reliable.ready_save key value
  held_save key value browser h _ := by
    funext other
    simp [(h.reliable.save_eq key value).2, id_ne_marker, Key.id_inj, Function.update_apply]
  held_save_error key value browser h e herror := by
    simp [(h.reliable.save_eq key value).1] at herror

theorem Ready.loadAll_eq (h : browser.Ready) (lexicon : Lexicon) {keys : List Key}
    (hn : keys.Nodup) :
    ∃ last events, localStorage.loadAll lexicon keys browser =
        (.ok (Lexicon.entries (fun key => browser.item? key.id) keys), last, events) ∧
      last.Ready ∧
      (fun key => last.item? (Key.id key)) = lexicon.fill keys fun key => browser.item? key.id :=
  localStorage_keeps.loadAll_ok (fun key _ hr => ⟨_, hr.reliable.load_eq key⟩)
    (fun key value _ hr => (hr.reliable.save_eq key value).1) lexicon hn h

/-- The slots that an initialization finds when the marker is not there. The first one counts as
empty, and filling it sets the marker. -/
def foundUnmarked (lexicon : Lexicon) (browser : Browser) : Key → Option String :=
  Function.update (fun key => browser.item? key.id) .litTrue (some (lexicon.value .litTrue))

theorem foundUnmarked_litTrue (lexicon : Lexicon) (browser : Browser) :
    foundUnmarked lexicon browser .litTrue = some (lexicon.value .litTrue) := by
  simp [foundUnmarked]

theorem mem_tail_of_ne {key : Key} (h : key ≠ .litTrue) : key ∈ Key.all.tail := by
  have hmem : key ∈ .litTrue :: Key.all.tail := Key.mem_all key
  exact (List.mem_cons.1 hmem).resolve_left h

theorem fill_foundUnmarked (lexicon : Lexicon) (browser : Browser) (key : Key) :
    lexicon.fill Key.all.tail (foundUnmarked lexicon browser) key =
      some ((foundUnmarked lexicon browser key).getD (lexicon.value key)) := by
  by_cases hk : key = .litTrue
  · subst hk
    simp [Lexicon.fill, foundUnmarked_litTrue]
  · rw [Lexicon.fill, if_pos (mem_tail_of_ne hk)]
    cases foundUnmarked lexicon browser key <;> rfl

theorem value_setAll_foundUnmarked (lexicon : Lexicon) (browser : Browser) (key : Key) :
    (lexicon.setAll (Lexicon.entries (foundUnmarked lexicon browser) Key.all.tail)).value key =
      (foundUnmarked lexicon browser key).getD (lexicon.value key) := by
  rw [Lexicon.value_setAll_entries (by decide)]
  by_cases hk : key = .litTrue
  · subst hk
    simp [foundUnmarked_litTrue]
  · rw [if_pos (mem_tail_of_ne hk)]

theorem item?_loadAll_of_ne {name : String} (hmarker : name ≠ marker)
    (hid : ∀ key : Key, name ≠ key.id) (lexicon : Lexicon) (keys : List Key) (browser : Browser) :
    (localStorage.loadAll lexicon keys browser).2.1.item? name = browser.item? name := by
  refine loadAll_preserves (P := fun later : Browser => later.item? name = browser.item? name)
    (fun _ _ h => h) ?_ ?_ lexicon keys rfl
  · intro key value later h
    simpa [hid key] using h
  · intro later h
    simpa [hmarker] using h

theorem marker_loadAll (lexicon : Lexicon) (keys : List Key)
    (h : browser.item? marker = some "true") :
    (localStorage.loadAll lexicon keys browser).2.1.item? marker = some "true" := by
  refine loadAll_preserves (P := fun later : Browser => later.item? marker = some "true")
    (fun _ _ h => h) ?_ ?_ lexicon keys h
  · intro key value later h
    simpa [(id_ne_marker key).symm] using h
  · intro later h
    simp

/-- Without the marker the slot that is loaded first is filled, and the others are loaded with the
marker there. -/
theorem Reliable.loadAll_cons_unmarked (h : browser.Reliable) (hm : browser.item? marker = none)
    (lexicon : Lexicon) (key : Key) (keys : List Key) :
    ∃ filled : Browser, filled.Ready ∧
      (∀ name, filled.item? name =
        if name = marker then some "true" else if name = key.id then some (lexicon.value key)
        else browser.item? name) ∧
      localStorage.loadAll lexicon (key :: keys) browser =
        ((localStorage.loadAll lexicon keys filled).1,
          (localStorage.loadAll lexicon keys filled).2.1,
          .storingDefault key :: (localStorage.loadAll lexicon keys filled).2.2) := by
  have hload : localStorage.load key browser = (.ok none, (localStorage.load key browser).2) := by
    refine Prod.ext ?_ rfl
    rw [h.load_eq, hm]
    rfl
  generalize hnext : (localStorage.load key browser).2 = next at hload
  have hreliable : next.Reliable := by
    intro number request
    rw [← hnext, fails_load]
    exact h number request
  obtain ⟨hok, hsaved⟩ := hreliable.save_eq key (lexicon.value key)
  have hsave : localStorage.save key (lexicon.value key) next =
      (.ok (), (localStorage.save key (lexicon.value key) next).2) := Prod.ext hok rfl
  refine ⟨_, hreliable.ready_save key (lexicon.value key), fun name => ?_, ?_⟩
  · rw [hsaved, ← hnext, item?_load]
  · rw [Backing.loadAll, hload]
    dsimp only
    rw [hsave]

theorem Reliable.loadAll_unmarked (h : browser.Reliable) (hm : browser.item? marker = none)
    (lexicon : Lexicon) :
    ∃ last events, localStorage.loadAll lexicon Key.all browser =
        (.ok (Lexicon.entries (foundUnmarked lexicon browser) Key.all.tail), last, events) ∧
      (∀ key, last.item? key.id =
        some ((foundUnmarked lexicon browser key).getD (lexicon.value key))) ∧
      last.item? marker = some "true" := by
  obtain ⟨filled, hready, hitem, hload⟩ := h.loadAll_cons_unmarked hm lexicon .litTrue Key.all.tail
  have hfound : (fun key => filled.item? (Key.id key)) = foundUnmarked lexicon browser := by
    funext key
    simp [hitem, id_ne_marker, Key.id_inj, foundUnmarked, Function.update_apply]
  obtain ⟨last, events, hrest, -, hheld⟩ :=
    hready.loadAll_eq lexicon (show Key.all.tail.Nodup by decide)
  have hmarked : filled.item? marker = some "true" := by rw [hitem, if_pos rfl]
  have hmark := marker_loadAll lexicon Key.all.tail hmarked
  rw [hrest] at hload hmark
  rw [hfound] at hload hheld
  refine ⟨last, .storingDefault .litTrue :: events, hload, fun key => ?_, hmark⟩
  exact (congrFun hheld key).trans (fill_foundUnmarked lexicon browser key)

end Browser

namespace Page

def opened (page : Page) : Browser := { page.browser with requests := page.browser.requests + 3 }

theorem item?_opened (page : Page) (name : String) :
    page.opened.item? name = page.browser.item? name := rfl

variable {page : Page}

theorem initStorage_of_loadAll (hfirst : page.lexicon = none) (hreliable : page.browser.Reliable)
    {found : List (Key × String)} {last : Browser} {events : List Event}
    (hload : Browser.localStorage.loadAll .standard Key.all page.opened =
      (.ok found, last, events)) :
    page.initStorage.result = .ok () ∧
    page.initStorage.page = ⟨some (Lexicon.standard.setAll found), last⟩ := by
  have hopen : page.browser.requestAll [.window, .openStorage, .storage] = (.ok (), page.opened) :=
    hreliable.requestAll_eq _
  simp [initStorage, hfirst, hopen, session, Session.initStorage, hload, ofOutcome]

/-- Without the marker the first initialization resets only the slot of the literal true. For the
others it takes what local storage holds under their ids, as if the marker had been there. -/
theorem initStorage_unmarked (hfirst : page.lexicon = none) (hreliable : page.browser.Reliable)
    (hm : page.browser.item? Browser.marker = none) :
    page.initStorage.result = .ok () ∧ ∃ lexicon, page.initStorage.page.lexicon = some lexicon ∧
      lexicon.value .litTrue = Key.litTrue.standard ∧
      (∀ key, key ≠ .litTrue → lexicon.value key = (page.browser.item? key.id).getD key.standard) ∧
      (∀ key, page.initStorage.page.browser.item? key.id = some (lexicon.value key)) ∧
      page.initStorage.page.browser.item? Browser.marker = some "true" ∧
      ∀ name, name ≠ Browser.marker → (∀ key : Key, name ≠ key.id) →
        page.initStorage.page.browser.item? name = page.browser.item? name := by
  have hopened : page.opened.Reliable := hreliable
  obtain ⟨last, events, hload, hheld, hmark⟩ := hopened.loadAll_unmarked hm .standard
  obtain ⟨hresult, hpage⟩ := initStorage_of_loadAll hfirst hreliable hload
  have hvalue := Browser.value_setAll_foundUnmarked .standard page.opened
  rw [hpage]
  refine ⟨hresult, _, rfl, ?_, fun key hk => ?_, fun key => ?_, hmark, fun name hn hid => ?_⟩
  · rw [hvalue, Browser.foundUnmarked_litTrue]
    rfl
  · rw [hvalue, Browser.foundUnmarked, Function.update_of_ne hk, item?_opened,
      Lexicon.value_standard]
  · rw [hvalue]
    exact hheld key
  · have hother := Browser.item?_loadAll_of_ne hn hid .standard Key.all page.opened
    rw [hload] at hother
    exact hother

theorem initStorage_unmarked_stale :
    let page := fresh (Browser.holding [("and", "&"), ("lit-true", "1"), ("theme", "dark")])
    page.initStorage.result = .ok () ∧ ∃ lexicon, page.initStorage.page.lexicon = some lexicon ∧
      lexicon.value .litTrue = "true" ∧ lexicon.value .and = "&" ∧
      lexicon.value .or = Key.or.standard ∧
      page.initStorage.page.browser.item? "lit-true" = some "true" ∧
      page.initStorage.page.browser.item? "theme" = some "dark" := by
  intro page
  obtain ⟨hresult, lexicon, hlexicon, htrue, hvalue, hitem, -, hother⟩ :=
    @initStorage_unmarked page rfl (fun _ _ => rfl) (by decide)
  have hheld := hitem .litTrue
  rw [htrue] at hheld
  refine ⟨hresult, lexicon, hlexicon, htrue, hvalue .and (by decide),
    hvalue .or (by decide), hheld, ?_⟩
  exact hother "theme" (by decide) (by intro key; cases key <;> decide)

theorem initStorage_takes_unmarked :
    ¬ ∀ page : Page, page.lexicon = none → page.browser.Reliable →
      page.browser.item? Browser.marker = none →
      ∃ lexicon, page.initStorage.page.lexicon = some lexicon ∧ ∀ key,
        lexicon.value key = key.standard := by
  intro h
  obtain ⟨lexicon, hlexicon, hvalue⟩ :=
    h (fresh (Browser.holding [("and", "&")])) rfl (fun _ _ => rfl) (by decide)
  have hand : (fresh (Browser.holding [("and", "&")])).initStorage.page.lexicon.map (·.value .and) =
      some "&" := by
    decide
  rw [hlexicon, Option.map_some, hvalue .and] at hand
  exact absurd hand (by decide)

end Page

end BooleanTables
