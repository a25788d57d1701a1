import BooleanTables.Proofs.Session.Slots
import BooleanTables.Session.Memory
import Mathlib.Data.List.Nodup
import Mathlib.Logic.Function.Basic

/-!
# Loading from a backing

A backing keeps a map from slots to values. Initialization reads the map slot by slot and saves the
lexicon's value where the map has none, so after it the map and the lexicon agree. Where a call
fails, the lexicon stays as it was, and the map has changed only in slots that were empty.
-/

namespace BooleanTables

variable {σ : Type}

theorem Key.nodup_all : Key.all.Nodup := by
  decide

/-- A backing keeps a map of slots, on a class of hosts that no call leaves: a load reads the map, a
save that succeeds changes one slot, and a call that fails leaves the map as it was. -/
structure Backing.Keeps (backing : Backing σ) (fit : σ → Prop) (held : σ → Key → Option String) :
    Prop where
  fit_load : ∀ key {host}, fit host → fit (backing.load key host).2
  held_load : ∀ key {host}, fit host → held (backing.load key host).2 = held host
  load_eq : ∀ {key host found}, fit host → (backing.load key host).1 = .ok found →
    found = held host key
  fit_save : ∀ key value {host}, fit host → fit (backing.save key value host).2
  held_save : ∀ key value {host}, fit host → (backing.save key value host).1 = .ok () →
    held (backing.save key value host).2 = Function.update (held host) key (some value)
  held_save_error : ∀ key value {host}, fit host → ∀ e, (backing.save key value host).1 = .error e →
    held (backing.save key value host).2 = held host

/-- Hosts that are fit can be told apart further, as long as no call leads out of what is left. -/
theorem Backing.Keeps.restrict {backing : Backing σ} {fit tight : σ → Prop}
    {held : σ → Key → Option String} (hk : backing.Keeps fit held)
    (hfit : ∀ {host}, tight host → fit host)
    (hload : ∀ key {host}, tight host → tight (backing.load key host).2)
    (hsave : ∀ key value {host}, tight host → tight (backing.save key value host).2) :
    backing.Keeps tight held where
  fit_load key _ ht := hload key ht
  held_load key _ ht := hk.held_load key (hfit ht)
  load_eq ht := hk.load_eq (hfit ht)
  fit_save key value _ ht := hsave key value ht
  held_save key value _ ht := hk.held_save key value (hfit ht)
  held_save_error key value _ ht := hk.held_save_error key value (hfit ht)

theorem Memory.values_put (memory : Memory) (key : Key) (value : String) :
    (memory.put key (some value)).values = Function.update memory.values key (some value) := by
  funext other
  simp [put, Function.update_apply]

theorem Memory.backing_keeps : backing.Keeps (fun _ => True) values where
  fit_load _ _ _ := trivial
  held_load key memory _ := by
    cases h : memory.callFails memory.calls.length (.load key) <;> simp [backing, call, h]
  load_eq {key memory found} _ hfound := by
    cases h : memory.callFails memory.calls.length (.load key) with
    | true => simp [backing, call, h] at hfound
    | false => simpa [backing, call, h] using hfound.symm
  fit_save _ _ _ _ := trivial
  held_save key value memory _ hsave := by
    cases h : memory.callFails memory.calls.length (.save key) with
    | true => simp [backing, call, h] at hsave
    | false => simpa [backing, call, h] using values_put _ key value
  held_save_error key value memory _ e hsave := by
    cases h : memory.callFails memory.calls.length (.save key) with
    | true => simp [backing, call, h]
    | false => simp [backing, call, h] at hsave

theorem Memory.backing_keeps_of_fails {fails : BackingCall → Bool} :
    backing.Keeps (fun memory => ∀ index call, memory.callFails index call = fails call) values := by
  refine backing_keeps.restrict (fun _ => trivial) ?_ ?_
  · intro key memory hf
    cases h : fails (.load key) <;> simp [backing, call, hf, h]
  · intro key value memory hf
    cases h : fails (.save key) <;> simp [backing, call, put, hf, h]

/-- The map after the values of a lexicon are saved in those of some slots that are empty. -/
def Lexicon.fill (lexicon : Lexicon) (keys : List Key) (values : Key → Option String) : Key →
    Option String :=
  fun key => (values key).or (if key ∈ keys then some (lexicon.value key) else none)

namespace Lexicon

theorem fill_nil (lexicon : Lexicon) (values : Key → Option String) :
    lexicon.fill [] values = values := by
  funext key
  simp [fill]

theorem fill_cons (lexicon : Lexicon) (key : Key) (keys : List Key) (values : Key → Option String) :
    lexicon.fill (key :: keys) values = lexicon.fill keys (lexicon.fill [key] values) := by
  funext other
  by_cases ho : other = key <;> simp [fill, ho]

theorem fill_of_some (lexicon : Lexicon) {key : Key} {values : Key → Option String} {value : String}
    (h : values key = some value) : lexicon.fill [key] values = values := by
  funext other
  by_cases ho : other = key
  · subst ho
    simp [fill, h]
  · simp [fill, ho]

theorem fill_of_none (lexicon : Lexicon) {key : Key} {values : Key → Option String}
    (h : values key = none) :
    lexicon.fill [key] values = Function.update values key (some (lexicon.value key)) := by
  funext other
  by_cases ho : other = key
  · subst ho
    simp [fill, h]
  · simp [fill, ho]

theorem fill_all (lexicon : Lexicon) (values : Key → Option String) (key : Key) :
    lexicon.fill Key.all values key = some ((values key).getD (lexicon.value key)) := by
  cases h : values key <;> simp [fill, h]

theorem fill_cases (lexicon : Lexicon) (keys : List Key) (values : Key → Option String)
    (key : Key) :
    lexicon.fill keys values key = values key ∨
      (values key = none ∧ lexicon.fill keys values key = some (lexicon.value key)) := by
  cases h : values key with
  | some value => exact .inl (by simp [fill, h])
  | none =>
    by_cases hk : key ∈ keys
    · exact .inr ⟨rfl, by simp [fill, h, hk]⟩
    · exact .inl (by simp [fill, h, hk])

def entries (values : Key → Option String) (keys : List Key) : List (Key × String) :=
  keys.filterMap fun key => (values key).map (key, ·)

theorem value_setAll_entries {keys : List Key} (hn : keys.Nodup) (lexicon : Lexicon)
    (values : Key → Option String) (key : Key) :
    (lexicon.setAll (entries values keys)).value key =
      if key ∈ keys then (values key).getD (lexicon.value key) else lexicon.value key := by
  induction keys generalizing lexicon with
  | nil => rfl
  | cons first rest ih =>
    obtain ⟨hfirst, hrest⟩ := List.nodup_cons.1 hn
    cases hv : values first with
    | none =>
      have hentries : entries values (first :: rest) = entries values rest := by simp [entries, hv]
      rw [hentries, ih hrest]
      by_cases hk : key = first
      · subst hk
        simp [hfirst, hv]
      · simp [hk]
    | some value =>
      have hentries : entries values (first :: rest) = (first, value) :: entries values rest := by
        simp [entries, hv]
      have hset : lexicon.setAll ((first, value) :: entries values rest) =
          (lexicon.set first value).setAll (entries values rest) := rfl
      rw [hentries, hset, ih hrest]
      by_cases hk : key = first
      · subst hk
        simp [hfirst, hv]
      · simp [hk]

theorem value_setAll_all (lexicon : Lexicon) (values : Key → Option String) (key : Key) :
    (lexicon.setAll (entries values Key.all)).value key =
      (values key).getD (lexicon.value key) := by
  rw [value_setAll_entries Key.nodup_all, if_pos (Key.mem_all key)]

theorem entries_cons (key : Key) (keys : List Key) (values : Key → Option String) :
    entries values (key :: keys) = ((values key).map (key, ·)).toList ++ entries values keys := by
  cases h : values key <;> simp [entries, h]

theorem entries_fill {key : Key} {keys : List Key} (h : key ∉ keys) (lexicon : Lexicon)
    (values : Key → Option String) :
    entries (lexicon.fill [key] values) keys = entries values keys := by
  refine List.filterMap_congr fun other ho => ?_
  have hne : other ≠ key := by
    rintro rfl
    exact h ho
  simp [fill, hne]

end Lexicon

variable {backing : Backing σ} {fit : σ → Prop} {held : σ → Key → Option String} {lexicon : Lexicon}

namespace Backing

theorem Passes.held_eq (hk : backing.Keeps fit held) {key : Key} {value : Option String}
    {host next : σ} (hf : fit host) (h : backing.Passes lexicon key host value next) :
    value = held host key ∧ fit next ∧ held next = lexicon.fill [key] (held host) := by
  have hfit := hk.fit_load key hf
  have hheld := hk.held_load key hf
  cases h with
  | found hload =>
    have hvalue := hk.load_eq hf (congrArg Prod.fst hload)
    rw [hload] at hfit hheld
    exact ⟨hvalue, hfit, by rw [hheld, lexicon.fill_of_some hvalue.symm]⟩
  | missing hload hsave =>
    have hvalue := hk.load_eq hf (congrArg Prod.fst hload)
    rw [hload] at hfit hheld
    have hnext := hk.fit_save key (lexicon.value key) hfit
    have hsaved := hk.held_save key (lexicon.value key) hfit (congrArg Prod.fst hsave)
    rw [hsave] at hnext hsaved
    dsimp only at hheld
    exact ⟨hvalue, hnext, by rw [hsaved, hheld, lexicon.fill_of_none hvalue.symm]⟩

theorem PassesAll.held_eq (hk : backing.Keeps fit held) {keys : List Key}
    {found : List (Key × String)} {host last : σ}
    (h : backing.PassesAll lexicon keys host found last) (hf : fit host) :
    fit last ∧ held last = lexicon.fill keys (held host) := by
  induction h with
  | nil host => exact ⟨hf, (lexicon.fill_nil _).symm⟩
  | @cons key keys host next last value found first _ ih =>
    obtain ⟨-, hnext, hheld⟩ := first.held_eq hk hf
    obtain ⟨hlast, hrest⟩ := ih hnext
    rw [hheld, ← lexicon.fill_cons] at hrest
    exact ⟨hlast, hrest⟩

theorem PassesAll.found_eq (hk : backing.Keeps fit held) {keys : List Key}
    {found : List (Key × String)} {host last : σ}
    (h : backing.PassesAll lexicon keys host found last) (hn : keys.Nodup) (hf : fit host) :
    found = Lexicon.entries (held host) keys := by
  induction h with
  | nil => rfl
  | @cons key keys host next last value found first _ ih =>
    obtain ⟨hkey, hrest⟩ := List.nodup_cons.1 hn
    obtain ⟨rfl, hnext, hheld⟩ := first.held_eq hk hf
    rw [ih hrest hnext, hheld, Lexicon.entries_fill hkey, Lexicon.entries_cons]

theorem Fails.held_eq (hk : backing.Keeps fit held) {key : Key} {host last : σ} {e : Error}
    (hf : fit host) (h : backing.Fails lexicon key host e last) :
    fit last ∧ held last = held host := by
  have hfit := hk.fit_load key hf
  have hheld := hk.held_load key hf
  cases h with
  | load hload =>
    rw [hload] at hfit hheld
    exact ⟨hfit, hheld⟩
  | save hload hsave =>
    rw [hload] at hfit hheld
    have hlast := hk.fit_save key (lexicon.value key) hfit
    have hkept := hk.held_save_error key (lexicon.value key) hfit e (congrArg Prod.fst hsave)
    rw [hsave] at hlast hkept
    exact ⟨hlast, hkept.trans hheld⟩

end Backing

/-- How loading some slots may end: all of them are read and filled, or a load or a save fails, and
then only the slots before are filled. -/
inductive Backing.LoadEnd (backing : Backing σ) (fit : σ → Prop) (held : σ → Key → Option String)
    (lexicon : Lexicon) (keys : List Key) (host : σ) :
    Except Error (List (Key × String)) × σ × List Event → Prop
  | all {last : σ} {events : List Event} (fit_last : fit last)
    (held_last : held last = lexicon.fill keys (held host)) :
    LoadEnd backing fit held lexicon keys host
      (.ok (Lexicon.entries (held host) keys), last, events)
  | stopped {before after : List Key} {key : Key} {stop last : σ} {events : List Event} {e : Error}
    (keys_eq : keys = before ++ key :: after) (fit_stop : fit stop)
    (held_stop : held stop = lexicon.fill before (held host))
    (failure : (backing.load key stop).1 = .error e ∨
      held stop key = none ∧ (backing.save key (lexicon.value key) (backing.load key stop).2).1 =
        .error e) (fit_last : fit last) (held_last : held last = lexicon.fill before (held host)) :
    LoadEnd backing fit held lexicon keys host (.error e, last, events)

theorem Backing.Keeps.loadAll_end (hk : backing.Keeps fit held) (lexicon : Lexicon)
    {keys : List Key} (hn : keys.Nodup) {host : σ} (hf : fit host) :
    backing.LoadEnd fit held lexicon keys host (backing.loadAll lexicon keys host) := by
  have hloads := backing.loadsTo_loadAll lexicon keys host
  generalize backing.loadAll lexicon keys host = outcome at hloads ⊢
  obtain ⟨result, last, events⟩ := outcome
  cases hloads with
  | all passed =>
    obtain ⟨hfit, hheld⟩ := passed.held_eq hk hf
    obtain rfl := passed.found_eq hk hn hf
    exact .all hfit hheld
  | stopped keys_eq passed failure =>
    obtain ⟨hreached, hstop⟩ := passed.held_eq hk hf
    obtain ⟨hfit, hheld⟩ := failure.held_eq hk hreached
    refine .stopped keys_eq hreached hstop ?_ hfit (hheld.trans hstop)
    cases failure with
    | load hload => exact .inl (congrArg Prod.fst hload)
    | save hload hsave =>
      have hempty := hk.load_eq hreached (congrArg Prod.fst hload)
      exact .inr ⟨hempty.symm, by rw [hload, hsave]⟩

theorem Backing.Keeps.loadAll_ok (hk : backing.Keeps fit held)
    (hload : ∀ key {host}, fit host → ∃ found, (backing.load key host).1 = .ok found)
    (hsave : ∀ key value {host}, fit host → (backing.save key value host).1 = .ok ())
    (lexicon : Lexicon) {keys : List Key} (hn : keys.Nodup) {host : σ} (hf : fit host) :
    ∃ last events, backing.loadAll lexicon keys host =
      (.ok (Lexicon.entries (held host) keys), last, events) ∧
      fit last ∧ held last = lexicon.fill keys (held host) := by
  have hend := hk.loadAll_end lexicon hn hf
  generalize backing.loadAll lexicon keys host = outcome at hend
  cases hend with
  | @all last events hfit hheld => exact ⟨last, events, rfl, hfit, hheld⟩
  | @stopped before after key stop last events e _ hstop _ failure =>
    exfalso
    obtain herror | ⟨-, herror⟩ := failure
    · obtain ⟨found, hfound⟩ := hload key hstop
      simp [hfound] at herror
    · simp [hsave key _ (hk.fit_load key hstop)] at herror

theorem Backing.loadAll_ok_map {f : σ → σ}
    (hload : ∀ {key found host next}, backing.load key host = (.ok found, next) →
      backing.load key (f host) = (.ok found, f next))
    (hsave : ∀ {key value host next}, backing.save key value host = (.ok (), next) →
      backing.save key value (f host) = (.ok (), f next))
    {keys : List Key} {host last : σ} {found : List (Key × String)} {events : List Event}
    (h : backing.loadAll lexicon keys host = (.ok found, last, events)) :
    backing.loadAll lexicon keys (f host) = (.ok found, f last, events) := by
  induction keys generalizing host found events with
  | nil =>
    cases h
    rfl
  | cons key keys ih =>
    rw [loadAll] at h ⊢
    split at h
    · cases h
    · next value next hloaded =>
      rw [hload hloaded]
      dsimp only at h ⊢
      cases hrest : backing.loadAll lexicon keys next with
      | mk result rest =>
        obtain ⟨other, more⟩ := rest
        rw [hrest] at h
        cases result with
        | error e => cases h
        | ok others =>
          cases h
          rw [ih hrest]
          rfl
    · next next hloaded =>
      rw [hload hloaded]
      dsimp only at h ⊢
      split at h
      · cases h
      · next saved hsaved =>
        rw [hsave hsaved]
        dsimp only at h ⊢
        cases hrest : backing.loadAll lexicon keys saved with
        | mk result rest =>
          obtain ⟨other, more⟩ := rest
          rw [hrest] at h
          cases h
          rw [ih hrest]

theorem Backing.loadAll_preserves {P : σ → Prop}
    (hload : ∀ key {host}, P host → P (backing.load key host).2)
    (hsave : ∀ key value {host}, P host → P (backing.save key value host).2) (lexicon : Lexicon)
    (keys : List Key) {host : σ} (h : P host) : P (backing.loadAll lexicon keys host).2.1 := by
  induction keys generalizing host with
  | nil => exact h
  | cons key keys ih =>
    have hloaded := hload key h
    rw [loadAll]
    split
    · next e next heq => rwa [heq] at hloaded
    · next value next heq =>
      rw [heq] at hloaded
      exact ih hloaded
    · next next heq =>
      rw [heq] at hloaded
      have hsaved := hsave key (lexicon.value key) hloaded
      split
      · next e last hfailed => rwa [hfailed] at hsaved
      · next last hdone =>
        rw [hdone] at hsaved
        exact ih hsaved

end BooleanTables
