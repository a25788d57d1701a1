import BooleanTables.Proofs.Session.Synchronized

/-!
# Failed initializations

An initialization stops at the first slot whose load fails, or which is found empty and whose save
fails. It leaves the lexicon as it was, and only the empty slots before that one are filled. A later
initialization would fill them with the same values, so once the calls succeed it ends as if the
failed one had never been tried.
-/

namespace BooleanTables

variable {σ : Type} {backing : Backing σ} {fit : σ → Prop} {held : σ → Key → Option String}
    {lexicon : Lexicon}

theorem Lexicon.fill_getD (lexicon : Lexicon) (keys : List Key) (values : Key → Option String)
    (key : Key) :
    (lexicon.fill keys values key).getD (lexicon.value key) =
      (values key).getD (lexicon.value key) := by
  obtain hkept | ⟨hempty, hfilled⟩ := lexicon.fill_cases keys values key
  · rw [hkept]
  · rw [hfilled, hempty, Option.getD_some, Option.getD_none]

/-! ### Slots whose calls are to fail -/

/-- The errors of the slots whose load or whose save fails. -/
structure Faults where
  load : Key → Option Error
  save : Key → Option Error

/-- The error of a slot in a loading: that of its load or, where the slot is empty, that of its
save. -/
def Faults.at? (faults : Faults) (values : Key → Option String) (key : Key) : Option Error :=
  (faults.load key).or (if values key = none then faults.save key else none)

def Faults.answer {α : Type} (fault : Option Error) (value : α) : Except Error α :=
  fault.elim (.ok value) .error

theorem Faults.answer_eq_ok_iff {α : Type} {fault : Option Error} {value found : α} :
    answer fault value = .ok found ↔ fault = none ∧ value = found := by
  cases fault <;> simp [answer]

theorem Faults.answer_eq_error_iff {α : Type} {fault : Option Error} {value : α} {e : Error} :
    answer fault value = .error e ↔ fault = some e := by
  cases fault <;> simp [answer]

/-- The calls for the slots with an error fail with it, and no others fail. -/
structure Backing.FailsBy (backing : Backing σ) (faults : Faults) (fit : σ → Prop)
    (held : σ → Key → Option String) : Prop where
  load_eq : ∀ key {host}, fit host →
    (backing.load key host).1 = Faults.answer (faults.load key) (held host key)
  save_eq : ∀ key value {host}, fit host →
    (backing.save key value host).1 = Faults.answer (faults.save key) ()

namespace Backing.FailsBy

variable {faults : Faults} {key : Key} {host : σ}

theorem load_ok (hb : backing.FailsBy faults fit held) (hf : fit host) {found : Option String}
    {next : σ} (h : backing.load key host = (.ok found, next)) :
    faults.load key = none ∧ held host key = found :=
  Faults.answer_eq_ok_iff.1 ((hb.load_eq key hf).symm.trans (congrArg Prod.fst h))

theorem load_error (hb : backing.FailsBy faults fit held) (hf : fit host) {e : Error} {next : σ}
    (h : backing.load key host = (.error e, next)) : faults.load key = some e :=
  Faults.answer_eq_error_iff.1 ((hb.load_eq key hf).symm.trans (congrArg Prod.fst h))

theorem save_ok (hb : backing.FailsBy faults fit held) (hf : fit host) {value : String} {next : σ}
    (h : backing.save key value host = (.ok (), next)) : faults.save key = none :=
  (Faults.answer_eq_ok_iff.1 ((hb.save_eq key value hf).symm.trans (congrArg Prod.fst h))).1

theorem save_error (hb : backing.FailsBy faults fit held) (hf : fit host) {value : String}
    {e : Error} {next : σ} (h : backing.save key value host = (.error e, next)) :
    faults.save key = some e :=
  Faults.answer_eq_error_iff.1 ((hb.save_eq key value hf).symm.trans (congrArg Prod.fst h))

theorem at?_of_passes (hb : backing.FailsBy faults fit held) (hk : backing.Keeps fit held)
    (hf : fit host) {value : Option String} {next : σ}
    (h : backing.Passes lexicon key host value next) :
    faults.at? (held host) key = none := by
  cases h with
  | found hload =>
    obtain ⟨hfault, hvalue⟩ := hb.load_ok hf hload
    simp [Faults.at?, hfault, hvalue]
  | missing hload hsave =>
    obtain ⟨hfault, hvalue⟩ := hb.load_ok hf hload
    have hfit := hk.fit_load key hf
    rw [hload] at hfit
    simp [Faults.at?, hfault, hvalue, hb.save_ok hfit hsave]

theorem at?_of_fails (hb : backing.FailsBy faults fit held) (hk : backing.Keeps fit held)
    (hf : fit host) {last : σ} {e : Error} (h : backing.Fails lexicon key host e last) :
    faults.at? (held host) key = some e := by
  cases h with
  | load hload => simp [Faults.at?, hb.load_error hf hload]
  | save hload hsave =>
    obtain ⟨hfault, hvalue⟩ := hb.load_ok hf hload
    have hfit := hk.fit_load key hf
    rw [hload] at hfit
    simp [Faults.at?, hfault, hvalue, hb.save_error hfit hsave]

/-- The slots that pass have no error, whatever has been filled in before their turn. -/
theorem at?_of_passesAll (hb : backing.FailsBy faults fit held) (hk : backing.Keeps fit held)
    {keys : List Key} {found : List (Key × String)} {last : σ}
    (h : backing.PassesAll lexicon keys host found last) (hf : fit host) :
    ∀ key ∈ keys, faults.at? (held host) key = none := by
  induction h with
  | nil => simp
  | @cons first keys host next last value found hfirst _ ih =>
    obtain ⟨-, hnext, hheld⟩ := hfirst.held_eq hk hf
    have hpassed := hb.at?_of_passes hk hf hfirst
    intro key hmem
    by_cases hkey : key = first
    · rw [hkey, hpassed]
    · have hrest := ih hnext key (List.mem_of_ne_of_mem hkey hmem)
      rw [hheld] at hrest
      simpa [Faults.at?, Lexicon.fill, hkey] using hrest

end Backing.FailsBy

/-- The errors of a host in memory where calls fail by their kind, whenever they are made. -/
def Memory.faults (fails : BackingCall → Bool) : Faults where
  load key := if fails (.load key)
    then some (.host ("cannot " ++ (BackingCall.load key).text)) else none
  save key := if fails (.save key)
    then some (.host ("cannot " ++ (BackingCall.save key).text)) else none

theorem Memory.backing_failsBy {fails : BackingCall → Bool} :
    Memory.backing.FailsBy (faults fails)
      (fun memory => ∀ index call, memory.callFails index call = fails call)
      values where
  load_eq key memory hf := by
    cases h : fails (.load key) <;> simp [Memory.backing, call, faults, Faults.answer, hf, h]
  save_eq key value memory hf := by
    cases h : fails (.save key) <;> simp [Memory.backing, call, faults, Faults.answer, hf, h]

/-! ### Failed attempts -/

namespace Session

variable {session : Session σ}

theorem initStorage_of_unfailing (hb : session.backing = some backing)
    (hs : backing.KeepsUnfailing fit held) (lexicon : Lexicon) {host : σ} (hf : fit host) :
    (session.initStorage lexicon host).result = .ok () ∧
      (∀ key, (session.initStorage lexicon host).lexicon.value key =
        (held host key).getD (lexicon.value key)) ∧
      ∀ key, held (session.initStorage lexicon host).host key =
        some ((held host key).getD (lexicon.value key)) := by
  obtain ⟨hresult, -⟩ := initStorage_ok hb hs lexicon hf
  have hend := initStorage_end hb hs.toKeeps lexicon hf
  generalize session.initStorage lexicon host = outcome at hresult hend ⊢
  cases hend with
  | loaded _ _ hvalue hheld => exact ⟨hresult, hvalue, fun key => by rw [hheld, hvalue]⟩
  | failed herror =>
    rw [herror] at hresult
    cases hresult

theorem initStorage_of_filled (hb : session.backing = some backing)
    (hs : backing.KeepsUnfailing fit held) {keys : List Key} {filled untouched : σ}
    (hfilled : fit filled) (huntouched : fit untouched)
    (h : held filled = lexicon.fill keys (held untouched)) :
    let retried := session.initStorage lexicon filled
    let direct := session.initStorage lexicon untouched
    retried.result = .ok () ∧ direct.result = .ok () ∧ retried.lexicon = direct.lexicon ∧
      held retried.host = held direct.host := by
  intro retried direct
  obtain ⟨hretried, hvalue, hheld⟩ := initStorage_of_unfailing hb hs lexicon hfilled
  obtain ⟨hdirect, hvalue', hheld'⟩ := initStorage_of_unfailing hb hs lexicon huntouched
  have hslot : ∀ key, (held filled key).getD (lexicon.value key) =
      (held untouched key).getD (lexicon.value key) := by
    intro key
    rw [h, lexicon.fill_getD]
  refine ⟨hretried, hdirect, Lexicon.ext (funext fun key => ?_), funext fun key => ?_⟩
  · rw [hvalue, hvalue', hslot]
  · rw [hheld, hheld', hslot]

/-- A failed initialization leaves the lexicon as it was and fills only the empty slots before the
first one, in the order of the slots, whose load fails or which is empty and whose save fails. Once
no call fails, another attempt succeeds, and it leaves the lexicon and the map that it would have
left without the failed one. -/
theorem initStorage_failed (hb : session.backing = some backing) (hk : backing.Keeps fit held)
    (lexicon : Lexicon) {host : σ} (hf : fit host) {e : Error}
    (herror : (session.initStorage lexicon host).result = .error e) :
    let failed := session.initStorage lexicon host
    failed.lexicon = lexicon ∧
      (∃ before key after found reached, Key.all = before ++ key :: after ∧
        backing.PassesAll lexicon before host found reached ∧
          backing.Fails lexicon key reached e failed.host ∧
        (∀ faults : Faults, backing.FailsBy faults fit held →
          (∀ earlier ∈ before, faults.at? (held host) earlier = none) ∧
            faults.at? (held host) key = some e) ∧
        ∀ slot, held failed.host slot =
          if held host slot = none ∧ slot ∈ before then some (lexicon.value slot)
          else held host slot) ∧
      ∀ {calm : σ → Prop} {mended : Backing σ}, mended.KeepsUnfailing calm held →
        ∀ repaired : Session σ, repaired.backing = some mended →
        ∀ {later untouched : σ}, calm later → calm untouched → held later = held failed.host →
          held untouched = held host →
          let retried := repaired.initStorage failed.lexicon later
          let direct := repaired.initStorage lexicon untouched
          retried.result = .ok () ∧ direct.result = .ok () ∧ retried.lexicon = direct.lexicon ∧
            held retried.host = held direct.host := by
  intro failed
  obtain ⟨before, key, after, found, reached, hall, hpass, hfails⟩ :=
    Backing.exists_fails_of_loadAll (loadAll_of_initStorage_error hb herror)
  rw [← host_initStorage hb] at hfails
  obtain ⟨hfit, hreached⟩ := hpass.held_eq hk hf
  have hheld : held failed.host = lexicon.fill before (held host) :=
    (hfails.held_eq hk hfit).2.trans hreached
  have hlexicon : failed.lexicon = lexicon := lexicon_of_initStorage_error herror
  refine ⟨hlexicon,
    ⟨before, key, after, found, reached, hall, hpass, hfails, fun faults hfaults => ?_,
    fun slot => ?_⟩, ?_⟩
  · have hkey : key ∉ before := by
      have hnodup := Key.nodup_all
      rw [hall] at hnodup
      exact fun hmem => List.disjoint_of_nodup_append hnodup hmem List.mem_cons_self
    have hat := hfaults.at?_of_fails hk hfit hfails
    rw [hreached] at hat
    exact ⟨hfaults.at?_of_passesAll hk hpass hf,
      by simpa [Faults.at?, Lexicon.fill, hkey] using hat⟩
  · rw [hheld, Lexicon.fill]
    cases held host slot <;> simp
  · intro calm mended hmended repaired hrepaired later untouched hlater huntouched hsame hother
    rw [hlexicon]
    exact initStorage_of_filled hrepaired hmended hlater huntouched (by rw [hsame, hheld, hother])

/-- A load that would fail comes too late, and the save of a slot that is held is not made. -/
theorem initStorage_failed_xor :
    let session := Memory.session 12 true
    let fails : BackingCall → Bool := fun call => call ∈ [.load .equality, .save .xor, .save .or]
    let untouched := Memory.holding (Function.update (fun _ => none) .or (some "∨"))
    let faults := (Memory.faults fails).at? untouched.values
    let lexicon := Lexicon.standard.set .and "&"
    let failed := session.initStorage lexicon { untouched with callFails := fun _ => fails }
    let retried :=
      session.initStorage failed.lexicon { failed.host with callFails := fun _ _ => false }
    let direct := session.initStorage lexicon untouched
    failed.result = .error (.host "cannot save xor") ∧ failed.lexicon = lexicon ∧
      faults .equality = some (.host "cannot load equality") ∧
      (∃ before after, Key.all = before ++ .xor :: after ∧
        (∀ earlier ∈ before, faults earlier = none) ∧
        faults .xor = some (.host "cannot save xor")) ∧
      failed.host.values .and = some "&" ∧ failed.host.values .or = some "∨" ∧
      failed.host.values .xor = none ∧
      retried.result = .ok () ∧ retried.lexicon = direct.lexicon ∧
      retried.host.values = direct.host.values := by
  intro session fails untouched faults lexicon failed retried direct
  have herror : failed.result = .error (.host "cannot save xor") := by decide
  have hlater : ∀ index call,
      Memory.callFails { failed.host with callFails := fun _ _ => false } index call = false :=
    fun _ _ => rfl
  have huntouched : ∀ index call, untouched.callFails index call = false := fun _ _ => rfl
  have honly : ∀ key ∈ Key.all, faults key = some (.host "cannot save xor") → key = .xor := by
    decide
  obtain ⟨hlexicon, ⟨before, key, after, _, _, hall, -, -, hfirst, -⟩, hretry⟩ :=
    initStorage_failed rfl Memory.backing_keeps_of_fails lexicon (fun _ _ => rfl) herror
  obtain ⟨hearlier, hkey⟩ := hfirst (Memory.faults fails) Memory.backing_failsBy
  obtain rfl : key = .xor := honly key (Key.mem_all key) hkey
  obtain ⟨hretried, -, hsame, hkept⟩ :=
    hretry Memory.backing_keepsUnfailing session rfl hlater huntouched rfl rfl
  exact ⟨herror, hlexicon, by decide, ⟨before, after, hall, hearlier, hkey⟩, by decide, by decide,
    by decide, hretried, hsame, hkept⟩

end Session

end BooleanTables
