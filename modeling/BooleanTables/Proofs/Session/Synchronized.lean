import BooleanTables.Proofs.Session.InStep
import BooleanTables.Proofs.Session.Shown

/-!
# Lexicon and backing after an initialization

Where no call fails, an initialization loads every slot once, and saves the lexicon's value in each
slot that is empty before it loads the next one. The lexicon and the map agree afterwards, so a
second initialization loads what is there, saves nothing and changes nothing.
-/

namespace BooleanTables

variable {σ : Type}

/-- A backing that keeps a map of slots, and none of whose calls fails. -/
structure Backing.KeepsUnfailing (backing : Backing σ) (fit : σ → Prop)
    (held : σ → Key → Option String) : Prop
    extends backing.Keeps fit held where
  load_ok : ∀ key {host}, fit host → ∃ found, (backing.load key host).1 = .ok found
  save_ok : ∀ key value {host}, fit host → (backing.save key value host).1 = .ok ()

theorem Memory.backing_keepsUnfailing :
    backing.KeepsUnfailing (fun memory => ∀ index call,
      memory.callFails index call = false) values where
  toKeeps := backing_keeps_of_fails
  load_ok key memory hf := ⟨memory.values key, by simp [backing, call, hf]⟩
  save_ok key value memory hf := by simp [backing, call, hf]

def HostCall.saved? : HostCall → Option (Key × String)
  | .save key value => some (key, value)
  | _ => none

def Traced.saves (traced : Traced σ) : List (Key × String) := traced.calls.filterMap HostCall.saved?

/-! ### The calls of a loading -/

namespace Lexicon

/-- The calls that loading some slots makes. A slot that is found empty is saved at once. -/
def loadCalls (lexicon : Lexicon) (values : Key → Option String)
    (keys : List Key) : List HostCall :=
  keys.flatMap fun key =>
    .load key :: if values key = none then [.save key (lexicon.value key)] else []

theorem loadCalls_cons (lexicon : Lexicon) (values : Key → Option String) (key : Key)
    (keys : List Key) :
    lexicon.loadCalls values (key :: keys) =
      (.load key :: if values key = none then [.save key (lexicon.value key)] else []) ++
        lexicon.loadCalls values keys :=
  List.flatMap_cons

theorem loadCalls_update {key : Key} {keys : List Key} (h : key ∉ keys) (lexicon : Lexicon)
    (values : Key → Option String) (value : Option String) :
    lexicon.loadCalls (Function.update values key value) keys = lexicon.loadCalls values keys := by
  apply List.flatMap_congr
  intro other ho
  have hne : other ≠ key := by
    rintro rfl
    exact h ho
  rw [Function.update_of_ne hne]

theorem saved_loadCalls (lexicon : Lexicon) (values : Key → Option String) (keys : List Key) :
    (lexicon.loadCalls values keys).filterMap HostCall.saved? =
      (keys.filter fun key => values key = none).map fun key => (key, lexicon.value key) := by
  induction keys with
  | nil => rfl
  | cons key keys ih =>
    rw [loadCalls_cons, List.filterMap_append, ih]
    by_cases hvalue : values key = none
    · rw [if_pos hvalue, List.filter_cons_of_pos (by simpa using hvalue)]
      rfl
    · rw [if_neg hvalue, List.filter_cons_of_neg (by simpa using hvalue)]
      rfl

theorem loadCalls_of_full {values : Key → Option String} (h : ∀ key, values key ≠ none)
    (lexicon : Lexicon) (keys : List Key) : lexicon.loadCalls values keys = keys.map .load := by
  induction keys with
  | nil => rfl
  | cons key keys ih =>
    rw [loadCalls_cons, ih, if_neg (h key)]
    rfl

end Lexicon

variable {backing : Backing σ} {fit : σ → Prop} {held : σ → Key → Option String}

namespace Backing.KeepsUnfailing

theorem load_fst_eq (hs : backing.KeepsUnfailing fit held) (key : Key) {host : σ} (hf : fit host) :
    (backing.load key host).1 = .ok (held host key) := by
  obtain ⟨found, hfound⟩ := hs.load_ok key hf
  rw [hfound, hs.load_eq hf hfound]

/-- Each slot is loaded in turn, and saved before the next one if it is empty. -/
theorem calls_loadAll (hs : backing.KeepsUnfailing fit held) (lexicon : Lexicon) {keys : List Key}
    (hn : keys.Nodup) {traced : Traced σ} (hf : fit traced.host) :
    (backing.traced.loadAll lexicon keys traced).2.1.calls =
      traced.calls ++ lexicon.loadCalls (held traced.host) keys := by
  induction keys generalizing traced with
  | nil => exact (List.append_nil _).symm
  | cons key keys ih =>
    obtain ⟨hkey, hrest⟩ := List.nodup_cons.1 hn
    have hfit := hs.fit_load key hf
    have hheld := hs.held_load key hf
    have hload : backing.traced.load key traced =
        (.ok (held traced.host key),
          ⟨(backing.load key traced.host).2, traced.calls ++ [.load key]⟩) := by
      rw [← hs.load_fst_eq key hf]
      rfl
    rw [loadAll, hload, Lexicon.loadCalls_cons]
    cases hvalue : held traced.host key with
    | some value =>
      dsimp only
      rw [ih hrest hfit, hheld]
      simp
    | none =>
      have hsaved := hs.save_ok key (lexicon.value key) hfit
      have hupdate := hs.held_save key (lexicon.value key) hfit hsaved
      have hsave : backing.traced.save key (lexicon.value key)
          ⟨(backing.load key traced.host).2, traced.calls ++ [.load key]⟩ =
          (.ok (), ⟨(backing.save key (lexicon.value key) (backing.load key traced.host).2).2,
            traced.calls ++ [.load key] ++ [.save key (lexicon.value key)]⟩) := by
        rw [← hsaved]
        rfl
      dsimp only
      rw [hsave]
      dsimp only
      rw [ih hrest (hs.fit_save key _ hfit), hupdate, Lexicon.loadCalls_update hkey, hheld]
      simp

end Backing.KeepsUnfailing

/-! ### Initializations -/

namespace Session

variable {session : Session σ}

/-- An initialization that succeeds: the lexicon takes over what the map holds, the map takes over
the rest, and the calls are those of loading every slot. -/
structure Synchronizes (held : σ → Key → Option String) (lexicon : Lexicon) (traced : Traced σ)
    (outcome : Outcome (Traced σ) Unit) : Prop where
  result_eq : outcome.result = .ok ()
  value_eq : ∀ key, outcome.lexicon.value key = (held traced.host key).getD (lexicon.value key)
  held_eq : ∀ key, held outcome.host.host key = some (outcome.lexicon.value key)
  calls_eq : outcome.host.calls = traced.calls ++ lexicon.loadCalls (held traced.host) Key.all

namespace Synchronizes

variable {lexicon : Lexicon} {traced : Traced σ} {outcome : Outcome (Traced σ) Unit}

theorem held_of_some (h : Synchronizes held lexicon traced outcome) {key : Key} {value : String}
    (hvalue : held traced.host key = some value) : held outcome.host.host key = some value := by
  rw [h.held_eq, h.value_eq, hvalue, Option.getD_some]

theorem saves_eq (h : Synchronizes held lexicon traced outcome) :
    outcome.host.saves = traced.saves ++
      (Key.all.filter fun key => held traced.host key = none).map fun key =>
        (key, lexicon.value key) := by
  unfold Traced.saves
  rw [h.calls_eq, List.filterMap_append, Lexicon.saved_loadCalls]

theorem of_agreement (h : Synchronizes held lexicon traced outcome)
    (hagree : ∀ key, held traced.host key = some (lexicon.value key)) :
    outcome.lexicon = lexicon ∧ held outcome.host.host = held traced.host ∧
      outcome.host.calls = traced.calls ++ Key.all.map .load := by
  have hvalue : ∀ key, outcome.lexicon.value key = lexicon.value key := by
    intro key
    rw [h.value_eq, hagree, Option.getD_some]
  have hfull : ∀ key, held traced.host key ≠ none := by
    intro key
    simp [hagree]
  refine ⟨Lexicon.ext (funext hvalue), ?_, ?_⟩
  · funext key
    rw [h.held_eq, hvalue, hagree]
  · rw [h.calls_eq, Lexicon.loadCalls_of_full hfull]

end Synchronizes

theorem host_initStorage_traced (hb : session.backing = some backing) (lexicon : Lexicon)
    (traced : Traced σ) :
    (session.traced.initStorage lexicon traced).host =
      (backing.traced.loadAll lexicon Key.all traced).2.1 := by
  have htraced : session.traced.backing = some backing.traced := by
    change session.backing.map Backing.traced = _
    rw [hb, Option.map_some]
  exact host_initStorage htraced lexicon traced

theorem initStorage_ok (hb : session.backing = some backing) (hs : backing.KeepsUnfailing fit held)
    (lexicon : Lexicon) {host : σ} (hf : fit host) :
    (session.initStorage lexicon host).result = .ok () ∧
    fit (session.initStorage lexicon host).host := by
  obtain ⟨last, events, hloaded, hfit, -⟩ :=
    hs.loadAll_ok hs.load_ok hs.save_ok lexicon Key.nodup_all hf
  rw [initStorage_of_loadAll_ok hb hloaded]
  exact ⟨rfl, hfit⟩

theorem synchronizes_initStorage (hb : session.backing = some backing)
    (hs : backing.KeepsUnfailing fit held) (lexicon : Lexicon) {traced : Traced σ}
    (hf : fit traced.host) :
    Synchronizes held lexicon traced (session.traced.initStorage lexicon traced) := by
  have huntraced := (session.initStorage_traced lexicon traced).1
  have hcalls := hs.calls_loadAll lexicon Key.nodup_all hf
  rw [← host_initStorage_traced hb] at hcalls
  obtain ⟨hresult, -⟩ := initStorage_ok hb hs lexicon hf
  have hend := initStorage_end hb hs.toKeeps lexicon hf
  rw [← huntraced] at hresult hend
  cases hend with
  | loaded _ _ hvalue hheld => exact ⟨hresult, hvalue, hheld, hcalls⟩
  | failed herror =>
    rw [herror] at hresult
    cases hresult

/-- Where no call fails, an initialization gives the lexicon what the map holds and fills the empty
slots of the map from the lexicon, with one save for each of them in the order of the slots. A
second initialization only loads. -/
theorem initStorage_synchronizes (hb : session.backing = some backing)
    (hs : backing.KeepsUnfailing fit held) (lexicon : Lexicon) {host : σ} (hf : fit host) :
    let first := session.traced.initStorage lexicon ⟨host, []⟩
    let second := session.traced.initStorage first.lexicon first.host
    first.untraced = session.initStorage lexicon host ∧
      second.untraced = session.initStorage first.lexicon first.host.host ∧
      first.result = .ok () ∧
      (∀ key, first.lexicon.value key = (held host key).getD (lexicon.value key)) ∧
      (∀ key, held first.host.host key = some (first.lexicon.value key)) ∧
      (∀ key value, held host key = some value → held first.host.host key = some value) ∧
      first.host.saves =
        (Key.all.filter fun key => held host key = none).map (fun key => (key, lexicon.value key)) ∧
      second.result = .ok () ∧ second.lexicon = first.lexicon ∧
      held second.host.host = held first.host.host ∧
      second.host.calls = first.host.calls ++ Key.all.map .load := by
  intro first second
  have hfirst : Synchronizes held lexicon ⟨host, []⟩ first :=
    synchronizes_initStorage hb hs lexicon hf
  have huntraced : first.untraced = session.initStorage lexicon host :=
    (session.initStorage_traced lexicon ⟨host, []⟩).1
  have hfit : fit first.host.host := by
    have hlast := (initStorage_ok hb hs lexicon hf).2
    rwa [← huntraced] at hlast
  have hsecond : Synchronizes held first.lexicon first.host second :=
    synchronizes_initStorage hb hs first.lexicon hfit
  obtain ⟨hlexicon, hheld, hcalls⟩ := hsecond.of_agreement hfirst.held_eq
  have hagain : second.untraced = session.initStorage first.lexicon first.host.host :=
    (session.initStorage_traced first.lexicon first.host).1
  refine ⟨huntraced, hagain, hfirst.result_eq, hfirst.value_eq, hfirst.held_eq, ?_, hfirst.saves_eq,
    hsecond.result_eq, hlexicon, hheld, hcalls⟩
  intro key value hvalue
  exact hfirst.held_of_some hvalue

theorem initStorage_synchronizes_partial :
    let session := Memory.session 12 true
    let host := Memory.holding
      (Function.update (Function.update (fun _ => none) .or (some "∨")) .not (some ""))
    let lexicon := ((Lexicon.standard.set .and "&").set .or "v").set .rightParen ")"
    let first := session.traced.initStorage lexicon ⟨host, []⟩
    let second := session.traced.initStorage first.lexicon first.host
    session.backing = some Memory.backing ∧ (∀ index call, host.callFails index call = false) ∧
      first.result = .ok () ∧ first.lexicon.value .or = "∨" ∧ first.lexicon.value .not = "" ∧
      first.lexicon.value .and = "&" ∧ first.host.host.values .and = some "&" ∧
      first.host.host.values .or = some "∨" ∧
      first.host.saves = [(.litTrue, "true"), (.litFalse, "false"), (.and, "&"),
        (.xor, "⊕, xor, ^"), (.implication, "→, ->, =>"), (.equality, "≡, <=>, ==, ="),
        (.leftParen, "(, \x7b, ["), (.rightParen, ")")] ∧
      second.result = .ok () ∧ second.lexicon = first.lexicon ∧
      second.host.host.values = first.host.host.values ∧
      second.host.calls = first.host.calls ++ Key.all.map .load := by
  intro session host lexicon
  have hfit : ∀ index call, host.callFails index call = false := fun _ _ => rfl
  have hor : host.values .or = some "∨" := rfl
  have hnot : host.values .not = some "" := rfl
  have hand : host.values .and = none := rfl
  have hother : lexicon.value .and = "&" := rfl
  have hmissing :
      ((Key.all.filter fun key => host.values key = none).map fun key => (key, lexicon.value key)) =
      [(.litTrue, "true"), (.litFalse, "false"), (.and, "&"), (.xor, "⊕, xor, ^"),
        (.implication, "→, ->, =>"), (.equality, "≡, <=>, ==, ="), (.leftParen, "(, \x7b, ["),
        (.rightParen, ")")] := by
    decide
  clear_value host lexicon
  intro first second
  obtain ⟨-, -, hresult, hvalue, hheld, hkept, hsaves, hsecond⟩ :=
    session.initStorage_synchronizes rfl Memory.backing_keepsUnfailing lexicon hfit
  have hfilled : first.lexicon.value .and = "&" := by
    rw [hvalue, hand, Option.getD_none, hother]
  refine ⟨rfl, hfit, hresult, ?_, ?_, hfilled, ?_, hkept .or "∨" hor,
    hsaves.trans hmissing, hsecond⟩
  · rw [hvalue, hor, Option.getD_some]
  · rw [hvalue, hnot, Option.getD_some]
  · rw [hheld, hfilled]

end Session

end BooleanTables
