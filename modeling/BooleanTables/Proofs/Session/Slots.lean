import BooleanTables.Session.Basic

/-!
# Slot by slot

A loading takes the slots in their order. Each of them is found or filled in, and then it is the
next one's turn, or a call for it fails, and then the loading stops.
-/

namespace BooleanTables

variable {σ : Type}

namespace Backing

/-- A slot is loaded or, where nothing is found, the lexicon's value is saved there. -/
inductive Passes (backing : Backing σ) (lexicon : Lexicon) (key : Key) (host : σ) :
    Option String → σ → Prop
  | found {value : String} {next : σ} (load_eq : backing.load key host = (.ok (some value), next)) :
    Passes backing lexicon key host (some value) next
  | missing {loaded next : σ} (load_eq : backing.load key host = (.ok none, loaded))
    (save_eq : backing.save key (lexicon.value key) loaded = (.ok (), next)) :
    Passes backing lexicon key host none next

/-- The load of a slot fails or, where nothing is found, the save. -/
inductive Fails (backing : Backing σ) (lexicon : Lexicon) (key : Key) (host : σ) (e : Error)
    (last : σ) : Prop
  | load (load_eq : backing.load key host = (.error e, last)) :
    Fails backing lexicon key host e last
  | save {loaded : σ} (load_eq : backing.load key host = (.ok none, loaded))
    (save_eq : backing.save key (lexicon.value key) loaded = (.error e, last)) :
    Fails backing lexicon key host e last

/-- Some slots pass one after the other. Those that are found are collected. -/
inductive PassesAll (backing : Backing σ) (lexicon : Lexicon) :
    List Key → σ → List (Key × String) → σ → Prop
  | nil (host : σ) : PassesAll backing lexicon [] host [] host
  | cons {key : Key} {keys : List Key} {host next last : σ} {value : Option String}
    {found : List (Key × String)} (first : backing.Passes lexicon key host value next)
    (rest : PassesAll backing lexicon keys next found last) :
    PassesAll backing lexicon (key :: keys) host ((value.map (key, ·)).toList ++ found) last

/-- How a loading ends: all slots pass, or those before some slot do, and that one fails. -/
inductive LoadsTo (backing : Backing σ) (lexicon : Lexicon) (keys : List Key) (host : σ) :
    Except Error (List (Key × String)) → σ → Prop
  | all {found : List (Key × String)} {last : σ}
    (passed : backing.PassesAll lexicon keys host found last) :
    LoadsTo backing lexicon keys host (.ok found) last
  | stopped {before after : List Key} {key : Key} {found : List (Key × String)} {reached last : σ}
    {e : Error} (keys_eq : keys = before ++ key :: after)
    (passed : backing.PassesAll lexicon before host found reached)
    (failure : backing.Fails lexicon key reached e last) :
    LoadsTo backing lexicon keys host (.error e) last

variable {backing : Backing σ} {lexicon : Lexicon}

theorem LoadsTo.cons {key : Key} {keys : List Key} {host next last : σ} {value : Option String}
    {result : Except Error (List (Key × String))}
    (first : backing.Passes lexicon key host value next)
    (h : backing.LoadsTo lexicon keys next result last) :
    backing.LoadsTo lexicon (key :: keys) host
      (result.map ((value.map (key, ·)).toList ++ ·)) last := by
  cases h with
  | all passed => exact .all (.cons first passed)
  | stopped keys_eq passed failure =>
      exact .stopped (by rw [keys_eq, List.cons_append]) (.cons first passed) failure

theorem LoadsTo.of_fails {key : Key} {keys : List Key} {host last : σ} {e : Error}
    (h : backing.Fails lexicon key host e last) :
    backing.LoadsTo lexicon (key :: keys) host (.error e) last :=
  .stopped rfl (.nil host) h

theorem loadsTo_loadAll (backing : Backing σ) (lexicon : Lexicon) (keys : List Key) (host : σ) :
    backing.LoadsTo lexicon keys host (backing.loadAll lexicon keys host).1
      (backing.loadAll lexicon keys host).2.1 := by
  induction keys generalizing host with
  | nil => exact .all (.nil host)
  | cons key keys ih =>
    rw [loadAll]
    split
    · next hload => exact .of_fails (.load hload)
    · next hload => exact (ih _).cons (.found hload)
    · next hload =>
      split
      · next hsave => exact .of_fails (.save hload hsave)
      · next next hsave =>
        have hnext := (ih next).cons (.missing hload hsave)
        cases hresult : (backing.loadAll lexicon keys next).1 <;>
          rw [hresult] at hnext <;> exact hnext

theorem exists_fails_of_loadAll {keys : List Key} {host : σ} {e : Error}
    (h : (backing.loadAll lexicon keys host).1 = .error e) :
    ∃ before key after found reached, keys = before ++ key :: after ∧
      backing.PassesAll lexicon before host found reached ∧
      backing.Fails lexicon key reached e (backing.loadAll lexicon keys host).2.1 := by
  have hloads := backing.loadsTo_loadAll lexicon keys host
  rw [h] at hloads
  cases hloads with
  | stopped keys_eq passed failure => exact ⟨_, _, _, _, _, keys_eq, passed, failure⟩

end Backing

end BooleanTables
