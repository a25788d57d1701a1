import BooleanTables.Session.Evaluation

/-!
# Sessions

The operations of a front end on a lexicon. Values may outlive the session in a backing, and tables
are handed to a renderer; both act on one host state and may fail. Every operation says what it
leaves of the lexicon and of the host, whether it succeeds or not.
-/

namespace BooleanTables

/-- Where values are kept when the session ends. -/
structure Backing (σ : Type) where
  load : Key → σ → Except Error (Option String) × σ
  save : Key → String → σ → Except Error Unit × σ

structure Renderer (σ : Type) where
  render : TruthTable → Selection → σ → Except Error Unit × σ

structure Session (σ : Type) where
  maxVariables : Nat
  /-- The numbers of rows that there is memory for while the host is in a state. -/
  reserves : σ → Nat → Bool
  backing : Option (Backing σ)
  renderer : Renderer σ

/-- The result of an operation, what it leaves, and what it reported. -/
structure Outcome (σ α : Type) where
  result : Except Error α
  lexicon : Lexicon
  host : σ
  events : List Event

def Key.ofId (id : String) : Except Error Key :=
  (Key.ofId? id).elim (.error (.unknownKey id)) .ok

namespace Lexicon

def setAll (lexicon : Lexicon) (values : List (Key × String)) : Lexicon :=
  values.foldl (fun lexicon (key, value) => lexicon.set key value) lexicon

end Lexicon

variable {σ : Type}

/-- Loads the values of some slots in turn, and saves the lexicon's own value where there is none.
The first failure ends it. -/
def Backing.loadAll (backing : Backing σ) (lexicon : Lexicon) :
    List Key → σ → Except Error (List (Key × String)) × σ × List Event
  | [], host => (.ok [], host, [])
  | key :: keys, host =>
    match backing.load key host with
    | (.error e, host) => (.error e, host, [])
    | (.ok (some value), host) =>
      let (found, host, events) := backing.loadAll lexicon keys host
      (found.map ((key, value) :: ·), host, events)
    | (.ok none, host) =>
      match backing.save key (lexicon.value key) host with
      | (.error e, host) => (.error e, host, [.storingDefault key])
      | (.ok (), host) =>
        let (found, host, events) := backing.loadAll lexicon keys host
        (found, host, .storingDefault key :: events)

namespace Session

def capacity (session : Session σ) (host : σ) : Capacity :=
  ⟨session.maxVariables, session.reserves host⟩

/-- Takes over the values of the backing, all of them or, after a failure, none. -/
def initStorage (session : Session σ) (lexicon : Lexicon) (host : σ) : Outcome σ Unit :=
  match session.backing with
  | none => ⟨.ok (), lexicon, host, [.initializing, .withoutBacking]⟩
  | some backing =>
    match backing.loadAll lexicon Key.all host with
    | (.error e, host, events) => ⟨.error e, lexicon, host, .initializing :: events⟩
    | (.ok found, host, events) =>
      ⟨.ok (), lexicon.setAll found, host, .initializing :: events ++ [.loaded found.length]⟩

def render (session : Session σ) (selection : Selection) (input : String) (lexicon : Lexicon)
    (host : σ) : Outcome σ Unit :=
  let events := .rendering selection input :: lexicon.evaluationEvents input
  match lexicon.evaluate (session.capacity host) input with
  | .error e => ⟨.error e, lexicon, host, events⟩
  | .ok table =>
    let (result, host) := session.renderer.render table selection host
    ⟨result, lexicon, host, events⟩

def changeValue (session : Session σ) (id value : String) (lexicon : Lexicon) (host : σ) :
    Outcome σ Unit :=
  match Key.ofId id with
  | .error e => ⟨.error e, lexicon, host, []⟩
  | .ok key =>
    let events := lexicon.changeEvents key value
    match session.backing with
    | none => ⟨.ok (), lexicon.set key value, host, events⟩
    | some backing =>
      let (result, host) := backing.save key value host
      ⟨result, lexicon.set key value, host, events⟩

def getValue (_ : Session σ) (id : String) (lexicon : Lexicon) (host : σ) : Outcome σ String :=
  ⟨(Key.ofId id).map lexicon.value, lexicon, host, []⟩

end Session

end BooleanTables
