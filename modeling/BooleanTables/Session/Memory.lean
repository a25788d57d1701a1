import BooleanTables.Session.Basic

/-!
# A host in memory

Values in a map from slots, a list of the tables shown, and a record of all calls. Any call may
fail, as the number of the call and its kind decide; a failed call is recorded and changes nothing
else.
-/

namespace BooleanTables

inductive BackingCall
  | load (key : Key)
  | save (key : Key)
  deriving DecidableEq, Repr

def BackingCall.text : BackingCall → String
  | .load key => "load " ++ key.id
  | .save key => "save " ++ key.id

structure Memory where
  values : Key → Option String
  calls : List BackingCall
  shown : List (TruthTable × Selection)
  callFails : Nat → BackingCall → Bool
  showFails : Nat → Bool
  reserves : Nat → Bool

namespace Memory

/-- A host that holds some values and where nothing fails. -/
def holding (values : Key → Option String) : Memory :=
  ⟨values, [], [], fun _ _ => false, fun _ => false, fun _ => true⟩

def put (memory : Memory) (key : Key) (value : Option String) : Memory :=
  { memory with values := fun other => if other = key then value else memory.values other }

def call (memory : Memory) (call : BackingCall) : Except Error Unit × Memory :=
  (if memory.callFails memory.calls.length call then .error (.host ("cannot " ++ call.text))
    else .ok (),
    { memory with calls := memory.calls ++ [call] })

def backing : Backing Memory where
  load key memory :=
    match memory.call (.load key) with
    | (.ok (), memory) => (.ok (memory.values key), memory)
    | (.error e, memory) => (.error e, memory)
  save key value memory :=
    match memory.call (.save key) with
    | (.ok (), memory) => (.ok (), memory.put key (some value))
    | (.error e, memory) => (.error e, memory)

def renderer : Renderer Memory where
  render table selection memory :=
    (if memory.showFails memory.shown.length then .error (.host "cannot render") else .ok (),
      { memory with shown := memory.shown ++ [(table, selection)] })

def session (maxVariables : Nat) (withBacking : Bool) : Session Memory :=
  ⟨maxVariables, reserves, if withBacking then some backing else none, renderer⟩

end Memory

end BooleanTables
