import BooleanTables.Lexicon.Key

/-!
# The lexicon

A lexicon gives every slot its stored value. It is complete from the start, so a change replaces one
value.
-/

namespace BooleanTables

@[ext] structure Lexicon where
  value : Key → String

namespace Lexicon

def standard : Lexicon := ⟨Key.standard⟩

def set (lexicon : Lexicon) (key : Key) (value : String) : Lexicon :=
  ⟨fun other => if other = key then value else lexicon.value other⟩

def reset (lexicon : Lexicon) : Lexicon :=
  Key.all.foldl (fun lexicon key => lexicon.set key key.standard) lexicon

@[simp] theorem value_set (lexicon : Lexicon) (key other : Key) (value : String) :
    (lexicon.set key value).value other = if other = key then value else lexicon.value other := rfl

@[simp] theorem value_standard (key : Key) : standard.value key = key.standard := rfl

theorem reset_eq_standard (lexicon : Lexicon) : lexicon.reset = standard := by
  ext key
  cases key <;> rfl

end Lexicon

end BooleanTables
