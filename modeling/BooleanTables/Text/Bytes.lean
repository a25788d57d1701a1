/-!
# Sizes in UTF-8 bytes

Places in a text are byte offsets of its UTF-8 form.
-/

namespace BooleanTables.Text

def byteLength : List Char → Nat
  | [] => 0
  | c :: rest => c.utf8Size + byteLength rest

@[simp] theorem byteLength_nil : byteLength [] = 0 := rfl

@[simp] theorem byteLength_cons (c : Char) (text : List Char) :
    byteLength (c :: text) = c.utf8Size + byteLength text := rfl

@[simp] theorem byteLength_append (a b : List Char) :
    byteLength (a ++ b) = byteLength a + byteLength b := by
  induction a with
  | nil => simp
  | cons c a ih => simp [ih, Nat.add_assoc]

/-- How many characters of the text begin before the byte offset. -/
def charsBefore (text : List Char) (offset : Nat) : Nat :=
  match text with
  | [] => 0
  | c :: rest => if offset = 0 then 0 else charsBefore rest (offset - c.utf8Size) + 1

end BooleanTables.Text
