import BooleanTables.Text.Columns.Classes

/-!
# Characters that share columns

Some characters take fewer columns together than apart: the letters of a ligature, a skin tone with
the emoji before it, and emoji with a joiner between them. A variation selector shows the character
before it as a picture or as text. A text is therefore measured from its end, and what has been
measured is remembered as far as it bears on the character before it.
-/

namespace BooleanTables.Text

/-- What a measured text begins with. A flag says whether a zero width joiner stands before the
letter. -/
inductive Beginning
  | plain
  | lineFeed
  | skinTone
  | region
  | regions
  | picture
  | joinedPicture
  | joinedKeycap
  | joinedRegion
  | joinedEvenRegions
  | joinedOddRegions
  | tagLetters (count : Nat)
  | tagDigits (count : Nat)
  | alef
  | lamed (joined : Bool)
  | ya (joined : Bool)
  | vowelAndYa
  | tifinagh (joined : Bool)
  | joinerAndTifinagh
  | tone
  | orkhon (joined : Bool)
  | subscript
  deriving DecidableEq, Repr

/-- A variation selector at the front of a measured text. -/
inductive Selector
  | none
  | text
  | picture
  deriving DecidableEq, Repr

structure Sequel where
  beginning : Beginning
  selector : Selector
  deriving DecidableEq, Repr

namespace Beginning

/-- Whether the beginning can become a part of a ligature. -/
def isLigature : Beginning → Bool
  | .alef | .lamed _ | .ya _ | .vowelAndYa | .tifinagh _ | .joinerAndTifinagh | .tone | .orkhon _
  | .subscript => true
  | _ => false

/-- Whether a picture before the beginning belongs to a sequence that has its columns already. -/
def isJoined : Beginning → Bool
  | .joinedPicture | .joinedKeycap => true
  | _ => false

/-- The beginning with a zero width joiner before it. -/
def join : Beginning → Beginning
  | .lamed _ => .lamed true
  | .ya _ => .ya true
  | .tifinagh _ => .tifinagh true
  | .orkhon _ => .orkhon true
  | beginning => beginning

/-- What a text begins with whose first character is joined with nothing after it. -/
def ofChar (c : Char) : Beginning :=
  if c = '\u05DC' then .lamed false
  else if alefRanges.covers c.toNat then .alef
  else if subscriptRanges.covers c.toNat then .subscript
  else if c = '\u1A10' then .ya false
  else if tifinaghRanges.covers c.toNat then .tifinagh false
  else if c = '\uA4FC' ∨ c = '\uA4FD' then .tone
  else if c.toNat = 0x10C03 then .orkhon false
  else if 0x1F1E6 ≤ c.toNat ∧ c.toNat ≤ 0x1F1FF then .region
  else if 0x1F3FB ≤ c.toNat ∧ c.toNat ≤ 0x1F3FF then .skinTone
  else if pictureRanges.covers c.toNat then .picture
  else .plain

end Beginning

def isRegion (c : Char) : Bool := 0x1F1E6 ≤ c.toNat && c.toNat ≤ 0x1F1FF

def isSkinTone (c : Char) : Bool := 0x1F3FB ≤ c.toNat && c.toNat ≤ 0x1F3FF

def isTagLetter (c : Char) : Bool := 0xE0061 ≤ c.toNat && c.toNat ≤ 0xE007A

def isTagDigit (c : Char) : Bool := 0xE0030 ≤ c.toNat && c.toNat ≤ 0xE0039

/-- The columns that a character adds by joining a beginning, and the beginning they make
together. -/
def combine (c : Char) : Beginning → Option (Int × Beginning)
  | .alef =>
    if lamRanges.covers c.toNat then some (0, .plain)
    else if transparentRanges.covers c.toNat then some (0, .alef)
    else none
  | .lamed true => if c = '\u05D0' then some (0, .plain) else none
  | .subscript => if c = '\u17D2' then some (-1, .plain) else none
  | .ya true => if c = '\u1A17' then some (0, .vowelAndYa) else none
  | .vowelAndYa => if c = '\u1A15' then some (0, .plain) else none
  | .tifinagh joined =>
    if c = '\u2D7F' then some (1, .joinerAndTifinagh)
    else if joined && tifinaghRanges.covers c.toNat then some (0, .plain)
    else none
  | .joinerAndTifinagh => if tifinaghRanges.covers c.toNat then some (-1, .plain) else none
  | .tone => if '\uA4F8' ≤ c ∧ c ≤ '\uA4FB' then some (0, .plain) else none
  | .orkhon true => if c.toNat = 0x10C32 then some (0, .plain) else none
  | .skinTone =>
    if skinRanges.covers c.toNat then some (0, .picture)
    else if c = '\u200D' then some (0, .joinedPicture)
    else none
  | .region => if isRegion c then some (1, .regions) else none
  | .regions =>
    if isRegion c then some (1, .regions)
    else if c = '\u200D' then some (0, .joinedPicture)
    else none
  | .picture => if c = '\u200D' then some (0, .joinedPicture) else none
  | .joinedPicture =>
    if c = '\u20E3' then some (0, .joinedKeycap)
    else if isRegion c then some (1, .joinedRegion)
    else if isSkinTone c then some (0, .skinTone)
    else if c.toNat = 0xE007F then some (0, .tagLetters 0)
    else if pictureRanges.covers c.toNat then some (0, .picture)
    else none
  | .joinedRegion => if isRegion c then some (-1, .joinedEvenRegions) else none
  | .joinedOddRegions =>
    if isRegion c then some (-1, .joinedEvenRegions)
    else if c = '\u200D' then some (0, .joinedPicture)
    else none
  | .joinedEvenRegions =>
    if isRegion c then some (3, .joinedOddRegions)
    else if c = '\u200D' then some (0, .joinedPicture)
    else none
  | .tagLetters count =>
    if isTagLetter c ∧ count < 6 then some (0, .tagLetters (count + 1))
    else if isTagDigit c ∧ count < 5 then some (0, .tagDigits 1)
    else if c.toNat = 0x1F3F4 ∧ 3 ≤ count then some (0, .picture)
    else none
  | .tagDigits count =>
    if isTagDigit c ∧ count < 3 then some (0, .tagDigits (count + 1))
    else if c.toNat = 0x1F3F4 ∧ count = 3 then some (0, .picture)
    else none
  | _ => none

/-- The columns that a character adds to a measured text without a selector at its front, and what
the longer text begins with. -/
def measureUnselected (c : Char) (beginning : Beginning) : Int × Sequel :=
  if c = '\n' then (1, ⟨.lineFeed, .none⟩)
  else if c = '\r' ∧ beginning = .lineFeed then (0, ⟨.plain, .none⟩)
  else if c ≤ '\u00A0' then (1, ⟨.plain, .none⟩)
  else if c = '\uFE0F' then
    (0, ⟨if beginning.isLigature || beginning.isJoined then beginning else .plain, .picture⟩)
  else if c = '\uFE0E' then (0, ⟨if beginning.isLigature then beginning else .plain, .text⟩)
  else if beginning.isLigature && beginning ≠ .alef && ligatureMarkRanges.covers c.toNat then
    (0, ⟨if c = '\u200D' then beginning.join else beginning, .none⟩)
  else match combine c beginning with
    | some (added, beginning) => (added, ⟨beginning, .none⟩)
    | none => (charColumns c, ⟨.ofChar c, .none⟩)

/-- The columns that a character adds to a measured text, and what the longer text begins with. -/
def measure (c : Char) (sequel : Sequel) : Int × Sequel :=
  match sequel.selector with
  | .picture =>
    if pictureStyleRanges.covers c.toNat then
      (if sequel.beginning.isJoined then 0 else 2, ⟨.picture, .none⟩)
    else measureUnselected c (if sequel.beginning.isLigature then sequel.beginning else .plain)
  | .text =>
    if textStyleRanges.covers c.toNat then (1, ⟨.plain, .none⟩)
    else measureUnselected c sequel.beginning
  | .none => measureUnselected c sequel.beginning

/-- The columns of a text that takes no part in controlling the terminal. -/
def columns (text : List Char) : Nat :=
  (text.foldr (fun c (total, sequel) =>
    let (added, sequel) := measure c sequel
    (total + added, sequel)) ((0 : Int), ⟨.plain, .none⟩)).1.toNat

end BooleanTables.Text
