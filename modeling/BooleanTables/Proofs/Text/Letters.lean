import BooleanTables.Proofs.Text.Folding
import BooleanTables.Token.Basic
import Mathlib.Data.List.Forall2

/-!
# Letters of either case

Two characters fold to one exactly if they are equal or are the capital and the small form of one
ASCII letter. No other letters are folded, and a character of either case may stand in a name if the
other may.
-/

namespace BooleanTables.Text

/-- The first character is an ASCII capital letter, and the second one is its small letter. -/
structure IsCapitalOf (capital small : Char) : Prop where
  le_toNat : 'A'.toNat ≤ capital.toNat
  toNat_le : capital.toNat ≤ 'Z'.toNat
  toNat_eq : small.toNat = capital.toNat + 32

/-- Equal characters, or one ASCII letter in both cases. -/
def SameLetter (a b : Char) : Prop := a = b ∨ IsCapitalOf a b ∨ IsCapitalOf b a

/-- Texts that differ at most in the case of ASCII letters. -/
def EqualUpToCase (a b : List Char) : Prop := List.Forall₂ SameLetter a b

theorem toNat_toLower (c : Char) :
    c.toLower.toNat = if 65 ≤ c.toNat ∧ c.toNat ≤ 90 then c.toNat + 32 else c.toNat := by
  have hcapital : c.val ≥ 'A'.val ∧ c.val ≤ 'Z'.val ↔ 65 ≤ c.toNat ∧ c.toNat ≤ 90 := by
    rw [ge_iff_le, UInt32.le_iff_toNat_le, UInt32.le_iff_toNat_le]
    rfl
  delta Char.toLower
  by_cases h : c.val ≥ 'A'.val ∧ c.val ≤ 'Z'.val
  · have hbounds := hcapital.1 h
    rw [dif_pos h, if_pos hbounds]
    change (c.val + ('a'.val - 'A'.val)).toNat = c.toNat + 32
    rw [UInt32.toNat_add]
    exact Nat.mod_eq_of_lt (show c.toNat + 32 < 2 ^ 32 by omega)
  · rw [dif_neg h, if_neg (mt hcapital.2 h)]

theorem toLower_toLower (c : Char) : c.toLower.toLower = c.toLower := by
  apply Char.toNat_inj.1
  have h := toNat_toLower c
  rw [toNat_toLower c.toLower]
  split at h <;> rw [h] <;> split <;> omega

theorem isCapitalOf_iff {a b : Char} :
    IsCapitalOf a b ↔ (65 ≤ a.toNat ∧ a.toNat ≤ 90) ∧ b.toNat = a.toNat + 32 :=
  ⟨fun h => ⟨⟨h.le_toNat, h.toNat_le⟩, h.toNat_eq⟩, fun h => ⟨h.1.1, h.1.2, h.2⟩⟩

theorem toLower_eq_iff {a b : Char} : a.toLower = b.toLower ↔ SameLetter a b := by
  have ha := toNat_toLower a
  have hb := toNat_toLower b
  have hcodes : a.toLower = b.toLower ↔ a.toLower.toNat = b.toLower.toNat := Char.toNat_inj.symm
  have hequal : a = b ↔ a.toNat = b.toNat := Char.toNat_inj.symm
  unfold SameLetter
  rw [hcodes, hequal, isCapitalOf_iff, isCapitalOf_iff, ha, hb]
  split <;> split <;> omega

theorem foldCase_eq_iff {a b : List Char} : foldCase a = foldCase b ↔ EqualUpToCase a b := by
  unfold foldCase EqualUpToCase
  rw [← List.forall₂_eq_eq_eq, List.forall₂_map_left_iff, List.forall₂_map_right_iff]
  simp only [toLower_eq_iff]

theorem sameUpToCase_iff {a b : List Char} : sameUpToCase a b = true ↔ EqualUpToCase a b :=
  beq_iff_eq.trans foldCase_eq_iff

theorem EqualUpToCase.symm {a b : List Char} (h : EqualUpToCase a b) : EqualUpToCase b a :=
  foldCase_eq_iff.1 (foldCase_eq_iff.2 h).symm

theorem EqualUpToCase.trans {a b c : List Char} (hab : EqualUpToCase a b)
    (hbc : EqualUpToCase b c) :
    EqualUpToCase a c :=
  foldCase_eq_iff.1 ((foldCase_eq_iff.2 hab).trans (foldCase_eq_iff.2 hbc))

instance (a b : List Char) : Decidable (EqualUpToCase a b) := decidable_of_iff _ sameUpToCase_iff

theorem startsUpToCase_iff_exists {spelling text : List Char} :
    startsUpToCase spelling text = true ↔ ∃ head, head <+: text ∧ EqualUpToCase head spelling := by
  constructor
  · intro h
    exact ⟨text.take spelling.length, List.take_prefix _ _,
      foldCase_eq_iff.1 (startsUpToCase_iff_take.1 h)⟩
  · rintro ⟨head, hprefix, hsame⟩
    have hfold := foldCase_eq_iff.2 hsame
    apply startsUpToCase_iff.2
    rw [← hfold]
    exact hprefix.map _

theorem foldCase_foldCase (text : List Char) : foldCase (foldCase text) = foldCase text := by
  unfold foldCase
  rw [List.map_map]
  apply List.map_congr_left
  intro c _
  exact toLower_toLower c

theorem startsUpToCase_foldCase (a b : List Char) :
    startsUpToCase (foldCase a) (foldCase b) = startsUpToCase a b := by
  rw [Bool.eq_iff_iff, startsUpToCase_iff, startsUpToCase_iff, foldCase_foldCase, foldCase_foldCase]

theorem covers_alphanumeric_letter {n : Nat} (h : n ∈ Set.Icc 65 90 ∨ n ∈ Set.Icc 97 122) :
    alphanumericRanges.covers n = true := by
  rcases h with ⟨hl, hr⟩ | ⟨hl, hr⟩ <;> interval_cases n <;> rfl

theorem isNameChar_toLower (c : Char) : isNameChar c.toLower = isNameChar c := by
  rcases toLower_cases c with h | ⟨hcapital, hsmall⟩
  · rw [h]
  · have hc : isAlphanumeric c = true := covers_alphanumeric_letter (.inl hcapital)
    have hl : isAlphanumeric c.toLower = true := covers_alphanumeric_letter (.inr hsmall)
    rw [isNameChar, isNameChar, hc, hl]
    rfl

theorem toLower_eq_comma_iff {c : Char} : c.toLower = ',' ↔ c = ',' := by
  have hcode := toNat_toLower c
  have hcomma : (',' : Char).toNat = 44 := rfl
  rw [← Char.toNat_inj, ← Char.toNat_inj, hcode, hcomma]
  split <;> omega

end BooleanTables.Text
