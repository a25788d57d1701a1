import BooleanTables.Text.Blank
import BooleanTables.Text.Bytes
import BooleanTables.Text.Casing
import Mathlib.Tactic.IntervalCases

/-!
# Texts that differ in case

Folding the case of ASCII letters changes neither the size of a character nor whether it is white
space, so texts that are equal up to case have the same size and are cut at the same places.
-/

namespace BooleanTables.Text

theorem toLower_cases (c : Char) :
    c.toLower = c ∨ (c.toNat ∈ Set.Icc 65 90 ∧ c.toLower.toNat ∈ Set.Icc 97 122) := by
  delta Char.toLower
  split
  · next h =>
    have hval : c.toNat ∈ Set.Icc 65 90 :=
      ⟨UInt32.le_iff_toNat_le.1 h.1, UInt32.le_iff_toNat_le.1 h.2⟩
    refine .inr ⟨hval, ?_⟩
    obtain ⟨hl, hr⟩ := hval
    have hsum : (c.val + ('a'.val - 'A'.val)).toNat = c.toNat + 32 := by
      rw [UInt32.toNat_add]
      exact Nat.mod_eq_of_lt (show c.toNat + 32 < 2 ^ 32 by omega)
    change (c.val + ('a'.val - 'A'.val)).toNat ∈ _
    rw [hsum]
    exact ⟨by omega, by omega⟩
  · exact .inl rfl

theorem utf8Size_of_toNat_lt {c : Char} (h : c.toNat < 128) : c.utf8Size = 1 := by
  rw [Char.utf8Size_eq_one_iff, UInt32.le_iff_toNat_le]
  exact Nat.le_of_lt_succ h

theorem utf8Size_toLower (c : Char) : c.toLower.utf8Size = c.utf8Size := by
  rcases toLower_cases c with h | ⟨h, hl⟩
  · rw [h]
  · rw [utf8Size_of_toNat_lt (Nat.lt_of_le_of_lt h.2 (by decide)),
      utf8Size_of_toNat_lt (Nat.lt_of_le_of_lt hl.2 (by decide))]

theorem covers_letter {n : Nat} (h : n ∈ Set.Icc 65 90 ∨ n ∈ Set.Icc 97 122) :
    blankRanges.covers n = false := by
  rcases h with ⟨hl, hr⟩ | ⟨hl, hr⟩ <;> interval_cases n <;> rfl

theorem isBlank_toLower (c : Char) : isBlank c.toLower = isBlank c := by
  rcases toLower_cases c with h | ⟨h, hl⟩
  · rw [h]
  · rw [isBlank, isBlank, covers_letter (.inl h), covers_letter (.inr hl)]

theorem isBlank_eq_of_toLower_eq {a b : Char} (h : a.toLower = b.toLower) :
    isBlank a = isBlank b := by
  rw [← isBlank_toLower a, h, isBlank_toLower]

@[simp] theorem foldCase_nil : foldCase [] = [] := rfl

@[simp] theorem foldCase_cons (c : Char) (text : List Char) :
    foldCase (c :: text) = c.toLower :: foldCase text := rfl

@[simp] theorem length_foldCase (text : List Char) : (foldCase text).length = text.length := by
  simp [foldCase]

@[simp] theorem byteLength_foldCase (text : List Char) :
    byteLength (foldCase text) = byteLength text := by
  induction text with
  | nil => rfl
  | cons c text ih => simp [utf8Size_toLower, ih]

@[simp] theorem any_isBlank_foldCase (text : List Char) :
    (foldCase text).any isBlank = text.any isBlank := by
  induction text with
  | nil => rfl
  | cons c text ih => simp [isBlank_toLower, ih]

theorem startsUpToCase_iff_take {a b : List Char} :
    startsUpToCase a b = true ↔ foldCase (b.take a.length) = foldCase a := by
  rw [startsUpToCase_iff, List.prefix_iff_eq_take, length_foldCase]
  constructor
  · intro h
    rw [h]
    simp [foldCase]
  · intro h
    rw [← h]
    simp [foldCase]

theorem byteLength_take_of_starts {a b : List Char} (h : startsUpToCase a b = true) :
    byteLength (b.take a.length) = byteLength a := by
  have hf := congrArg byteLength (startsUpToCase_iff_take.1 h)
  simpa using hf

theorem any_isBlank_take_of_starts {a b : List Char} (h : startsUpToCase a b = true) :
    (b.take a.length).any isBlank = a.any isBlank := by
  have hf := congrArg (·.any isBlank) (startsUpToCase_iff_take.1 h)
  simpa using hf

theorem length_le_of_starts {a b : List Char} (h : startsUpToCase a b = true) :
    a.length ≤ b.length := by
  have hp := (startsUpToCase_iff.1 h).length_le
  simpa using hp

theorem byteLength_pos {text : List Char} (h : text ≠ []) : 0 < byteLength text := by
  cases text with
  | nil => exact absurd rfl h
  | cons c text =>
    have := c.utf8Size_pos
    simp only [byteLength_cons]
    omega

end BooleanTables.Text
