import BooleanTables.Text.Blank
import BooleanTables.Token.Basic
import Mathlib.Tactic.IntervalCases

/-!
# Characters of names

No character of a name is white space, so a name lies in one chunk of a text.
-/

namespace BooleanTables.Text

theorem exists_mem_of_covers {ranges : Ranges} {n : Nat} (h : ranges.covers n = true) :
    ∃ range ∈ ranges, range.1 ≤ n ∧ n ≤ range.2 := by
  induction ranges with
  | nil => cases h
  | cons range rest ih =>
    obtain ⟨low, high⟩ := range
    rw [Ranges.covers] at h
    split at h
    · cases h
    · next hlow =>
      split at h
      · next hhigh => exact ⟨(low, high), List.mem_cons_self, Nat.le_of_not_lt hlow, hhigh⟩
      · obtain ⟨range, hmem, hrange⟩ := ih h
        exact ⟨range, List.mem_cons_of_mem _ hmem, hrange⟩

theorem not_nameCode_of_blankCode {n : Nat} (h : blankRanges.covers n = true) :
    alphanumericRanges.covers n = false ∧ n ≠ '_'.toNat ∧ n ≠ '\''.toNat := by
  obtain ⟨range, hmem, hlow, hhigh⟩ := exists_mem_of_covers h
  simp only [blankRanges, List.mem_cons, List.not_mem_nil, or_false] at hmem
  rcases hmem with rfl | rfl | rfl | rfl | rfl | rfl | rfl | rfl | rfl | rfl <;>
    dsimp only at hlow hhigh <;>
    interval_cases n <;> decide +kernel

theorem isBlank_of_isNameChar {c : Char} (h : isNameChar c = true) : isBlank c = false := by
  by_contra hb
  obtain ⟨ha, hu, hq⟩ := not_nameCode_of_blankCode (Bool.of_not_eq_false hb)
  rw [isNameChar, Bool.or_eq_true, Bool.or_eq_true, beq_iff_eq, beq_iff_eq] at h
  rcases h with (h | rfl) | rfl
  · rw [isAlphanumeric, ha] at h
    cases h
  · exact hu rfl
  · exact hq rfl

end BooleanTables.Text
