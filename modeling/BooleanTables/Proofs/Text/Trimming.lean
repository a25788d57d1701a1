import BooleanTables.Text.Blank
import Mathlib.Data.List.DropRight

/-!
# Trimmed texts

A text is some white space, what trimming leaves of it, and some more white space. What is left has
no white space at either end, and there is only one way to take a text apart like that.
-/

namespace BooleanTables.Text

structure IsTrimmed (text : List Char) : Prop where
  head : ∀ c ∈ text.head?, isBlank c = false
  last : ∀ c ∈ text.getLast?, isBlank c = false

theorem isTrimmed_of_unbroken {text : List Char} (h : text.any isBlank = false) :
    IsTrimmed text where
  head := fun c hc => Bool.of_not_eq_true (List.any_eq_false.1 h c (List.mem_of_mem_head? hc))
  last := fun c hc => Bool.of_not_eq_true (List.any_eq_false.1 h c (List.mem_of_mem_getLast? hc))

theorem not_mem_blanks {blanks : List Char} {c : Char} (hc : isBlank c = false)
    (h : ∀ c ∈ blanks, isBlank c = true) :
    c ∉ blanks := by
  intro hmem
  rw [h c hmem] at hc
  cases hc

theorem trimStart_append {blanks : List Char} (h : ∀ c ∈ blanks, isBlank c = true)
    (text : List Char) :
    trimStart (blanks ++ text) = trimStart text :=
  List.dropWhile_append_of_pos h

theorem trimEnd_append {blanks : List Char} (h : ∀ c ∈ blanks, isBlank c = true)
    (text : List Char) :
    trimEnd (text ++ blanks) = trimEnd text := by
  have hreverse : ∀ c ∈ blanks.reverse, isBlank c = true := fun c hc => h c (List.mem_reverse.1 hc)
  rw [trimEnd, List.reverse_append, List.dropWhile_append_of_pos hreverse, trimEnd]

theorem trimStart_of_head {text : List Char} (h : ∀ c ∈ text.head?, isBlank c = false) :
    trimStart text = text := by
  cases text with
  | nil => rfl
  | cons c text => exact List.dropWhile_cons_of_neg (by simp [h c rfl])

theorem trimEnd_of_last {text : List Char} (h : ∀ c ∈ text.getLast?, isBlank c = false) :
    trimEnd text = text := by
  have hreverse : ∀ c ∈ text.reverse.head?, isBlank c = false := by
    rw [List.head?_reverse]
    exact h
  have hstart := trimStart_of_head hreverse
  rw [trimStart] at hstart
  rw [trimEnd, hstart, List.reverse_reverse]

theorem trimEnd_prefix (text : List Char) :
    trimEnd text <+: text := List.rdropWhile_prefix isBlank text

theorem isTrimmed_trim (text : List Char) : IsTrimmed (trim text) where
  head := by
    intro c hc
    obtain ⟨blanks, hblanks⟩ := trimEnd_prefix (trimStart text)
    have hstart : (text.dropWhile isBlank).head? = some c := by
      change (trimStart text).head? = some c
      rw [← hblanks, List.head?_append, show (trimEnd (trimStart text)).head? = some c from hc,
        Option.some_or]
    have hnot := List.head?_dropWhile_not isBlank text
    rw [hstart] at hnot
    simpa using hnot
  last := by
    intro c hc
    have hne : trim text ≠ [] := by
      rintro hnil
      rw [hnil] at hc
      cases hc
    have hnot := List.rdropWhile_last_not isBlank (trimStart text) hne
    obtain rfl : (trim text).getLast hne = c := by
      rw [List.getLast?_eq_some_getLast hne] at hc
      exact Option.some.inj hc
    exact Bool.of_not_eq_true hnot

theorem exists_trim_append (text : List Char) :
    ∃ before behind, (∀ c ∈ before, isBlank c = true) ∧ (∀ c ∈ behind, isBlank c = true) ∧
      text = before ++ trim text ++ behind := by
  refine ⟨text.takeWhile isBlank, (trimStart text).rtakeWhile isBlank, ?_, ?_, ?_⟩
  · exact fun c hc => List.mem_takeWhile_imp hc
  · exact fun c hc => List.mem_rtakeWhile_imp hc
  · have hend : trim text ++ (trimStart text).rtakeWhile isBlank = trimStart text :=
      List.rdropWhile_append_rtakeWhile
    rw [List.append_assoc, hend]
    exact List.takeWhile_append_dropWhile.symm

theorem mem_of_mem_trim {text : List Char} {c : Char} (h : c ∈ trim text) : c ∈ text := by
  obtain ⟨before, behind, -, -, htext⟩ := exists_trim_append text
  rw [htext]
  exact List.mem_append_left _ (List.mem_append_right _ h)

theorem IsTrimmed.trim_append {text before behind : List Char} (h : IsTrimmed text)
    (hb : ∀ c ∈ before, isBlank c = true) (ha : ∀ c ∈ behind, isBlank c = true) :
    trim (before ++ text ++ behind) = text := by
  rw [trim, List.append_assoc, trimStart_append hb]
  cases text with
  | nil =>
    have hnil : trimStart behind = [] := List.dropWhile_eq_nil_iff.2 ha
    rw [List.nil_append, hnil]
    rfl
  | cons c text =>
    have hstart : trimStart (c :: text ++ behind) = c :: text ++ behind :=
      trimStart_of_head (by simpa using h.head)
    rw [hstart, trimEnd_append ha, trimEnd_of_last h.last]

theorem trim_eq_iff {text core : List Char} :
    trim text = core ↔ IsTrimmed core ∧ ∃ before behind, (∀ c ∈ before, isBlank c = true) ∧
      (∀ c ∈ behind, isBlank c = true) ∧ text = before ++ core ++ behind := by
  constructor
  · rintro rfl
    exact ⟨isTrimmed_trim text, exists_trim_append text⟩
  · rintro ⟨hcore, before, behind, hb, ha, rfl⟩
    exact hcore.trim_append hb ha

theorem trim_eq_self_iff {text : List Char} : trim text = text ↔ IsTrimmed text :=
  ⟨fun h => h ▸ isTrimmed_trim text, fun h => trim_eq_iff.2 ⟨h, [], [], by simp, by simp, by simp⟩⟩

instance (text : List Char) : Decidable (IsTrimmed text) := decidable_of_iff _ trim_eq_self_iff

theorem trim_eq_nil_iff {text : List Char} : trim text = [] ↔ ∀ c ∈ text, isBlank c = true := by
  constructor
  · intro h
    obtain ⟨before, behind, hb, ha, htext⟩ := exists_trim_append text
    rw [htext, h, List.append_nil]
    exact List.forall_mem_append.2 ⟨hb, ha⟩
  · intro h
    exact trim_eq_iff.2 ⟨isTrimmed_of_unbroken rfl, text, [], h, by simp, by simp⟩

end BooleanTables.Text
