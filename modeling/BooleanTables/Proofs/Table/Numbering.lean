import BooleanTables.Table.Assignment
import Mathlib.Algebra.BigOperators.Fin
import Mathlib.Data.List.Nodup

/-!
# Row numbers

The values of an assignment are the binary digits of its row number, the first one the most
significant. So assignments to `n` names and numbers below `2 ^ n` correspond, and the order of the
numbers is the lexicographic order of the values.
-/

namespace BooleanTables

/-- The number that binary digits spell, the first digit being the most significant. -/
def number : List Bool → Nat
  | [] => 0
  | digit :: rest => 2 ^ rest.length * digit.toNat + number rest

theorem number_lt (digits : List Bool) : number digits < 2 ^ digits.length := by
  induction digits with
  | nil => decide
  | cons digit rest ih =>
    cases digit <;>
      simp only [number, Bool.toNat_false, Bool.toNat_true, List.length_cons, Nat.pow_succ] <;>
      omega

theorem number_eq_sum (digits : List Bool) :
    number digits = ∑ j : Fin digits.length, digits[j].toNat * 2 ^ (digits.length - 1 - j) := by
  induction digits with
  | nil => rfl
  | cons digit rest ih =>
    simp only [number, List.length_cons]
    rw [Fin.sum_univ_succ, ih, Nat.mul_comm]
    congr 1
    refine Finset.sum_congr rfl fun j _ => ?_
    have hj : rest.length + 1 - 1 - (j.succ : Nat) = rest.length - 1 - (j : Nat) := by
      simp only [Fin.val_succ]
      omega
    rw [hj]
    rfl

theorem number_map_eq_sum (names : List String) (v : String → Bool) :
    number (names.map v) = ∑ j : Fin names.length,
      (v names[j]).toNat * 2 ^ (names.length - 1 - j) := by
  rw [number_eq_sum]
  refine Finset.sum_equiv (finCongr (by simp)) (by simp) fun j _ => ?_
  simp

theorem testBit_number {digits : List Bool} {j : Nat} (h : j < digits.length) :
    (number digits).testBit (digits.length - 1 - j) = digits[j] := by
  induction digits generalizing j with
  | nil => simp at h
  | cons digit rest ih =>
    rw [number, Nat.testBit_two_pow_mul_add _ (number_lt rest)]
    cases j with
    | zero => cases digit <;> simp
    | succ j =>
      have hj : j < rest.length := by simpa using h
      have hlt : (digit :: rest).length - 1 - (j + 1) < rest.length := by
        simp only [List.length_cons]
        omega
      rw [if_pos hlt, List.getElem_cons_succ, ← ih hj]
      congr 1
      simp only [List.length_cons]
      omega

theorem number_injective {a b : List Bool} (h : a.length = b.length) (hn : number a = number b) :
    a = b := by
  refine List.ext_getElem h fun j ha hb => ?_
  rw [← testBit_number ha, ← testBit_number hb, hn, h]

theorem number_lt_number_iff {a b : List Bool} (h : a.length = b.length) :
    number a < number b ↔ a < b := by
  induction a generalizing b with
  | nil =>
    obtain rfl := List.length_eq_zero_iff.1 h.symm
    simp
  | cons x a ih =>
    cases b with
    | nil => simp at h
    | cons y b =>
      have hab : a.length = b.length := by simpa using h
      have ha := number_lt a
      have hb := number_lt b
      rw [hab] at ha
      rw [List.cons_lt_cons_iff, ← ih hab]
      simp only [number, hab]
      cases x <;> cases y <;> simp
      · omega
      · exact iff_of_false (by omega) (by decide)

namespace Assignment

@[simp] theorem length_values (assignment : Assignment) :
    assignment.values.length = assignment.names.length := by
  simp [values, count]

theorem getElem_values {assignment : Assignment} {j : Nat} (h : j < assignment.values.length) :
    assignment.values[j] = assignment.bits.testBit (assignment.names.length - 1 - j) := by
  simp [values, bit, count]

theorem values_number {names : List String} {digits : List Bool}
    (h : digits.length = names.length) :
    (⟨names, number digits⟩ : Assignment).values = digits := by
  refine List.ext_getElem (by simp [h]) fun j hj hd => ?_
  rw [getElem_values, ← h]
  exact testBit_number hd

theorem number_values {assignment : Assignment}
    (h : assignment.bits < 2 ^ assignment.names.length) :
    number assignment.values = assignment.bits := by
  refine Nat.eq_of_testBit_eq fun i => ?_
  by_cases hi : i < assignment.names.length
  · have hj : assignment.values.length - 1 - (assignment.values.length - 1 - i) = i := by
      rw [length_values]
      omega
    have hlt : assignment.values.length - 1 - i < assignment.values.length := by
      rw [length_values]
      omega
    have hbit := testBit_number hlt
    rw [getElem_values, hj] at hbit
    rw [hbit, ← length_values, hj]
  · have hle : 2 ^ assignment.names.length ≤ 2 ^ i := Nat.pow_le_pow_right (by decide) (by omega)
    have hn := number_lt assignment.values
    rw [length_values] at hn
    rw [Nat.testBit_lt_two_pow (by omega), Nat.testBit_lt_two_pow (by omega)]

theorem get?_getElem {assignment : Assignment} (h : assignment.names.Nodup) {j : Nat}
    (hj : j < assignment.names.length) :
    assignment.get? assignment.names[j] = assignment.values[j]? := by
  have hidx : assignment.names.idxOf? assignment.names[j] = some j := by
    rw [List.idxOf?_eq_some_iff]
    refine ⟨hj, by simp, fun i hi => ?_⟩
    simpa using fun he => absurd ((List.Nodup.getElem_inj_iff h).1 he) (by omega)
  rw [get?, hidx, List.getElem?_eq_getElem (by simpa using hj), getElem_values]
  rfl

/-- The values that an assignment gives; a name that is not there counts as false. -/
def valuation (assignment : Assignment) (name : String) : Bool := (assignment.get? name).getD false

theorem get?_eq_some_valuation {assignment : Assignment} {name : String}
    (h : name ∈ assignment.names) :
    assignment.get? name = some (assignment.valuation name) := by
  have hsome : (assignment.names.idxOf? name).isSome := by simpa using h
  obtain ⟨j, hj⟩ := Option.isSome_iff_exists.1 hsome
  simp [valuation, get?, hj]

/-- The assignment gives every one of its names the value that the valuation gives it. -/
def Reads (assignment : Assignment) (v : String → Bool) : Prop :=
  ∀ name ∈ assignment.names, assignment.get? name = some (v name)

theorem reads_iff_values {assignment : Assignment} (h : assignment.names.Nodup)
    {v : String → Bool} :
    assignment.Reads v ↔ assignment.values = assignment.names.map v := by
  constructor
  · intro hv
    refine List.ext_getElem (by simp) fun j hj hn => ?_
    have hj' : j < assignment.names.length := by simpa using hj
    have hget := hv _ (List.getElem_mem hj')
    rw [get?_getElem h hj', List.getElem?_eq_getElem hj] at hget
    simpa using hget
  · intro hv name hname
    obtain ⟨j, hj, rfl⟩ := List.getElem_of_mem hname
    rw [get?_getElem h hj, hv]
    simp [hj]

/-- The row that reads a valuation is the one whose number the values spell. -/
theorem reads_iff_bits {assignment : Assignment} (h : assignment.names.Nodup)
    (hbits : assignment.bits < 2 ^ assignment.names.length) {v : String → Bool} :
    assignment.Reads v ↔ assignment.bits = number (assignment.names.map v) := by
  rw [reads_iff_values h]
  constructor
  · intro hv
    rw [← hv, number_values hbits]
  · intro hv
    have hval : (⟨assignment.names, number (assignment.names.map v)⟩ : Assignment).values =
        assignment.names.map v := values_number (by simp)
    rw [← hv] at hval
    exact hval

end Assignment

end BooleanTables
