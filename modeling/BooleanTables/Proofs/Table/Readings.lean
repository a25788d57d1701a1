import BooleanTables.Proofs.Session.Outcomes
import BooleanTables.Proofs.Table.Places

/-!
# Readings of a row

A row may be read by places, from first to last, or by names. The names of a table are all
different, whether they come from a text or are made up for places, so all readings give the bits of
the row number. As a table has few variables, the arithmetic that finds a bit stays within machine
words.
-/

namespace BooleanTables

/-! ### Words -/

namespace Word

def sub? (a b : Nat) : Option Nat := if b ≤ a then some (a - b) else none

/-- A word shifted to the left by less than its width, where no bit is lost. -/
def shiftLeft? (width a amount : Nat) : Option Nat :=
  if amount < width ∧ a <<< amount < 2 ^ width then some (a <<< amount) else none

/-- A word shifted to the right by less than its width. -/
def shiftRight? (width a amount : Nat) : Option Nat :=
  if amount < width then some (a >>> amount) else none

end Word

/-- The value at a place, computed on words of some width, or `none` where a step is out of
range. -/
def Assignment.bitIn? (width : Nat) (assignment : Assignment) (place : Nat) : Option Bool := do
  let last ← Word.sub? assignment.count 1
  let amount ← Word.sub? last place
  let digits ← Word.shiftRight? width assignment.bits amount
  return digits % 2 == 1

/-- The number of rows for some variables, computed on words of some width. -/
def TruthTable.rowCountIn? (width count : Nat) : Option Nat := Word.shiftLeft? width 1 count

theorem Assignment.bitIn?_of_lt {assignment : Assignment} {width place : Nat}
    (hplace : place < assignment.count) (hwidth : assignment.count ≤ width) :
    assignment.bitIn? width place = some (assignment.bit place) := by
  have hlast : Word.sub? assignment.count 1 = some (assignment.count - 1) := if_pos (by omega)
  have hamount : Word.sub? (assignment.count - 1) place = some (assignment.count - 1 - place) :=
    if_pos (by omega)
  have hdigits : Word.shiftRight? width assignment.bits (assignment.count - 1 - place) =
      some (assignment.bits >>> (assignment.count - 1 - place)) := if_pos (by omega)
  rw [bitIn?, hlast]
  change (Word.sub? (assignment.count - 1) place).bind _ = _
  rw [hamount]
  change (Word.shiftRight? width assignment.bits (assignment.count - 1 - place)).bind _ = _
  rw [hdigits]
  change some _ = _
  refine congrArg some ?_
  rw [bit, Nat.testBit_eq_decide_div_mod_eq, Nat.shiftRight_eq_div_pow]
  rfl

theorem TruthTable.rowCountIn?_of_lt {width count : Nat} (h : count < width) :
    rowCountIn? width count = some (2 ^ count) := by
  have hfits : 1 <<< count < 2 ^ width := by
    rw [Nat.one_shiftLeft]
    exact Nat.pow_lt_pow_right (by decide) h
  rw [rowCountIn?, Word.shiftLeft?, if_pos ⟨h, hfits⟩, Nat.one_shiftLeft]

/-! ### One assignment -/

namespace Assignment

theorem map_snd_toList (assignment : Assignment) :
    assignment.toList.map Prod.snd = assignment.values := by
  rw [toList, List.map_snd_zip]
  simp

theorem getElem?_toList {assignment : Assignment} {place : Nat}
    (h : place < assignment.names.length) :
    assignment.toList[place]? = some (assignment.names[place], assignment.bit place) := by
  have hvalues : place < assignment.values.length := by simpa using h
  rw [toList, List.getElem?_zip_eq_some, List.getElem?_eq_getElem h,
    List.getElem?_eq_getElem hvalues, getElem_values]
  exact ⟨rfl, rfl⟩

theorem get?_getElem_eq_bit {assignment : Assignment} (hn : assignment.names.Nodup) {place : Nat}
    (h : place < assignment.names.length) :
    assignment.get? assignment.names[place] = some (assignment.bit place) := by
  have hvalues : place < assignment.values.length := by simpa using h
  rw [get?_getElem hn h, List.getElem?_eq_getElem hvalues, getElem_values]
  rfl

end Assignment

/-! ### Tables -/

namespace TruthTable

/-- The tables that there are: those of texts, and those of functions on assignments. -/
inductive Obtained : TruthTable → Prop
  | ofText {lexicon : Lexicon} {capacity : Capacity} {input : String} {table : TruthTable}
    (h : lexicon.evaluate capacity input = .ok table) : Obtained table
  | ofFunction {count : Nat} {capacity : Capacity} {f : Assignment → Except Error Bool}
    {table : TruthTable} (h : TruthTable.ofFunction count capacity f = .ok table) : Obtained table

/-- A table has a row for every number below the power of two, and its variables are different and
few. -/
structure Tabulated (table : TruthTable) : Prop where
  nodup_vars : table.vars.Nodup
  length_vars_le : table.vars.length ≤ hardMaxVariables
  rows_eq : ∃ value, table.rows = rowsOf table.vars value

theorem nodup_placeNames (count : Nat) : (placeNames count).Nodup := by
  refine List.Nodup.map ?_ List.nodup_range
  intro i j h
  have hdigits : Nat.toDigits 10 i = Nat.toDigits 10 j := by
    rw [← Nat.toList_repr, ← Nat.toList_repr]
    exact congrArg String.toList ((String.append_right_inj "x").1 h)
  rw [← @Nat.ofDigitChars_ten_toDigits i, hdigits, Nat.ofDigitChars_ten_toDigits]

theorem exists_ok_of_mapM {α β ε : Type} {f : α → Except ε β} {items : List α} {results : List β}
    (h : items.mapM f = .ok results) {item : α} (hitem : item ∈ items) :
    ∃ result, f item = .ok result := by
  induction items generalizing results with
  | nil => cases hitem
  | cons first rest ih =>
    rw [List.mapM_cons] at h
    cases hfirst : f first with
    | error e =>
      rw [hfirst] at h
      cases h
    | ok result =>
      rw [hfirst] at h
      cases hrest : rest.mapM f with
      | error e =>
        change rest.mapM f >>= _ = _ at h
        rw [hrest] at h
        cases h
      | ok others =>
        obtain rfl | hmem := List.mem_cons.1 hitem
        · exact ⟨result, hfirst⟩
        · exact ih hrest hmem

/-- If all rows are computed, the function has given a value for each of them. -/
theorem exists_rowsOf_of_tabulate {names : List String} {f : Assignment → Except Error Bool}
    {rows : List Row} (h : tabulate names f = .ok rows) : ∃ value, rows = rowsOf names value := by
  let value (assignment : Assignment) : Bool := (f assignment).toOption.getD false
  have hvalue (bits : Nat) (hbits : bits < 2 ^ names.length) :
      f ⟨names, bits⟩ = .ok (value ⟨names, bits⟩) := by
    have hmem : bits ∈ List.range (1 <<< names.length) := by
      rw [Nat.one_shiftLeft]
      exact List.mem_range.2 hbits
    obtain ⟨row, hrow⟩ := exists_ok_of_mapM h hmem
    cases hf : f ⟨names, bits⟩ with
    | error e =>
      rw [hf] at hrow
      cases hrow
    | ok found => simp [value, hf, Except.toOption]
  rw [tabulate_eq_rowsOf hvalue] at h
  exact ⟨value, (Except.ok.inj h).symm⟩

theorem limit_le (capacity : Capacity) : capacity.limit ≤ hardMaxVariables :=
  Nat.min_le_right _ _

theorem exists_rows_of_ofFunction {count : Nat} {capacity : Capacity}
    {f : Assignment → Except Error Bool} {table : TruthTable}
    (h : ofFunction count capacity f = .ok table) :
    capacity.Admits count ∧
      ∃ rows, tabulate (placeNames count) f = .ok rows ∧
        table = ⟨none, placeNames count, rows⟩ := by
  rw [ofFunction, Capacity.check] at h
  split at h
  · next hcount =>
    cases hrows : tabulate (placeNames count) f with
    | error e =>
      rw [hrows] at h
      cases h
    | ok rows =>
      rw [hrows] at h
      cases h
      exact ⟨hcount, rows, rfl, rfl⟩
  · cases h

theorem tabulated_ofFunction {count : Nat} {capacity : Capacity}
    {f : Assignment → Except Error Bool} {table : TruthTable}
    (h : ofFunction count capacity f = .ok table) : table.Tabulated := by
  obtain ⟨hcount, rows, hrows, rfl⟩ := exists_rows_of_ofFunction h
  refine ⟨nodup_placeNames count, ?_, exists_rowsOf_of_tabulate hrows⟩
  rw [length_placeNames]
  exact hcount.1.trans (limit_le capacity)

theorem tabulated_ofText {lexicon : Lexicon} {capacity : Capacity} {input : String}
    {table : TruthTable} (h : lexicon.evaluate capacity input = .ok table) : table.Tabulated := by
  obtain ⟨formula, -, hcount, rfl⟩ := Lexicon.evaluate_eq_ok_iff.1 h
  rw [← formula.length_vars] at hcount
  exact ⟨formula.nodup_vars, hcount.1.trans (limit_le capacity), formula.valueIn, rfl⟩

theorem Obtained.tabulated {table : TruthTable} (h : table.Obtained) : table.Tabulated := by
  cases h with
  | ofText h => exact tabulated_ofText h
  | ofFunction h => exact tabulated_ofFunction h

theorem Tabulated.length_rows {table : TruthTable} (h : table.Tabulated) :
    table.rows.length = 2 ^ table.vars.length := by
  obtain ⟨value, hrows⟩ := h.rows_eq
  rw [hrows, length_rowsOf]

theorem Tabulated.assignment_eq {table : TruthTable} (h : table.Tabulated) {row : Row}
    (hrow : row ∈ table.rows) :
    row.assignment.names = table.vars ∧ row.assignment.bits < 2 ^ table.vars.length := by
  obtain ⟨value, hrows⟩ := h.rows_eq
  rw [hrows, rowsOf, List.mem_map] at hrow
  obtain ⟨bits, hbits, rfl⟩ := hrow
  exact ⟨rfl, List.mem_range.1 hbits⟩

/-- All readings of a row give the bits of its number, the first variable the most significant one,
and no name but the variables is read. The number is what the values spell, and on words of 32 bits
or more nothing is out of range. -/
theorem readings_agree {table : TruthTable} (h : table.Obtained) {row : Row}
    (hrow : row ∈ table.rows) :
    let assignment := row.assignment
    let count := table.vars.length
    assignment.count = count ∧ assignment.toList.length = count ∧
      (∀ (i : Nat) (hi : i < count),
        assignment.at? i = .ok (assignment.bits.testBit (count - 1 - i)) ∧
        assignment.toList[i]? = some (table.vars[i], assignment.bits.testBit (count - 1 - i)) ∧
        assignment.get? table.vars[i] = some (assignment.bits.testBit (count - 1 - i))) ∧
      (∀ name, name ∉ table.vars → assignment.get? name = none) ∧
      number (assignment.toList.map Prod.snd) = assignment.bits ∧
      ∀ width, 32 ≤ width →
        rowCountIn? width count = some table.rows.length ∧ assignment.bits < 2 ^ width ∧
        ∀ i, i < count → assignment.bitIn? width i =
          some (assignment.bits.testBit (count - 1 - i)) := by
  intro assignment count
  have ht := h.tabulated
  obtain ⟨hnames, hbits⟩ := ht.assignment_eq hrow
  have hcount : assignment.count = count := congrArg List.length hnames
  have hbit (i : Nat) : assignment.bit i = assignment.bits.testBit (count - 1 - i) := by
    rw [Assignment.bit, hcount]
  have hnodup : assignment.names.Nodup := hnames ▸ ht.nodup_vars
  have hfew : count ≤ 24 := ht.length_vars_le
  refine ⟨hcount, ?_, ?_, ?_, ?_, ?_⟩
  · rw [← List.length_map Prod.snd, Assignment.map_snd_toList, Assignment.length_values]
    exact hcount
  · intro i hi
    have hplace : i < assignment.names.length := hi.trans_eq hcount.symm
    have hname : assignment.names[i] = table.vars[i] := List.getElem_of_eq hnames hplace
    rw [← hbit, ← hname]
    exact ⟨Assignment.at?_of_lt hplace, Assignment.getElem?_toList hplace,
      Assignment.get?_getElem_eq_bit hnodup hplace⟩
  · intro name hname
    exact Assignment.get?_eq_none_iff.2 (hnames ▸ hname)
  · rw [Assignment.map_snd_toList]
    exact Assignment.number_values (hnames ▸ hbits)
  · intro width hwidth
    refine ⟨?_, ?_, ?_⟩
    · rw [ht.length_rows]
      exact rowCountIn?_of_lt (by omega)
    · exact hbits.trans (Nat.pow_lt_pow_right (by decide) (by omega))
    · intro i hi
      rw [← hbit]
      exact Assignment.bitIn?_of_lt (hcount ▸ hi) (by omega)

theorem readings_agree_both :
    let named : Row := ⟨⟨["b", "a"], 2⟩, false⟩
    let placed : Row := ⟨⟨["x0", "x1", "x2"], 5⟩, true⟩
    (∃ table, Lexicon.standard.evaluate ⟨18446744073709551615, (· ≤ 4)⟩ "b -> a" = .ok table ∧
      named ∈ table.rows ∧
      named.assignment.at? 0 = .ok true ∧ named.assignment.toList[1]? = some ("a", false) ∧
      named.assignment.get? "c" = none ∧ rowCountIn? 32 2 = some table.rows.length ∧
      named.assignment.bitIn? 64 0 = some true) ∧
    ∃ table, ofFunction 3 ⟨3, (· ≤ 8)⟩ (·.at? 2) = .ok table ∧ placed ∈ table.rows ∧
      placed.assignment.get? "x1" = some false ∧
      number (placed.assignment.toList.map Prod.snd) = 5 ∧
      placed.assignment.bitIn? 32 2 = some true := by
  intro named placed
  have htext : Lexicon.standard.evaluate ⟨18446744073709551615, (· ≤ 4)⟩ "b -> a" =
      .ok (complete (.binary .implies (.var "b") (.var "a"))) := by decide +kernel
  have hfunction : ofFunction 3 ⟨3, (· ≤ 8)⟩ (·.at? 2) =
      .ok ⟨none, placeNames 3, rowsOf (placeNames 3) (·.bit 2)⟩ := by decide +kernel
  have hnamed : named ∈ (complete (.binary .implies (.var "b") (.var "a"))).rows := by decide
  have hplaced : placed ∈ rowsOf (placeNames 3) (·.bit 2) := by decide +kernel
  refine ⟨⟨_, htext, hnamed, ?_⟩, ⟨_, hfunction, hplaced, ?_⟩⟩
  · obtain ⟨-, -, hread, hother, -, hwords⟩ := readings_agree (.ofText htext) hnamed
    have hrows := (hwords 32 (by decide)).1
    have hlast := (hread 1 (by decide)).2.1
    have hword := (hwords 64 (by decide)).2.2 0 (by decide)
    exact ⟨(hread 0 (by decide)).1.trans (by decide), hlast.trans (by decide),
      hother "c" (by decide), hrows, hword.trans (by decide)⟩
  · obtain ⟨-, -, hread, -, hnumber, hwords⟩ := readings_agree (.ofFunction hfunction) hplaced
    have hname := (hread 1 (by decide)).2.2
    have hword := (hwords 32 (by decide)).2.2 2 (by decide)
    exact ⟨hname.trans (by decide), hnumber, hword.trans (by decide)⟩

end TruthTable

end BooleanTables
