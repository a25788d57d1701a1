import BooleanTables.CommandLine.Run
import BooleanTables.Proofs.Page.Output
import BooleanTables.Proofs.Parsing.Respelling
import BooleanTables.Proofs.Parsing.RoundTrip
import BooleanTables.Proofs.Table.Readings

/-!
# One table, two forms

The grid of a table for a terminal and its element for a page are made apart, but they have the same
rows of texts, up to the empty row and the empty column of the grid. Names and titles have no white
space but the blank, so every row of the grid is one line.
-/

namespace BooleanTables

open Text

/-! ### Texts on one line -/

namespace Text

/-- The characters that end a line: line feed, line tabulation, form feed, carriage return, next
line, and the line and paragraph separators. -/
def lineBreaks : List Char := ['\n', '\x0b', '\x0c', '\r', '\u0085', '\u2028', '\u2029']

/-- The only white space in the text is the blank. -/
def IsLine (text : String) : Prop := ∀ c ∈ text.toList, isBlank c = true → c = ' '

instance (text : String) : Decidable (IsLine text) :=
  decidable_of_iff (text.toList.all (fun c => !isBlank c || c == ' ') = true) (by
    simp only [IsLine, List.all_eq_true, Bool.or_eq_true, Bool.not_eq_true', beq_iff_eq,
      ← Bool.not_eq_true, ← imp_iff_not_or])

variable {text more : String}

theorem IsLine.not_mem (h : IsLine text) {c : Char} (hc : c ∈ lineBreaks) : c ∉ text.toList := by
  have hbreaks : lineBreaks.all (fun c => isBlank c && c != ' ') = true := by decide
  have hbreak := List.all_eq_true.1 hbreaks c hc
  rw [Bool.and_eq_true, bne_iff_ne] at hbreak
  exact fun hmem => hbreak.2 (h c hmem hbreak.1)

theorem IsLine.append (h : IsLine text) (hm : IsLine more) : IsLine (text ++ more) := by
  intro c hc
  rw [String.toList_append, List.mem_append] at hc
  exact hc.elim (h c) (hm c)

theorem isLine_of_isNameChar (h : ∀ c ∈ text.toList, isNameChar c = true) : IsLine text := by
  intro c hc hblank
  rw [isBlank_of_isNameChar (h c hc)] at hblank
  cases hblank

theorem isBlank_of_isDigit {c : Char} (h : c.isDigit = true) : isBlank c = false := by
  obtain ⟨hlow, hhigh⟩ : 48 ≤ c.toNat ∧ c.toNat ≤ 57 := Char.isDigit_iff_toNat.1 h
  have hranges : ∀ range ∈ blankRanges, range.2 < 48 ∨ 57 < range.1 := by decide
  by_contra hblank
  obtain ⟨range, hrange, hfrom, hto⟩ := exists_mem_of_covers (Bool.of_not_eq_false hblank)
  have houtside := hranges range hrange
  omega

end Text

namespace Grid

theorem lines_of_not_mem {text : List Char} (h : '\n' ∉ text) :
    lines text = if text = [] then [] else [text] := by
  fun_induction lines text with
  | case1 => rfl
  | case2 | case3 => simp at h
  | case4 c rest _ _ hrest ih =>
    rw [ih (List.not_mem_of_not_mem_cons h)] at hrest
    split at hrest
    · next hnil => simp [hnil]
    · cases hrest
  | case5 c rest _ _ line more hrest ih =>
    rw [ih (List.not_mem_of_not_mem_cons h)] at hrest
    split at hrest
    · cases hrest
    · cases hrest
      rfl

theorem rowHeight_eq_one {row : List Cell} (h : ∀ cell ∈ row, '\n' ∉ cell.text.toList) :
    rowHeight row = 1 := by
  rw [rowHeight]
  induction row with
  | nil => rfl
  | cons cell row ih =>
    have hlines : (cellLines cell).length ≤ 1 := by
      rw [cellLines, lines_of_not_mem (h cell List.mem_cons_self)]
      split <;> simp
    rw [List.map_cons, List.foldl_cons, Nat.max_eq_left hlines]
    exact ih fun other hother => h other (List.mem_cons_of_mem _ hother)

end Grid

/-! ### Names and titles -/

theorem Formula.isLine_text {formula : Formula} (h : ∀ name ∈ formula.names, IsLine name) :
    IsLine formula.text := by
  induction formula with
  | const value =>
    rw [text_const]
    cases value <;> decide
  | var name =>
    rw [text_var]
    exact h name (by simp)
  | not operand ih =>
    rw [text_not]
    exact .append (by decide) (ih h)
  | binary op left right ihl ihr =>
    have hleft := ihl fun name hname => h name (by simp [hname])
    have hright := ihr fun name hname => h name (by simp [hname])
    have hsign : IsLine op.sign := by cases op <;> decide
    have hopened : IsLine ("(" ++ left.text) := .append (by decide) hleft
    have hsigned : IsLine ("(" ++ left.text ++ " " ++ op.sign ++ " ") :=
      ((hopened.append (by decide)).append hsign).append (by decide)
    rw [text_binary]
    exact (hsigned.append hright).append (by decide)

namespace TruthTable

theorem isLine_of_mem_placeNames {count : Nat} {name : String} (h : name ∈ placeNames count) :
    IsLine name := by
  obtain ⟨i, -, rfl⟩ := List.mem_map.1 h
  refine .append (by decide) fun c hc hblank => ?_
  have hdigit : c.isDigit = true :=
    Nat.isDigit_of_mem_toDigits (by decide) (by decide) (Nat.toList_repr ▸ hc)
  rw [isBlank_of_isDigit hdigit] at hblank
  cases hblank

theorem Obtained.isLine_headings {table : TruthTable} (h : table.Obtained) :
    ∀ heading ∈ table.vars ++ [table.title], IsLine heading := by
  suffices hnames : (∀ name ∈ table.vars, IsLine name) ∧ IsLine table.title by
    simpa [or_imp, forall_and] using hnames
  cases h with
  | ofText h =>
    obtain ⟨formula, hparse, rfl⟩ := Lexicon.evaluate_eq_ok h
    have hname {name : String} (hmem : name ∈ formula.names) : IsLine name :=
      isLine_of_isNameChar (Lexicon.isName_of_parse hparse hmem).isNameChar
    exact ⟨fun name hmem => hname (Formula.mem_vars.1 hmem), Formula.isLine_text fun name => hname⟩
  | ofFunction h =>
    obtain ⟨-, rows, -, rfl⟩ := exists_rows_of_ofFunction h
    exact ⟨fun name => isLine_of_mem_placeNames, show IsLine "f" by decide⟩

end TruthTable

/-! ### Cells -/

theorem Selection.mem_of_mem_rows {selection : Selection} {table : TruthTable} {row : Row}
    (h : row ∈ selection.rows table) : row ∈ table.rows := by
  cases selection with
  | all => exact h
  | successes | failures => exact (List.mem_filter.1 h).1

namespace TruthTable

variable {table : TruthTable} {selection : Selection}

def texts (table : TruthTable) (selection : Selection) : List (List String) :=
  (table.vars ++ [table.title]) ::
    (selection.rows table).map fun row => (row.assignment.values ++ [row.value]).map truthMark

theorem texts_element (table : TruthTable) (selection : Selection) :
    (table.element selection).children.map (fun row => row.children.map Element.text) =
      table.texts selection := by
  simp [element, texts, Element.text, Element.leaf, Element.ofValue, Function.comp_def]

/-- The rows of the grid but the empty one: the cells before the empty cell, and the cell after
it. -/
def gridCells (table : TruthTable) (selection : Selection) : List (List Cell × Cell) :=
  (table.vars.map plainCell, plainCell table.title) ::
    (selection.rows table).map fun row => (row.assignment.values.map truthCell, truthCell row.value)

theorem eraseIdx_rows_grid (table : TruthTable) (selection : Selection) :
    (table.grid selection).rows.eraseIdx 1 =
      (table.gridCells selection).map fun cells => cells.1 ++ [plainCell "", cells.2] := by
  simp [grid, gridCells, Function.comp_def]

theorem Tabulated.length_of_mem_gridCells (h : table.Tabulated) {cells : List Cell × Cell}
    (hcells : cells ∈ table.gridCells selection) : cells.1.length = table.vars.length := by
  obtain rfl | hmem := List.mem_cons.1 hcells
  · exact List.length_map _
  · obtain ⟨row, hrow, rfl⟩ := List.mem_map.1 hmem
    rw [List.length_map, Assignment.length_values,
      (h.assignment_eq (Selection.mem_of_mem_rows hrow)).1]

theorem Tabulated.texts_grid (h : table.Tabulated) (selection : Selection) :
    ((table.grid selection).rows.eraseIdx 1).map
      (fun row => (row.eraseIdx table.vars.length).map Cell.text) =
      table.texts selection := by
  -- every row has as many cells before the empty one as there are variables, so the same place is
  -- left out of all
  have hcells : ∀ cells ∈ table.gridCells selection,
      ((cells.1 ++ [plainCell "", cells.2]).eraseIdx table.vars.length).map Cell.text =
        (cells.1 ++ [cells.2]).map Cell.text := by
    intro cells hmem
    have hlength := h.length_of_mem_gridCells hmem
    rw [List.eraseIdx_append_of_length_le hlength.le, hlength, Nat.sub_self]
    rfl
  rw [eraseIdx_rows_grid, List.map_map]
  exact (List.map_congr_left hcells).trans
    (by simp [gridCells, texts, plainCell, truthCell, Function.comp_def])

theorem Tabulated.width_grid (h : table.Tabulated) {row : List Cell}
    (hrow : row ∈ (table.grid selection).rows.eraseIdx 1) :
    row.length = table.vars.length + 2 ∧ row[table.vars.length]? = some (plainCell "") := by
  rw [eraseIdx_rows_grid, List.mem_map] at hrow
  obtain ⟨cells, hmem, rfl⟩ := hrow
  have hlength := h.length_of_mem_gridCells hmem
  exact ⟨by simp [hlength], by simp [← hlength]⟩

theorem Obtained.isLine_of_mem_grid (h : table.Obtained) {row : List Cell}
    (hrow : row ∈ (table.grid selection).rows) {cell : Cell} (hcell : cell ∈ row) :
    IsLine cell.text := by
  have hmark (value : Bool) : IsLine (truthMark value) := by cases value <;> decide
  have hempty : IsLine "" := by decide
  rw [grid, List.mem_cons, List.mem_cons] at hrow
  obtain rfl | rfl | hrow := hrow
  · rw [List.mem_append, List.mem_pair, List.mem_map] at hcell
    obtain ⟨name, hname, rfl⟩ | rfl | rfl := hcell
    · exact h.isLine_headings name (by simp [hname])
    · exact hempty
    · exact h.isLine_headings table.title (by simp)
  · cases hcell
  · obtain ⟨shown, -, rfl⟩ := List.mem_map.1 hrow
    rw [List.mem_append, List.mem_pair, List.mem_map] at hcell
    obtain ⟨value, -, rfl⟩ | rfl | rfl := hcell
    · exact hmark value
    · exact hempty
    · exact hmark shown.value

/-- Without its empty row and its empty column the grid of a table has the texts of the element, row
by row. The empty row is the second one and the empty column the last but one, all other rows are of
one width, and every row is one line. The class of a value on the page says what its text says, and
both forms end in the same verdict. -/
theorem grid_agrees_with_element (h : table.Obtained) (selection : Selection) :
    let grid := table.grid selection
    let element := table.element selection
    (grid.rows.eraseIdx 1).map (fun row => (row.eraseIdx table.vars.length).map Cell.text) =
        element.children.map (fun row => row.children.map Element.text) ∧
      element.children.map (fun row => row.children.map Element.text) =
        (table.vars ++ [table.title]) ::
        (selection.rows table).map
          (fun row => (row.assignment.values ++ [row.value]).map truthMark) ∧
      grid.rows[1]? = some [] ∧
      (∀ row ∈ grid.rows.eraseIdx 1,
        row.length = table.vars.length + 2 ∧ row[table.vars.length]? = some (plainCell "")) ∧
      grid.rows.length = 2 + (selection.rows table).length ∧
      (∀ row ∈ grid.rows, Grid.rowHeight row = 1 ∧
        ∀ cell ∈ row, ∀ c ∈ lineBreaks, c ∉ cell.text.toList) ∧
      (∀ row ∈ element.children.tail, ∀ cell ∈ row.children,
        cell.kind = some "true" ∧ cell.text = "T" ∨ cell.kind = some "false" ∧ cell.text = "F") ∧
      (∀ (noTable : Bool) (printed : String),
        (Terminal.renderer noTable).render table selection printed =
        (.ok (), printed ++ (if noTable then "" else grid.render) ++
          table.verdict selection ++ "\n")) ∧
      ∀ browser after : Browser, Browser.renderer.render table selection browser = (.ok (), after) →
        after.output = [element, .leaf "p" (table.verdict selection)] := by
  intro grid element
  have htexts := texts_element table selection
  refine ⟨(h.tabulated.texts_grid selection).trans htexts.symm, htexts, rfl,
    fun row => h.tabulated.width_grid, ?_, ?_,
    ?_, fun noTable printed => rfl, ?_⟩
  · simp only [grid, TruthTable.grid, List.length_cons, List.length_map]
    omega
  · intro row hrow
    have hbreak : ∀ cell ∈ row, ∀ c ∈ lineBreaks, c ∉ cell.text.toList := fun cell hcell c =>
      (h.isLine_of_mem_grid hrow hcell).not_mem
    exact ⟨Grid.rowHeight_eq_one fun cell hcell => hbreak cell hcell _ (by decide), hbreak⟩
  · intro row hrow cell hcell
    obtain ⟨shown, -, rfl⟩ := List.mem_map.1 hrow
    obtain ⟨value, rfl⟩ : ∃ value, Element.ofValue value = cell := by
      rw [Element.children_node, List.mem_append, List.mem_singleton, List.mem_map] at hcell
      obtain ⟨value, -, rfl⟩ | rfl := hcell
      · exact ⟨value, rfl⟩
      · exact ⟨shown.value, rfl⟩
    cases value with
    | true => exact .inl ⟨rfl, rfl⟩
    | false => exact .inr ⟨rfl, rfl⟩
  · intro browser after hrender
    obtain ⟨count, hafter⟩ := Browser.render_of_ok (congrArg Prod.fst hrender)
    rw [hrender] at hafter
    exact congrArg Browser.output hafter

theorem grid_agrees_with_element_both :
    (∃ table, Lexicon.standard.evaluate ⟨20, (· ≤ 4)⟩ "b -> a" = .ok table ∧
      (table.element .failures).children.map (fun row => row.children.map Element.text) =
        [["b", "a", "(b ⇒ a)"], ["T", "F", "F"]] ∧
      ((table.grid .failures).rows.eraseIdx 1).map (fun row => (row.eraseIdx 2).map Cell.text) =
        [["b", "a", "(b ⇒ a)"], ["T", "F", "F"]] ∧
      (Browser.renderer.render table .failures (Browser.holding [])).2.output =
        [table.element .failures, .leaf "p" "1 of 4 rows are false"]) ∧
    ∃ table, ofFunction 3 ⟨3, (· ≤ 8)⟩ (·.at? 2) = .ok table ∧
      (table.grid .successes).rows.length = 6 ∧
      ∀ row ∈ (table.grid .successes).rows.eraseIdx 1, row.length = 5 := by
  have htext : Lexicon.standard.evaluate ⟨20, (· ≤ 4)⟩ "b -> a" =
      .ok (complete (.binary .implies (.var "b") (.var "a"))) := by decide +kernel
  have hfunction : ofFunction 3 ⟨3, (· ≤ 8)⟩ (·.at? 2) =
      .ok ⟨none, placeNames 3, rowsOf (placeNames 3) (·.bit 2)⟩ := by decide +kernel
  refine ⟨⟨_, htext, ?_⟩, ⟨_, hfunction, ?_⟩⟩
  · obtain ⟨hsame, htexts, -, -, -, -, -, -, houtput⟩ :=
      grid_agrees_with_element (.ofText htext) .failures
    have hrows : (complete (.binary .implies (.var "b") (.var "a"))).texts .failures =
        [["b", "a", "(b ⇒ a)"], ["T", "F", "F"]] := by decide +kernel
    exact ⟨htexts.trans hrows, (hsame.trans htexts).trans hrows, houtput (Browser.holding []) _ rfl⟩
  · obtain ⟨-, -, -, hwidth, hcount, -⟩ :=
      grid_agrees_with_element (.ofFunction hfunction) .successes
    exact ⟨hcount.trans (by decide +kernel), fun row hrow => (hwidth row hrow).1⟩

end TruthTable

end BooleanTables
