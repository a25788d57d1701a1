import BooleanTables.Text.Columns.Escape

/-!
# Grids for a terminal

A grid is a list of rows of cells. Lines are drawn around every row, a column is as wide as its
widest cell and one blank on either side, and a row is as high as its highest cell. A row that has
too few cells ends in empty ones.
-/

namespace BooleanTables

open Text

inductive Alignment
  | left
  | centre
  deriving DecidableEq, Repr

structure Cell where
  text : String
  alignment : Alignment
  deriving DecidableEq, Repr

structure Grid where
  rows : List (List Cell)
  deriving DecidableEq, Repr

namespace Grid

/-- The lines of a text. A line feed, with or without a carriage return before it, ends a line;
after the last one a line follows only if it has text. -/
def lines : List Char → List (List Char)
  | [] => []
  | '\n' :: rest => [] :: lines rest
  | '\r' :: '\n' :: rest => [] :: lines rest
  | c :: rest =>
    match lines rest with
    | [] => [[c]]
    | line :: more => (c :: line) :: more

def blanks (count : Nat) : String := String.ofList (List.replicate count ' ')

/-- Fills a line up to a width. Of an odd fill around a centred line the right side has one blank
more. -/
def pad (alignment : Alignment) (line : List Char) (size : Nat) : String :=
  let fill := size - terminalColumns line
  let before := match alignment with
    | .left => 0
    | .centre => fill / 2
  blanks before ++ String.ofList line ++ blanks (fill - before)

def cellLines (cell : Cell) : List (List Char) := lines cell.text.toList

def cellWidth (cell : Cell) : Nat := ((cellLines cell).map terminalColumns).foldl max 0

/-- The larger of two widths, column by column. -/
def widen : List Nat → List Nat → List Nat
  | [], widths => widths
  | widths, [] => widths
  | a :: as, b :: bs => max a b :: widen as bs

def columnWidths (grid : Grid) : List Nat :=
  grid.rows.foldl (fun widths row => widen widths (row.map cellWidth)) []

def rule (widths : List Nat) : String :=
  "+" ++ String.join (widths.map fun w => String.ofList (List.replicate (w + 2) '-') ++ "+") ++ "\n"

def complete (widths : List Nat) (row : List Cell) : List Cell :=
  row ++ List.replicate (widths.length - row.length) ⟨"", .left⟩

def rowLine (widths : List Nat) (row : List Cell) (line : Nat) : String :=
  "|" ++ String.join (((complete widths row).zip widths).map fun (cell, w) =>
    " " ++ pad cell.alignment ((cellLines cell)[line]?.getD []) w ++ " |") ++ "\n"

def rowHeight (row : List Cell) : Nat := (row.map fun cell => (cellLines cell).length).foldl max 1

def render (grid : Grid) : String :=
  let widths := grid.columnWidths
  rule widths ++ String.join (grid.rows.map fun row =>
    String.join ((List.range (rowHeight row)).map (rowLine widths row)) ++ rule widths)

end Grid

end BooleanTables
