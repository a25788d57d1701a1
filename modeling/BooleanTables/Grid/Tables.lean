import BooleanTables.Grid.Basic
import BooleanTables.Lexicon.Basic
import BooleanTables.Table.Selection

/-!
# Tables as grids

A truth table has its variables and its title for a heading, an empty row below the heading, and an
empty column before the last. The grid of a lexicon lists the slots and their values.
-/

namespace BooleanTables

def plainCell (text : String) : Cell := ⟨text, .left⟩

def truthCell (value : Bool) : Cell := ⟨truthMark value, .centre⟩

def TruthTable.grid (table : TruthTable) (selection : Selection) : Grid :=
  ⟨(table.vars.map plainCell ++ [plainCell "", plainCell table.title]) :: [] ::
    (selection.rows table).map fun row =>
      row.assignment.values.map truthCell ++ [plainCell "", truthCell row.value]⟩

def Lexicon.grid (lexicon : Lexicon) : Grid :=
  ⟨[plainCell "option", plainCell "symbols"] ::
    Key.all.map fun key => [plainCell key.id, plainCell (lexicon.value key)]⟩

end BooleanTables
