import BooleanTables.Table.Selection

/-!
# Elements of a page

An element has a tag, perhaps a class, text, and children after the text. A truth table becomes a
`table` of rows: the heading, which names the variables and the title, and one row for each selected
one.
-/

namespace BooleanTables

inductive Element
  | node (tag : String) (kind : Option String) (text : String) (children : List Element)

namespace Element

def tag : Element → String
  | .node tag _ _ _ => tag

def leaf (tag text : String) : Element := .node tag none text []

def escapeChar : Char → String
  | '&' => "&amp;"
  | '<' => "&lt;"
  | '>' => "&gt;"
  | c => c.toString

def escape (text : String) : String := String.join (text.toList.map escapeChar)

def openTag (tag : String) (kind : Option String) : String :=
  "<" ++ tag ++ kind.elim "" (fun kind => " class=\"" ++ kind ++ "\"") ++ ">"

mutual

def markup : Element → String
  | .node tag kind text children =>
    openTag tag kind ++ escape text ++ markupAll children ++ "</" ++ tag ++ ">"

def markupAll : List Element → String
  | [] => ""
  | element :: rest => markup element ++ markupAll rest

end

/-- A value with a class of its own, so that a style sheet can tell true from false. -/
def ofValue (value : Bool) : Element :=
  .node "td" (some (if value then "true" else "false")) (truthMark value) []

end Element

namespace TruthTable

def element (table : TruthTable) (selection : Selection) : Element :=
  .node "table" none "" (
    .node "tr" none "" (table.vars.map (Element.leaf "th") ++ [.leaf "th" table.title]) ::
      (selection.rows table).map fun row =>
        .node "tr" none "" (row.assignment.values.map Element.ofValue ++ [.ofValue row.value]))

def verdictElement (table : TruthTable) (selection : Selection) : Element :=
  .leaf "p" (table.verdict selection)

end TruthTable

end BooleanTables
