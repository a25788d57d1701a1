import BooleanTables.Lexicon.Aliases
import BooleanTables.Lexicon.Basic
import BooleanTables.Text.Bytes
import BooleanTables.Text.Casing

/-!
# Symbol tables

The symbols of a lexicon in the order in which they are tried: longest spelling first, counted in
bytes, and symbols of one length in the order of their slots.
-/

namespace BooleanTables

open Text

structure Symbol where
  key : Key
  spelling : List Char
  spelling_ne_nil : spelling ≠ []
  deriving DecidableEq

namespace Symbol

def byteLength (symbol : Symbol) : Nat := Text.byteLength symbol.spelling

def ofSpelling? (key : Key) (spelling : List Char) : Option Symbol :=
  if h : spelling ≠ [] then some ⟨key, spelling, h⟩ else none

/-- Whether the text begins with the symbol, up to the case of ASCII letters. -/
def startsIn (symbol : Symbol) (text : List Char) : Bool := startsUpToCase symbol.spelling text

end Symbol

structure SymbolTable where
  entries : List Symbol
  deriving DecidableEq

/-- Puts a symbol before the first one that is not longer. -/
def Symbol.place (symbol : Symbol) : List Symbol → List Symbol
  | [] => [symbol]
  | first :: rest =>
    if symbol.byteLength < first.byteLength then first :: symbol.place rest
    else symbol :: first :: rest

/-- The symbols by descending length; those of one length stay in their order. -/
def longestFirst (symbols : List Symbol) : List Symbol := symbols.foldr Symbol.place []

namespace Lexicon

def symbolList (lexicon : Lexicon) : List Symbol :=
  Key.all.flatMap fun key => (aliases (lexicon.value key)).filterMap (Symbol.ofSpelling? key)

def symbols (lexicon : Lexicon) : SymbolTable :=
  ⟨longestFirst lexicon.symbolList⟩

end Lexicon

namespace SymbolTable

/-- The longest symbol that the text begins with. -/
def match? (table : SymbolTable) (text : List Char) : Option Symbol :=
  table.entries.find? (·.startsIn text)

/-- The longest symbol without white space that the text begins with. White space ends a chunk of
text, so no other symbol can be found in one. -/
def matchInChunk? (table : SymbolTable) (text : List Char) : Option Symbol :=
  table.entries.find? fun symbol => symbol.startsIn text && !symbol.spelling.any isBlank

/-- The text before the first symbol of a chunk, or the whole chunk, and that symbol. The chunk ends
where white space begins. -/
def cut (table : SymbolTable) : List Char → List Char × Option Symbol
  | [] => ([], none)
  | c :: rest =>
    if isBlank c then ([], none)
    else match table.matchInChunk? (c :: rest) with
      | some symbol => ([], some symbol)
      | none =>
        let (text, symbol) := table.cut rest
        (c :: text, symbol)

def spellings (table : SymbolTable) (key : Key) : List (List Char) :=
  (table.entries.filter (·.key = key)).map Symbol.spelling

end SymbolTable

end BooleanTables
