import BooleanTables.Text.Ranges

/-!
# White space

The characters with the Unicode property `White_Space`, the runs of text between them, and text
without them at either end.
-/

namespace BooleanTables.Text

def blankRanges : Ranges :=
  [(0x9, 0xD), (0x20, 0x20), (0x85, 0x85), (0xA0, 0xA0), (0x1680, 0x1680), (0x2000, 0x200A),
    (0x2028, 0x2029), (0x202F, 0x202F), (0x205F, 0x205F), (0x3000, 0x3000)]

def isBlank (c : Char) : Bool := blankRanges.covers c.toNat

/-- The text from its first character on that is no white space. -/
def trimStart (text : List Char) : List Char := text.dropWhile isBlank

/-- The text up to its last character that is no white space. -/
def trimEnd (text : List Char) : List Char := (text.reverse.dropWhile isBlank).reverse

def trim (text : List Char) : List Char := trimEnd (trimStart text)

end BooleanTables.Text
