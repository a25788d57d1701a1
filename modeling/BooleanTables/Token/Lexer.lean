import BooleanTables.Lexicon.SymbolTable
import BooleanTables.Token.Basic

/-!
# Lexemes of a text

White space cuts a text into chunks. In a chunk symbols are found anywhere, and the text before the
first symbol is a variable name, so that `A&B` has three lexemes. The cursor holds the text that is
left, and every lexeme makes it shorter.
-/

namespace BooleanTables

open Text

structure Cursor where
  offset : Nat
  rest : List Char
  deriving DecidableEq, Repr

/-- What stands at a cursor, and for a lexeme the cursor after it. -/
inductive Reading
  | done
  | stray (stray : Stray)
  | lexeme (lexeme : Lexeme) (next : Cursor)
  deriving DecidableEq, Repr

namespace Cursor

def skipBlanks (cursor : Cursor) : Cursor :=
  ⟨cursor.offset + byteLength (cursor.rest.takeWhile isBlank), cursor.rest.dropWhile isBlank⟩

def advance (cursor : Cursor) (count : Nat) : Cursor :=
  ⟨cursor.offset + byteLength (cursor.rest.take count), cursor.rest.drop count⟩

def take (cursor : Cursor) (token : Token) (count : Nat) : Reading :=
  .lexeme ⟨cursor.offset, token, (cursor.advance count).offset⟩ (cursor.advance count)

def read (table : SymbolTable) (cursor : Cursor) : Reading :=
  let cursor := cursor.skipBlanks
  if cursor.rest = [] then .done
  else match table.cut cursor.rest with
    | ([], some symbol) => cursor.take (.symbol symbol.key) symbol.spelling.length
    | (text, _) =>
      if text.all isNameChar then cursor.take (.var (String.ofList text)) text.length
      else .stray ⟨cursor.offset, String.ofList text⟩

theorem cut_ne_nil {table : SymbolTable} {c : Char} (rest : List Char) (h : isBlank c = false) :
    table.cut (c :: rest) ≠ ([], none) := by
  rw [SymbolTable.cut, if_neg (by simp [h])]
  split <;> simp

theorem length_skipBlanks_le (cursor : Cursor) :
    cursor.skipBlanks.rest.length ≤ cursor.rest.length :=
  (List.dropWhile_sublist _).length_le

theorem cut_skipBlanks_ne_nil {table : SymbolTable} {cursor : Cursor}
    (h : cursor.skipBlanks.rest ≠ []) : table.cut cursor.skipBlanks.rest ≠ ([], none) := by
  cases hr : cursor.skipBlanks.rest with
  | nil => exact absurd hr h
  | cons c rest =>
    refine cut_ne_nil rest ?_
    have := List.head?_dropWhile_not isBlank cursor.rest
    rw [show cursor.rest.dropWhile isBlank = c :: rest from hr] at this
    simpa using this

theorem length_read_lt {table : SymbolTable} {cursor next : Cursor} {lexeme : Lexeme}
    (h : cursor.read table = .lexeme lexeme next) : next.rest.length < cursor.rest.length := by
  refine Nat.lt_of_lt_of_le ?_ cursor.length_skipBlanks_le
  unfold read at h
  dsimp only at h
  split at h
  · simp at h
  · next hrest =>
    have hpos := List.length_pos_iff.2 hrest
    split at h
    · next symbol _ =>
      simp only [take, Reading.lexeme.injEq] at h
      rw [← h.2]
      have := List.length_pos_iff.2 symbol.spelling_ne_nil
      simp only [advance, List.length_drop]
      omega
    · next text symbol hcase hcut =>
      split at h
      · simp only [take, Reading.lexeme.injEq] at h
        rw [← h.2]
        have : text ≠ [] := by
          rintro rfl
          cases symbol with
          | none => exact cut_skipBlanks_ne_nil hrest hcut
          | some symbol => exact hcase symbol rfl rfl
        have := List.length_pos_iff.2 this
        simp only [advance, List.length_drop]
        omega
      · simp at h

def scan (table : SymbolTable) (cursor : Cursor) : Scan :=
  match _h : cursor.read table with
  | .done => ⟨[], none⟩
  | .stray stray => ⟨[], some stray⟩
  | .lexeme lexeme next =>
    let rest := scan table next
    ⟨lexeme :: rest.lexemes, rest.stray⟩
termination_by cursor.rest.length
decreasing_by exact length_read_lt ‹_›

end Cursor

namespace SymbolTable

/-- The lexemes of a text from its start to its end or to the first stray text. -/
def scan (table : SymbolTable) (input : String) : Scan := Cursor.scan table ⟨0, input.toList⟩

end SymbolTable

end BooleanTables
