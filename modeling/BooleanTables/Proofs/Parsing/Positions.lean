import BooleanTables.Proofs.Lexing.Cover
import BooleanTables.Proofs.Lexing.Offsets
import BooleanTables.Proofs.Parsing.Messages
import BooleanTables.Session.Evaluation

/-!
# Where a parse error points

A fault is found at a byte offset and reported by the number of characters before it. Every lexeme
and all stray text of a scan stands in the text at its offset, so the text from the reported
character on begins with what the message names. At an unexpected end nothing but white space is
left.
-/

namespace BooleanTables

open Text

theorem Text.charsBefore_append (before after : List Char) :
    charsBefore (before ++ after) (byteLength before) = before.length := by
  induction before with
  | nil => cases after <;> rfl
  | cons c before ih =>
    have hpos := c.utf8Size_pos
    rw [List.cons_append, charsBefore, byteLength_cons, if_neg (by omega), Nat.add_sub_cancel_left,
      ih, List.length_cons]

/-! ### What stands at the offsets of a scan -/

namespace Cursor

namespace StandsIn

variable {text : List Char} {cursor : Cursor}

theorem start (text : List Char) : (⟨0, text⟩ : Cursor).StandsIn text := ⟨[], rfl, rfl⟩

theorem charsBefore_le (h : cursor.StandsIn text) :
    charsBefore text cursor.offset ≤ text.length := by
  obtain ⟨before, htext, hoffset⟩ := h
  rw [htext, hoffset, charsBefore_append, List.length_append]
  omega

theorem drop_charsBefore (h : cursor.StandsIn text) :
    text.drop (charsBefore text cursor.offset) = cursor.rest := by
  obtain ⟨before, htext, hoffset⟩ := h
  rw [htext, hoffset, charsBefore_append, List.drop_left]

end StandsIn

variable {table : SymbolTable} {cursor : Cursor} {text : List Char}

namespace Takes

variable {next : Cursor} {blanks word : List Char} {lexeme : Lexeme}

theorem standsIn_word (h : cursor.Takes table blanks word lexeme next) (hs : cursor.StandsIn text) :
    (⟨lexeme.start, word ++ next.rest⟩ : Cursor).StandsIn text := by
  obtain ⟨before, htext, hoffset⟩ := hs
  refine ⟨before ++ blanks, ?_, ?_⟩
  · rw [htext, h.rest_eq, List.append_assoc]
  · rw [h.start_eq, hoffset, byteLength_append]

theorem standsIn_next (h : cursor.Takes table blanks word lexeme next) (hs : cursor.StandsIn text) :
    next.StandsIn text := by
  have hnext := (h.standsIn_word hs).behind word
  rwa [← h.stop_eq, ← h.next_eq] at hnext

end Takes

theorem standsIn_of_read_stray {stray : Stray} (h : cursor.read table = .stray stray)
    (hs : cursor.StandsIn text) :
    ∃ after, (⟨stray.start, stray.text.toList ++ after⟩ : Cursor).StandsIn text := by
  unfold read at h
  dsimp only at h
  split at h
  · cases h
  · split at h
    · cases h
    · next word symbol _ hcut =>
      obtain ⟨after, hrest, -⟩ := SymbolTable.cut_spec hcut
      split at h
      · cases h
      · cases h
        refine ⟨after, ?_⟩
        dsimp only
        rw [String.toList_ofList, ← hrest]
        exact hs.skipBlanks

theorem standsIn_of_mem_scan {lexeme : Lexeme} (hs : cursor.StandsIn text)
    (hl : lexeme ∈ (cursor.scan table).lexemes) :
    ∃ word after, (⟨lexeme.start, word ++ after⟩ : Cursor).StandsIn text ∧
      lexeme.token.StandsFor table word := by
  fun_induction Cursor.scan table cursor with
  | case1 cursor hread => cases hl
  | case2 cursor stray hread => cases hl
  | case3 cursor first next hread rest ih =>
    obtain ⟨blanks, word, htakes⟩ := takes_of_read hread
    rcases List.mem_cons.1 hl with rfl | hl
    · exact ⟨word, next.rest, htakes.standsIn_word hs, htakes.standsFor⟩
    · exact ih (htakes.standsIn_next hs) hl

theorem standsIn_of_scan_stray {stray : Stray} (hs : cursor.StandsIn text)
    (h : (cursor.scan table).stray = some stray) :
    ∃ after, (⟨stray.start, stray.text.toList ++ after⟩ : Cursor).StandsIn text := by
  fun_induction Cursor.scan table cursor with
  | case1 cursor hread => cases h
  | case2 cursor found hread =>
    cases h
    exact standsIn_of_read_stray hread hs
  | case3 cursor first next hread rest ih =>
    obtain ⟨blanks, word, htakes⟩ := takes_of_read hread
    exact ih (htakes.standsIn_next hs) h

end Cursor

def lastStop (offset : Nat) (lexemes : List Lexeme) : Nat :=
  (lexemes.getLast?.map Lexeme.stop).getD offset

theorem lastStop_cons (offset : Nat) (lexeme : Lexeme) (lexemes : List Lexeme) :
    lastStop offset (lexeme :: lexemes) = lastStop lexeme.stop lexemes := by
  rw [lastStop, lastStop, List.getLast?_cons, Option.map_some, Option.getD_some, Option.getD_map]

/-- The text is white space from the place on, and the character before the place is none. -/
structure EndsBefore (text before after : List Char) : Prop where
  text_eq : text = before ++ after
  blank : ∀ c ∈ after, isBlank c = true
  last : ∀ c ∈ before.getLast?, isBlank c = false

/-- Behind the last lexeme nothing is left but white space, and what stands before its end is its
last character. -/
theorem Tiles.endsBefore {offset : Nat} {text : List Char} {lexemes : List Lexeme}
    (h : Tiles offset text lexemes) :
    ∃ before after, EndsBefore text before after ∧
      lastStop offset lexemes = offset + byteLength before ∧
      (before = [] ↔ lexemes = []) := by
  induction h with
  | @done offset text hblank => exact ⟨[], text, ⟨rfl, hblank, by simp⟩, rfl, by simp⟩
  | @lexeme offset blanks word rest lexeme lexemes _ hne hunbroken hstart hstop _ _ ih =>
    obtain ⟨before, after, hends, hlast, -⟩ := ih
    refine ⟨blanks ++ (word ++ before), after, ⟨?_, hends.blank, ?_⟩, ?_, by simp [hne]⟩
    · rw [hends.text_eq]
      simp only [List.append_assoc]
    · intro c hc
      rw [List.getLast?_append_of_ne_nil _ (by simp [hne])] at hc
      by_cases hbefore : before = []
      · rw [hbefore, List.append_nil] at hc
        exact hunbroken c (List.mem_of_getLast? hc)
      · rw [List.getLast?_append_of_ne_nil _ hbefore] at hc
        exact hends.last c hc
    · rw [lastStop_cons, hlast, hstop, hstart]
      simp only [byteLength_append]
      omega

/-! ### Where a run fails -/

/-- A run fails at a lexeme that is out of place, at the stray text, or where the last lexeme
stops. -/
inductive ParseState.FailsAt (stop : Nat) (stray : Option Stray) (lexemes : List Lexeme) :
    ParseFault → Prop
  | token {lexeme : Lexeme} {expected : List Terminal} (mem : lexeme ∈ lexemes) :
    FailsAt stop stray lexemes ⟨lexeme.start, .unexpected lexeme.token expected⟩
  | stray {found : Stray} (stray_eq : stray = some found) :
    FailsAt stop stray lexemes ⟨found.start, .unknown found.text⟩
  | ending {expected : List Terminal} (stray_eq : stray = none) :
    FailsAt stop stray lexemes ⟨lastStop stop lexemes, .unexpected none expected⟩

theorem ParseState.failsAt_of_run {state : ParseState} {stop : Nat} {stray : Option Stray}
    {lexemes : List Lexeme} {fault : ParseFault} (h : state.run stop stray lexemes = .error fault) :
    FailsAt stop stray lexemes fault := by
  induction lexemes generalizing state stop with
  | nil =>
    unfold run at h
    split at h
    · cases h
      exact .stray rfl
    · split at h
      · cases h
      · cases h
        exact .ending rfl
  | cons lexeme lexemes ih =>
    rw [run] at h
    split at h
    · cases ih h with
      | token hmem => exact .token (List.mem_cons_of_mem lexeme hmem)
      | stray heq => exact .stray heq
      | ending heq =>
        rw [← lastStop_cons]
        exact .ending heq
    · cases h
      exact .token List.mem_cons_self

/-! ### Where a cause points -/

namespace ParseFault.Cause

/-- The text from a position on begins with what a cause names. At an unexpected end only white
space is left; before it stands the last character of a token, unless there is no token at all. -/
def PointsAt (table : SymbolTable) (input : String) (position : Nat) : Cause → Prop
  | .unknown text => text.toList <+: input.toList.drop position
  | .unexpected (some (.var name)) _ => name.toList <+: input.toList.drop position
  | .unexpected (some (.symbol key)) _ =>
    ∃ spelling ∈ table.spellings key, startsUpToCase spelling (input.toList.drop position) = true
  | .unexpected none _ =>
    (∀ c ∈ input.toList.drop position, isBlank c = true) ∧
      ((position = 0 ∧ table.scan input = ⟨[], none⟩) ∨
        ∃ c ∈ (input.toList.take position).getLast?, isBlank c = false)

theorem PointsAt.of_message_eq {table : SymbolTable} {input : String} {position : Nat}
    {cause other : Cause} (h : cause.PointsAt table input position)
    (hm : cause.message = other.message) :
    other.PointsAt table input position := by
  rcases message_cases hm with ⟨text, rfl, rfl⟩ | ⟨token, expected, more, rfl, rfl⟩
  · exact h
  · rcases token with _ | key | name
    all_goals exact h

end ParseFault.Cause

/-! ### Where a fault points -/

namespace ParseFault

variable {table : SymbolTable} {input : String}

theorem pointsAt_token {lexeme : Lexeme} (hl : lexeme ∈ (table.scan input).lexemes)
    (expected : List Terminal) :
    charsBefore input.toList lexeme.start ≤ input.length ∧
      (Cause.unexpected lexeme.token expected).PointsAt table input
        (charsBefore input.toList lexeme.start) := by
  obtain ⟨word, after, hstands, htoken⟩ := Cursor.standsIn_of_mem_scan (.start input.toList) hl
  refine ⟨hstands.charsBefore_le, ?_⟩
  have hdrop := hstands.drop_charsBefore
  dsimp only at hdrop
  cases hname : lexeme.token with
  | var name =>
    rw [hname] at htoken
    obtain ⟨rfl, -⟩ := htoken
    rw [Cause.PointsAt, hdrop, String.toList_ofList]
    exact List.prefix_append word after
  | symbol key =>
    rw [hname] at htoken
    obtain ⟨symbol, hmem, hkey, hfold⟩ := htoken
    rw [Cause.PointsAt, hdrop]
    refine ⟨symbol.spelling, ?_, ?_⟩
    · simp only [SymbolTable.spellings, List.mem_map, List.mem_filter]
      exact ⟨symbol, ⟨hmem, decide_eq_true hkey⟩, rfl⟩
    · rw [startsUpToCase_iff, foldCase, foldCase, List.map_append]
      rw [foldCase, foldCase] at hfold
      rw [← hfold]
      exact List.prefix_append _ _

theorem pointsAt_stray {stray : Stray} (h : (table.scan input).stray = some stray) :
    charsBefore input.toList stray.start ≤ input.length ∧
      (Cause.unknown stray.text).PointsAt table input (charsBefore input.toList stray.start) := by
  obtain ⟨after, hstands⟩ := Cursor.standsIn_of_scan_stray (.start input.toList) h
  refine ⟨hstands.charsBefore_le, ?_⟩
  have hdrop := hstands.drop_charsBefore
  rw [Cause.PointsAt, hdrop]
  exact List.prefix_append _ after

theorem pointsAt_ending (h : (table.scan input).stray = none) (expected : List Terminal) :
    charsBefore input.toList (lastStop 0 (table.scan input).lexemes) ≤ input.length ∧
      (Cause.unexpected none expected).PointsAt table input
        (charsBefore input.toList (lastStop 0 (table.scan input).lexemes)) := by
  obtain ⟨before, after, hends, hstop, hnil⟩ := (Cursor.tiles_scan h).endsBefore
  rw [Nat.zero_add] at hstop
  have htext : input.toList = before ++ after := hends.text_eq
  have hposition : charsBefore input.toList (lastStop 0 (table.scan input).lexemes) =
      before.length := by
    rw [htext]
    exact (congrArg _ hstop).trans (charsBefore_append before after)
  rw [hposition, Cause.PointsAt, htext, List.drop_left, List.take_left]
  refine ⟨?_, hends.blank, ?_⟩
  · have hlength := congrArg List.length htext
    rw [List.length_append, String.length_toList] at hlength
    omega
  · by_cases hbefore : before = []
    · have hlexemes : (table.scan input).lexemes = [] := hnil.1 hbefore
      refine .inl ⟨by rw [hbefore, List.length_nil], ?_⟩
      rw [← hlexemes, ← h]
    · refine .inr ⟨before.getLast hbefore, List.getLast?_eq_some_getLast hbefore, ?_⟩
      exact hends.last _ (List.getLast?_eq_some_getLast hbefore)

theorem pointsAt {fault : ParseFault} (h : Formula.parse table input = .error fault) :
    fault.position input ≤ input.length ∧
    fault.cause.PointsAt table input (fault.position input) := by
  cases ParseState.failsAt_of_run h with
  | token hl => exact pointsAt_token hl _
  | stray hstray => exact pointsAt_stray hstray
  | ending hstray => exact pointsAt_ending hstray _

end ParseFault

/-- A parse error is worded by a cause, and every cause that is worded so names the text from the
position on. -/
theorem SymbolTable.points_of_parse {table : SymbolTable} {input : String} {position : Nat}
    {message : String} (h : table.parse input = .error (.parse position message)) :
    position ≤ input.length ∧ (∃ cause : ParseFault.Cause, cause.message = message) ∧
      ∀ cause : ParseFault.Cause, cause.message = message →
        cause.PointsAt table input position := by
  rw [parse] at h
  cases hparse : Formula.parse table input with
  | ok formula =>
    rw [hparse] at h
    cases h
  | error fault =>
    rw [hparse] at h
    cases h
    obtain ⟨hle, hpoints⟩ := ParseFault.pointsAt hparse
    exact ⟨hle, ⟨fault.cause, rfl⟩, fun cause hcause => hpoints.of_message_eq hcause.symm⟩

theorem SymbolTable.points_of_parse_wide :
    Lexicon.standard.symbols.parse "é\u3000@é" = .error (.parse 2 "unknown token `@é`") ∧
      "@é".toList <+: "é\u3000@é".toList.drop 2 := by
  have h : Lexicon.standard.symbols.parse "é\u3000@é" = .error (.parse 2 "unknown token `@é`") := by
    decide +kernel
  have hpoints := (points_of_parse h).2.2 (.unknown "@é") (by decide +kernel)
  exact ⟨h, hpoints⟩

end BooleanTables
