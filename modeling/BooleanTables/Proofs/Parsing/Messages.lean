import BooleanTables.Formula.Parser
import Mathlib.Data.List.Basic

/-!
# What the message of a fault names

A message quotes the stray text or the name of a variable, or it has the name of a slot or of the
end of the text. Behind these nothing stands but a hint, which has no quotation. So a message tells
what it names, whatever characters that is made of.
-/

namespace BooleanTables

theorem not_mem_intercalate {c : Char} {separator : List Char} {pieces : List (List Char)}
    (hs : c ∉ separator) (h : ∀ piece ∈ pieces, c ∉ piece) : c ∉ separator.intercalate pieces := by
  induction pieces with
  | nil => simp
  | cons piece pieces ih =>
    have hpiece := h piece List.mem_cons_self
    have hrest := ih fun other hother => h other (List.mem_cons_of_mem piece hother)
    by_cases hnil : pieces = []
    · simpa [hnil] using hpiece
    · rw [List.intercalate_cons_of_ne_nil hnil]
      simp [hpiece, hs, hrest]

theorem eq_of_append_cons_eq {c : Char} {front word behind rest : List Char} (hb : c ∉ behind)
    (hr : c ∉ rest) (h : front ++ c :: behind = word ++ c :: rest) : front = word := by
  have hnil {more behind rest : List Char} (hb : c ∉ behind) (h : c :: behind = more ++ c :: rest) :
      more = [] := by
    cases more with
    | nil => rfl
    | cons d more =>
      obtain ⟨-, rfl⟩ := List.cons.inj h
      simp at hb
  rcases List.append_eq_append_iff.1 h with ⟨more, rfl, hmore⟩ | ⟨more, rfl, hmore⟩
  · rw [hnil hb hmore, List.append_nil]
  · rw [hnil hr hmore, List.append_nil]

namespace ParseFault.Cause

/-- What a message says behind the token that it names: nothing, or a list that begins with a
comma. -/
structure IsHint (hint : List Char) : Prop where
  head : ∀ c ∈ hint.head?, c = ','
  unquoted : '\x60' ∉ hint

def heading (token : Option Token) : String := token.elim "end of input" Token.text

theorem message_unknown (text : String) :
    (unknown text).message = "unknown token `" ++ text ++ "`" := rfl

theorem message_unexpected (token : Option Token) (expected : List Terminal) :
    (unexpected token expected).message = "unexpected " ++ heading token ++
      if expected = [] then ""
      else ", expected one of " ++ ", ".intercalate
        (expected.map fun t => "\"" ++ t.name ++ "\"") := rfl

theorem exists_hint (token : Option Token) (expected : List Terminal) :
    ∃ hint, IsHint hint ∧
      (unexpected token expected).message.toList =
        "unexpected ".toList ++ ((heading token).toList ++ hint) := by
  have hname (terminal : Terminal) : '\x60' ∉ terminal.name.toList := by
    cases terminal with
    | var => decide
    | symbol key => cases key <;> decide
  rw [message_unexpected]
  by_cases hnil : expected = []
  · refine ⟨[], ⟨by simp, by simp⟩, ?_⟩
    rw [if_pos hnil, String.append_empty, String.toList_append, List.append_nil]
  · refine ⟨", expected one of ".toList ++
      ", ".toList.intercalate ((expected.map fun t => "\"" ++ t.name ++ "\"").map String.toList),
      ⟨?_, ?_⟩, ?_⟩
    · intro c hc
      exact (Option.some.inj hc).symm
    · have hlist := @not_mem_intercalate '\x60' ", ".toList
        ((expected.map fun t => "\"" ++ t.name ++ "\"").map String.toList) (by decide)
        (by simp [hname])
      rw [List.mem_append, not_or]
      exact ⟨by decide, hlist⟩
    · rw [if_neg hnil]
      simp only [String.toList_append, String.toList_intercalate, List.append_assoc]

theorem toList_heading_var (name : String) (behind : List Char) :
    (heading (some (.var name))).toList ++ behind =
      "variable `".toList ++ (name.toList ++ '\x60' :: behind) := by
  simp [heading, Token.text]

/-! The name of a slot, and that of the end, is a word without a comma that tells what is named. -/

theorem ofId?_heading (key : Option Key) : Key.ofId? (heading (key.map .symbol)) = key := by
  cases key with
  | none => decide
  | some key => exact Key.ofId?_id key

theorem comma_not_mem_heading (key : Option Key) : ',' ∉ (heading (key.map .symbol)).toList := by
  rcases key with _ | key
  · decide
  · cases key <;> decide

theorem takeWhile_heading (key : Option Key) {hint : List Char} (h : IsHint hint) :
    ((heading (key.map .symbol)).toList ++ hint).takeWhile (fun c => !(c == ',')) =
      (heading (key.map .symbol)).toList := by
  have hcomma : ∀ c ∈ (heading (key.map .symbol)).toList, (!(c == ',')) = true := by
    intro c hc
    simpa using ne_of_mem_of_not_mem hc (comma_not_mem_heading key)
  rw [List.takeWhile_append_of_pos hcomma]
  cases hint with
  | nil => simp
  | cons c hint => simp [h.head c rfl]

theorem heading_var_ne (name : String) (key : Option Key) (hint rest : List Char) :
    (heading (some (.var name))).toList ++ hint ≠ (heading (key.map .symbol)).toList ++ rest := by
  intro h
  have hhead := congrArg List.head? h
  rw [toList_heading_var] at hhead
  rcases key with _ | key
  · simp [heading] at hhead
  · cases key <;> simp [heading, Token.text, Key.id] at hhead

theorem var_or_symbol (token : Option Token) :
    (∃ name, token = some (.var name)) ∨ ∃ key : Option Key, token = key.map .symbol := by
  rcases token with _ | key | name
  · exact .inr ⟨none, rfl⟩
  · exact .inr ⟨some key, rfl⟩
  · exact .inl ⟨name, rfl⟩

theorem token_eq_of_heading {token other : Option Token} {hint rest : List Char} (hh : IsHint hint)
    (hr : IsHint rest) (h : (heading token).toList ++ hint = (heading other).toList ++ rest) :
    token = other := by
  rcases var_or_symbol token with ⟨name, rfl⟩ | ⟨key, rfl⟩
  · rcases var_or_symbol other with ⟨word, rfl⟩ | ⟨key, rfl⟩
    · rw [toList_heading_var, toList_heading_var] at h
      have hname := eq_of_append_cons_eq hh.unquoted hr.unquoted (List.append_cancel_left h)
      rw [String.toList_inj.1 hname]
    · exact absurd h (heading_var_ne name key hint rest)
  · rcases var_or_symbol other with ⟨name, rfl⟩ | ⟨next, rfl⟩
    · exact absurd h.symm (heading_var_ne name key rest hint)
    · have hheading := congrArg (List.takeWhile fun c => !(c == ',')) h
      rw [takeWhile_heading key hh, takeWhile_heading next hr] at hheading
      have hkey := congrArg Key.ofId? (String.toList_inj.1 hheading)
      rw [ofId?_heading, ofId?_heading] at hkey
      rw [hkey]

/-- Two causes with one message name the same text or the same token, and differ at most in their
hints. -/
theorem message_cases {cause other : Cause} (h : cause.message = other.message) :
    (∃ text, cause = .unknown text ∧ other = .unknown text) ∨
      ∃ token expected more, cause = .unexpected token expected ∧
        other = .unexpected token more := by
  have htext := congrArg String.toList h
  cases cause with
  | unknown text =>
    cases other with
    | unknown word =>
      have hword : text.toList = word.toList := by simpa [message_unknown] using htext
      exact .inl ⟨text, rfl, by rw [String.toList_inj.1 hword]⟩
    | unexpected token expected =>
      obtain ⟨hint, -, hmessage⟩ := exists_hint token expected
      rw [hmessage] at htext
      simp [message_unknown] at htext
  | unexpected token expected =>
    obtain ⟨hint, hhint, hmessage⟩ := exists_hint token expected
    rw [hmessage] at htext
    cases other with
    | unknown word => simp [message_unknown] at htext
    | unexpected next more =>
      obtain ⟨rest, hrest, hmore⟩ := exists_hint next more
      rw [hmore] at htext
      cases token_eq_of_heading hhint hrest (List.append_cancel_left htext)
      exact .inr ⟨token, expected, more, rfl, rfl⟩

end ParseFault.Cause

end BooleanTables
