import BooleanTables.CommandLine.Run
import BooleanTables.Proofs.Lexing.Blanks
import BooleanTables.Proofs.Session.Runs
import BooleanTables.Proofs.Text.Trimming

/-!
# Overrides of the command line

An override is cut at its first equals sign, and only what is before it is trimmed. As no slot has
an equals sign or white space at its ends in its name, every value can be given to every slot, and
what is given comes to the lexicon as a change of the value does.
-/

namespace BooleanTables

open Text

/-! ### The first equals sign -/

theorem splitAtEquals_append {before : List Char} (h : '=' ∉ before) (after : List Char) :
    splitAtEquals (before ++ '=' :: after) = some (before, after) := by
  induction before with
  | nil => simp [splitAtEquals]
  | cons c before ih =>
    rw [List.mem_cons, not_or] at h
    rw [List.cons_append, splitAtEquals, if_neg (Ne.symm h.1), ih h.2]
    rfl

theorem splitAtEquals_eq_none_iff {text : List Char} : splitAtEquals text = none ↔ '=' ∉ text := by
  induction text with
  | nil => simp [splitAtEquals]
  | cons c text ih =>
    rw [splitAtEquals]
    by_cases hc : c = '='
    · simp [hc]
    · simp [hc, ih, Ne.symm hc]

theorem splitAtEquals_eq_some_iff {text before after : List Char} :
    splitAtEquals text = some (before, after) ↔ text = before ++ '=' :: after ∧ '=' ∉ before := by
  constructor
  · intro h
    induction text generalizing before with
    | nil => cases h
    | cons c text ih =>
      rw [splitAtEquals] at h
      split at h
      · next hc =>
        cases h
        exact ⟨congrArg (· :: after) hc, List.not_mem_nil⟩
      · next hc =>
        obtain ⟨⟨first, rest⟩, hsplit, hpair⟩ := Option.map_eq_some_iff.1 h
        cases hpair
        obtain ⟨htext, hnot⟩ := ih hsplit
        exact ⟨congrArg (c :: ·) htext, by simp [Ne.symm hc, hnot]⟩
  · rintro ⟨rfl, h⟩
    exact splitAtEquals_append h after

/-! ### What an override comes to -/

namespace OverrideFault

theorem message_noEqualsSign (text : String) :
    (noEqualsSign text).message = "expected KEY=VALUE, got `" ++ text ++ "`" := rfl

theorem message_unknownKey (id : String) :
    (unknownKey id).message = "unknown option key `" ++ id ++ "`" := rfl

theorem message_noEqualsSign_ne (text id : String) :
    (noEqualsSign text).message ≠ (unknownKey id).message := by
  intro h
  have hhead := congrArg (fun message : String => message.toList.head?) h
  simp only [message_noEqualsSign, message_unknownKey, String.toList_append, List.append_assoc,
    List.head?_append] at hhead
  change some 'e' = some 'u' at hhead
  cases hhead

theorem message_injective {fault other : OverrideFault} (h : fault.message = other.message) :
    fault = other := by
  cases fault with
  | noEqualsSign text =>
    cases other with
    | noEqualsSign more =>
      have htext : text = more := by simpa [message_noEqualsSign] using h
      rw [htext]
    | unknownKey id => exact absurd h (message_noEqualsSign_ne text id)
  | unknownKey id =>
    cases other with
    | noEqualsSign text => exact absurd h.symm (message_noEqualsSign_ne text id)
    | unknownKey more =>
      have hid : id = more := by simpa [message_unknownKey] using h
      rw [hid]

end OverrideFault

theorem Key.isTrimmed_id (key : Key) : IsTrimmed key.id.toList :=
  isTrimmed_of_unbroken (by cases key <;> decide)

theorem Key.equalsSign_not_mem_id (key : Key) : '=' ∉ key.id.toList := by
  cases key <;> decide

theorem Key.ofId?_eq_none_iff {id : String} : ofId? id = none ↔ ∀ key : Key, key.id ≠ id := by
  simp [ofId?]

theorem equalsSign_not_mem_blanks {blanks : List Char} (h : ∀ c ∈ blanks, isBlank c = true) :
    '=' ∉ blanks :=
  not_mem_blanks (by decide) h

section Outcomes

variable {text : String}

/-- How a text ends up: it is cut at no place, or at one where it has the name of no slot or of one
before it. -/
inductive OverrideEnd (text : String) : Except OverrideFault (Key × String) → Prop
  | noEqualsSign (uncut : splitAtEquals text.toList = none) :
    OverrideEnd text (.error (.noEqualsSign text))
  | unknownKey {name value : List Char} {id : String}
    (cut : splitAtEquals text.toList = some (name, value)) (trim_eq : trim name = id.toList)
    (unknown : ∀ key : Key, key.id ≠ id) :
    OverrideEnd text (.error (.unknownKey id))
  | accepted {name : List Char} {key : Key} {value : String}
    (cut : splitAtEquals text.toList = some (name, value.toList))
    (trim_eq : trim name = key.id.toList) :
    OverrideEnd text (.ok (key, value))

theorem overrideEnd_parseOverride (text : String) : OverrideEnd text (parseOverride text) := by
  rw [parseOverride]
  cases hsplit : splitAtEquals text.toList with
  | none => exact .noEqualsSign hsplit
  | some pair =>
    obtain ⟨name, value⟩ := pair
    dsimp only
    cases hkey : Key.ofId? (String.ofList (trim name)) with
    | none => exact .unknownKey hsplit String.toList_ofList.symm (Key.ofId?_eq_none_iff.1 hkey)
    | some key =>
      have htrim : trim name = key.id.toList := by rw [Key.id_of_ofId? hkey, String.toList_ofList]
      rw [← String.toList_ofList (l := value)] at hsplit
      exact .accepted hsplit htrim

theorem parseOverride_eq_iff {result : Except OverrideFault (Key × String)} :
    parseOverride text = result ↔ OverrideEnd text result := by
  refine ⟨fun h => h ▸ overrideEnd_parseOverride text, fun h => ?_⟩
  rw [parseOverride]
  cases h with
  | noEqualsSign huncut => rw [huncut]
  | unknownKey hcut htrim hunknown =>
    rw [hcut]
    dsimp only
    rw [htrim, String.ofList_toList, Key.ofId?_eq_none_iff.2 hunknown]
  | accepted hcut htrim =>
    rw [hcut]
    dsimp only
    rw [htrim, String.ofList_toList, Key.ofId?_id, String.ofList_toList]

theorem parseOverride_eq_noEqualsSign_iff :
    parseOverride text = .error (.noEqualsSign text) ↔ '=' ∉ text.toList := by
  rw [← splitAtEquals_eq_none_iff]
  constructor
  · intro h
    cases parseOverride_eq_iff.1 h with
    | noEqualsSign huncut => exact huncut
  · exact fun huncut => parseOverride_eq_iff.2 (.noEqualsSign huncut)

theorem mapError_parseOverride_eq_iff {fault : OverrideFault} :
    (parseOverride text).mapError OverrideFault.message = .error fault.message ↔
      parseOverride text = .error fault := by
  cases parseOverride text with
  | error blame =>
    rw [Except.mapError, Except.error.injEq, Except.error.injEq]
    exact ⟨OverrideFault.message_injective, congrArg OverrideFault.message⟩
  | ok override => simp [Except.mapError]

/-- A text is cut behind a name if it is the name, with white space around it, and an equals sign
before the rest. -/
theorem cut_iff {id value : String} (hid : IsTrimmed id.toList) (hsign : '=' ∉ id.toList) :
    (∃ name, splitAtEquals text.toList = some (name, value.toList) ∧ trim name = id.toList) ↔
      ∃ before behind, IsBlankText before ∧ IsBlankText behind ∧
        text = before ++ id ++ behind ++ "=" ++ value := by
  constructor
  · rintro ⟨name, hcut, htrim⟩
    obtain ⟨htext, -⟩ := splitAtEquals_eq_some_iff.1 hcut
    obtain ⟨-, before, behind, hb, ha, rfl⟩ := trim_eq_iff.1 htrim
    refine ⟨String.ofList before, String.ofList behind, ?_, ?_, String.toList_inj.1 ?_⟩
    · simpa [IsBlankText] using hb
    · simpa [IsBlankText] using ha
    · simp [htext]
  · rintro ⟨before, behind, hb, ha, rfl⟩
    have hname : '=' ∉ before.toList ++ id.toList ++ behind.toList := by
      simp [equalsSign_not_mem_blanks hb, hsign, equalsSign_not_mem_blanks ha]
    refine ⟨before.toList ++ id.toList ++ behind.toList, ?_, hid.trim_append hb ha⟩
    have hcut := splitAtEquals_append hname value.toList
    simpa using hcut

theorem parseOverride_eq_ok_iff {key : Key} {value : String} :
    parseOverride text = .ok (key, value) ↔
    ∃ before behind, IsBlankText before ∧ IsBlankText behind ∧
      text = before ++ key.id ++ behind ++ "=" ++ value := by
  rw [← cut_iff key.isTrimmed_id key.equalsSign_not_mem_id]
  constructor
  · intro h
    cases parseOverride_eq_iff.1 h with
    | accepted hcut htrim => exact ⟨_, hcut, htrim⟩
  · rintro ⟨name, hcut, htrim⟩
    exact parseOverride_eq_iff.2 (.accepted hcut htrim)

theorem parseOverride_eq_unknownKey_iff {id : String} :
    parseOverride text = .error (.unknownKey id) ↔
      (∀ key : Key, key.id ≠ id) ∧ IsTrimmed id.toList ∧ '=' ∉ id.toList ∧ ∃ value before behind,
        IsBlankText before ∧ IsBlankText behind ∧
        text = before ++ id ++ behind ++ "=" ++ value := by
  constructor
  · intro h
    cases parseOverride_eq_iff.1 h with
    | @unknownKey name value _ hcut htrim hunknown =>
      have hid : IsTrimmed id.toList := htrim ▸ isTrimmed_trim name
      have hsign : '=' ∉ id.toList := by
        rw [← htrim]
        exact mt mem_of_mem_trim (splitAtEquals_eq_some_iff.1 hcut).2
      rw [← String.toList_ofList (l := value)] at hcut
      exact ⟨hunknown, hid, hsign, _, (cut_iff hid hsign).1 ⟨name, hcut, htrim⟩⟩
  · rintro ⟨hunknown, hid, hsign, value, htext⟩
    obtain ⟨name, hcut, htrim⟩ := (cut_iff hid hsign).2 htext
    exact parseOverride_eq_iff.2 (.unknownKey hcut htrim hunknown)

end Outcomes

/-! ### Overriding values -/

theorem Arguments.override_eq {session : Session String} (hb : session.backing = none)
    (overrides : List (Key × String)) (lexicon : Lexicon) (printed : String) :
    override session overrides lexicon printed = (.ok (), lexicon.setAll overrides, printed) := by
  induction overrides generalizing lexicon with
  | nil => rfl
  | cons pair rest ih =>
    obtain ⟨key, value⟩ := pair
    rw [override, Session.changeValue_of_no_backing (Key.ofId?_id key) hb]
    exact ih (lexicon.set key value)

/-- A text is an override if it is the name of a slot, with white space around it, and a value
behind an equals sign. The value may be any text. Else there is no equals sign, or what is left of
the text before the first one, without the white space around it, is the name of no slot, and the
message says which. An override in the form of its plain name and its value changes the lexicon as a
change of the value does. -/
theorem parseOverride_exact :
    (∀ text : String,
      (∀ key value, parseOverride text = .ok (key, value) ↔ ∃ before behind, IsBlankText before ∧
        IsBlankText behind ∧ text = before ++ key.id ++ behind ++ "=" ++ value) ∧
      ((parseOverride text).mapError OverrideFault.message =
        .error ("expected KEY=VALUE, got `" ++ text ++ "`") ↔
        '=' ∉ text.toList) ∧
      (∀ id, (parseOverride text).mapError OverrideFault.message =
        .error ("unknown option key `" ++ id ++ "`") ↔
        (∀ key : Key, key.id ≠ id) ∧ IsTrimmed id.toList ∧ '=' ∉ id.toList ∧ ∃ value before behind,
          IsBlankText before ∧ IsBlankText behind ∧ text = before ++ id ++ behind ++ "=" ++ value) ∧
      ((∃ key value, parseOverride text = .ok (key, value)) ∨ '=' ∉ text.toList ∨
        ∃ id, parseOverride text = .error (.unknownKey id))) ∧
    ∀ (key : Key) (value : String), ∃ override,
      parseOverride (key.id ++ "=" ++ value) = .ok override ∧
      ∀ (arguments : Arguments) (reserves : Nat → Bool) (lexicon : Lexicon) (printed : String),
        Arguments.override (arguments.session reserves) [override] lexicon printed =
          (.ok (), lexicon.set key value, printed) := by
  refine ⟨fun text => ⟨fun key value => parseOverride_eq_ok_iff, ?_, fun id => ?_, ?_⟩,
    fun key value => ?_⟩
  · rw [← OverrideFault.message_noEqualsSign, mapError_parseOverride_eq_iff]
    exact parseOverride_eq_noEqualsSign_iff
  · rw [← OverrideFault.message_unknownKey, mapError_parseOverride_eq_iff]
    exact parseOverride_eq_unknownKey_iff
  · have hend := overrideEnd_parseOverride text
    generalize parseOverride text = result at hend ⊢
    cases hend with
    | noEqualsSign huncut => exact .inr (.inl (splitAtEquals_eq_none_iff.1 huncut))
    | unknownKey => exact .inr (.inr ⟨_, rfl⟩)
    | accepted => exact .inl ⟨_, _, rfl⟩
  · have hplain : parseOverride (key.id ++ "=" ++ value) = .ok (key, value) :=
      parseOverride_eq_ok_iff.2 ⟨"", "", by simp [IsBlankText], by simp [IsBlankText], by simp⟩
    exact ⟨(key, value), hplain, fun arguments reserves => Arguments.override_eq rfl [(key, value)]⟩

example : parseOverride " equality\t=≡, ==, =" = .ok (.equality, "≡, ==, =") := by decide +kernel

end BooleanTables
