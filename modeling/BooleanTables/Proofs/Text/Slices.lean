import BooleanTables.Proofs.Text.Folding

/-!
# Slices by byte offsets

A slice of a text ends where a character begins, or at the end of the text. At any other offset
there is nothing to take.
-/

namespace BooleanTables.Text

/-- The text before a byte offset and the text from it on, unless the offset is inside a character
or past the end. -/
def cutAt? (text : List Char) (offset : Nat) : Option (List Char × List Char) :=
  if offset = 0 then some ([], text)
  else match text with
    | [] => none
    | c :: rest =>
      if offset < c.utf8Size then none
      else (cutAt? rest (offset - c.utf8Size)).map fun (before, after) => (c :: before, after)

def sliceTo? (text : List Char) (offset : Nat) : Option (List Char) :=
  (cutAt? text offset).map Prod.fst

def sliceFrom? (text : List Char) (offset : Nat) : Option (List Char) :=
  (cutAt? text offset).map Prod.snd

theorem cutAt?_zero (text : List Char) : cutAt? text 0 = some ([], text) := by
  rw [cutAt?.eq_def, if_pos rfl]

theorem cutAt?_append (before after : List Char) :
    cutAt? (before ++ after) (byteLength before) = some (before, after) := by
  induction before with
  | nil => exact cutAt?_zero after
  | cons c before ih =>
    have hpos := byteLength_pos (List.cons_ne_nil c before)
    rw [List.cons_append, cutAt?, if_neg (Nat.ne_of_gt hpos)]
    simp [ih]

theorem cutAt?_eq_some_iff {text before after : List Char} {offset : Nat} :
    cutAt? text offset = some (before, after) ↔ text = before ++ after ∧
    offset = byteLength before := by
  constructor
  · intro h
    induction text generalizing offset before with
    | nil =>
      rw [cutAt?] at h
      split at h
      · next hz => cases h; exact ⟨rfl, hz⟩
      · cases h
    | cons c rest ih =>
      rw [cutAt?] at h
      split at h
      · next hz => cases h; exact ⟨rfl, hz⟩
      · split at h
        · cases h
        · next hsize =>
          obtain ⟨⟨inner, outer⟩, hcut, hpair⟩ := Option.map_eq_some_iff.1 h
          cases hpair
          obtain ⟨rfl, hoffset⟩ := ih hcut
          refine ⟨rfl, ?_⟩
          rw [byteLength_cons]
          omega
  · rintro ⟨rfl, rfl⟩
    exact cutAt?_append before after

@[simp] theorem sliceTo?_append (before after : List Char) :
    sliceTo? (before ++ after) (byteLength before) = some before := by
  rw [sliceTo?, cutAt?_append, Option.map_some]

@[simp] theorem sliceFrom?_append (before after : List Char) :
    sliceFrom? (before ++ after) (byteLength before) = some after := by
  rw [sliceFrom?, cutAt?_append, Option.map_some]

theorem sliceTo?_eq_some_iff {text before : List Char} {offset : Nat} :
    sliceTo? text offset = some before ↔ before <+: text ∧ offset = byteLength before := by
  rw [sliceTo?, Option.map_eq_some_iff]
  constructor
  · rintro ⟨⟨_, after⟩, hcut, rfl⟩
    obtain ⟨rfl, hoffset⟩ := cutAt?_eq_some_iff.1 hcut
    exact ⟨List.prefix_append _ _, hoffset⟩
  · rintro ⟨⟨after, rfl⟩, rfl⟩
    exact ⟨(before, after), cutAt?_append before after, rfl⟩

theorem utf8ByteSize_ofList (text : List Char) :
    (String.ofList text).utf8ByteSize = byteLength text := by
  induction text with
  | nil => rfl
  | cons c text ih =>
    rw [String.ofList_cons, String.utf8ByteSize_append, String.utf8ByteSize_singleton, ih,
      byteLength_cons]

theorem isSome_cutAt?_iff {input : String} {offset : Nat} :
    (cutAt? input.toList offset).isSome = true ↔ String.Pos.Raw.IsValid input ⟨offset⟩ := by
  rw [Option.isSome_iff_exists, String.Pos.Raw.isValid_iff_exists_take_toList]
  constructor
  · rintro ⟨⟨before, after⟩, hcut⟩
    obtain ⟨htext, hoffset⟩ := cutAt?_eq_some_iff.1 hcut
    refine ⟨before.length, ?_⟩
    rw [htext, List.take_left, utf8ByteSize_ofList]
    exact hoffset
  · rintro ⟨count, hcount⟩
    rw [utf8ByteSize_ofList] at hcount
    exact ⟨(input.toList.take count, input.toList.drop count),
      cutAt?_eq_some_iff.2 ⟨(List.take_append_drop _ _).symm, hcount⟩⟩

end BooleanTables.Text
