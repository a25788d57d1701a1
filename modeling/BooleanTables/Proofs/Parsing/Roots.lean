import BooleanTables.Proofs.Parsing.Grammar

/-!
# The root of a formula

The layers of the grammar come to one rule about the connectives that stand outside all parentheses.
The loosest kind of them decides, and of that kind the leftmost one is the root of the formula, with
what stands on its left and on its right as its operands. Without such a connective the tokens are a
negation, an atom or a pair of parentheses. The rule says exactly what is parsed.
-/

namespace BooleanTables

/-- How many more parentheses the tokens open than they close. -/
def parenDepth (tokens : List Token) : Int :=
  tokens.count (.symbol .leftParen) - tokens.count (.symbol .rightParen)

@[simp] theorem parenDepth_nil : parenDepth [] = 0 := rfl

@[simp] theorem parenDepth_append (a b : List Token) :
    parenDepth (a ++ b) = parenDepth a + parenDepth b := by
  unfold parenDepth
  simp only [List.count_append]
  omega

theorem parenDepth_cons (token : Token) (tokens : List Token) :
    parenDepth (token :: tokens) = parenDepth [token] + parenDepth tokens :=
  parenDepth_append [token] tokens

@[simp] theorem parenDepth_leftParen : parenDepth [.symbol .leftParen] = 1 := rfl

@[simp] theorem parenDepth_rightParen : parenDepth [.symbol .rightParen] = -1 := rfl

@[simp] theorem parenDepth_connective (op : Connective) : parenDepth [.symbol op.key] = 0 := by
  cases op <;> rfl

/-- Every parenthesis that is closed has been opened before, and every one that is opened is
closed. -/
structure Balanced (tokens : List Token) : Prop where
  nonneg : ∀ front, front <+: tokens → 0 ≤ parenDepth front
  depth_eq : parenDepth tokens = 0

namespace Balanced

variable {tokens before after : List Token}

theorem singleton {token : Token} (h : parenDepth [token] = 0) : Balanced [token] where
  nonneg := by
    intro front hfront
    rcases List.prefix_cons_iff.1 hfront with rfl | ⟨rest, rfl, hrest⟩
    · exact Int.le_refl 0
    · rw [List.prefix_nil.1 hrest, h]
  depth_eq := h

theorem append (hb : Balanced before) (ha : Balanced after) : Balanced (before ++ after) where
  nonneg := by
    intro front hfront
    rcases List.prefix_or_prefix_of_prefix hfront (List.prefix_append before after)
      with hin | ⟨rest, rfl⟩
    · exact hb.nonneg front hin
    · have hrest := ha.nonneg rest ((List.prefix_append_right_inj before).1 hfront)
      rw [parenDepth_append, hb.depth_eq]
      omega
  depth_eq := by rw [parenDepth_append, hb.depth_eq, ha.depth_eq]; rfl

theorem parens (h : Balanced tokens) :
    Balanced (.symbol .leftParen :: (tokens ++ [.symbol .rightParen])) where
  nonneg := by
    intro front hfront
    rcases List.prefix_cons_iff.1 hfront with rfl | ⟨rest, rfl, hrest⟩
    · exact Int.le_refl 0
    · rw [parenDepth_cons, parenDepth_leftParen]
      rcases List.prefix_concat_iff.1 hrest with rfl | hin
      · rw [parenDepth_append, h.depth_eq, parenDepth_rightParen]
        omega
      · have hdepth := h.nonneg rest hin
        omega
  depth_eq := by
    rw [parenDepth_cons, parenDepth_append, h.depth_eq, parenDepth_leftParen, parenDepth_rightParen]
    rfl

end Balanced

/-! ### Connectives outside all parentheses -/

theorem Connective.rank_lt_tighter (op : Connective) : op.rank < op.tighter.rank := by
  rw [op.rank_tighter]
  exact Nat.lt_succ_self _

/-- The connective stands between the tokens before and after it, outside all parentheses. -/
structure Outside (tokens before : List Token) (op : Connective) (after : List Token) : Prop where
  eq : tokens = before ++ .symbol op.key :: after
  depth_eq : parenDepth before = 0

def Enclosed (tokens : List Token) : Prop := ∀ front op back, ¬ Outside tokens front op back

namespace Outside

variable {tokens before after front back : List Token} {op other : Connective}

/-- What stands outside in joined tokens is the connective between them, or stands outside on one of
its sides. -/
theorem cases_binary (hb : parenDepth before = 0)
    (h : Outside (before ++ .symbol op.key :: after) front other back) :
    (front = before ∧ other = op) ∨ (∃ rest, before = front ++ .symbol other.key :: rest) ∨
      ∃ rest, front = before ++ .symbol op.key :: rest ∧ Outside after rest other back := by
  rcases List.append_eq_append_iff.1 h.eq with ⟨rest, hfront, hback⟩ | ⟨rest, hbefore, hback⟩
  · cases rest with
    | nil =>
      obtain ⟨hkey, -⟩ := List.cons.inj hback
      refine .inl ⟨by simpa using hfront, ?_⟩
      exact (Connective.key_injective (Token.symbol.inj hkey)).symm
    | cons token rest =>
      obtain ⟨rfl, hafter⟩ := List.cons.inj hback
      have hdepth := h.depth_eq
      rw [hfront, parenDepth_append, parenDepth_cons, hb, parenDepth_connective] at hdepth
      exact .inr (.inr ⟨rest, hfront, hafter, by omega⟩)
  · cases rest with
    | nil =>
      obtain ⟨hkey, -⟩ := List.cons.inj hback
      refine .inl ⟨by simpa using hbefore.symm, ?_⟩
      exact Connective.key_injective (Token.symbol.inj hkey)
    | cons token rest =>
      obtain ⟨rfl, -⟩ := List.cons.inj hback
      exact .inr (.inl ⟨rest, hbefore⟩)

theorem append (h : Outside before front other back) :
    Outside (before ++ after) front other (back ++ after) where
  eq := by rw [h.eq, List.append_assoc, List.cons_append]
  depth_eq := h.depth_eq

theorem behind (hb : parenDepth before = 0) (h : Outside after front other back) :
    Outside (before ++ after) (before ++ front) other back where
  eq := by rw [h.eq, List.append_assoc]
  depth_eq := by rw [parenDepth_append, hb, h.depth_eq]; rfl

theorem of_negation (h : Outside (.symbol .not :: tokens) front op back) :
    ∃ rest, Outside tokens rest op back := by
  cases front with
  | nil =>
    obtain ⟨hkey, -⟩ := List.cons.inj h.eq
    cases op <;> cases hkey
  | cons token rest =>
    obtain ⟨rfl, htail⟩ := List.cons.inj h.eq
    have hdepth := h.depth_eq
    rw [parenDepth_cons, show parenDepth [.symbol .not] = 0 from rfl] at hdepth
    exact ⟨rest, htail, by omega⟩

end Outside

namespace Enclosed

theorem atom {token : Token} {formula : Formula} (h : token.atom? = some formula) :
    Enclosed [token] := by
  intro front op back ho
  obtain ⟨-, hrest⟩ | ⟨-, hrest⟩ := List.append_eq_singleton_iff.1 ho.eq.symm
  · obtain ⟨rfl, -⟩ := List.cons.inj hrest
    cases op <;> cases h
  · cases hrest

theorem parens {tokens : List Token} (h : Balanced tokens) :
    Enclosed (.symbol .leftParen :: (tokens ++ [.symbol .rightParen])) := by
  intro front op back ho
  cases front with
  | nil =>
    obtain ⟨hkey, -⟩ := List.cons.inj ho.eq
    cases op <;> cases hkey
  | cons token rest =>
    -- the first parenthesis is still open before the connective
    obtain ⟨rfl, htail⟩ := List.cons.inj ho.eq
    have hdepth := ho.depth_eq
    rw [parenDepth_cons, parenDepth_leftParen] at hdepth
    rcases List.prefix_concat_iff.1 ⟨_, htail.symm⟩ with rfl | hrest
    · simp at htail
    · have hnonneg := h.nonneg rest hrest
      omega

end Enclosed

namespace Derives

variable {layer : Layer} {tokens : List Token} {formula : Formula}

theorem balanced (h : Derives layer tokens formula) : Balanced tokens := by
  induction h with
  | @binary op before after left right _ _ ihl ihr =>
    have hconnective := Balanced.singleton (parenDepth_connective op)
    exact ihl.append (hconnective.append ihr)
  | operand _ ih => exact ih
  | @not tokens formula _ ih =>
    have hnot : Balanced [.symbol .not] := Balanced.singleton rfl
    exact hnot.append ih
  | term _ ih => exact ih
  | litTrue => exact Balanced.singleton rfl
  | litFalse => exact Balanced.singleton rfl
  | var name => exact Balanced.singleton rfl
  | parens _ ih => exact ih.parens

theorem rank_le_of_outside {front back : List Token} {other : Connective}
    (h : Derives layer tokens formula) (ho : Outside tokens front other back) :
    layer.rank ≤ other.rank := by
  induction h generalizing front back with
  | @binary op before after left right hl hr ihl ihr =>
    rcases ho.cases_binary hl.balanced.depth_eq with ⟨-, rfl⟩ | ⟨rest, hbefore⟩ | ⟨rest, -, hafter⟩
    · exact Nat.le_refl _
    · exact op.rank_lt_tighter.le.trans (ihl ⟨hbefore, ho.depth_eq⟩)
    · exact ihr hafter
  | @operand op tokens formula _ ih => exact op.rank_lt_tighter.le.trans (ih ho)
  | not _ ih =>
    obtain ⟨rest, hrest⟩ := ho.of_negation
    exact ih hrest
  | term _ ih => exact Nat.le_of_succ_le (ih ho)
  | litTrue => exact absurd ho (Enclosed.atom rfl _ _ _)
  | litFalse => exact absurd ho (Enclosed.atom rfl _ _ _)
  | var name => exact absurd ho (Enclosed.atom rfl _ _ _)
  | parens hd => exact absurd ho (Enclosed.parens hd.balanced _ _ _)

theorem enclosed (h : Derives layer tokens formula) (hle : Layer.negation.rank ≤ layer.rank) :
    Enclosed tokens := by
  intro front op back ho
  have hlayer := h.rank_le_of_outside ho
  have hrank : op.rank < Layer.negation.rank := Nat.lt_succ_of_le op.rank_le_and
  omega

theorem exists_rank_le {bound : Nat} (h : Derives layer tokens formula) (hle : bound ≤ 6)
    (hop : ∀ front op back, Outside tokens front op back → bound ≤ op.rank) :
    ∃ inner, Derives inner tokens formula ∧ bound ≤ inner.rank := by
  induction h with
  | @binary op before after left right hl hr =>
    exact ⟨_, .binary hl hr, hop before op after ⟨rfl, hl.balanced.depth_eq⟩⟩
  | operand _ ih => exact ih hop
  | not hd => exact ⟨_, .not hd, hle⟩
  | term _ ih => exact ih hop
  | litTrue => exact ⟨_, .litTrue, Nat.le_succ_of_le hle⟩
  | litFalse => exact ⟨_, .litFalse, Nat.le_succ_of_le hle⟩
  | var name => exact ⟨_, .var name, Nat.le_succ_of_le hle⟩
  | parens hd => exact ⟨_, .parens hd, Nat.le_succ_of_le hle⟩

/-- A formula belongs to every layer that is not tighter than one of its connectives outside all
parentheses. -/
theorem tighten {loose tight : Layer} (h : Derives loose tokens formula) (hle : tight.rank ≤ 6)
    (hop : ∀ front op back, Outside tokens front op back → tight.rank ≤ op.rank) :
    Derives tight tokens formula := by
  obtain ⟨inner, hd, hrank⟩ := h.exists_rank_le hle hop
  exact hd.loosen hrank

end Derives

/-! ### The root -/

def Connective.loosestFirst : List Connective := [.equates, .implies, .or, .xor, .and]

theorem Connective.idxOf_loosestFirst (op : Connective) : loosestFirst.idxOf op + 1 = op.rank := by
  cases op <;> rfl

/-- The connective stands outside all parentheses, none there is looser, and those of its kind come
later. -/
structure IsRoot (tokens before : List Token) (op : Connective) (after : List Token) : Prop where
  outside : Outside tokens before op after
  loosest : ∀ front other back, Outside tokens front other back →
    Connective.loosestFirst.idxOf op ≤ Connective.loosestFirst.idxOf other
  leftmost : ∀ front back, Outside tokens front op back → before.length ≤ front.length

/-- The formula that the connectives outside all parentheses decide on. -/
inductive Rooted : List Token → Formula → Prop
  | connective {tokens before after : List Token} {op : Connective} {left right : Formula} :
    IsRoot tokens before op after → Parses before left → Parses after right →
      Rooted tokens (.binary op left right)
  | negation {tokens : List Token} {operand : Formula} :
    Enclosed (.symbol .not :: tokens) → Parses tokens operand →
    Rooted (.symbol .not :: tokens) (.not operand)
  | atom {token : Token} {formula : Formula} :
    Enclosed [token] → token.atom? = some formula → Rooted [token] formula
  | parens {tokens : List Token} {formula : Formula} :
    Enclosed (.symbol .leftParen :: (tokens ++ [.symbol .rightParen])) → Balanced tokens →
      Parses tokens formula →
      Rooted (.symbol .leftParen :: (tokens ++ [.symbol .rightParen])) formula

namespace IsRoot

variable {tokens before after : List Token} {op : Connective}

theorem rank_le (h : IsRoot tokens before op after) {front back : List Token} {other : Connective}
    (ho : Outside tokens front other back) : op.rank ≤ other.rank := by
  have hle := h.loosest front other back ho
  rw [← op.idxOf_loosestFirst, ← other.idxOf_loosestFirst]
  exact Nat.succ_le_succ hle

theorem rank_lt_of_before (h : IsRoot tokens before op after) {front back : List Token}
    {other : Connective} (ho : Outside before front other back) : op.rank < other.rank := by
  have hwhole : Outside tokens front other (back ++ .symbol op.key :: after) := by
    rw [h.outside.eq]
    exact ho.append
  refine Nat.lt_of_le_of_ne (h.rank_le hwhole) ?_
  intro hrank
  obtain rfl := Connective.rank_injective hrank
  have hlength := h.leftmost front _ hwhole
  rw [ho.eq] at hlength
  simp only [List.length_append, List.length_cons] at hlength
  omega

theorem rank_le_of_after (h : IsRoot tokens before op after) {front back : List Token}
    {other : Connective} (ho : Outside after front other back) : op.rank ≤ other.rank := by
  have hdepth : parenDepth (before ++ [.symbol op.key]) = 0 := by
    rw [parenDepth_append, h.outside.depth_eq, parenDepth_connective]
    rfl
  have hwhole := ho.behind hdepth
  rw [List.append_assoc, List.singleton_append, ← h.outside.eq] at hwhole
  exact h.rank_le hwhole

theorem of_derives {left right : Formula} (hl : Derives op.tighter before left)
    (hr : Derives (.connective op) after right) :
    IsRoot (before ++ .symbol op.key :: after) before op after where
  outside := ⟨rfl, hl.balanced.depth_eq⟩
  loosest := by
    intro front other back ho
    have hrank := (Derives.binary hl hr).rank_le_of_outside ho
    rw [Layer.rank_connective, ← op.idxOf_loosestFirst, ← other.idxOf_loosestFirst] at hrank
    exact Nat.le_of_succ_le_succ hrank
  leftmost := by
    intro front back ho
    rcases ho.cases_binary hl.balanced.depth_eq with ⟨rfl, -⟩ | ⟨rest, hbefore⟩ | ⟨rest, rfl, -⟩
    · exact Nat.le_refl _
    · have hle := hl.rank_le_of_outside ⟨hbefore, ho.depth_eq⟩
      exact absurd op.rank_lt_tighter (Nat.not_lt_of_le hle)
    · simp

end IsRoot

theorem Derives.rooted {layer : Layer} {tokens : List Token} {formula : Formula}
    (h : Derives layer tokens formula) : Rooted tokens formula := by
  induction h with
  | binary hl hr => exact .connective (.of_derives hl hr) hl.parses hr.parses
  | operand _ ih => exact ih
  | not hd => exact .negation ((Derives.not hd).enclosed (Nat.le_refl 6)) hd.parses
  | term _ ih => exact ih
  | litTrue => exact .atom (.atom rfl) rfl
  | litFalse => exact .atom (.atom rfl) rfl
  | var name => exact .atom (.atom rfl) rfl
  | parens hd => exact .parens (.parens hd.balanced) hd.balanced hd.parses

theorem Rooted.derives {tokens : List Token} {formula : Formula} (h : Rooted tokens formula) :
    Derives .loosest tokens formula := by
  cases h with
  | @connective _ before after op left right hroot hl hr =>
    have hrank := op.rank_le_and
    have hleft : Derives op.tighter before left := by
      refine (parses_iff_derives.1 hl).tighten ?_ ?_
      · rw [op.rank_tighter]
        exact Nat.succ_le_succ hrank
      · intro front other back ho
        rw [op.rank_tighter]
        exact hroot.rank_lt_of_before ho
    have hright : Derives (.connective op) after right := by
      refine (parses_iff_derives.1 hr).tighten (Nat.le_succ_of_le hrank) ?_
      intro front other back ho
      exact hroot.rank_le_of_after ho
    rw [hroot.outside.eq]
    exact (Derives.binary hleft hright).loosen (Layer.rank_loosest_le _)
  | @negation tokens operand hnone hp =>
    have hoperand : Derives .negation tokens operand := by
      refine (parses_iff_derives.1 hp).tighten (Nat.le_refl 6) ?_
      intro front op back ho
      have hwhole : Outside (.symbol .not :: tokens) (.symbol .not :: front) op back :=
        ho.behind (show parenDepth [.symbol .not] = 0 from rfl)
      exact absurd hwhole (hnone _ op back)
    exact (Derives.not hoperand).loosen (Layer.rank_loosest_le _)
  | atom _ ha => exact (Derives.of_atom ha).loosen (Layer.rank_loosest_le _)
  | parens _ _ hp =>
    exact (Derives.parens (parses_iff_derives.1 hp)).loosen (Layer.rank_loosest_le _)

/-- What is parsed, and to which formula, is decided by the leftmost of the loosest connectives
outside all parentheses. -/
theorem formula_eq_ok_iff_rooted (lexemes : List Lexeme) (formula : Formula) :
    Scan.formula ⟨lexemes, none⟩ = .ok formula ↔ Rooted (lexemes.map Lexeme.token) formula := by
  rw [formula_eq_ok_iff]
  exact ⟨Derives.rooted, Rooted.derives⟩

end BooleanTables
