import BooleanTables.Proofs.CommandLine.Overrides
import BooleanTables.Proofs.Table.Rows

/-!
# Runs of the command line

Overrides leave every slot with the value that it was given last. A run lists that lexicon, if it is
asked to, and then prints all that the expression comes to or nothing of it, so it depends on the
overrides by their last values only.
-/

namespace BooleanTables

/-! ### The last value of a slot -/

/-- The value that a slot is given last, if it is given one. -/
def lastOverride? (overrides : List (Key × String)) (key : Key) : Option String :=
  (overrides.filter (·.1 = key)).getLast?.map Prod.snd

theorem lastOverride?_concat (overrides : List (Key × String)) (given : Key) (value : String)
    (key : Key) :
    lastOverride? (overrides ++ [(given, value)]) key =
      if key = given then some value else lastOverride? overrides key := by
  by_cases h : key = given
  · simp [lastOverride?, h]
  · simp [lastOverride?, h, Ne.symm h]

namespace Lexicon

theorem setAll_concat (lexicon : Lexicon) (overrides : List (Key × String)) (key : Key)
    (value : String) :
    lexicon.setAll (overrides ++ [(key, value)]) = (lexicon.setAll overrides).set key value := by
  rw [setAll, List.foldl_append]
  rfl

theorem value_setAll (lexicon : Lexicon) (overrides : List (Key × String)) (key : Key) :
    (lexicon.setAll overrides).value key =
      (lastOverride? overrides key).getD (lexicon.value key) := by
  induction overrides using List.reverseRecOn with
  | nil => rfl
  | append_singleton overrides last ih =>
    rw [setAll_concat, value_set, lastOverride?_concat, ih]
    split <;> rfl

theorem setAll_congr {lexicon : Lexicon} {overrides others : List (Key × String)}
    (h : ∀ key, (lastOverride? overrides key).getD (lexicon.value key) =
      (lastOverride? others key).getD (lexicon.value key)) :
    lexicon.setAll overrides = lexicon.setAll others := by
  ext key
  rw [value_setAll, value_setAll, h]

end Lexicon

/-! ### Runs -/

namespace Arguments

def lexicon (arguments : Arguments) : Lexicon := Lexicon.standard.setAll arguments.overrides

def listing (arguments : Arguments) : String :=
  if arguments.listOptions then arguments.lexicon.grid.render else ""

def printout (arguments : Arguments) (table : TruthTable) : String :=
  (if arguments.noTable then "" else (table.grid arguments.selection).render) ++
    table.verdict arguments.selection ++ "\n"

/-- A run is one operation of the session on the lexicon of the overrides, if there is an
expression. -/
theorem run_eq (arguments : Arguments) (reserves : Nat → Bool) :
    arguments.run reserves =
      arguments.expression.elim (.ok (), arguments.listing) fun expression =>
        let outcome := (arguments.session reserves).render arguments.selection expression
          arguments.lexicon arguments.listing
        (outcome.result, outcome.host) := by
  have hopened : (arguments.session reserves).initStorage .standard "" =
      ⟨.ok (), .standard, "", [.initializing, .withoutBacking]⟩ := rfl
  have hlisting : (if arguments.listOptions then
      "" ++ (Lexicon.standard.setAll arguments.overrides).grid.render else "") =
        arguments.listing := by
    rw [String.empty_append]
    rfl
  rw [run, hopened]
  dsimp only
  rw [override_eq rfl]
  dsimp only
  rw [hlisting]
  cases arguments.expression <;> rfl

section Ends

variable {arguments : Arguments} {reserves : Nat → Bool} {expression : String}

theorem run_of_no_expression (h : arguments.expression = none) :
    arguments.run reserves = (.ok (), arguments.listing) := by
  rw [run_eq, h]
  rfl

theorem run_of_error {e : Error} (h : arguments.expression = some expression)
    (heval : arguments.lexicon.evaluate ⟨arguments.maxVariables, reserves⟩ expression =
      .error e) :
    arguments.run reserves = (.error e, arguments.listing) := by
  rw [run_eq, h, Option.elim_some, Session.render_of_error heval]

theorem run_of_ok {table : TruthTable} (h : arguments.expression = some expression)
    (heval : arguments.lexicon.evaluate ⟨arguments.maxVariables, reserves⟩ expression =
      .ok table) :
    arguments.run reserves = (.ok (), arguments.listing ++ arguments.printout table) := by
  rw [run_eq, h, Option.elim_some, Session.render_of_ok heval]
  simp only [session, Terminal.renderer, printout, String.append_assoc]

theorem run_eq_error_iff {e : Error} :
    (arguments.run reserves).1 = .error e ↔ ∃ expression, arguments.expression = some expression ∧
      arguments.lexicon.evaluate ⟨arguments.maxVariables, reserves⟩ expression = .error e := by
  cases hexpr : arguments.expression with
  | none => simp [run_of_no_expression hexpr]
  | some expression =>
    cases heval : arguments.lexicon.evaluate ⟨arguments.maxVariables, reserves⟩ expression with
    | error blame => simp [run_of_error hexpr heval, heval]
    | ok table => simp [run_of_ok hexpr heval, heval]

theorem run_congr {overrides : List (Key × String)}
    (h : Lexicon.standard.setAll overrides = arguments.lexicon) :
    ({ arguments with overrides := overrides } : Arguments).run reserves =
      arguments.run reserves := by
  have hlisting : ({ arguments with overrides := overrides } : Arguments).listing =
      arguments.listing := by
    rw [listing, lexicon, h]
    rfl
  rw [run_eq, run_eq, hlisting, lexicon, h]
  rfl

end Ends

/-- The lexicon of a run has the last value that was given to each slot, and the standard one where
none was. A run prints the values of all slots first if it is asked to, then, for an expression that
can be evaluated with them, the table unless there should be none, and the verdict. Where the
evaluation fails the run fails alike, and prints no more. Runs that differ in their overrides only
come to the same if these leave the same values. -/
theorem run_all_or_nothing (arguments : Arguments) (reserves : Nat → Bool) :
    let lexicon := Lexicon.standard.setAll arguments.overrides
    let capacity : Capacity := ⟨arguments.maxVariables, reserves⟩
    let options : Grid := ⟨[plainCell "option", plainCell "symbols"] ::
      Key.all.map fun key => [plainCell key.id, plainCell (lexicon.value key)]⟩
    let listing := if arguments.listOptions then options.render else ""
    (∀ key, lexicon.value key =
        (lastOverride? arguments.overrides key).getD key.standard) ∧
      (arguments.expression = none → arguments.run reserves = (.ok (), listing)) ∧
      (∀ expression, arguments.expression = some expression →
        (∀ e, lexicon.evaluate capacity expression = .error e →
          arguments.run reserves = (.error e, listing)) ∧
        ∀ table, lexicon.evaluate capacity expression = .ok table →
          arguments.run reserves = (.ok (), listing ++
            ((if arguments.noTable then "" else (table.grid arguments.selection).render) ++
              table.verdict arguments.selection ++ "\n"))) ∧
      (∀ e, (arguments.run reserves).1 = .error e ↔
        ∃ expression, arguments.expression = some expression ∧
          lexicon.evaluate capacity expression = .error e) ∧
      ∀ overrides, (∀ key, (lastOverride? overrides key).getD key.standard =
          (lastOverride? arguments.overrides key).getD key.standard) →
        ({ arguments with overrides := overrides } : Arguments).run reserves =
          arguments.run reserves := by
  intro lexicon capacity options listing
  refine ⟨?_, run_of_no_expression,
    fun expression h => ⟨fun e => run_of_error h, fun table => run_of_ok h⟩,
    fun e => run_eq_error_iff, fun overrides h => run_congr ?_⟩
  · exact fun key => Lexicon.standard.value_setAll arguments.overrides key
  · exact Lexicon.setAll_congr h

/-- The first override is taken back by the last one, and the expression that it would have allowed
fails behind the listing. -/
theorem run_all_or_nothing_reordered :
    let arguments : Arguments :=
      ⟨some "a & b", false, .failures, [(.and, "+"), (.or, "|"), (.and, "&")], 2, false⟩
    arguments.run (· ≤ 4) = (.ok (), "\n".intercalate
        ["+---+---+--+---------+",
          "| a | b |  | (a ∧ b) |",
          "+---+---+--+---------+",
          "|   |   |  |         |",
          "+---+---+--+---------+",
          "| F | F |  |    F    |",
          "+---+---+--+---------+",
          "| F | T |  |    F    |",
          "+---+---+--+---------+",
          "| T | F |  |    F    |",
          "+---+---+--+---------+",
          "3 of 4 rows are false",
          ""]) ∧
      ({ arguments with overrides := [(.and, "&"), (.or, "|")] } : Arguments).run (· ≤ 4) =
        arguments.run (· ≤ 4) ∧
      ({ arguments with expression := some "a + b", listOptions := true } : Arguments).run
          (· ≤ 4) =
        (.error (.parse 2 "unknown token `+`"), "\n".intercalate
          ["+-------------+---------------+",
            "| option      | symbols       |",
            "+-------------+---------------+",
            "| lit-true    | true          |",
            "+-------------+---------------+",
            "| lit-false   | false         |",
            "+-------------+---------------+",
            "| not         | ¬, not, !, ~  |",
            "+-------------+---------------+",
            "| and         | &             |",
            "+-------------+---------------+",
            "| xor         | ⊕, xor, ^     |",
            "+-------------+---------------+",
            "| or          | |             |",
            "+-------------+---------------+",
            "| implication | →, ->, =>     |",
            "+-------------+---------------+",
            "| equality    | ≡, <=>, ==, = |",
            "+-------------+---------------+",
            "| left-paren  | (, \x7b, [       |",
            "+-------------+---------------+",
            "| right-paren | ), \x7d, ]       |",
            "+-------------+---------------+",
            ""]) := by
  intro arguments
  obtain ⟨-, -, hrun, -, hsame⟩ := run_all_or_nothing arguments (· ≤ 4)
  obtain ⟨-, -, hfail, -, -⟩ :=
    run_all_or_nothing { arguments with expression := some "a + b", listOptions := true } (· ≤ 4)
  have htable : (Lexicon.standard.setAll arguments.overrides).evaluate ⟨2, (· ≤ 4)⟩ "a & b" =
      .ok (.complete (.binary .and (.var "a") (.var "b"))) := by decide +kernel
  have hshown := (hrun _ rfl).2 _ htable
  have hlisted := (hfail _ rfl).1 (.parse 2 "unknown token `+`") (by decide +kernel)
  refine ⟨hshown.trans ?_, hsame _ fun key => by cases key <;> rfl, hlisted.trans ?_⟩
  · decide +kernel
  · decide +kernel

end Arguments

end BooleanTables
