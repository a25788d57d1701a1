import BooleanTables.Proofs.Page.Unbroken
import BooleanTables.Proofs.Table.Rows
import Mathlib.Data.List.Induction

/-!
# The output of a page

Where no request fails, a render that evaluates its text replaces the output by one table and its
verdict, and nothing else changes the output. So over whole runs the output is that of the last
render that has succeeded.
-/

namespace BooleanTables

/-! ### Elements read back -/

namespace Element

def kind : Element → Option String
  | .node _ kind _ _ => kind

def text : Element → String
  | .node _ _ text _ => text

def children : Element → List Element
  | .node _ _ _ children => children

def cell (element : Element) : String × Option String × String :=
  (element.tag, element.kind, element.text)

def cells (element : Element) : List (String × Option String × String) := element.children.map cell

@[simp] theorem cell_leaf (tag text : String) : (leaf tag text).cell = (tag, none, text) := rfl

@[simp] theorem cell_ofValue (value : Bool) :
    (ofValue value).cell =
      if value then ("td", some "true", "T") else ("td", some "false", "F") := by
  cases value <;> rfl

@[simp] theorem children_node (tag : String) (kind : Option String) (text : String)
    (children : List Element) :
    (node tag kind text children).children = children := rfl

end Element

/-- The elements are a table and a paragraph below it. The table is made of rows of plain cells: the
headings, which are the variables and the title, and the values of each selected row, the variables'
and then its own. The paragraph says the verdict. -/
structure TruthTable.IsShownBy (table : TruthTable) (selection : Selection)
    (elements : List Element) : Prop where
  exists_rows : ∃ rows : List Element,
    elements = [.node "table" none "" rows, .node "p" none (table.verdict selection) []] ∧
    (∀ row ∈ rows, row = .node "tr" none "" row.children ∧
      ∀ cell ∈ row.children, cell.children = []) ∧
    rows.map Element.cells =
      (table.vars ++ [table.title]).map (fun heading => ("th", none, heading)) ::
        (selection.rows table).map fun row =>
          (row.assignment.values ++ [row.value]).map fun value =>
          if value then ("td", some "true", "T") else ("td", some "false", "F")

theorem TruthTable.isShownBy_element (table : TruthTable) (selection : Selection) :
    table.IsShownBy selection [table.element selection, table.verdictElement selection] := by
  refine ⟨_, rfl, fun row hrow => ?_, ?_⟩
  · obtain rfl | hrow := List.mem_cons.1 hrow
    · refine ⟨rfl, fun cell hcell => ?_⟩
      obtain ⟨name, -, rfl⟩ | rfl := by simpa using hcell
      · rfl
      · rfl
    · obtain ⟨shown, -, rfl⟩ := List.mem_map.1 hrow
      refine ⟨rfl, fun cell hcell => ?_⟩
      rw [Element.children_node, List.mem_append, List.mem_singleton, List.mem_map] at hcell
      obtain ⟨value, -, rfl⟩ | rfl := hcell
      · rfl
      · rfl
  · simp [Element.cells, Function.comp_def]

namespace Page

variable {page : Page} {operation : Operation} {selection : Selection} {input : String}

/-! ### Steps and runs -/

/-- What a step has evaluated and shown, if it has succeeded. -/
def Step.shown? (step : Step) : Option (TruthTable × Selection) :=
  match step.result with
  | .ok _ => step.before.lexicon.bind
      (step.operation.evaluated? (session.capacity step.before.browser))
  | .error _ => none

def lastShown? (steps : List Step) : Option (TruthTable × Selection) :=
  (steps.filterMap Step.shown?).getLast?

theorem lastShown?_concat (steps : List Step) (step : Step) :
    lastShown? (steps ++ [step]) = step.shown?.or (lastShown? steps) := by
  rw [lastShown?, List.filterMap_append, List.getLast?_append]
  cases h : step.shown? <;> simp [h, lastShown?]

theorem Step.shown?_of_ne_render {step : Step}
    (h : ∀ selection input, step.operation ≠ .render selection input) :
    step.shown? = none := by
  have hevaluated (lexicon : Lexicon) :
      step.operation.evaluated? (session.capacity step.before.browser) lexicon = none := by
    cases hoperation : step.operation with
    | render selection input => exact absurd hoperation (h selection input)
    | _ => rfl
  rw [shown?]
  cases step.result with
  | error e => rfl
  | ok value => cases hlexicon : step.before.lexicon <;> simp [hevaluated]

theorem Step.shown?_of_error {step : Step} {e : Error} (h : step.result = .error e) :
    step.shown? = none := by
  rw [shown?, h]

theorem Step.shown?_of_evaluate {step : Step} {lexicon : Lexicon} {table : TruthTable}
    (hresult : step.result = .ok none) (hoperation : step.operation = .render selection input)
    (hlexicon : step.before.lexicon = some lexicon)
    (heval : lexicon.evaluate (session.capacity step.before.browser) input = .ok table) :
    step.shown? = some (table, selection) := by
  rw [shown?, hresult]
  dsimp only
  rw [hlexicon, hoperation, Option.bind_some, Operation.evaluated?_render_of_ok heval]

/-- A render answers and shows what the lexicon makes of the text, if there is a lexicon. -/
theorem StepEnd.render_eq {step : Step} (h : StepEnd step)
    (hrender : step.operation = .render selection input) :
    (step.result = step.before.lexicon.elim (.error .notInitialized) fun lexicon =>
        (lexicon.evaluate (session.capacity step.before.browser) input).map fun _ => none) ∧
      step.shown? = step.before.lexicon.bind
        (step.operation.evaluated? (session.capacity step.before.browser)) := by
  cases h with
  | refused hlexicon _ hresult =>
    rw [Step.shown?_of_error hresult, hresult, hlexicon]
    exact ⟨rfl, rfl⟩
  | shown hoperation hlexicon heval hresult =>
    cases hoperation.symm.trans hrender
    rw [Step.shown?_of_evaluate hresult hoperation hlexicon heval, hresult, hoperation, hlexicon]
    simp [heval, Operation.evaluated?_render_of_ok heval, Except.map]
  | unevaluated hoperation hlexicon heval hresult =>
    cases hoperation.symm.trans hrender
    rw [Step.shown?_of_error hresult, hresult, hoperation, hlexicon]
    simp [heval, Operation.evaluated?_render_of_error heval, Except.map]
  | initialized hoperation => simp [hoperation] at hrender
  | saved hoperation => simp [hoperation] at hrender
  | unknownKey hoperation => simp [hoperation] at hrender
  | answered hoperation => simp [hoperation] at hrender

theorem StepEnd.render_eq_ok_iff {step : Step} (h : StepEnd step)
    (hrender : step.operation = .render selection input) :
    step.result = .ok none ↔
      ∃ lexicon table, step.before.lexicon = some lexicon ∧
        lexicon.evaluate (session.capacity step.before.browser) input = .ok table ∧
        step.shown? = some (table, selection) := by
  obtain ⟨hresult, hshown⟩ := h.render_eq hrender
  rw [hresult, hshown, hrender]
  cases step.before.lexicon with
  | none => simp
  | some lexicon =>
    cases heval : lexicon.evaluate (session.capacity step.before.browser) input with
    | error e => simp [heval, Except.map]
    | ok table => simp [heval, Except.map, Operation.evaluated?_render_of_ok heval]

/-- The output shows a table or, where there is none, is as it was. -/
def IsOutput (initial output : List Element) : Option (TruthTable × Selection) → Prop
  | some (table, selection) => table.IsShownBy selection output
  | none => output = initial

theorem StepEnd.isOutput {step : Step} (h : StepEnd step) :
    IsOutput step.before.browser.output step.after.browser.output step.shown? := by
  cases h with
  | refused _ _ hresult hafter =>
    rw [Step.shown?_of_error hresult, hafter]
    rfl
  | @initialized opened last found events hoperation hopened hload _ hafter =>
    have hshown : step.shown? = none := Step.shown?_of_ne_render (by simp [hoperation])
    have houtput := Browser.output_loadAll (step.before.lexicon.getD .standard) Key.all opened
    obtain ⟨count, rfl⟩ := hopened
    rw [hload] at houtput
    rw [hshown, hafter]
    exact houtput
  | @shown lexicon table selection input count hoperation hlexicon heval hresult hafter =>
    rw [Step.shown?_of_evaluate hresult hoperation hlexicon heval, hafter]
    exact table.isShownBy_element selection
  | unevaluated _ _ _ hresult hafter =>
    rw [Step.shown?_of_error hresult, hafter]
    rfl
  | @saved lexicon id value key last hoperation _ _ hsave _ hafter =>
    have hshown : step.shown? = none := Step.shown?_of_ne_render (by simp [hoperation])
    have houtput := Browser.output_save key value step.before.browser
    rw [hsave] at houtput
    rw [hshown, hafter]
    exact houtput
  | unknownKey _ _ hresult hafter =>
    rw [Step.shown?_of_error hresult, hafter]
    rfl
  | answered hoperation _ _ hafter =>
    rw [Step.shown?_of_ne_render (by simp [hoperation]), hafter]
    rfl

theorem output_last (operations : List Operation)
    (h : ∀ step ∈ page.run operations, step.breaksOff = false) :
    IsOutput page.browser.output (page.last operations).browser.output
      (lastShown? (page.run operations)) := by
  induction operations using List.reverseRecOn with
  | nil => rfl
  | append_singleton operations operation ih =>
    rw [run_concat] at h
    have hbefore := ih fun step hstep => h step (List.mem_append_left _ hstep)
    have hlast := h _ (List.mem_append_right _ (List.mem_singleton_self _))
    have hstep := (step_end operation hlast).isOutput
    rw [last_concat, run_concat, lastShown?_concat]
    cases hshown : ((page.last operations).step operation).shown? with
    | some pair =>
      rw [hshown] at hstep
      rw [Option.some_or]
      exact hstep
    | none =>
      rw [hshown] at hstep
      have hsame : ((page.last operations).step operation).after.browser.output =
          (page.last operations).browser.output := hstep
      rw [Option.none_or, hsame]
      exact hbefore

/-- As long as no request fails, the output is that of the last render that has succeeded, a table
with its verdict, or else as it was at the start. Failed calls and calls that do not render leave it
as it is. -/
theorem output_of_last_shown {browser : Browser} {operations : List Operation}
    (h : ∀ step ∈ (fresh browser).run operations, step.breaksOff = false) :
    IsOutput browser.output ((fresh browser).last operations).browser.output
        (lastShown? ((fresh browser).run operations)) ∧
      ∀ step ∈ (fresh browser).run operations,
        ((∃ e, step.result = .error e) ∨
          (∀ selection input, step.operation ≠ .render selection input) →
          step.after.browser.output = step.before.browser.output) ∧
        ∀ selection input, step.operation = .render selection input →
          (step.result = .ok none ↔
            ∃ lexicon table, step.before.lexicon = some lexicon ∧
              lexicon.evaluate (session.capacity step.before.browser) input = .ok table ∧
              step.shown? = some (table, selection)) := by
  refine ⟨output_last operations h, fun step hmem => ?_⟩
  have hend : StepEnd step := stepEnd_of_mem h hmem
  refine ⟨fun hkeeps => ?_, fun selection input => hend.render_eq_ok_iff⟩
  have hshown : step.shown? = none := by
    obtain ⟨e, herror⟩ | hne := hkeeps
    · exact Step.shown?_of_error herror
    · exact Step.shown?_of_ne_render hne
  have houtput := hend.isOutput
  rw [hshown] at houtput
  exact houtput

def welcoming : Browser := { Browser.holding [] with output := [.leaf "p" "Welcome"] }

theorem output_of_last_shown_welcoming :
    let formula : Formula := .binary .implies (.var "b") (.var "a")
    ((fresh welcoming).last [.render .all "b -> a", .initStorage]).browser.output =
      [.leaf "p" "Welcome"] ∧
      ∃ table : TruthTable, table.formula = some formula ∧ table.IsShownBy .failures
        ((fresh welcoming).last [.initStorage, .render .failures "b -> a", .render .all "b ->",
          .getValue "nor"]).browser.output := by
  intro formula
  have hreliable : (fresh welcoming).browser.Reliable := fun _ _ => rfl
  have hnone : lastShown? ((fresh welcoming).run [.render .all "b -> a", .initStorage]) = none := by
    decide +kernel
  have hsome : lastShown? ((fresh welcoming).run [.initStorage, .render .failures "b -> a",
      .render .all "b ->", .getValue "nor"]) = some (.complete formula, .failures) := by
    decide +kernel
  obtain ⟨hbefore, -⟩ :=
    output_of_last_shown (unbroken_of_reliable hreliable [.render .all "b -> a", .initStorage])
  obtain ⟨hafter, -⟩ := output_of_last_shown (unbroken_of_reliable hreliable [.initStorage,
    .render .failures "b -> a", .render .all "b ->", .getValue "nor"])
  rw [hnone] at hbefore
  rw [hsome] at hafter
  exact ⟨hbefore, _, rfl, hafter⟩

end Page

end BooleanTables
