import BooleanTables.Page.Basic
import BooleanTables.Proofs.Session.Runs

/-!
# Runs of a page

The exports of a page are called one after the other, and each call is recorded with its answer and
the page before and after it. Once the page has a session, a call is an operation of that session on
the browser.
-/

namespace BooleanTables

def PageOutcome.map {α β : Type} (f : α → β) (outcome : PageOutcome α) : PageOutcome β :=
  ⟨outcome.result.map f, outcome.page, outcome.events⟩

namespace Page

/-- A call that has ended. Its result is the value that it was asked for, if any. -/
structure Step where
  operation : Operation
  before : Page
  result : Except Error (Option String)
  after : Page

def perform (page : Page) (operation : Operation) : PageOutcome (Option String) :=
  match operation with
  | .initStorage => page.initStorage.map fun _ => none
  | .render selection input => (page.render selection input).map fun _ => none
  | .changeValue id value => (page.changeValue id value).map fun _ => none
  | .getValue id => (page.getValue id).map some

def step (page : Page) (operation : Operation) : Step :=
  let outcome := page.perform operation
  ⟨operation, page, outcome.result, outcome.page⟩

def run (start : Page) : List Operation → List Step
  | [] => []
  | operation :: rest => start.step operation :: run (start.step operation).after rest

def last (start : Page) (operations : List Operation) : Page :=
  operations.foldl (fun page operation => (page.step operation).after) start

theorem run_concat (start : Page) (operations : List Operation) (operation : Operation) :
    start.run (operations ++ [operation]) =
      start.run operations ++ [(start.last operations).step operation] := by
  induction operations generalizing start with
  | nil => rfl
  | cons first rest ih =>
    rw [List.cons_append, run, ih]
    rfl

theorem last_concat (start : Page) (operations : List Operation) (operation : Operation) :
    start.last (operations ++ [operation]) = ((start.last operations).step operation).after := by
  rw [last, List.foldl_append]
  rfl

theorem eq_step_of_mem_run {start : Page} {operations : List Operation} {step : Step}
    (h : step ∈ start.run operations) : step = step.before.step step.operation := by
  induction operations generalizing start with
  | nil => cases h
  | cons first rest ih =>
    obtain rfl | hrest := List.mem_cons.1 h
    · rfl
    · exact ih hrest

def Step.initializes (step : Step) : Bool := step.operation = .initStorage && step.result.isOk

/-- The page that a session and its host make. -/
def ofState (state : Session.State Browser) : Page := ⟨some state.lexicon, state.host⟩

/-- A page with a session does what the session does. -/
theorem step_ofState (state : Session.State Browser) (operation : Operation) :
    (ofState state).step operation =
      ⟨operation, ofState state, (session.step state operation).result,
        ofState (session.step state operation).after⟩ := by
  cases operation <;> rfl

theorem step_of_closed {page : Page} (hpage : page.lexicon = none) {operation : Operation}
    (h : operation ≠ .initStorage) :
    page.step operation = ⟨operation, page, .error .notInitialized, page⟩ := by
  cases operation with
  | initStorage => exact absurd rfl h
  | render selection input =>
      simp [step, perform, render, withSession, hpage, PageOutcome.map, Except.map]
  | changeValue id value =>
      simp [step, perform, changeValue, withSession, hpage, PageOutcome.map, Except.map]
  | getValue id => simp [step, perform, getValue, withSession, hpage, PageOutcome.map, Except.map]

end Page

end BooleanTables
