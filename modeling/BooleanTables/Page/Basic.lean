import BooleanTables.Page.Host

/-!
# Pages

The exports of a page. The first `initStorage` that can open local storage creates the session, and
it stays even if loading the values fails then. Until there is a session, all other operations
refuse.
-/

namespace BooleanTables

structure Page where
  /-- The lexicon of the session, if there is one. -/
  lexicon : Option Lexicon
  browser : Browser

/-- What an export answers, the page afterwards, and what it reported. -/
structure PageOutcome (α : Type) where
  result : Except Error α
  page : Page
  events : List Event

namespace Page

def fresh (browser : Browser) : Page := ⟨none, browser⟩

def session : Session Browser :=
  ⟨defaultMaxVariables, Browser.reserves, some Browser.localStorage, Browser.renderer⟩

def ofOutcome {α : Type} (outcome : Outcome Browser α) : PageOutcome α :=
  ⟨outcome.result, ⟨some outcome.lexicon, outcome.host⟩, outcome.events⟩

def initStorage (page : Page) : PageOutcome Unit :=
  match page.lexicon with
  | some lexicon => ofOutcome (session.initStorage lexicon page.browser)
  | none =>
    match page.browser.requestAll [.window, .openStorage, .storage] with
    | (.error e, browser) => ⟨.error e, ⟨none, browser⟩, [.creatingSession]⟩
    | (.ok (), browser) =>
      let outcome := ofOutcome (session.initStorage .standard browser)
      { outcome with events := .creatingSession :: outcome.events }

/-- Runs an operation on the session, or refuses while there is none. -/
def withSession {α : Type} (page : Page) (operation : Lexicon → Browser → Outcome Browser α) :
    PageOutcome α :=
  match page.lexicon with
  | none => ⟨.error .notInitialized, page, []⟩
  | some lexicon => ofOutcome (operation lexicon page.browser)

def render (page : Page) (selection : Selection) (input : String) : PageOutcome Unit :=
  page.withSession (session.render selection input)

def changeValue (page : Page) (id value : String) : PageOutcome Unit :=
  page.withSession (session.changeValue id value)

def getValue (page : Page) (id : String) : PageOutcome String :=
  page.withSession (session.getValue id)

end Page

end BooleanTables
