import BooleanTables.Page.Element
import BooleanTables.Session.Basic

/-!
# The browser around a page

A window with a document, which has one element for output, and with local storage, which maps names
to values. Every request to the browser may fail, as its number and kind decide. A failed request
changes nothing. There may also be no memory for the rows of a table.
-/

namespace BooleanTables

inductive Request
  | window
  | document
  | output
  | openStorage
  | storage
  | getItem (name : String)
  | setItem (name : String)
  | createElement (tag : String)
  | appendChild (tag : String)
  deriving DecidableEq, Repr

namespace Request

def name : Request → String
  | .window => "window"
  | .document => "document"
  | .output => "output"
  | .openStorage => "local_storage"
  | .storage => "no_storage"
  | .getItem _ => "get_item"
  | .setItem _ => "set_item"
  | .createElement _ => "create_element"
  | .appendChild _ => "append_child"

def argument : Request → String
  | .getItem argument | .setItem argument | .createElement argument | .appendChild argument =>
    argument
  | _ => ""

/-- The detail of a failure: what is missing, or what was thrown. A thrown value that is no string
is shown as an exception. -/
def failure (request : Request) (thrownAsText : Bool) : String :=
  match request with
  | .window => "no window found"
  | .document => "no document found"
  | .output => "element `data-output` not found"
  | .storage => "no local storage found"
  | request =>
    let call := request.name ++ " " ++ request.argument
    if thrownAsText then "cannot " ++ call else "JsValue(Exception: " ++ call ++ ")"

end Request

structure Browser where
  storage : List (String × String)
  output : List Element
  requests : Nat
  fails : Nat → Request → Bool
  thrownAsText : Bool
  reserves : Nat → Bool

namespace Browser

/-- A browser where nothing fails, before anything is shown. -/
def holding (storage : List (String × String)) : Browser :=
  ⟨storage, [], 0, fun _ _ => false, true, fun _ => true⟩

def item? (browser : Browser) (name : String) : Option String := browser.storage.lookup name

/-- Replaces the value of a name, or adds the name at the end. -/
def put (name value : String) : List (String × String) → List (String × String)
  | [] => [(name, value)]
  | entry :: rest => if entry.1 = name then (name, value) :: rest else entry :: put name value rest

def putItem (browser : Browser) (name value : String) : Browser :=
  { browser with storage := put name value browser.storage }

def request (browser : Browser) (request : Request) : Except Error Unit × Browser :=
  (if browser.fails browser.requests request then
      .error (.host (request.failure browser.thrownAsText))
    else .ok (),
    { browser with requests := browser.requests + 1 })

/-- Makes requests in turn until one fails. -/
def requestAll : List Request → Browser → Except Error Unit × Browser
  | [], browser => (.ok (), browser)
  | request :: rest, browser =>
    match browser.request request with
    | (.ok (), browser) => requestAll rest browser
    | (.error e, browser) => (.error e, browser)

/-- The item that says that local storage holds values. -/
def marker : String := "init"

/-- Values in local storage count only if the marker is there. It is set with every value saved. -/
def localStorage : Backing Browser where
  load key browser :=
    match browser.request (.getItem marker) with
    | (.error e, browser) => (.error e, browser)
    | (.ok (), browser) =>
      match browser.item? marker with
      | none => (.ok none, browser)
      | some _ =>
        match browser.request (.getItem key.id) with
        | (.error e, browser) => (.error e, browser)
        | (.ok (), browser) => (.ok (browser.item? key.id), browser)
  save key value browser :=
    match browser.request (.setItem key.id) with
    | (.error e, browser) => (.error e, browser)
    | (.ok (), browser) =>
      match (browser.putItem key.id value).request (.setItem marker) with
      | (.error e, browser) => (.error e, browser)
      | (.ok (), browser) => (.ok (), browser.putItem marker "true")

end Browser

mutual

/-- The requests that put an element into its parent: it is created and appended before its children
are. -/
def Element.requests : Element → List Request
  | .node tag _ _ children =>
    .createElement tag :: .appendChild tag :: Element.requestsAll children

def Element.requestsAll : List Element → List Request
  | [] => []
  | element :: rest => element.requests ++ Element.requestsAll rest

end

/-- The requests that build an element with its children and append it last. -/
def Element.requestsLast : Element → List Request
  | .node tag _ _ children =>
    .createElement tag :: Element.requestsAll children ++ [.appendChild tag]

namespace Browser

def attach (browser : Browser) (requests : List Request) (element : Element) :
    Except Error Unit × Browser :=
  match browser.requestAll requests with
  | (.error e, browser) => (.error e, browser)
  | (.ok (), browser) => (.ok (), { browser with output := browser.output ++ [element] })

def renderer : Renderer Browser where
  render table selection browser :=
    match browser.requestAll [.window, .document, .output] with
    | (.error e, browser) => (.error e, browser)
    | (.ok (), browser) =>
      let element := table.element selection
      match attach { browser with output := [] } element.requestsLast element with
      | (.error e, browser) => (.error e, browser)
      | (.ok (), browser) =>
        let verdict := table.verdictElement selection
        attach browser verdict.requests verdict

end Browser

end BooleanTables
