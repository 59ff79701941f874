import PageRouter.Page.Telling
import PageRouter.Pattern.Fill

/-!
# Navigation

Every way to another location changes the history first and tells everyone then, so that a listener
that navigates again finds the navigation it heard of completed.

* A location is visited, or takes the place of the current one.
* `updateQuery` changes the query of the current location, if there is anything to change.
* `followLink` and `handleClick` go where a link leads, if it stays on the page's origin; a click is
  left to the browser unless it is plain and some route matches.
* `navigateTo` goes to a mounted route: its pattern and those around it are filled in with the
  values that the caller gives, or else with those of the moment.
-/

namespace PageRouter.Page

open Text

variable (deeper : Deeper)

/-! ## Locations -/

/-- A location is visited, or takes the place of the current one, and everyone is told. -/
def goTo (replaces : Bool) (url : Text) (source : Option Text) : PageM Unit := do
  if replaces then
    modify fun page => { page with history := page.history.replace url }
    notify deeper .replaceState source
  else
    modify fun page => { page with history := page.history.push url }
    notify deeper .pushState source

/-- A step back or forward, if there is one; the answer is whether there was. -/
def travel (step? : History → Option History) : PageM Bool := do
  match step? (← get).history with
  | none => return false
  | some history =>
    modify fun page => { page with history := history }
    notify deeper .popState none
    return true

/-- The location with updates made to its query, if that makes a difference. -/
def updatedUrl? (url : Text) (updates : List Query.Update) : Option Text :=
  let pairs := Query.parse (searchPart url)
  let merged := Query.merge pairs updates
  if merged = pairs then none
  else
    let next := if merged = [] then pathPart url else pathPart url ++ '?' :: Query.write merged
    if next = url then none else some next

/-- **Changing the query** of the current location; the answer is whether it changed. -/
def updateQuery (updates : List Query.Update) : PageM Bool := do
  match updatedUrl? (← get).url updates with
  | none => return false
  | some url =>
    goTo deeper true url none
    return true

/-! ## Links -/

/-- The location that a link leads to from here. -/
def resolve (page : Page) (href : Text) : Except LinkFault Text :=
  resolveLink href page.history.origin page.url

/-- **Following a link**; the answer is its location. -/
def followLink (href : Text) (replaces : Bool) : PageM (Except RouterError Text) := do
  match (← get).resolve href with
  | .error fault => return .error (.invalidUrl href fault)
  | .ok url =>
    goTo deeper replaces url none
    return .ok url

/-- Where a click leads, and whether it replaces the current location; or why it is left to the
browser. -/
def interceptClick (page : Page) (click : Click) : Except IgnoreReason (Text × Bool) :=
  if !page.interceptsLinks then .error .interceptionDisabled
  else match click.screen with
    | .error reason => .error reason
    | .ok anchor =>
      match page.resolve anchor.href with
      | .error fault => .error (.link fault)
      | .ok url =>
        if page.registry.handles url page.root then .ok (url, anchor.replaces)
        else .error .noMatchingRoute

/-- **Handling a click.** -/
def handleClick (click : Click) : PageM Answer := do
  match (← get).interceptClick click with
  | .error reason => return .ignored reason click.prevented
  | .ok (url, replaces) =>
    goTo deeper replaces url none
    return .navigated url (if replaces then .replaceState else .pushState) true

/-! ## Routes -/

/-- The values that a navigation to a node fills patterns in with: the caller's, else what the node
has learned last, else what the nodes around it have. -/
def navigationValues (node : Node) (options : NavigateOptions) : Params Text :=
  let outer := match node.route.place with
    | .child (some tail) => tail.params.present
    | _ => ∅
  (outer.overriddenBy (Outcome.params node.lastMatch).present).overriddenBy options.params

/-- The location that a navigation to a node leads to. -/
def navigationUrl (root : Text) (node : Node) (options : NavigateOptions) :
    Except RouterError Text :=
  match node.route.pattern with
  | none => .error .missingPattern
  | some own =>
    let values := navigationValues node options
    let filled := (node.lineage ++ [own]).map (fill · values)
    let path := joinPaths (root :: filled.map (·.path) ++ options.tail.toList)
    let missing := filled.flatMap (·.missing)
    if missing ≠ [] then .error (.unresolvedParams path missing)
    else .ok (if options.query = [] then path else path ++ '?' :: Query.write options.query)

/-- **Navigating to a node**; the answer is the location. -/
def navigateTo (node : Node) (options : NavigateOptions) : PageM (Except RouterError Text) := do
  match navigationUrl (← get).root node options with
  | .error error => return .error error
  | .ok url =>
    goTo deeper options.replaces url (node.route.id.map RouteId.text)
    return .ok url

end PageRouter.Page
