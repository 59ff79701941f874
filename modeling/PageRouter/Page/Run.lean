import PageRouter.Page.Describe
import PageRouter.Page.Mounting
import PageRouter.Page.Navigation

/-!
# Running commands

`Page.perform` carries out one command, and `Page.step` one call; both leave what goes deeper to
someone else.  `Page.exec` is that someone: it carries out calls to a given depth.

Every command that a listener or a hook gives uses up a run, so only finitely many commands can
follow from one; and between two of them, calls go down the tree of nodes or take a node out of the
queue.  `Page.depthFor` is therefore a bound on the depth, and `Page.run` grants it.
-/

namespace PageRouter.Page

open Text

/-! ## One command -/

section Commands

variable (deeper : Deeper)

def answerOf {α : Type} (answer : α → Answer) : Except RouterError α → Answer
  | .ok value => answer value
  | .error error => .failed error

/-- Doing something with the mounted route of a name. -/
def withMounted (name : Text) (action : NodeId → Node → PageM Answer) : PageM Answer := do
  match (← get).mounted? name with
  | some (id, node) => action id node
  | none => return .unknown name

/-- Doing something with the stored route of a name. -/
def withStored (name : Text) (action : Route → PageM Answer) : PageM Answer := do
  match (← get).stored? name with
  | some route => action route
  | none => return .unknown name

/-- The name of a mounted route is given up. -/
def forgetMounted (name : Text) : PageM Unit :=
  modify fun page => { page with
    directory := { page.directory with mounted := forget name page.directory.mounted } }

/-- The name of a stored route is given up. -/
def forgetStored (name : Text) : PageM Unit :=
  modify fun page => { page with
    directory := { page.directory with stored := forget name page.directory.stored } }

/-- A route is taken from where it comes from; a stored one is not there any more. -/
def takeRoute : RouteSource → PageM (Option Route)
  | .fresh route => return some route
  | .stored name => do
    let route := (← get).stored? name
    forgetStored name
    return route

/-- The node that a route is to be mounted below; the name of one that is not there is told. -/
def parentFor (page : Page) : Option Text → Except Text (Option (NodeId × Node))
  | none => .ok none
  | some name =>
    match page.mounted? name with
    | some parent => .ok (some parent)
    | none => .error name

/-- A route is mounted and gets a name; a route that had the name is unmounted. -/
def mountAs (name : Text) (parent : Option Text) (source : RouteSource) : PageM Answer := do
  match ← takeRoute source with
  | none => return .unknown name
  | some route =>
    match (← get).parentFor parent with
    | .error name => return .unknown name
    | .ok parent =>
      match ← attach deeper route parent with
      | .error error => return .failed error
      | .ok (id, routeId) =>
        let before := (← get).mounted? name
        modify fun page => { page with
          directory := { page.directory with mounted := bind name id page.directory.mounted } }
        if let some (old, _) := before then discard (teardown deeper old)
        return .id routeId

/-- The name of a mounted route is given up and the route unmounted; the answer is the route. -/
def unmountNamed (name : Text) : PageM (Option Route) := do
  match (← get).mounted? name with
  | none => return none
  | some (id, _) =>
    forgetMounted name
    teardown deeper id

/-- The subscription of a name is given up; the answer is whether there was one. -/
def unwatchNamed (name : Text) : PageM Bool := do
  let page ← get
  match lookup? name page.directory.subscriptions with
  | none => return false
  | some subscription =>
    set { page.cancel subscription with
      directory := { page.directory with
        subscriptions := forget name page.directory.subscriptions } }
    return true

/-- A listener from outside comes to a signal under a name; one that had the name goes. -/
def watch (name : Text) (ref : SignalRef) (reactions : List Watch) : PageM Unit := do
  let page ← get
  let (subscription, page) := page.subscribe ref (.watcher page.watchers.length)
  set { page with watchers := page.watchers ++ [Watcher.mk name reactions] }
  discard (unwatchNamed name)
  modify fun page => { page with
    directory := { page.directory with
      subscriptions := bind name subscription page.directory.subscriptions } }

/-- The root is set, once and for all. -/
def setRoot (root : Text) : PageM (Except RouterError Unit) := do
  let page ← get
  match page.root? with
  | some current => return .error (.rootAlreadySet current)
  | none =>
    set { page with root? := some (normalizeRoot root) }
    return .ok ()

def registerStored (name : Text) (route : Route) : PageM Answer := do
  let page ← get
  match page.registry.add route with
  | .error error => return .failed error
  | .ok (id, route, registry) =>
    set ({ page with registry := registry }.store name route)
    return .id id

/-- **Carrying out a command.** -/
def perform : Command → PageM Answer
  | .setRoot root => return answerOf (fun _ => .nothing) (← setRoot root)
  | .push url source => do goTo deeper false url source; return .nothing
  | .replace url source => do goTo deeper true url source; return .nothing
  | .updateQuery updates => return .flag (← updateQuery deeper updates)
  | .follow href replaces => return answerOf .text (← followLink deeper href replaces)
  | .back => return .flag (← travel deeper History.back?)
  | .forward => return .flag (← travel deeper History.forward?)
  | .popState => do notify deeper .popState none; return .nothing
  | .pageLoad => do notify deeper .pageLoad none; return .nothing
  | .intercept enabled => do
    modify fun page => { page with interceptsLinks := enabled }
    return .nothing
  | .click click => handleClick deeper click
  | .mount name parent source => mountAs deeper name parent source
  | .unmount name => do
    match ← unmountNamed deeper name with
    | none => return .unknown name
    | some route =>
      modify (·.store name route)
      return .route route
  | .drop name => do
    discard (unmountNamed deeper name)
    return .nothing
  | .refresh name => withMounted name fun id _ => do
    discard (deeper (.refresh id))
    return .nothing
  | .setCacheCount name count => withMounted name fun id _ => do
    modify (·.modifyNode id fun node => { node with
      route := node.route.withCacheCount count
      cache := node.cache.setCapacity count })
    return .nothing
  | .navigate name options => withMounted name fun _ node =>
    return answerOf .text (← navigateTo deeper node options)
  | .lastMatch name => withMounted name fun _ node =>
    return .standing node.lastMatch (Outcome.tail node.lastMatch) node.mounted
  | .store name route => do
    modify (·.store name route)
    return .route route
  | .showRoute name => withStored name fun route => return .route route
  | .setPattern name pattern => withStored name fun route =>
    match route.setPattern pattern with
    | .error error => return .failed error
    | .ok route => do
      modify (·.store name route)
      return .nothing
  | .register name => withStored name (registerStored name)
  | .unregister name => withStored name fun route => do
    let page ← get
    let (found, registry) := page.registry.remove route
    set { page with registry := registry }
    return .flag found
  | .matchRoute name => withStored name fun route => do
    let page ← get
    return answerOf .outcome (route.matchUrl page.url page.root)
  | .watchLocation name reactions => do
    watch name .location reactions
    return .nothing
  | .watchTail name route reactions => withMounted route fun id _ => do
    watch name (.tailOf id) reactions
    return .nothing
  | .unwatch name => return .flag (← unwatchNamed name)
  | .veto veto => do
    modify fun page => { page with document := { page.document with veto := veto } }
    return .nothing
  | .setHooks hooks => do
    modify fun page => { page with hooks := page.hooks ++ hooks, firstHook := page.hooks.length }
    return .nothing
  | .describe .controller => return .text (← get).describeController
  | .describe .router => return .text (← get).describeRouter
  | .describe (.route name) => withMounted name fun _ node => return .text (describeNode node)

/-- **Carrying out a call.** -/
def step : Call → PageM Answer
  | .command command => perform deeper command
  | .refresh id => do refresh deeper id; return .nothing
  | .drain => do drain deeper; return .nothing

end Commands

/-! ## Any depth -/

/-- Carrying out a call to a given depth. -/
def exec : Nat → Call → PageM Answer
  | 0, _ => failure
  | depth + 1, call => step (exec depth) call

/-- How many commands the listeners and hooks of a page can lead to. -/
def weight (page : Page) : Nat :=
  page.watchers.foldr (fun watcher sum => Command.weightOfWatches watcher.reactions + sum)
    (Command.weightOfHooks page.hooks)

/-- A depth that a command needs at most: commands, nodes and waiting nodes lie between two returns.
-/
def depthFor (page : Page) (command : Command) : Nat :=
  let size := page.weight + command.weight + page.nodes.length + page.queue.pending.length + 4
  size * size * size * size

/-- **Carrying out a command**, as deeply as it takes. -/
def run (page : Page) (command : Command) : Option (Answer × Page) :=
  (exec (page.depthFor command) (.command command)).run page

end PageRouter.Page
