import PageRouter.Page.Basic

/-!
# Telling listeners and asking the document

Two signals leave a node's hands: the page tells its location, and a node tells its tail.  A
listener from outside writes down what it is told and reacts; a node that listens for the location
is matched again, and one that listens for a tail takes it as its place first.

The document is told when elements become active or inactive, and its hooks react.  Which hooks
there are and where the page is are read once, before the first of them acts.
-/

namespace PageRouter.Page

variable (deeper : Deeper)

/-! ## Reactions -/

/-- Carrying out commands of a listener or a hook, with a note of each answer. -/
def performAll : List Command → PageM Unit
  | [] => pure ()
  | command :: rest => do
    note (.answered command (← deeper (.command command)))
    performAll rest

/-- The reactions of a listener from outside. -/
def reactionsOf (place : Nat) : PageM (List Watch) := do
  return match (← get).watchers[place]? with
    | some watcher => watcher.reactions
    | none => []

/-- One run of a reaction of a listener used up. -/
def useReaction (place index : Nat) : PageM Unit :=
  modify fun page => { page with
    watchers := page.watchers.modify place fun watcher =>
      { watcher with reactions := Reaction.useUp index watcher.reactions } }

/-- A listener from outside is told something: it writes it down and reacts to its key. -/
def tellWatcher (place : Nat) (event : Text → PageEvent) (key : Text) : PageM Unit := do
  match (← get).watchers[place]? with
  | none => pure ()
  | some watcher => do
    note (event watcher.name)
    Reaction.offer (reactionsOf place) (useReaction place) (Reaction.isDue key)
      (performAll deeper) (List.range watcher.reactions.length)

/-! ## Locations -/

/-- A listener is told a change of the location. -/
def tellLocation (event : LocationEvent) : Listener → PageM Unit
  | .node id => discard (deeper (.refresh id))
  | .watcher place => tellWatcher deeper place (.location place · event) event.url

/-- **Telling the location** to everyone who listens. -/
def notify (kind : NavigationKind) (source : Option Text) : PageM Unit := do
  let event := ⟨(← get).url, kind, source⟩
  Signal.emit (return (← get).locationChanged) (tellLocation deeper event)

/-! ## Tails -/

/-- What a listener for tails waits for: the path that is left, or nothing. -/
def tailKey : Option Tail → Text
  | some tail => tail.path
  | none => []

/-- A listener is told a tail.  A node takes it as its place and is matched again. -/
def tellTail (tail : Option Tail) : Listener → PageM Unit
  | .node id => do
    modify (·.modifyNode id fun node =>
      { node with route := { node.route with place := .child tail } })
    discard (deeper (.refresh id))
  | .watcher place => tellWatcher deeper place (.tail place · tail) (tailKey tail)

/-- **Telling the tail of a node** to everyone who listens. -/
def emitTail (id : NodeId) (tail : Option Tail) : PageM Unit :=
  Signal.emit (return (← get).signal (.tailOf id)) (tellTail deeper tail)

/-! ## The document -/

/-- Whether a hook waits for a moment of an element at a location. -/
def hookDue (moment : Moment) (tag url : Text) (trigger : HookTrigger) : Bool :=
  trigger.moment = moment && Reaction.isDue tag trigger.tag && Reaction.isDue url trigger.url

/-- The hooks in force react to a moment of an element. -/
def runHooks (moment : Moment) (tag : Text) : PageM Unit := do
  let page ← get
  let inForce := List.range' page.firstHook (page.hooks.length - page.firstHook)
  Reaction.offer (return (← get).hooks)
    (fun index => modify fun page => { page with hooks := Reaction.useUp index page.hooks })
    (hookDue moment tag page.url) (performAll deeper) inForce

/-- A change of the document and a note of it. -/
def record (event : HostEvent) (change : Document → Document) : PageM Unit :=
  modify fun page => { page with
    document := change page.document
    events := .host event :: page.events }

/-- **The page's document**, as the router asks it. -/
def host : ElementHost PageM where
  create tag := do
    let serial := (← get).document.made + 1
    record (.created tag serial) Document.create
    return serial
  append target serial := record (.appended target serial) (·.append serial)
  remove serial := record (.removed serial) (·.remove serial)
  activated element := do
    record (.activated element.serial) id
    runHooks deeper .activated element.tag
  deactivating element := do
    record (.deactivating element.serial) id
    runHooks deeper .deactivating element.tag
    return !(← get).document.veto

end PageRouter.Page
