import PageRouter.Element.Cache
import PageRouter.Element.Document
import PageRouter.History
import PageRouter.Page.Command
import PageRouter.Registry
import PageRouter.Signal

/-!
# Pages

A page has a location, and routes mounted into it.  Each mounted route is a **node**: it knows the
place it is matched from, what it has learned last, and the elements it keeps; a nested route
listens for the tail of the node around it, and all others listen for the location.  Nodes that have
been unmounted stay in the list, so that a node's number means the same node for good.

While a node brings its elements in line the document is busy, and what the document does in that
time must not reach other nodes' elements.  Nodes that ought to be matched again meanwhile wait in a
queue, each at most once.
-/

namespace PageRouter

open Text

/-- The number of a node: its place in the list of all nodes of a page. -/
abbrev NodeId := Nat

/-- Who listens: a node, or a listener from outside by its place in the list of all. -/
inductive Listener where
  | node (id : NodeId)
  | watcher (place : Nat)
  deriving DecidableEq, Repr

/-- The two kinds of signals of a page. -/
inductive SignalRef where
  /-- The signal that tells the location. -/
  | location
  /-- The signal that tells the tail of a node. -/
  | tailOf (id : NodeId)
  deriving DecidableEq, Repr

/-- A place in the list of a signal's listeners. -/
structure Subscription where
  signal : SignalRef
  number : Nat
  deriving DecidableEq, Repr

/-! ## Nodes -/

/-- **A mounted route.** -/
structure Node where
  /-- The route, with the place it is matched from. -/
  route : Route
  pattern : Pattern
  lastMatch : Outcome
  mounted : Bool
  cache : ElementCache
  /-- Tells its tail to the nodes in it. -/
  tailChanged : Signal Listener
  /-- The patterns of the routes around it, the outermost first. -/
  lineage : List Text
  subscription : Subscription

/-! ## What is known from outside -/

inductive Answer where
  | nothing
  | flag (value : Bool)
  | text (value : Text)
  | id (id : RouteId)
  | route (route : Route)
  | outcome (outcome : Outcome)
  /-- What a mounted route has learned, its tail, and whether it is mounted. -/
  | standing (outcome : Outcome) (tail : Option Tail) (mounted : Bool)
  /-- The click was left to the browser, and whether the browser may act. -/
  | ignored (reason : IgnoreReason) (prevented : Bool)
  /-- The click led to a location, and whether the browser may act. -/
  | navigated (url : Text) (kind : NavigationKind) (prevented : Bool)
  | failed (error : RouterError)
  | unknown (name : Text)
  deriving DecidableEq

/-- A node was matched again: which one, and what it learned. -/
structure Visit where
  node : NodeId
  outcome : Outcome
  deriving DecidableEq

inductive PageEvent where
  | host (event : HostEvent)
  /-- A listener was told a change of the location. -/
  | location (place : Nat) (name : Text) (event : LocationEvent)
  /-- A listener was told the tail of a node. -/
  | tail (place : Nat) (name : Text) (tail : Option Tail)
  /-- A command of a listener or a hook was answered. -/
  | answered (command : Command) (answer : Answer)
  | refreshed (visit : Visit)

structure Watcher where
  name : Text
  /-- Its reactions, with the runs they have left. -/
  reactions : List Watch

/-- The names given to things of a page. -/
structure Directory where
  mounted : List (Text × NodeId)
  stored : List (Text × Route)
  subscriptions : List (Text × Subscription)

/-! ## Pages -/

/-- The nodes that wait for the document. -/
structure RefreshQueue where
  busy : Bool
  /-- The nodes that wait, the first to go in front. -/
  pending : List NodeId
  deriving DecidableEq, Repr

/-- The queue with one more node, unless it waits already. -/
def RefreshQueue.defer (queue : RefreshQueue) (id : NodeId) : RefreshQueue :=
  if id ∈ queue.pending then queue else { queue with pending := queue.pending ++ [id] }

/-- **A page.** -/
structure Page where
  /-- Where it is and has been. -/
  history : History
  /-- The root of its locations, once it is set. -/
  root? : Option Text
  registry : Registry
  locationChanged : Signal Listener
  interceptsLinks : Bool
  /-- How many elements a route keeps that says nothing about it. -/
  defaultCacheCount : Nat
  /-- The nodes that wait for the document. -/
  queue : RefreshQueue
  nodes : List Node
  document : Document
  /-- All listeners from outside there have been. -/
  watchers : List Watcher
  hooks : List Hook
  /-- The first of the hooks that are in force, which are all from there on. -/
  firstHook : Nat
  directory : Directory
  /-- What has happened, the latest first. -/
  events : List PageEvent

namespace Page

def start (history : History) : Page where
  history := history
  root? := none
  registry := .empty
  locationChanged := .empty
  interceptsLinks := true
  defaultCacheCount := leastCacheCount
  queue := ⟨false, []⟩
  nodes := []
  document := .empty
  watchers := []
  hooks := []
  firstHook := 0
  directory := ⟨[], [], []⟩
  events := []

/-- The root of the page's locations. -/
def root (page : Page) : Text :=
  page.root?.getD ['/']

def url (page : Page) : Text :=
  page.history.location

/-- The page with one node changed. -/
def modifyNode (page : Page) (id : NodeId) (change : Node → Node) : Page :=
  { page with nodes := page.nodes.modify id change }

/-- The signal that a reference means; a node that does not exist tells nobody anything. -/
def signal (page : Page) : SignalRef → Signal Listener
  | .location => page.locationChanged
  | .tailOf id => match page.nodes[id]? with
    | some node => node.tailChanged
    | none => .empty

/-- The page with one signal changed. -/
def modifySignal (page : Page) (ref : SignalRef) (change : Signal Listener → Signal Listener) : Page :=
  match ref with
  | .location => { page with locationChanged := change page.locationChanged }
  | .tailOf id => page.modifyNode id fun node => { node with tailChanged := change node.tailChanged }

/-- The page with a new listener to a signal, and the listener's place there. -/
def subscribe (page : Page) (ref : SignalRef) (listener : Listener) : Subscription × Page :=
  (⟨ref, (page.signal ref).nextNumber⟩, page.modifySignal ref (·.subscribe listener))

def cancel (page : Page) (subscription : Subscription) : Page :=
  page.modifySignal subscription.signal (·.cancel subscription.number)

/-! ## Names -/

/-- The first thing of a name. -/
def lookup? {α : Type} (name : Text) (names : List (Text × α)) : Option α :=
  (names.find? (·.1 = name)).map (·.2)

def forget {α : Type} (name : Text) (names : List (Text × α)) : List (Text × α) :=
  names.filter (·.1 ≠ name)

/-- Names with one given to something, and to nothing else. -/
def bind {α : Type} (name : Text) (value : α) (names : List (Text × α)) : List (Text × α) :=
  forget name names ++ [(name, value)]

def mounted? (page : Page) (name : Text) : Option (NodeId × Node) :=
  (lookup? name page.directory.mounted).bind fun id => page.nodes[id]?.map (id, ·)

/-- The stored route of a name. -/
def stored? (page : Page) (name : Text) : Option Route :=
  lookup? name page.directory.stored

/-- The page with a route stored under a name. -/
def store (page : Page) (name : Text) (route : Route) : Page :=
  { page with directory := { page.directory with stored := bind name route page.directory.stored } }

/-! ## Computations on a page -/

/-- Computations on a page, which may run out of depth. -/
abbrev PageM := StateT Page Option

def note (event : PageEvent) : PageM Unit :=
  modify fun page => { page with events := event :: page.events }

end Page

/-! ## Calls

What a page does nests: telling the location matches nodes again, which makes the document act,
which gives commands, which tell another location.  A **call** is a point at which this nesting may
go one level deeper.
-/

/-- A point at which what a page does goes one level deeper. -/
inductive Call where
  | command (command : Command)
  | refresh (id : NodeId)
  /-- The nodes that wait are matched again. -/
  | drain

/-- What carries out the calls of the next level. -/
abbrev Deeper := Call → Page.PageM Answer

end PageRouter
