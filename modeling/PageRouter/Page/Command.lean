import PageRouter.Click
import PageRouter.Query
import PageRouter.Reaction
import PageRouter.Route

/-!
# Commands

Everything that can be asked of a page, as data.  Commands come from outside, and they come from the
page's own listeners and hooks, which react to what they are told with commands of their own.
Routes and listeners go by names that whoever gives the commands chooses.

A command that adds a listener holds the commands that the listener may give one day.  Its
**weight** counts them all: it bounds how many commands can follow from it.
-/

namespace PageRouter

/-! ## What listeners are told -/

inductive NavigationKind where
  | pushState
  /-- It took the place of another one. -/
  | replaceState
  /-- The page moved back or forward. -/
  | popState
  | pageLoad
  deriving DecidableEq, Repr

structure LocationEvent where
  url : Text
  kind : NavigationKind
  source : Option Text
  deriving DecidableEq, Repr

/-- The two moments at which the document can act. -/
inductive Moment where
  | activated
  /-- An element is about to be taken out. -/
  | deactivating
  deriving DecidableEq, Repr

/-- What a hook waits for: a moment, of elements with a certain tag and at a certain location, if it
says so. -/
structure HookTrigger where
  moment : Moment
  tag : Option Text
  url : Option Text
  deriving DecidableEq, Repr

/-! ## Commands -/

/-- Where a navigation to a route leads. -/
structure NavigateOptions where
  /-- Values of parameters, which count more than those of the moment. -/
  params : Params Text
  query : Query
  /-- A path to go on with behind the route's own. -/
  tail : Option Text
  /-- Whether the current location is replaced. -/
  replaces : Bool
  deriving DecidableEq

/-- A route that is to be mounted. -/
inductive RouteSource where
  | fresh (route : Route)
  /-- The stored route of a name. -/
  | stored (name : Text)
  deriving DecidableEq

inductive Described where
  | controller
  /-- What its routes have in common. -/
  | router
  | route (name : Text)
  deriving DecidableEq, Repr

/-- **What can be asked of a page.** -/
inductive Command where
  | setRoot (root : Text)
  | push (url : Text) (source : Option Text)
  | replace (url : Text) (source : Option Text)
  /-- Change the query of the current location. -/
  | updateQuery (updates : List Query.Update)
  | follow (href : Text) (replaces : Bool)
  | back
  | forward
  | popState
  /-- Tell that the page was loaded. -/
  | pageLoad
  | intercept (enabled : Bool)
  | click (click : Click)
  /-- Mount a route, below another one if a name is given. -/
  | mount (name : Text) (parent : Option Text) (source : RouteSource)
  /-- Unmount a route and store it under its name. -/
  | unmount (name : Text)
  | drop (name : Text)
  | refresh (name : Text)
  /-- Change how many elements a mounted route keeps. -/
  | setCacheCount (name : Text) (count : Nat)
  | navigate (name : Text) (options : NavigateOptions)
  /-- Tell what a mounted route has learned. -/
  | lastMatch (name : Text)
  | store (name : Text) (route : Route)
  | showRoute (name : Text)
  /-- Set the pattern of a stored route. -/
  | setPattern (name pattern : Text)
  | register (name : Text)
  /-- Take a stored route out of the registry. -/
  | unregister (name : Text)
  | matchRoute (name : Text)
  | watchLocation (name : Text) (reactions : List (Reaction (Option Text) Command))
  /-- Listen for the tail of a mounted route. -/
  | watchTail (name route : Text) (reactions : List (Reaction (Option Text) Command))
  | unwatch (name : Text)
  /-- Say whether elements are to be kept when they become inactive. -/
  | veto (veto : Bool)
  | setHooks (hooks : List (Reaction HookTrigger Command))
  /-- Describe a part of the page. -/
  | describe (what : Described)

/-- The reactions of a listener, each of which waits for one text or for any. -/
abbrev Watch := Reaction (Option Text) Command

abbrev Hook := Reaction HookTrigger Command

namespace Command

/-! ## Weights -/

mutual

/-- How many commands a command can lead to, itself included. -/
def weight : Command → Nat
  | .watchLocation _ reactions => 1 + weightOfWatches reactions
  | .watchTail _ _ reactions => 1 + weightOfWatches reactions
  | .setHooks hooks => 1 + weightOfHooks hooks
  | _ => 1

/-- How many commands the reactions of a listener can lead to. -/
def weightOfWatches : List (Reaction (Option Text) Command) → Nat
  | [] => 0
  | ⟨_, runs, commands⟩ :: rest => runs * (1 + weightOfList commands) + weightOfWatches rest

/-- How many commands hooks can lead to. -/
def weightOfHooks : List (Reaction HookTrigger Command) → Nat
  | [] => 0
  | ⟨_, runs, commands⟩ :: rest => runs * (1 + weightOfList commands) + weightOfHooks rest

/-- How many commands a list of commands can lead to. -/
def weightOfList : List Command → Nat
  | [] => 0
  | command :: rest => command.weight + weightOfList rest

end

end Command

end PageRouter
