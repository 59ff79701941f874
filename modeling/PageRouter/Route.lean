import PageRouter.Match
import PageRouter.Error

/-!
# Routes

A route binds a pattern to the element that is shown where the pattern matches.  It is built step by
step and may lack any of its parts until it is used; what is missing then is an error.

A route gets its id when it is registered for the first time, and keeps it.  The id serves to name
the route to a reader; matching does not look at it.
-/

namespace PageRouter

open Text

/-- The name of a registered route: a number that no other route has, and the pattern it had. -/
structure RouteId where
  sequence : Nat
  pattern : Text
  deriving DecidableEq, Repr

def RouteId.text (id : RouteId) : Text :=
  ofNat id.sequence ++ ':' :: id.pattern

/-- The least number of elements that a route keeps. -/
def leastCacheCount : Nat := 1

/-- A number of elements that a route can keep. -/
def clampCacheCount (count : Nat) : Nat :=
  max leastCacheCount count

/-- **A route.** -/
structure Route where
  /-- Its id, once it has been registered. -/
  id : Option RouteId
  pattern : Option Text
  /-- The place it is matched from. -/
  place : ParentLink
  /-- The tag of the element it shows. -/
  element : Option Text
  /-- The container its element is put into. -/
  appendTo : Option Text
  cacheCount : Option Nat
  deriving DecidableEq

namespace Route

def new : Route :=
  ⟨none, none, .root, none, none, none⟩

/-- The route with a pattern, whatever it had before. -/
def withPattern (route : Route) (pattern : Text) : Route :=
  { route with pattern := some pattern }

/-- The route with the number of elements to keep. -/
def withCacheCount (route : Route) (count : Nat) : Route :=
  { route with cacheCount := some (clampCacheCount count) }

/-- **Setting the pattern of a finished route.**  A pattern that is there can be set again but not
changed. -/
def setPattern (route : Route) (pattern : Text) : Except RouterError Route :=
  match route.pattern with
  | none => .ok (route.withPattern pattern)
  | some current => if current = pattern then .ok route else .error (.patternImmutable current)

def compiled (route : Route) : Except RouterError Pattern :=
  match route.pattern with
  | none => .error .missingPattern
  | some text => (Pattern.compile text).mapError (.invalidPattern text)

/-- What the route learns from a location. -/
def matchUrl (route : Route) (url root : Text) : Except RouterError Outcome :=
  route.compiled.map fun pattern => pattern.matchUnder route.place url root

/-- What the route is called where something is missing. -/
def label (route : Route) : Text :=
  match route.id, route.pattern with
  | some id, _ => id.text
  | none, some pattern => pattern
  | none, none => "<unnamed route>".toList

/-- The tag of the route's element. -/
def tag (route : Route) : Except RouterError Text :=
  match route.element with
  | some tag => .ok tag
  | none => .error (.missingElement route.label)

end Route

end PageRouter
