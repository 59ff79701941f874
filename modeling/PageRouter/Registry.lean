import PageRouter.Route

/-!
# The registry

The routes that are in use, in the order in which they came, each with its compiled pattern.  A
route that comes for the first time gets the next number; one that comes again keeps its id, and if
it is still there, its place.

`Registry.handles` asks whether any route is interested in a location.  Nested routes are asked
directly, with the whole location, although they see a part of it when they are matched.
-/

namespace PageRouter

structure RegisteredRoute where
  id : RouteId
  pattern : Pattern

structure Registry where
  /-- The routes in the order in which they came. -/
  entries : List RegisteredRoute
  /-- The number of the next id. -/
  nextSequence : Nat

namespace Registry

/-- No routes; the first id will be number 1. -/
def empty : Registry := ⟨[], 1⟩

def ids (registry : Registry) : List RouteId :=
  registry.entries.map (·.id)

def get? (registry : Registry) (id : RouteId) : Option RegisteredRoute :=
  registry.entries.find? (·.id = id)

def contains (registry : Registry) (id : RouteId) : Bool :=
  (registry.get? id).isSome

/-- Entries with one put in: in the place of the one with its id, or at the end. -/
def put (entry : RegisteredRoute) : List RegisteredRoute → List RegisteredRoute
  | [] => [entry]
  | other :: rest => if other.id = entry.id then entry :: rest else other :: put entry rest

/-- The id of a route to be registered, and the registry after it was given out. -/
def issue (registry : Registry) (route : Route) (pattern : Pattern) : RouteId × Registry :=
  match route.id with
  | some id => (id, registry)
  | none =>
    (⟨registry.nextSequence, pattern.text⟩,
      { registry with nextSequence := registry.nextSequence + 1 })

/-- **Registering a route** under its id, or under a new one.  A route without a good pattern leaves
everything as it is. -/
def add (registry : Registry) (route : Route) :
    Except RouterError (RouteId × Route × Registry) :=
  match route.compiled with
  | .error error => .error error
  | .ok pattern =>
    let (id, registry) := registry.issue route pattern
    .ok (id, { route with id := some id },
      { registry with entries := put ⟨id, pattern⟩ registry.entries })

/-- Taking a route out, and whether it was there. -/
def remove (registry : Registry) (route : Route) : Bool × Registry :=
  match route.id with
  | none => (false, registry)
  | some id =>
    (registry.contains id, { registry with entries := registry.entries.filter (·.id ≠ id) })

/-- Whether any route's pattern matches a location below the root. -/
def handles (registry : Registry) (url root : Text) : Bool :=
  registry.entries.any fun entry => (entry.pattern.matchPath (stripRoot url root)).isSome

end Registry

end PageRouter
