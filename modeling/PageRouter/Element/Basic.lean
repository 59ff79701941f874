import PageRouter.Match

/-!
# Elements and their document

An element shows a route.  It is made for the values of the route's named parameters and keeps them
for good; its query, the rest of its path and the tail of the route around it are set again and
again as the location changes.

The document that elements live in is not part of the router.  `ElementHost` is all the router asks
of it.  The document may do anything while it is told that an element becomes active or inactive,
also lead the page to another location, so its answers are computations in a monad of its choice.
-/

namespace PageRouter

structure Element where
  /-- A number that no other element of the document has. -/
  serial : Nat
  /-- The tag it was made for. -/
  tag : Text
  /-- The named parameters it was made for. -/
  params : RouteParams
  query : Query
  /-- What the route's splat stands for. -/
  splats : Params Text
  /-- The tail of the route around its route. -/
  parent : Option Tail
  deriving DecidableEq

/-- The element with the properties that change with every location. -/
def Element.refreshed (element : Element) (found : Match) (parent : Option Tail) : Element :=
  { element with query := found.queryParams, splats := found.splats, parent := parent }

/-- What the router asks of the document. -/
structure ElementHost (m : Type → Type) where
  /-- Make an element, and tell its number. -/
  create : Text → m Nat
  /-- Put an element into a container, or where the route stands. -/
  append : Option Text → Nat → m Unit
  remove : Nat → m Unit
  /-- An element has become the active one of its route. -/
  activated : Element → m Unit
  /-- An element is about to be taken out; the answer says whether it may. -/
  deactivating : Element → m Bool

inductive HostEvent where
  | created (tag : Text) (serial : Nat)
  | appended (target : Option Text) (serial : Nat)
  | removed (serial : Nat)
  | activated (serial : Nat)
  | deactivating (serial : Nat)
  deriving DecidableEq, Repr

end PageRouter
