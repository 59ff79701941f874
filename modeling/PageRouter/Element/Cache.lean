import PageRouter.Element.Basic
import PageRouter.Route

/-!
# The element cache

A route keeps the elements it has made, the one most recently active in front, and comes back to one
of them when its parameters come back.  At most one is active, and that is the first.

`ElementCache.update` brings the cache in line with what the route has learned from a location.  If
the parameters are those of the active element, the element stays and only its changing properties
are set.  Otherwise the active element goes, and the element for the new parameters, kept or made,
is put in; then the oldest ones beyond the cache's capacity are forgotten.
-/

namespace PageRouter

structure ElementCache where
  tag : Text
  /-- The container they are put into. -/
  appendTo : Option Text
  capacity : Nat
  /-- The elements, the one most recently active first. -/
  elements : List Element
  /-- Whether the first element is active. -/
  active : Bool
  deriving DecidableEq

inductive CacheUpdate where
  /-- Nothing was active and nothing is. -/
  | idle
  | created
  /-- A kept element is active again. -/
  | reused
  | refreshed
  | deactivated
  deriving DecidableEq, Repr

namespace ElementCache

def new (tag : Text) (appendTo : Option Text) (capacity : Nat) : ElementCache :=
  ⟨tag, appendTo, clampCacheCount capacity, [], false⟩

def activeElement (cache : ElementCache) : Option Element :=
  if cache.active then cache.elements.head? else none

/-- The cache with another capacity; the oldest elements that no longer fit are forgotten. -/
def setCapacity (cache : ElementCache) (count : Nat) : ElementCache :=
  { cache with
    capacity := clampCacheCount count
    elements := cache.elements.take (clampCacheCount count) }

variable {m : Type → Type} [Monad m]

/-- **Making the active element inactive**, if there is one.  The document may keep it. -/
def deactivate (host : ElementHost m) (cache : ElementCache) : m ElementCache := do
  if let some element := cache.activeElement then
    if ← host.deactivating element then
      host.remove element.serial
  return { cache with active := false }

/-- The kept element for a match, and the elements without it. -/
def takeOut (params : RouteParams) (elements : List Element) : Option Element × List Element :=
  (elements.find? (·.params = params), elements.eraseP (·.params = params))

/-- The element for a match: the kept one with fresh properties, or a new one. -/
def elementFor (host : ElementHost m) (tag : Text) (kept : Option Element) (found : Match)
    (parent : Option Tail) : m Element :=
  match kept with
  | some element => pure (element.refreshed found parent)
  | none => do
    let serial ← host.create tag
    pure ⟨serial, tag, found.params, found.queryParams, found.splats, parent⟩

/-- **Making the element for a match active.**  The answer is the element, whether it was kept, and
the cache. -/
def activate (host : ElementHost m) (cache : ElementCache) (found : Match) (parent : Option Tail) :
    m (Element × Bool × ElementCache) := do
  let cache ← cache.deactivate host
  let (kept, others) := takeOut found.params cache.elements
  let element ← elementFor host cache.tag kept found parent
  host.append cache.appendTo element.serial
  host.activated element
  return (element, kept.isSome,
    { cache with elements := (element :: others).take cache.capacity, active := true })

/-- Whether the active element was made for these parameters. -/
def shows (cache : ElementCache) (params : RouteParams) : Bool :=
  match cache.activeElement with
  | some element => element.params = params
  | none => false

/-- The cache with fresh properties on its first element. -/
def refreshFirst (cache : ElementCache) (found : Match) (parent : Option Tail) : ElementCache :=
  match cache.elements with
  | [] => cache
  | element :: others => { cache with elements := element.refreshed found parent :: others }

/-- **Bringing the cache in line with an outcome.** -/
def update (host : ElementHost m) (cache : ElementCache) (outcome : Outcome)
    (parent : Option Tail) : m (CacheUpdate × ElementCache) :=
  match outcome with
  | none =>
    if cache.active then do return (.deactivated, ← cache.deactivate host)
    else pure (.idle, cache)
  | some found =>
    if cache.shows found.params then pure (.refreshed, cache.refreshFirst found parent)
    else do
      let (_, kept, cache) ← cache.activate host found parent
      return (if kept then .reused else .created, cache)

end ElementCache

end PageRouter
