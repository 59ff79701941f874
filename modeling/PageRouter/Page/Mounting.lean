import PageRouter.Page.Refresh

/-!
# Mounting and unmounting

Mounting a route registers it, makes a node that listens for the location, or for the tail of the
node it is nested in, and matches it at once.  A route without a good pattern or without an element
is refused before anything changes.

Unmounting a node takes its element out and the route out of the registry, and tells the nodes in it
that there is no tail any more.  They stay mounted, and match nothing from then on.
-/

namespace PageRouter.Page

variable (deeper : Deeper)

/-- The place of a route that is mounted below a node, or below none. -/
def placeBelow : Option Node → ParentLink
  | none => .root
  | some parent => .child parent.lastMatch.tail

/-- The patterns around a route that is mounted below a node, or below none. -/
def lineageBelow : Option Node → List Text
  | none => []
  | some parent => parent.lineage ++ [parent.route.pattern.getD []]

/-- What a route listens to that is mounted below a node, or below none. -/
def signalBelow : Option NodeId → SignalRef
  | none => .location
  | some id => .tailOf id

/-- The node of a route that has just been registered; it has learned nothing yet. -/
def newNode (page : Page) (route : Route) (pattern : Pattern) (tag : Text) (parent : Option Node)
    (subscription : Subscription) : Node where
  route := route
  pattern := pattern
  lastMatch := none
  mounted := true
  cache := .new tag route.appendTo (route.cacheCount.getD page.defaultCacheCount)
  tailChanged := .empty
  lineage := lineageBelow parent
  subscription := subscription

/-- **Mounting a route** below a node, or below none.  The answer is the number of the new node. -/
def attach (route : Route) (parent : Option (NodeId × Node)) :
    PageM (Except RouterError (NodeId × RouteId)) := do
  let page ← get
  match route.compiled, route.tag with
  | .error error, _ => return .error error
  | .ok _, .error error => return .error error
  | .ok pattern, .ok tag =>
    match page.registry.add { route with place := placeBelow (parent.map (·.2)) } with
    | .error error => return .error error
    | .ok (routeId, route, registry) =>
      let id := page.nodes.length
      let (subscription, page) := page.subscribe (signalBelow (parent.map (·.1))) (.node id)
      let node := page.newNode route pattern tag (parent.map (·.2)) subscription
      set { page with registry := registry, nodes := page.nodes ++ [node] }
      discard (deeper (.refresh id))
      return .ok (id, routeId)

/-- **Unmounting a node**; the answer is its route.  A node that is not mounted stays as it is. -/
def teardown (id : NodeId) : PageM (Option Route) := do
  let page ← get
  match page.nodes[id]? with
  | none => return none
  | some node =>
    if node.mounted then
      set ((page.cancel node.subscription).modifyNode id fun node => { node with mounted := false })
      let cache ← node.cache.deactivate (host deeper)
      modify fun page =>
        let page := page.modifyNode id fun node => { node with cache := cache, lastMatch := none }
        { page with registry := (page.registry.remove node.route).2 }
      emitTail deeper id none
    return (← get).nodes[id]?.map (·.route)

end PageRouter.Page
