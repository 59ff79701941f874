import PageRouter.Page.Telling

/-!
# Matching a node again

A node is matched against the location from its place; its elements are brought in line with what it
has learned; then it tells its tail, so that the nodes in it follow, and at last those that had to
wait get their turn.

While the elements are brought in line the document is busy, and a node that is to be matched again
waits.
-/

namespace PageRouter.Page

variable (deeper : Deeper)

/-- The tail that a place gives to the elements there. -/
def parentTail : ParentLink → Option Tail
  | .root => none
  | .child tail => tail

/-- The page with its document busy or free. -/
def setBusy (busy : Bool) : PageM Unit :=
  modify fun page => { page with queue := { page.queue with busy := busy } }

/-- What a node learns from the location. -/
def outcomeOf (page : Page) (node : Node) : Outcome :=
  node.pattern.matchUnder node.route.place page.url page.root

/-- **Matching a node again**, or letting it wait while the document is busy. -/
def refresh (id : NodeId) : PageM Unit := do
  let page ← get
  if page.queue.busy then set { page with queue := page.queue.defer id }
  else match page.nodes[id]? with
    | none => pure ()
    | some node =>
      if node.mounted then
        let outcome := page.outcomeOf node
        setBusy true
        let (_, cache) ← node.cache.update (host deeper) outcome (parentTail node.route.place)
        setBusy false
        modify (·.modifyNode id fun node => { node with cache := cache, lastMatch := outcome })
        note (.refreshed ⟨id, outcome⟩)
        emitTail deeper id outcome.tail
        discard (deeper .drain)

/-- **Matching the nodes that wait**, one after the other, until none waits. -/
def drain : PageM Unit := do
  let page ← get
  match page.queue.pending with
  | [] => pure ()
  | id :: rest =>
    set { page with queue := { page.queue with pending := rest } }
    discard (deeper (.refresh id))
    discard (deeper .drain)

end PageRouter.Page
