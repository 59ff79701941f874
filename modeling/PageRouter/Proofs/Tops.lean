import PageRouter.Proofs.Queue
import PageRouter.Proofs.Sessions

/-!
# Nodes that listen for the location

Hooks may change the location while the document is busy.  The nodes that listen for it wait then, and
have their turn once the document is free again; so however navigations nest, when a command returns
every one of them has learned what there is to learn from the location that it ended at
(`no_refresh_lost`).
-/

namespace PageRouter.Page

variable {page after : Page} {command : Command} {answer : Answer}

/-- At rest, if the root was set in time, a mounted node that is matched from the location has learned
what there is to learn from it. -/
lemma AtRest.lastMatch_top (h : page.AtRest false) {id : NodeId} {node : Node}
    (hnode : page.nodes[id]? = some node) (hmounted : node.mounted)
    (hplace : node.route.place = .root) :
    node.lastMatch = node.pattern.matchPath (stripRoot page.url page.root) := by
  have hstanding : page.standings[id]? = some node.standing := standings_of_nodes hnode
  have hseat : page.seats[id]? = some node.seat := seats_of_nodes hnode
  have htop : node.seat.isTop :=
    (h.steady.sound.placed node.standing (List.mem_of_getElem? hstanding)).1 hplace
  have hright := h.right id node.standing hstanding fun hstale => absurd hstale.1 Bool.false_ne_true
  refine ((hright.live (.top hseat hmounted htop)).resolve_right ?_).trans ?_
  · rintro ⟨top, hwaits, -⟩
    rw [h.pending] at hwaits
    cases hwaits
  · rw [reads]
    show node.pattern.matchUnder node.route.place page.url page.root = _
    rw [hplace]
    rfl

/-- **No refresh is lost.**  Whatever hooks and listeners do to the location while a command is carried
out, the document is free when it returns and nobody waits; every mounted node that is matched from the
location has learned what there is to learn from the location that the page is at, and its active
element is the one for the parameters that it has learned.  No node ever waits twice: the command can
be carried out with every call checked. -/
theorem no_refresh_lost (h : Session false page) (hbrings : command.brings Command.roams)
    (htimely : page.Timely command) (hrun : page.run command = some (answer, after)) :
    after.queue = ⟨false, []⟩ ∧
    (∀ (id : NodeId) (node : Node), after.nodes[id]? = some node → node.mounted →
      node.route.place = .root →
      node.lastMatch = node.pattern.matchPath (stripRoot after.url after.root) ∧
      (node.cache.activeElement.isSome ↔ node.lastMatch.isSome) ∧
      node.cache.activeElement.map (·.params) = node.lastMatch.map (·.params)) ∧
    page.runChecked command = some (answer, after) := by
  have hrest : after.AtRest false := (h.step hbrings (.inr htimely) hrun).atRest
  refine ⟨hrest.queue_eq, fun id node hnode hmounted hplace => ?_, ?_⟩
  · have hline := hrest.steady.sound.inLine node (List.mem_of_getElem? hnode)
    exact ⟨hrest.lastMatch_top hnode hmounted hplace, hline.activeElement_isSome, hline.shown⟩
  · have hunique : page.queue.pending.Nodup := by rw [h.atRest.pending]; exact List.nodup_nil
    rw [runChecked_eq hunique, hrun]

/-- Commands that set the root, mount a route below it, and let a hook change the location as soon as an
element of the route becomes active. -/
def bouncing : List Command :=
  [ .mount "p".toList none (.fresh
      { Route.new with pattern := some "/:x".toList, element := some "p-page".toList }),
    .setHooks [⟨⟨.activated, some "p-page".toList, none⟩, 1, [.replace "/app/two".toList none]⟩] ]

/-- The page with the root, the route and the hook. -/
def bounced : Page :=
  ((Page.start (.start History.localOrigin "/".toList true)).play (.setRoot "/app".toList)).plays
    bouncing

/-- A visit to a location that the hook changes while the element for it is being put in: the route
ends at the other location. -/
theorem no_refresh_lost_bounced : ∃ after node,
    bounced.run (.push "/app/one".toList none) = some (.nothing, after) ∧
    after.queue = ⟨false, []⟩ ∧ after.nodes[0]? = some node ∧
    node.lastMatch = node.pattern.matchPath "/two".toList ∧ node.lastMatch.isSome ∧
    (node.cache.activeElement.isSome ↔ node.lastMatch.isSome) := by
  have hsession : Session false bounced :=
    ((Session.start _).play rfl (.inr fun _ _ => rfl)).plays (by decide +kernel)
  obtain ⟨answer, hrun⟩ := run_play
    (by decide +kernel : (bounced.run (.push "/app/one".toList none)).isSome)
  have hanswer : (bounced.run (.push "/app/one".toList none)).map (·.1) = some .nothing := by
    decide +kernel
  rw [hrun, Option.map_some, Option.some.injEq] at hanswer
  have htimely : bounced.Timely (.push "/app/one".toList none) :=
    fun hsets => absurd hsets Bool.false_ne_true
  obtain ⟨hqueue, htops, -⟩ := no_refresh_lost hsession rfl htimely hrun
  have hat : stripRoot (bounced.play (.push "/app/one".toList none)).url
      (bounced.play (.push "/app/one".toList none)).root = "/two".toList := by decide +kernel
  have hnodes : ((bounced.play (.push "/app/one".toList none)).nodes[0]?.map fun node =>
      (node.mounted, node.route.place, node.lastMatch.isSome)) = some (true, .root, true) := by
    decide +kernel
  obtain ⟨node, hnode, hfacts⟩ := Option.map_eq_some_iff.1 hnodes
  simp only [Prod.mk.injEq] at hfacts
  obtain ⟨hmounted, hplace, hmatches⟩ := hfacts
  obtain ⟨hmatch, hactive, -⟩ := htops 0 node hnode hmounted hplace
  rw [hat] at hmatch
  exact ⟨_, node, hanswer ▸ hrun, hqueue, hnode, hmatch, hmatches, hactive⟩

end PageRouter.Page
