import PageRouter.Proofs.Tellings
import PageRouter.Proofs.Walks

/-!
# Navigations that nobody interferes with

If hooks and listeners do not change the location or the forest, a navigation matches the live nodes
one after the other in preorder, each once, and each learns what it is expected to.

`Toured ids page after` says what visits of some nodes have done, and adds up (`Toured.trans`); `Tours`
says of a computation that it ends with such visits.  A telling tours the subtrees of those who listen
(`emit_tours`), so a node that is matched tours its own (`exec_reaches`).  Nodes are younger than the ones
that they are nested in, which bounds the depth that this takes.
-/

namespace PageRouter.Page

variable {scope : Scope} {page mid after : Page} {id : NodeId} {ids ids' : List NodeId}

/-! ## Tours -/

/-- **Some nodes have been visited**, one after the other, and have learned what is expected of
them. -/
structure Toured (ids : List NodeId) (page after : Page) : Prop where
  forest : SameForest page after
  history : after.history = page.history
  queue : after.queue = page.queue
  visits : after.visits = page.visits ++ ids.map fun id => ⟨id, page.expected id⟩
  learned : ∀ id ∈ ids, ∃ standing, after.standings[id]? = some standing ∧
    standing.lastMatch = page.expected id
  /-- A nested node is in the place that the node around it is expected to give to it. -/
  placed : ∀ id ∈ ids, ∀ seat parent, page.seats[id]? = some seat → seat.isIn parent →
    after.placeOf id = .child (Outcome.tail (page.expected parent))
  others : ∀ id, id ∉ ids → after.standings[id]? = page.standings[id]?

/-- A computation ends after a tour. -/
def Tours {α : Type} (scope : Scope) (c : PageM α) (ids : List NodeId) (page : Page) : Prop :=
  Leads true c page fun _ after => Steady Command.isInert scope after ∧ Toured ids page after

/-- What is expected of nodes is a matter of the forest and the location. -/
lemma SameForest.expected (h : SameForest page after) (hhistory : after.history = page.history) :
    after.expected = page.expected := by
  refine expected_congr ?_ ?_ h.seats
  · rw [Page.url, hhistory, Page.url]
  · rw [Page.root, h.root, Page.root]

lemma Toured.of_same (h : Same page after) : Toured [] page after where
  forest := h.forest
  history := h.history
  queue := h.queue
  visits := by rw [h.visits, List.map_nil, List.append_nil]
  learned := fun _ hid => by cases hid
  placed := fun _ hid => by cases hid
  others := fun _ _ => by rw [h.standings]

/-- **One tour after the other.** -/
lemma Toured.trans (h : Toured ids page mid) (h' : Toured ids' mid after) :
    Toured (ids ++ ids') page after := by
  have hexpected := h.forest.expected h.history
  refine ⟨h.forest.trans h'.forest, h'.history.trans h.history, h'.queue.trans h.queue, ?_, ?_, ?_, ?_⟩
  · rw [h'.visits, h.visits, hexpected, List.map_append, List.append_assoc]
  · intro id hid
    by_cases hlater : id ∈ ids'
    · rw [← hexpected]
      exact h'.learned id hlater
    · rw [h'.others id hlater]
      exact h.learned id ((List.mem_append.1 hid).resolve_right hlater)
  · intro id hid seat parent hseat hin
    by_cases hlater : id ∈ ids'
    · rw [← hexpected]
      exact h'.placed id hlater seat parent (h.forest.seats ▸ hseat) hin
    · rw [placeOf, h'.others id hlater]
      exact h.placed id ((List.mem_append.1 hid).resolve_right hlater) seat parent hseat hin
  · intro id hid
    rw [List.mem_append, not_or] at hid
    exact (h'.others id hid.2).trans (h.others id hid.1)

/-- A node that is visited anyway may be put in another place before. -/
lemma Toured.of_withPlace {tail : Option Tail} (h : Toured ids (page.withPlace id tail) after)
    (hid : id ∈ ids) : Toured ids page after := by
  have hforest := SameForest.withPlace page id tail
  have hexpected : (page.withPlace id tail).expected = page.expected := hforest.expected rfl
  refine ⟨hforest.trans h.forest, h.history, h.queue, ?_, ?_, ?_, ?_⟩
  · rw [h.visits, hexpected]
    rfl
  · exact hexpected ▸ h.learned
  · intro other hother seat parent hseat hin
    rw [← hexpected]
    exact h.placed other hother seat parent (hforest.seats ▸ hseat) hin
  · intro other hother
    have hne : id ≠ other := by
      rintro rfl
      exact hother hid
    rw [h.others other hother, getElem?_standings_withPlace]
    simp only [hne, if_false, Option.map_id']

/-- The node is in the place that the node around it, if there is one, is expected to give to it. -/
def Placed (page : Page) (id : NodeId) (node : Node) : Prop :=
  ∀ parent, node.seat.isIn parent → page.placeOf id = .child (Outcome.tail (page.expected parent))

/-- A node settles with what is expected of it. -/
lemma Toured.settled {lined : Page} (h : Same page.occupied lined)
    (hfree : page.queue.busy = false) {node : Node} (hnode : page.nodes[id]? = some node)
    (hplaced : page.Placed id node) (cache : ElementCache) :
    Toured [id] page (lined.settled id cache (page.expected id)) := by
  have hstandings : (lined.settled id cache (page.expected id)).standings
      = (lined.learned id cache (page.expected id)).standings := rfl
  refine ⟨?_, h.history, ?_, ?_, ?_, ?_, ?_⟩
  · exact ((SameForest.withQueue page _).trans h.forest).trans (.settled lined id cache _)
  · show { lined.queue with busy := false } = page.queue
    rw [h.queue, ← hfree]
    rfl
  · rw [visits_settled, h.visits]
    rfl
  · intro other hother
    obtain rfl := List.mem_singleton.1 hother
    have hstanding : lined.standings[other]? = some node.standing := by
      rw [h.standings]
      exact standings_of_nodes hnode
    rw [hstandings, getElem?_standings_learned, hstanding, Option.map_some, if_pos rfl]
    exact ⟨_, rfl, rfl⟩
  · intro other hother seat parent hseat hin
    obtain rfl := List.mem_singleton.1 hother
    rw [seats_of_nodes hnode, Option.some.injEq] at hseat
    subst hseat
    rw [placeOf_settled, placeOf, h.standings]
    exact hplaced parent hin
  · intro other hother
    have hne : id ≠ other := fun h => hother (List.mem_singleton.2 h.symm)
    rw [hstandings, getElem?_standings_learned, h.standings]
    simp only [hne, if_false, Option.map_id']
    rfl

/-! ## Hooks and listeners -/

/-- Nothing that matching looks at is a relation that small changes are part of. -/
lemma Lasting.same : Lasting Same := ⟨.refl, .trans, Aside.same⟩

/-- Commands that change nothing that matching looks at are carried out at any depth. -/
lemma exec_inert {command : Command} (hinert : command.isInert)
    (hbrings : command.brings Command.isInert) (hsteady : Steady Command.isInert scope page)
    (depth : Nat) :
    Keeps true Command.isInert scope Same (exec (depth + 1) (.command command)) page :=
  (perform_inert hsteady hinert hbrings).mono fun _ _ hafter => ⟨hafter.steady, hafter.same⟩

lemma exec_tellWatcher {place : Nat} (hmeant : scope.watchers place)
    (hsteady : Steady Command.isInert scope page) (told : Text → PageEvent) (key : Text)
    (htold : ∀ name, (told name).visit? = none) (depth : Nat) :
    Keeps true Command.isInert scope Same (tellWatcher (exec (depth + 1)) place told key) page :=
  tellWatcher_keeps Lasting.same (fun _ hinert hbrings _ hpage =>
    exec_inert hinert hbrings hpage depth) hmeant htold hsteady

/-! ## Tellings -/

def callees (rest : List (Nat × Listener)) : List NodeId :=
  rest.filterMap fun
    | (_, .node id) => some id
    | (_, .watcher _) => none

lemma callees_eq_nodes (signal : Signal Listener) :
    callees signal.listeners = signal.nodes.map (·.2) := by
  simp only [callees, Signal.nodes, List.map_filterMap]
  congr 1
  funext ⟨number, listener⟩
  cases listener <;> rfl

/-- The nodes that a signal calls are those that listen to it, in the order of the forest. -/
lemma Sound.callees_eq (h : page.Sound) (ref : SignalRef) :
    callees (page.signal ref).listeners = listenersTo page.seats ref := by
  have hnodes := callees_eq_nodes (page.signal ref)
  have hsorted : (callees (page.signal ref).listeners).Pairwise (· < ·) := hnodes ▸ h.inOrder ref
  refine hsorted.eq_of_mem_iff (listenersTo_sorted page.seats ref) fun id => ?_
  rw [mem_listenersTo, ← h.calls_iff, hnodes, List.mem_map]
  constructor
  · rintro ⟨⟨number, _⟩, hmem, rfl⟩
    exact ⟨number, Signal.mem_nodes.1 hmem⟩
  · rintro ⟨number, hmem⟩
    exact ⟨(number, id), Signal.mem_nodes.2 hmem, rfl⟩

/-- **A telling** tours the subtrees of those who listen, if each call tours the one of its node. -/
lemma emit_tours {ref : SignalRef} {call : Listener → PageM Unit}
    (hsteady : Steady Command.isInert scope page)
    (hnode : ∀ id now, id ∈ listenersTo page.seats ref → Steady Command.isInert scope now →
      SameForest page now → now.history = page.history → now.queue = page.queue →
      Tours scope (call (.node id)) (subtree page.seats id) now)
    (hwatcher : ∀ place now, scope.watchers place → Steady Command.isInert scope now →
      Keeps true Command.isInert scope Same (call (.watcher place)) now) :
    Tours scope (Signal.emit (return (← get).signal ref) call)
      ((listenersTo page.seats ref).flatMap (subtree page.seats)) page := by
  refine (leads_tell hsteady.sound (fun rest now => Steady Command.isInert scope now ∧
    ∃ ids, Toured ids page now ∧ ids ++ (callees rest).flatMap (subtree page.seats)
      = (listenersTo page.seats ref).flatMap (subtree page.seats)) ?_ ?_ ?_ ?_ ?_).mono ?_
  case refine_1 => exact fun _ now ⟨_, _, htoured, _⟩ => htoured.forest
  case refine_2 =>
    rintro number id rest now ⟨hnow, ids, htoured, hids⟩ - hlistens
    refine (hnode id now (mem_listenersTo.2 hlistens) hnow htoured.forest htoured.history
      htoured.queue).mono ?_
    rintro _ after ⟨hafter, hvisited⟩
    refine ⟨hafter, _, htoured.trans hvisited, ?_⟩
    rw [← hids, List.append_assoc]
    rfl
  case refine_3 =>
    rintro number place rest now ⟨hnow, ids, htoured, hids⟩ hmem
    refine (hwatcher place now (hsteady.obeys.listening ref number place hmem) hnow).mono ?_
    rintro _ after ⟨hafter, hsame⟩
    exact ⟨hafter, _, htoured.trans (.of_same hsame), by rw [List.append_nil]; exact hids⟩
  case refine_4 => exact fun _ _ _ _ hnow => hnow
  case refine_5 =>
    exact ⟨hsteady, [], .of_same (.refl page), by rw [hsteady.sound.callees_eq]; rfl⟩
  case refine_6 =>
    rintro _ after ⟨hafter, ids, htoured, hids⟩
    rw [callees, List.filterMap_nil, List.flatMap_nil, List.append_nil] at hids
    exact ⟨hafter, hids ▸ htoured⟩

/-! ## Nodes that are matched -/

/-- Matching a node again tours the nodes in it, as far down as calls of a depth can go. -/
def Reaches (scope : Scope) (depth : Nat) : Prop :=
  ∀ id node page, page.nodes[id]? = some node → node.mounted →
    Steady Command.isInert scope page → page.queue = ⟨false, []⟩ →
    page.outcomeOf node = page.expected id → page.Placed id node →
    page.nodes.length < id + depth →
    Tours scope (exec depth (.refresh id)) (subtree page.seats id) page

/-- The nodes in a node, when its tail is told: each takes the tail as its place and is matched. -/
lemma Reaches.emitTail {depth : Nat} (h : Reaches scope (depth + 1))
    (hsteady : Steady Command.isInert scope page) (hqueue : page.queue = ⟨false, []⟩)
    (hdepth : page.nodes.length ≤ id + (depth + 1)) :
    Tours scope (emitTail (exec (depth + 1)) id (page.expected id).tail)
      ((listenersTo page.seats (.tailOf id)).flatMap (subtree page.seats)) page := by
  refine emit_tours hsteady ?_ ?_
  · intro child now hchild hnow hforest hhistory hqueueNow
    obtain ⟨seat, hseat, hmounted, hsignal⟩ := mem_listenersTo.1 hchild
    have hin : seat.isIn id := ⟨hmounted, hsignal⟩
    have hseatNow : now.seats[child]? = some seat := hforest.seats ▸ hseat
    obtain ⟨node, hnode, rfl⟩ := exists_node hseatNow
    have hplaced := SameForest.withPlace now child (page.expected id).tail
    have hseats := hplaced.seats.trans hforest.seats
    have hlength : (now.withPlace child (page.expected id).tail).nodes.length = page.nodes.length :=
      (hforest.trans hplaced).length
    have hlt : id < child := hsteady.sound.elder child _ id hseat hsignal
    simp only [Tours, tellTail, leads_bind, leads_modify, leads_discard]
    refine (h child _ (now.withPlace child (page.expected id).tail) (getElem?_modifyNode_self hnode)
      hmounted (hnow.withPlace hseatNow hin) (hqueueNow.trans hqueue) ?_ ?_ ?_).mono ?_
    · rw [hplaced.expected rfl, expected_nested hnow.sound.elder hseatNow hin,
        hforest.expected hhistory]
      rfl
    · intro parent hinParent
      obtain rfl := SignalRef.tailOf.inj (hin.2.symm.trans hinParent.2)
      rw [hplaced.expected rfl, hforest.expected hhistory, placeOf_withPlace hseatNow]
    · rw [hlength]
      exact Nat.lt_of_le_of_lt hdepth (Nat.add_lt_add_right hlt _)
    · rintro _ after ⟨hafter, htoured⟩
      rw [hseats] at htoured
      refine ⟨hafter, htoured.of_withPlace ?_⟩
      rw [mem_subtree hsteady.sound.elder (lt_of_mem_listenersTo hchild)]
      exact .self
  · intro place now hmeant hnow
    exact exec_tellWatcher hmeant hnow (.tail place · (page.expected id).tail) _ (fun _ => rfl) depth

/-- **A node that is matched** tours the nodes in it. -/
theorem exec_reaches (scope : Scope) (depth : Nat) : Reaches scope depth := by
  induction depth with
  | zero =>
      intro id node page hnode _ _ _ _ _ hdepth
      exact absurd hdepth (Nat.not_lt.2 (Nat.le_of_lt (List.getElem?_eq_some_iff.1 hnode).1))
  | succ depth ih =>
      intro id node page hnode hmounted hsteady hqueue hexpected hplaced hdepth
      have hid : id < page.nodes.length := (List.getElem?_eq_some_iff.1 hnode).1
      have hseat : page.seats[id]? = some node.seat := seats_of_nodes hnode
      have hfree : page.queue.busy = false := by rw [hqueue]
      obtain ⟨depth, rfl⟩ : ∃ less, depth = less + 1 := by
        refine Nat.exists_eq_add_one_of_ne_zero ?_
        rintro rfl
        exact absurd hdepth (Nat.not_lt.2 hid)
      rw [Tours, leads_exec_refresh, leads_refresh hfree hnode hmounted]
      refine (update_keeps Lasting.same (fun command hinert hbrings page hpage =>
        exec_inert hinert hbrings hpage depth)
        (hsteady.sound.inLine node (List.mem_of_getElem? hnode)) (page.outcomeOf node) _
        hsteady.occupied).mono ?_
      rintro ⟨_, cache⟩ lined ⟨⟨hlined, hsame⟩, hcache⟩
      rw [hexpected] at hcache ⊢
      have hvisited : Toured [id] page (lined.settled id cache (page.expected id)) :=
        .settled hsame hfree hnode hplaced cache
      have hforest := hvisited.forest
      have htold := ih.emitTail (hlined.settled hcache) (hvisited.queue.trans hqueue)
        (Nat.le_of_lt_succ (hforest.length ▸ hdepth))
      rw [hforest.expected hvisited.history, hforest.seats] at htold
      refine htold.mono ?_
      rintro _ told ⟨htold, htoured⟩
      have hpending : told.queue.pending = [] := by
        rw [htoured.queue, hvisited.queue, hqueue]
      rw [leads_drain_idle hpending]
      refine ⟨htold, ?_⟩
      rw [subtree_eq hsteady.sound.elder (List.getElem?_eq_some_iff.1 hseat).1]
      exact hvisited.trans htoured

end PageRouter.Page
