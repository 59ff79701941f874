import PageRouter.Proofs.Growth

/-!
# Pages at rest

Between two commands from outside a page is at rest: its document is free, nobody waits, and every
node is right — but for the nodes that listen for the location if the root was set after they were
matched.

`Passes` is what a command leaves behind, however many visits it made: the visits tell the tail and
the place of every node that is mounted afterwards.
-/

namespace PageRouter.Page

variable {page mid after : Page} {id : NodeId} {late : Bool}

/-! ## Pages at rest -/

/-- The node listens for the location, and the root has perhaps been set since it was matched. -/
def Stale (late : Bool) (page : Page) (id : NodeId) : Prop :=
  late ∧ ∃ seat, page.seats[id]? = some seat ∧ seat.mounted ∧ seat.isTop

/-- **A page at rest.** -/
structure AtRest (late : Bool) (page : Page) : Prop where
  steady : Steady Command.roams Scope.all page
  free : page.queue.busy = false
  pending : page.queue.pending = []
  right : Right (page.Stale late) page

lemma AtRest.queue_eq (h : page.AtRest late) : page.queue = ⟨false, []⟩ := by
  have hfree := h.free
  have hpending := h.pending
  cases hqueue : page.queue with
  | mk busy pending =>
      rw [hqueue] at hfree hpending
      rw [show busy = false from hfree, show pending = [] from hpending]

lemma Stale.live (h : page.Stale late id) : Live page.seats id := by
  obtain ⟨-, seat, hseat, hmounted, htop⟩ := h
  exact .top hseat hmounted htop

lemma Stale.of_seats (h : page.Stale late id) (hseat : after.seats[id]? = page.seats[id]?) :
    after.Stale late id :=
  ⟨h.1, by rw [hseat]; exact h.2⟩

lemma AtRest.of_same (h : page.AtRest late) (hsteady : Steady Command.roams Scope.all after)
    (hsame : Same page after) : after.AtRest late where
  steady := hsteady
  free := by rw [hsame.queue]; exact h.free
  pending := by rw [hsame.queue]; exact h.pending
  right := (h.right.of_same hsame).mono fun _ hstale => hstale.of_seats (by rw [hsame.forest.seats])

lemma AtRest.of_free (h : page.AtRest late) (hsteady : Steady Command.roams Scope.all after)
    (hfree : Free page after) : after.AtRest late where
  steady := hsteady
  free := hfree.busy.trans h.free
  pending := hfree.pending.elim id fun hsame => hsame.trans h.pending
  right := (hfree.right _ h.right).mono fun _ hstale => hstale.of_seats (by rw [hfree.forest.seats])

/-- At rest a node that is not live has learned nothing. -/
lemma AtRest.lastMatch_of_cut (h : page.AtRest late) (hnot : ¬Live page.seats id) {standing : Standing}
    (hstanding : page.standings[id]? = some standing) : standing.lastMatch = none :=
  (h.right id standing hstanding fun hstale => hnot hstale.live).cut hnot

/-- At rest a node that has an active element is live. -/
lemma AtRest.live_of_active (h : page.AtRest late) {node : Node} (hnode : page.nodes[id]? = some node)
    (hactive : node.cache.activeElement.isSome) : Live page.seats id := by
  by_contra hnot
  have hnone : node.lastMatch = none := h.lastMatch_of_cut hnot (standings_of_nodes hnode)
  have hline := h.steady.sound.inLine node (List.mem_of_getElem? hnode)
  rw [hline.activeElement_isSome, hnone] at hactive
  cases hactive

/-- A node that is not live has nothing to learn from at rest. -/
lemma AtRest.live_or_alone (h : page.AtRest late) {seat : Seat} (hseat : page.seats[id]? = some seat)
    (hmounted : seat.mounted) : Live page.seats id ∨ page.placeOf id = .child none := by
  by_cases hlive : Live page.seats id
  · exact .inl hlive
  · obtain ⟨standing, hstanding, rfl⟩ := exists_standing hseat
    have hright := h.right id standing hstanding fun hstale => hlive hstale.live
    refine .inr ?_
    rw [placeOf, hstanding]
    exact hright.alone hlive hmounted

/-- The tail of a node that is not live is none. -/
lemma AtRest.tailOf_eq_none (h : page.AtRest late) (hnot : ¬Live page.seats id) :
    page.tailOf id = none := by
  rw [tailOf]
  split
  · next standing hstanding =>
    rw [h.lastMatch_of_cut hnot hstanding]
    rfl
  · rfl

/-! ## What a command leaves behind -/

/-- The place that a child starts from when a command begins: a child that is mounted by the command
takes over the tail that its parent has then. -/
def firstPlace (page : Page) (parent child : NodeId) : ParentLink :=
  if child < page.nodes.length then page.placeOf child else .child (page.tailOf parent)

/-- **The visits of a command** tell the tail of each node that is mounted after it, and the place of
each one that is mounted in another. -/
structure Settles (page after : Page) (visits : List Visit) : Prop where
  published : ∀ id seat, after.seats[id]? = some seat → seat.mounted → Publishes id page after visits
  delivered : ∀ parent child seat around, after.seats[child]? = some seat → seat.isIn parent →
    after.seats[parent]? = some around → around.mounted →
    visits.foldl (deliver parent child) ([], page.firstPlace parent child)
      = ([], after.placeOf child)

/-- **What a command leaves behind.** -/
structure Passes (page after : Page) : Prop where
  /-- Who is mounted and not new was so before. -/
  seats : ∀ id seat, after.seats[id]? = some seat → seat.mounted → id < page.nodes.length →
    page.seats[id]? = some seat
  visits : ∃ visits, after.visits = page.visits ++ visits ∧ Settles page after visits

lemma lt_of_getElem?_seats {seat : Seat} (h : page.seats[id]? = some seat) :
    id < page.nodes.length := by
  rw [← length_seats]
  exact (List.getElem?_eq_some_iff.1 h).1

lemma firstPlace_of_lt {parent child : NodeId} (h : child < page.nodes.length) :
    page.firstPlace parent child = page.placeOf child := by simp only [firstPlace, h, if_true]

lemma Passes.of_free (h : Free page after) : Passes page after where
  seats := fun id seat hseat _ _ => h.forest.seats ▸ hseat
  visits := by
    obtain ⟨visits, hvisits, haccounts⟩ := h.visits
    refine ⟨visits, hvisits, fun id _ _ _ => haccounts.published id, ?_⟩
    intro parent child seat around hseat hin _ _
    rw [h.forest.seats] at hseat
    rw [firstPlace_of_lt (lt_of_getElem?_seats hseat)]
    exact haccounts.delivered parent child seat hseat hin []

lemma Passes.of_standings (hstandings : after.standings = page.standings)
    (hvisits : after.visits = page.visits) : Passes page after := by
  have hseats : after.seats = page.seats := by simp only [seats_eq_map_standings, hstandings]
  refine ⟨fun id seat hseat _ _ => hseats ▸ hseat, [], by rw [hvisits, List.append_nil],
    fun _ _ _ _ => .of_standings hstandings, ?_⟩
  intro parent child seat around hseat _ _ _
  rw [hseats] at hseat
  rw [List.foldl_nil, firstPlace_of_lt (lt_of_getElem?_seats hseat), placeOf_congr hstandings]

lemma Passes.of_same (h : Same page after) : Passes page after :=
  .of_standings h.standings h.visits

/-- A node that is matched by a command takes nothing that is under way. -/
lemma Passes.of_rematched (h : Rematched id page after) (hsound : page.Sound) :
    Passes page after where
  seats := fun id seat hseat _ _ => h.forest.seats ▸ hseat
  visits := by
    obtain ⟨visit, rest, hvisit, hvisits, hpublished, hdelivered⟩ := h.visits
    refine ⟨visit :: rest, hvisits, fun id _ _ _ => hpublished id, ?_⟩
    intro parent child seat around hseat hin _ _
    rw [h.forest.seats] at hseat
    rw [firstPlace_of_lt (lt_of_getElem?_seats hseat)]
    have hdelivers := hdelivered parent child seat hseat hin
    have hne : child ≠ parent := Nat.ne_of_gt (hsound.elder child seat parent hseat hin.2)
    split at hdelivers
    · next hid =>
      subst hid
      have hself : deliver parent child ([], page.placeOf child) visit
          = ([], page.placeOf child) := by
        simp only [deliver, hvisit, hne, if_false, if_true]
      rw [List.foldl_cons, hself]
      exact hdelivers []
    · exact hdelivers []

/-- One thing after the other, where the second mounts nothing. -/
lemma Passes.trans (h : Passes page mid) (h' : Passes mid after)
    (hlength : after.nodes.length = mid.nodes.length) : Passes page after := by
  have hmid : ∀ {id : NodeId} {seat : Seat}, after.seats[id]? = some seat → seat.mounted →
      mid.seats[id]? = some seat := fun hseat hmounted =>
    h'.seats _ _ hseat hmounted (hlength ▸ lt_of_getElem?_seats hseat)
  refine ⟨fun id seat hseat hmounted hid => h.seats id seat (hmid hseat hmounted) hmounted hid, ?_⟩
  obtain ⟨first, hfirst, hsettles⟩ := h.visits
  obtain ⟨second, hsecond, hsettles'⟩ := h'.visits
  refine ⟨first ++ second, by rw [hsecond, hfirst, List.append_assoc], ?_, ?_⟩
  · intro id seat hseat hmounted
    exact (hsettles.published id seat (hmid hseat hmounted) hmounted).append
      (hsettles'.published id seat hseat hmounted)
  · intro parent child seat around hseat hin haround hmounted
    have hearlier := hsettles.delivered parent child seat around (hmid hseat hin.1) hin
      (hmid haround hmounted) hmounted
    have hlater := hsettles'.delivered parent child seat around hseat hin haround hmounted
    rw [firstPlace_of_lt (lt_of_getElem?_seats (hmid hseat hin.1))] at hlater
    rw [List.foldl_append, hearlier, hlater]

/-- A change that matching does not see comes before everything else. -/
lemma Passes.after_same (hsame : Same page mid) (h : Passes mid after) : Passes page after := by
  have hlength : mid.nodes.length = page.nodes.length := by
    rw [← length_seats, ← length_seats, hsame.forest.seats]
  refine ⟨fun id seat hseat hmounted hid => ?_, ?_⟩
  · rw [← hsame.forest.seats]
    exact h.seats id seat hseat hmounted (hlength ▸ hid)
  · obtain ⟨visits, hvisits, hsettles⟩ := h.visits
    refine ⟨visits, by rw [hvisits, hsame.visits], fun id seat hseat hmounted => ?_, ?_⟩
    · have := hsettles.published id seat hseat hmounted
      rwa [Publishes, tailOf_congr hsame.standings] at this
    · intro parent child seat around hseat hin haround hmounted
      have := hsettles.delivered parent child seat around hseat hin haround hmounted
      rwa [firstPlace, hlength, placeOf_congr hsame.standings, tailOf_congr hsame.standings] at this

end PageRouter.Page
