import PageRouter.Proofs.Rounds

/-!
# Nodes that are taken out

Unmounting a node hides its element, takes its route out of the registry, and tells the nodes in it that
there is no tail.  Where nobody interferes, this tours exactly the mounted nodes in it
(`teardown_clears`).  So the document is asked to hide each element that one of them shows, once, and for
nothing else (`Cleared.farewells`); whoever is not below the node keeps place, match and elements
(`Cleared.others`).
-/

namespace PageRouter

open Page

/-! ## The forest without a node -/

section Loss

variable {seats after : List Seat} {id root other : NodeId}
  (hothers : ∀ other, other ≠ id → after[other]? = seats[other]?)

include hothers

/-- A node that goes listens to nobody who is younger. -/
lemma listenersTo_of_loss (hrising : Rising seats) (hrisingAfter : Rising after) (hid : id ≤ root) :
    listenersTo after (.tailOf root) = listenersTo seats (.tailOf root) := by
  refine (listenersTo_sorted after _).eq_of_mem_iff (listenersTo_sorted seats _) fun other => ?_
  by_cases hother : other = id
  · subst hother
    constructor
    · intro hlistens
      exact absurd (hrisingAfter.lt_of_mem_listenersTo hlistens) (Nat.not_lt.2 hid)
    · intro hlistens
      exact absurd (hrising.lt_of_mem_listenersTo hlistens) (Nat.not_lt.2 hid)
  · rw [mem_listenersTo, mem_listenersTo, hothers other hother]

lemma walk_of_loss (hrising : Rising seats) (hrisingAfter : Rising after) (depth : Nat) (hid : id ≤ root) :
    walk after depth root = walk seats depth root := by
  induction depth generalizing root with
  | zero => rfl
  | succ depth ih =>
      simp only [walk, listenersTo_of_loss hothers hrising hrisingAfter hid, List.cons.injEq, true_and]
      refine List.flatMap_congr fun child hchild => ?_
      exact ih (Nat.le_trans hid (Nat.le_of_lt (hrising.lt_of_mem_listenersTo hchild)))

end Loss

/-- **The nodes that were mounted in a node**, at any depth, and the node itself.  They may have been
unmounted since. -/
inductive Under (seats : List Seat) (root : NodeId) : NodeId → Prop
  | self : Under seats root root
  | nested {id parent : NodeId} {seat : Seat} : seats[id]? = some seat →
      seat.subscription.signal = .tailOf parent → Under seats root parent → Under seats root id

section Under

variable {seats after : List Seat} {id root : NodeId}

lemma Below.under (h : Below seats root id) : Under seats root id := by
  induction h with
  | self => exact .self
  | nested hseat hin _ ih => exact .nested hseat hin.2 ih

/-- Whoever was mounted in a node that is not live is not live either. -/
lemma Under.not_live (h : Under seats root id) (hroot : ¬Live seats root) : ¬Live seats id := by
  induction h with
  | self => exact hroot
  | nested hseat hsignal _ ih =>
      intro hlive
      exact ih (hlive.around hseat ⟨hlive.mounted hseat, hsignal⟩)

/-- Nobody listens to anything else afterwards. -/
lemma Under.of_signals (h : Under seats root id)
    (hsame : ∀ (id : NodeId) (seat : Seat), seats[id]? = some seat →
      ∃ now, after[id]? = some now ∧ now.subscription = seat.subscription) : Under after root id := by
  induction h with
  | self => exact .self
  | nested hseat hsignal _ ih =>
      obtain ⟨now, hnow, hsubscription⟩ := hsame _ _ hseat
      exact .nested hnow (hsubscription ▸ hsignal) ih

/-- A live node in a node is below it. -/
lemma Under.below_of_live (h : Under seats root id) (hlive : Live seats id) : Below seats root id := by
  induction h with
  | self => exact .self
  | nested hseat hsignal _ ih =>
      have hin : Seat.isIn _ _ := ⟨hlive.mounted hseat, hsignal⟩
      exact .nested hseat hin (ih (hlive.around hseat hin))

end Under

/-! ## What the document is told -/

/-- What the document is told, but for elements that are taken out of it. -/
def withoutRemovals (told : List HostEvent) : List HostEvent :=
  told.filter fun
    | .removed _ => false
    | _ => true

namespace ElementCache

variable {cache after : ElementCache} {told : List HostEvent} {parent : Option Tail}
  {sizes : Nat → Prop} {id : NodeId}

/-- That the active element is about to be hidden. -/
def farewell (cache : ElementCache) : List HostEvent :=
  (cache.activeElement.map fun element => .deactivating element.serial).toList

lemma Hides.withoutRemovals (h : cache.Hides told) : withoutRemovals told = cache.farewell := by
  cases h with
  | idle hidle => rw [farewell, hidle]; rfl
  | kept helement => rw [farewell, helement]; rfl
  | removed helement => rw [farewell, helement]; rfl

lemma Brought.withoutRemovals (h : cache.Brought parent none told after) :
    withoutRemovals told = cache.farewell := by
  cases h with
  | stays hstays =>
      have hidle : cache.active = false := by simpa [ElementCache.stays] using hstays
      simp [farewell, activeElement, hidle, PageRouter.withoutRemovals]
  | hides _ hhides => exact hhides.withoutRemovals

/-- In a round without a match the element that is active says farewell. -/
lemma Evolves.withoutRemovals (h : Evolves sizes [⟨id, none, told⟩] cache after) :
    withoutRemovals told = cache.farewell := by
  obtain ⟨before, later, parent, hbefore, hbrought, -⟩ := h.exists_brought
  rw [hbrought.withoutRemovals, farewell, hbefore.activeElement_eq, farewell]

end ElementCache

namespace Page

variable {kind : Command → Bool} {scope : Scope} {page cleared after : Page} {id : NodeId} {node : Node}
  {told gone : List HostEvent}

/-- That the active element of a node is about to be hidden. -/
def farewellOf (page : Page) (id : NodeId) : List HostEvent :=
  (page.caches[id]?.map ElementCache.farewell).getD []

/-- **If nodes learn nothing**, each once, then their elements say farewell, and that is all. -/
lemma Recounted.farewells {rounds : List Round} (h : Recounted kind rounds told page after)
    {ids : List NodeId} (hvisits : after.visits = page.visits ++ ids.map fun id => ⟨id, none⟩)
    (hnodup : ids.Nodup) (hids : ∀ id ∈ ids, id < page.nodes.length) :
    withoutRemovals (rounds.flatMap Round.told) = ids.flatMap page.farewellOf := by
  have hsame : rounds.map Round.visit = ids.map fun id => ⟨id, none⟩ :=
    List.append_cancel_left (h.visits.symm.trans hvisits)
  have hnodes : rounds.map Round.node = ids := by
    have hboth := congrArg (List.map Visit.node) hsame
    simpa [Function.comp_def, Round.visit] using hboth
  have heach : ∀ round ∈ rounds, withoutRemovals round.told = page.farewellOf round.node := by
    intro round hround
    have hid : round.node ∈ ids := hnodes ▸ List.mem_map_of_mem hround
    obtain ⟨told, honly⟩ : ∃ told, rounds.filter (·.node = round.node) = [⟨round.node, none, told⟩] :=
      (h.round hvisits hnodup round.node).1 hid
    have hmem : round ∈ rounds.filter (·.node = round.node) :=
      List.mem_filter.2 ⟨hround, decide_eq_true rfl⟩
    rw [honly, List.mem_singleton] at hmem
    obtain ⟨node, hnode⟩ : ∃ node, page.nodes[round.node]? = some node :=
      ⟨_, List.getElem?_eq_getElem (hids _ hid)⟩
    obtain ⟨_, -, hevolves⟩ := h.caches round.node node.cache (getElem?_caches hnode)
    rw [honly] at hevolves
    rw [congrArg Round.told hmem, hevolves.withoutRemovals, farewellOf, getElem?_caches hnode]
    rfl
  rw [withoutRemovals, List.filter_flatMap, ← hnodes, List.flatMap_map]
  exact List.flatMap_congr heach

/-! ## Unmounting -/

section Shut

variable {subscription : Subscription}

lemma history_shut : (page.shut id subscription).history = page.history := by
  obtain ⟨ref, number⟩ := subscription
  cases ref <;> rfl

lemma registry_shut : (page.shut id subscription).registry = page.registry := by
  obtain ⟨ref, number⟩ := subscription
  cases ref <;> rfl

lemma hostEvents_shut : (page.shut id subscription).hostEvents = page.hostEvents := by
  obtain ⟨ref, number⟩ := subscription
  cases ref <;> rfl

lemma caches_shut : (page.shut id subscription).caches = page.caches := by
  have hsame : ∀ node : Node,
      Node.cache { node with mounted := false } = (fun cache => cache) node.cache := fun _ => rfl
  exact (view_shut (·.cache) (fun _ _ => rfl) hsame page id subscription).trans (List.modify_id ..)

end Shut

/-- The page once a node that is unmounted has neither learned anything nor an active element, and its
route is not registered any more. -/
def without (page : Page) (id : NodeId) (node : Node) : Page :=
  page.torn id { node.cache with active := false } (page.registry.remove node.route).2

/-- **A node has been unmounted**: the document was told that its element goes, and then the nodes in it
were toured. -/
structure Cleared (kind : Command → Bool) (scope : Scope) (page : Page) (id : NodeId) (node : Node)
    (gone : List HostEvent) (cleared after : Page) : Prop where
  hides : node.cache.Hides gone
  heard : Heard kind scope gone (page.shut id node.subscription) cleared
  toured : Toured ((listenersTo cleared.seats (.tailOf id)).flatMap (subtree cleared.seats))
    (cleared.without id node) after
  accounted : Accounted kind scope (cleared.without id node) after

lemma seats_without (page : Page) (id : NodeId) (node : Node) :
    (page.without id node).seats = page.seats :=
  (SameForest.learned page id { node.cache with active := false } none).seats

lemma history_without (page : Page) (id : NodeId) (node : Node) :
    (page.without id node).history = page.history := rfl

lemma hostEvents_without (page : Page) (id : NodeId) (node : Node) :
    (page.without id node).hostEvents = page.hostEvents := rfl

lemma registry_without (page : Page) (id : NodeId) (node : Node) :
    (page.without id node).registry = (page.registry.remove node.route).2 := rfl

lemma directory_without (page : Page) (id : NodeId) (node : Node) :
    (page.without id node).directory = page.directory := rfl

/-- **Unmounting a node** comes to an end if nobody interferes. -/
lemma teardown_clears (hkind : ∀ command, kind command → command.isInert)
    (hsteady : Steady kind scope page) (hqueue : page.queue = ⟨false, []⟩)
    (hnode : page.nodes[id]? = some node) (hmounted : node.mounted) {depth : Nat}
    (hdepth : page.nodes.length ≤ id + (depth + 1)) :
    Leads true (teardown (exec (depth + 1)) id) page fun result after =>
      result = after.nodes[id]?.map (·.route) ∧
        ∃ gone cleared, Cleared kind scope page id node gone cleared after := by
  have hpending : page.queue.pending = [] := by rw [hqueue]
  have hshut : Steady kind scope (page.shut id node.subscription) :=
    hsteady.shut hnode hmounted hpending
  have hline : ElementCache.InLine { node.cache with active := false } none :=
    (hsteady.sound.inLine node (List.mem_of_getElem? hnode)).inactive
  simp only [teardown, leads_bind, leads_get, hnode, hmounted, if_true, leads_set, leads_modify,
    leads_pure]
  -- the element goes, whatever hooks do meanwhile
  have hkeeps : Leads true (node.cache.deactivate (host (exec (depth + 1))))
      (page.shut id node.subscription) fun result cleared =>
        (Steady Command.isInert scope cleared ∧ Same (page.shut id node.subscription) cleared) ∧
          result = { node.cache with active := false } :=
    deactivate_keeps Lasting.same (fun command hinert hbrings now hnow =>
      exec_inert hinert hbrings hnow depth) node.cache (hshut.mono hkind)
  refine (hkeeps.and (deactivate_hears hkind node.cache hshut)).mono ?_
  rintro _ cleared ⟨⟨⟨hcleared, hsame⟩, rfl⟩, -, gone, hhides, hheard⟩
  have hqueueTorn : (cleared.without id node).queue = ⟨false, []⟩ := by
    show cleared.queue = _
    rw [hsame.queue, queue_shut, hqueue]
  have hseats : cleared.seats = (page.shut id node.subscription).seats := hsame.forest.seats
  have htorn : Steady Command.isInert scope (cleared.without id node) := hcleared.torn hline
  have hseat : (cleared.without id node).seats[id]? = some { node.seat with mounted := false } := by
    rw [seats_without, hseats]
    exact getElem?_seats_shut_self node.subscription hnode
  -- so nothing is expected of the node any more
  have hnothing : (cleared.without id node).expected id = none := by
    rw [expected_eq htorn.sound.elder hseat]
    rfl
  have hlength : (cleared.without id node).nodes.length = page.nodes.length := by
    rw [← length_seats, seats_without, hseats, length_seats, length_shut]
  have htours : Tours scope (emitTail (exec (depth + 1)) id none)
      ((listenersTo cleared.seats (.tailOf id)).flatMap (subtree cleared.seats))
      (cleared.without id node) := by
    have htold := (exec_reaches scope (depth + 1)).emitTail htorn hqueueTorn (hlength ▸ hdepth)
    rwa [hnothing, seats_without] at htold
  have haccounts : Leads false (emitTail (exec (depth + 1)) id none) (cleared.without id node)
      fun _ after => Accounted kind scope (cleared.without id node) after :=
    emitTail_accounts hkind (exec_accounts hkind scope (depth + 1)) (hheard.steady.torn hline)
      hqueueTorn none
  refine (htours.and haccounts).mono ?_
  rintro _ after ⟨⟨-, htoured⟩, haccounted⟩
  exact ⟨trivial, gone, cleared, hhides, hheard, htoured, haccounted⟩

section Cleared

variable (h : Cleared kind scope page id node gone cleared after)

include h

lemma Cleared.seats_cleared : cleared.seats = (page.shut id node.subscription).seats :=
  h.heard.same.forest.seats

lemma Cleared.seats : after.seats = (page.shut id node.subscription).seats := by
  rw [h.toured.forest.seats, seats_without, h.seats_cleared]

lemma Cleared.history : after.history = page.history := by
  rw [h.toured.history, history_without, h.heard.same.history, history_shut]

/-- **Whoever was mounted in the node** is cut off. -/
lemma Cleared.cut (hnode : page.nodes[id]? = some node) {other : NodeId}
    (hother : Under page.seats id other) : other < after.nodes.length ∧ ¬Live after.seats other := by
  have hsignals : ∀ (other : NodeId) (seat : Seat), page.seats[other]? = some seat →
      ∃ now, after.seats[other]? = some now ∧ now.subscription = seat.subscription := by
    intro other seat hseat
    rw [h.seats]
    by_cases hsame : other = id
    · subst hsame
      refine ⟨_, getElem?_seats_shut_self node.subscription hnode, ?_⟩
      rw [seats_of_nodes hnode, Option.some.injEq] at hseat
      rw [← hseat]
    · exact ⟨seat, (getElem?_seats_shut_ne hsame).trans hseat, rfl⟩
  refine ⟨?_, (hother.of_signals hsignals).not_live (h.seats ▸ not_live_shut)⟩
  rw [← length_seats, h.seats, length_seats, length_shut, ← length_seats]
  cases hother with
  | self => exact (List.getElem?_eq_some_iff.1 (seats_of_nodes hnode)).1
  | nested hseat => exact (List.getElem?_eq_some_iff.1 hseat).1

/-- Its route has left the registry. -/
lemma Cleared.registry (hrecords : ¬Command.Records kind) :
    after.registry = (page.registry.remove node.route).2 := by
  obtain ⟨_, hrounds⟩ := h.accounted.rounds
  have hcleared := h.heard.recounted.registry.resolve_right hrecords
  rw [hrounds.registry.resolve_right hrecords, registry_without, hcleared, registry_shut]

/-- **Which nodes have been toured**: all that are below the node but for the node itself. -/
lemma Cleared.subtree_eq (hrising : Rising page.seats) (hid : id < page.seats.length) :
    subtree page.seats id = id :: (listenersTo cleared.seats (.tailOf id)).flatMap (subtree cleared.seats) := by
  have hothers : ∀ other, other ≠ id → cleared.seats[other]? = page.seats[other]? := by
    intro other hne
    rw [h.seats_cleared, getElem?_seats_shut_ne hne]
  have hcleared : Rising cleared.seats := h.heard.steady.sound.elder
  have hlength : cleared.seats.length = page.seats.length := by
    rw [h.seats_cleared, length_seats, length_shut, length_seats]
  rw [PageRouter.subtree_eq hrising hid, listenersTo_of_loss hothers hrising hcleared (Nat.le_refl _)]
  refine congrArg _ (List.flatMap_congr fun child hchild => ?_)
  have hlt := hrising.lt_of_mem_listenersTo hchild
  rw [subtree, subtree, hlength, walk_of_loss hothers hrising hcleared _ (Nat.le_of_lt hlt)]

lemma Cleared.nodup (hrising : Rising page.seats) (hid : id < page.seats.length) :
    (id :: (listenersTo cleared.seats (.tailOf id)).flatMap (subtree cleared.seats)).Nodup := by
  rw [← h.subtree_eq hrising hid]
  exact nodup_walk hrising hid (Nat.le_add_left ..)

/-- Nobody has learned anything on the tour. -/
lemma Cleared.visits (hid : id < page.seats.length) : after.visits = (cleared.without id node).visits ++
    ((listenersTo cleared.seats (.tailOf id)).flatMap (subtree cleared.seats)).map
      fun id => ⟨id, none⟩ := by
  have hrising : Rising cleared.seats := h.heard.steady.sound.elder
  have hlt : id < cleared.seats.length := by
    rwa [h.seats_cleared, length_seats, length_shut, ← length_seats]
  have hcut : ¬Live cleared.seats id := h.seats_cleared ▸ not_live_shut
  rw [h.toured.visits]
  refine congrArg _ (List.map_congr_left fun other hother => ?_)
  have hbelow : Below cleared.seats id other := by
    rw [← mem_subtree hrising hlt, PageRouter.subtree_eq hrising hlt]
    exact List.mem_cons_of_mem id hother
  have hseats := seats_without cleared id node
  rw [expected_of_not_live (hseats ▸ hrising) (hseats ▸ hbelow.under.not_live hcut)]

/-- Before the tour only capacities have changed, except for the cache of the node itself. -/
lemma Cleared.cache_before {other : NodeId} (hne : other ≠ id) {cache : ElementCache}
    (hcache : page.caches[other]? = some cache) :
    ∃ now, (cleared.without id node).caches[other]? = some now ∧
      ElementCache.Evolves (page.Sizes kind other) [] cache now := by
  rw [← caches_shut] at hcache
  obtain ⟨now, hnow, hevolves⟩ := h.heard.recounted.caches other cache hcache
  refine ⟨now, ?_, ?_⟩
  · have hwithout : (cleared.without id node).caches
        = cleared.caches.modify id fun _ => { node.cache with active := false } := caches_learned ..
    rw [hwithout, List.getElem?_modify, hnow]
    simp [hne.symm]
  · have hsizes : (page.shut id node.subscription).Sizes kind = page.Sizes kind :=
      sizes_congr (congrArg Directory.mounted directory_shut)
    exact hsizes ▸ hevolves

/-- **What the document is told**: each element that is shown in the node or below it goes, once. -/
lemma Cleared.farewells (hrising : Rising page.seats) (hnode : page.nodes[id]? = some node) :
    ∃ told, after.hostEvents = page.hostEvents ++ told ∧
      withoutRemovals told = (subtree page.seats id).flatMap page.farewellOf := by
  have hid : id < page.seats.length := (List.getElem?_eq_some_iff.1 (seats_of_nodes hnode)).1
  obtain ⟨rounds, hrounds⟩ := h.accounted.rounds
  have hsubtree := h.subtree_eq hrising hid
  obtain ⟨hnot, hrest⟩ := List.nodup_cons.1 (h.nodup hrising hid)
  have hlength : (cleared.without id node).nodes.length = page.seats.length := by
    rw [← length_seats, seats_without, h.seats_cleared, length_seats, length_shut, length_seats]
  have hmem : ∀ other ∈ (listenersTo cleared.seats (.tailOf id)).flatMap (subtree cleared.seats),
      other < page.seats.length := by
    intro other hother
    have hin : other ∈ subtree page.seats id := hsubtree ▸ List.mem_cons_of_mem id hother
    rw [mem_subtree hrising hid] at hin
    cases hin with
    | self => exact hid
    | nested hseat => exact (List.getElem?_eq_some_iff.1 hseat).1
  refine ⟨gone ++ rounds.flatMap Round.told, ?_, ?_⟩
  · rw [hrounds.host, hostEvents_without, h.heard.recounted.host, hostEvents_shut, List.append_assoc]
  · have hfarewells := hrounds.farewells (h.visits hid) hrest fun other hother =>
      hlength ▸ hmem other hother
    rw [withoutRemovals, List.filter_append, ← withoutRemovals, ← withoutRemovals,
      h.hides.withoutRemovals, hfarewells, hsubtree, List.flatMap_cons]
    have hown : page.farewellOf id = node.cache.farewell := by
      rw [farewellOf, getElem?_caches hnode]
      rfl
    rw [hown]
    refine congrArg _ (List.flatMap_congr fun other hother => ?_)
    have hne : other ≠ id := fun hsame => hnot (hsame ▸ hother)
    obtain ⟨around, haround⟩ : ∃ around, page.nodes[other]? = some around :=
      ⟨_, List.getElem?_eq_getElem (length_seats page ▸ hmem other hother)⟩
    obtain ⟨now, hnow, hevolves⟩ := h.cache_before hne (getElem?_caches haround)
    rw [farewellOf, hnow, farewellOf, getElem?_caches haround, Option.map_some, Option.map_some,
      ElementCache.farewell, hevolves.activeElement_eq, ElementCache.farewell]

/-- **Whoever is not below the node** keeps its place and its match, and its elements as far as their
number stays. -/
lemma Cleared.others (hrising : Rising page.seats) (hid : id < page.seats.length) {other : NodeId}
    (hother : ¬Below page.seats id other) {around : Node} (haround : page.nodes[other]? = some around) :
    ∃ now, after.nodes[other]? = some now ∧ now.standing = around.standing ∧
      ElementCache.Evolves (page.Sizes kind other) [] around.cache now.cache := by
  have hne : other ≠ id := by
    rintro rfl
    exact hother .self
  have hnot : other ∉ (listenersTo cleared.seats (.tailOf id)).flatMap (subtree cleared.seats) := by
    intro hmem
    refine hother ((mem_subtree hrising hid).1 ?_)
    rw [h.subtree_eq hrising hid]
    exact List.mem_cons_of_mem id hmem
  obtain ⟨rounds, hrounds⟩ := h.accounted.rounds
  obtain ⟨middle, hmiddle, hbefore⟩ := h.cache_before hne (getElem?_caches haround)
  obtain ⟨_, hcache, hlater⟩ := hrounds.caches other middle hmiddle
  obtain ⟨now, hnow, rfl⟩ := exists_cached hcache
  refine ⟨now, hnow, ?_, ?_⟩
  · have hwithout : (cleared.without id node).standings[other]? = cleared.standings[other]? := by
      show (cleared.learned id _ none).standings[other]? = _
      simp only [getElem?_standings_learned, hne.symm, if_false, Option.map_id']
    have hstanding : after.standings[other]? = some around.standing := by
      rw [h.toured.others other hnot, hwithout, h.heard.same.standings, getElem?_standings_shut,
        standings_of_nodes haround]
      simp [hne.symm]
    exact Option.some.inj ((standings_of_nodes hnow).symm.trans hstanding)
  · have hnone : rounds.filter (·.node = other) = [] :=
      (hrounds.round (h.visits hid) (List.nodup_cons.1 (h.nodup hrising hid)).2 other).2 hnot
    have hsizes : (cleared.without id node).Sizes kind = page.Sizes kind := by
      refine sizes_congr ?_
      rw [directory_without, h.heard.recounted.named, directory_shut]
    rw [hnone, hsizes] at hlater
    exact hbefore.append hlater

end Cleared

end Page

end PageRouter
