import PageRouter.Proofs.Forest

/-!
# Sound pages

What holds of every page between two commands, and what kinds of changes leave it so.

* `SameForest` pages have the same seats, the same nodes listening to each other, and the same root.
* `Same` pages moreover agree in everything that matching looks at or writes down: places, last
  matches, the history, the queue and the record of visits.
* `Aside` says that only fields changed that have no part in this at all, which is how most small
  changes are recognised (`Aside.same`, `Aside.sound`).
-/

namespace PageRouter

/-- **The elements of a node are in line with what it has learned**: one is active exactly if the
node matches, and it was made for the parameters of the match. -/
structure ElementCache.InLine (cache : ElementCache) (outcome : Outcome) : Prop where
  /-- An element is active exactly if there is a match. -/
  active : cache.active = outcome.isSome
  /-- The active element was made for the parameters of the match. -/
  shown : cache.activeElement.map (·.params) = outcome.map (·.params)
  /-- There is room for one element. -/
  room : 1 ≤ cache.capacity

lemma ElementCache.InLine.activeElement_isSome {cache : ElementCache} {outcome : Outcome}
    (h : cache.InLine outcome) : cache.activeElement.isSome ↔ outcome.isSome := by
  have hboth := congrArg Option.isSome h.shown
  rw [Option.isSome_map, Option.isSome_map] at hboth
  rw [hboth]

/-- What matching knows of a node. -/
structure Standing where
  /-- What it keeps while it is mounted. -/
  seat : Seat
  /-- The place it is matched from. -/
  place : ParentLink
  lastMatch : Outcome

def Node.standing (node : Node) : Standing := ⟨node.seat, node.route.place, node.lastMatch⟩

/-- The visit that an event tells of. -/
def PageEvent.visit? : PageEvent → Option Visit
  | .refreshed visit => some visit
  | _ => none

namespace Page

variable {page after : Page} {id : NodeId} {ref : SignalRef}

/-! ## Views -/

def seats (page : Page) : List Seat := page.nodes.map Node.seat

/-- The standings of the nodes of a page. -/
def standings (page : Page) : List Standing := page.nodes.map Node.standing

/-- **The visits** of a page, the earliest first. -/
def visits (page : Page) : List Visit := page.events.reverse.filterMap PageEvent.visit?

lemma seats_eq_map_standings (page : Page) : page.seats = page.standings.map Standing.seat := by
  simp only [seats, standings, List.map_map]
  rfl

lemma length_seats (page : Page) : page.seats.length = page.nodes.length := by
  simp only [seats, List.length_map]

lemma getElem?_seats (page : Page) (id : NodeId) :
    page.seats[id]? = page.nodes[id]?.map Node.seat := by
  simp only [seats, List.getElem?_map]

lemma getElem?_standings (page : Page) (id : NodeId) :
    page.standings[id]? = page.nodes[id]?.map Node.standing := by
  simp only [standings, List.getElem?_map]

lemma seats_of_nodes {node : Node} (h : page.nodes[id]? = some node) :
    page.seats[id]? = some node.seat := by
  rw [getElem?_seats, h, Option.map_some]

lemma standings_of_nodes {node : Node} (h : page.nodes[id]? = some node) :
    page.standings[id]? = some node.standing := by
  rw [getElem?_standings, h, Option.map_some]

lemma standing_congr {node now : Node} (h : after.standings[id]? = page.standings[id]?)
    (hnode : page.nodes[id]? = some node) (hnow : after.nodes[id]? = some now) :
    now.standing = node.standing := by
  rw [standings_of_nodes hnow, standings_of_nodes hnode] at h
  exact Option.some.inj h

lemma seats_of_standings {standing : Standing} (h : page.standings[id]? = some standing) :
    page.seats[id]? = some standing.seat := by
  rw [seats_eq_map_standings, List.getElem?_map, h, Option.map_some]

lemma exists_node {seat : Seat} (h : page.seats[id]? = some seat) :
    ∃ node, page.nodes[id]? = some node ∧ node.seat = seat := by
  rwa [getElem?_seats, Option.map_eq_some_iff] at h

lemma exists_standing {seat : Seat} (h : page.seats[id]? = some seat) :
    ∃ standing, page.standings[id]? = some standing ∧ standing.seat = seat := by
  rwa [seats_eq_map_standings, List.getElem?_map, Option.map_eq_some_iff] at h

lemma signal_congr (hlocation : after.locationChanged = page.locationChanged)
    (hnodes : after.nodes = page.nodes) (ref : SignalRef) : after.signal ref = page.signal ref := by
  cases ref with
  | location => exact hlocation
  | tailOf id => simp only [signal, hnodes]

/-! ## Changing one node -/

@[simp] lemma nodes_modifyNode (page : Page) (id : NodeId) (change : Node → Node) :
    (page.modifyNode id change).nodes = page.nodes.modify id change := rfl

lemma map_modifyNode {β : Type} (change : Node → Node) (f : Node → β)
    (h : ∀ node, f (change node) = f node) (page : Page) (id : NodeId) :
    (page.modifyNode id change).nodes.map f = page.nodes.map f := by
  refine List.ext_getElem? fun other => ?_
  simp only [nodes_modifyNode, List.getElem?_map, List.getElem?_modify]
  cases page.nodes[other]? with
  | none => rfl
  | some node => by_cases hid : id = other <;> simp [hid, h]

lemma signal_modifyNode {change : Node → Node}
    (h : ∀ node, (change node).tailChanged = node.tailChanged) (page : Page) (id : NodeId)
    (ref : SignalRef) : (page.modifyNode id change).signal ref = page.signal ref := by
  cases ref with
  | location => rfl
  | tailOf other =>
      simp only [signal, nodes_modifyNode, List.getElem?_modify]
      cases page.nodes[other]? with
      | none => rfl
      | some node => by_cases hid : id = other <;> simp [hid, h]

/-- What changes of one node, seen from any other. -/
lemma getElem?_modifyNode_ne {change : Node → Node} {other : NodeId} (h : id ≠ other) :
    (page.modifyNode id change).nodes[other]? = page.nodes[other]? := by
  simp [h]

lemma getElem?_modifyNode_self {change : Node → Node} {node : Node}
    (h : page.nodes[id]? = some node) :
    (page.modifyNode id change).nodes[id]? = some (change node) := by
  simp [h]

lemma forall_nodes_modifyNode {P : Node → Prop} (h : ∀ node ∈ page.nodes, P node)
    {change : Node → Node}
    (hchange : ∀ node, page.nodes[id]? = some node → P node → P (change node)) :
    ∀ node ∈ (page.modifyNode id change).nodes, P node := by
  intro node hmem
  obtain ⟨other, hother⟩ := List.mem_iff_getElem?.1 hmem
  simp only [nodes_modifyNode, List.getElem?_modify] at hother
  obtain ⟨old, hold, rfl⟩ := Option.map_eq_some_iff.1 hother
  have hP := h old (List.mem_of_getElem? hold)
  split
  · next hid => exact hchange old (hid ▸ hold) hP
  · exact hP

/-! ## Changing one signal -/

lemma map_modifySignal {β : Type} (f : Node → β)
    (h : ∀ node tailChanged, f { node with tailChanged := tailChanged } = f node) (page : Page)
    (ref : SignalRef) (change : Signal Listener → Signal Listener) :
    (page.modifySignal ref change).nodes.map f = page.nodes.map f := by
  cases ref with
  | location => rfl
  | tailOf id => exact map_modifyNode _ f (fun _ => h _ _) page id

lemma standings_modifySignal (page : Page) (ref : SignalRef)
    (change : Signal Listener → Signal Listener) :
    (page.modifySignal ref change).standings = page.standings :=
  map_modifySignal Node.standing (fun _ _ => rfl) page ref change

lemma signal_modifySignal_ne {other : SignalRef} (h : ref ≠ other)
    (change : Signal Listener → Signal Listener) :
    (page.modifySignal ref change).signal other = page.signal other := by
  cases ref with
  | location =>
      cases other with
      | location => exact absurd rfl h
      | tailOf id => rfl
  | tailOf id =>
      cases other with
      | location => rfl
      | tailOf id' =>
          have hne : id ≠ id' := fun hid => h (hid ▸ rfl)
          simp only [signal, modifySignal, getElem?_modifyNode_ne hne]

@[simp] lemma watchers_modifySignal (page : Page) (ref : SignalRef)
    (change : Signal Listener → Signal Listener) :
    (page.modifySignal ref change).watchers = page.watchers := by cases ref <;> rfl

@[simp] lemma hooks_modifySignal (page : Page) (ref : SignalRef)
    (change : Signal Listener → Signal Listener) :
    (page.modifySignal ref change).hooks = page.hooks := by cases ref <;> rfl

@[simp] lemma firstHook_modifySignal (page : Page) (ref : SignalRef)
    (change : Signal Listener → Signal Listener) :
    (page.modifySignal ref change).firstHook = page.firstHook := by cases ref <;> rfl

@[simp] lemma directory_modifySignal (page : Page) (ref : SignalRef)
    (change : Signal Listener → Signal Listener) :
    (page.modifySignal ref change).directory = page.directory := by cases ref <;> rfl

/-- There is such a signal on the page. -/
def HasSignal (page : Page) : SignalRef → Prop
  | .location => True
  | .tailOf id => id < page.nodes.length

/-- A signal that there is changes as it is told to. -/
lemma signal_modifySignal_self (h : page.HasSignal ref)
    (change : Signal Listener → Signal Listener) :
    (page.modifySignal ref change).signal ref = change (page.signal ref) := by
  cases ref with
  | location => rfl
  | tailOf id =>
      simp only [HasSignal] at h
      simp [signal, modifySignal, List.getElem?_eq_getElem h]

/-- The signal of a node that does not exist stays without listeners. -/
lemma modifySignal_of_not_hasSignal (h : ¬page.HasSignal ref)
    (change : Signal Listener → Signal Listener) : page.modifySignal ref change = page := by
  cases ref with
  | location => exact absurd trivial h
  | tailOf id =>
      simp only [HasSignal, Nat.not_lt] at h
      simp only [modifySignal, modifyNode, List.modify_eq_self h]

/-! ## Pages that are alike -/

/-- **The same forest**, below the same root. -/
structure SameForest (page after : Page) : Prop where
  seats : after.seats = page.seats
  root : after.root? = page.root?
  /-- The same nodes listen to each signal. -/
  nodes : ∀ ref, (after.signal ref).nodes = (page.signal ref).nodes

lemma SameForest.refl (page : Page) : SameForest page page := ⟨rfl, rfl, fun _ => rfl⟩

lemma SameForest.trans {last : Page} (h : SameForest page after) (h' : SameForest after last) :
    SameForest page last :=
  ⟨h'.seats.trans h.seats, h'.root.trans h.root, fun ref => (h'.nodes ref).trans (h.nodes ref)⟩

lemma SameForest.length (h : SameForest page after) :
    after.nodes.length = page.nodes.length := by
  rw [← length_seats, ← length_seats, h.seats]

/-- **The same in everything that matching looks at or writes down.** -/
structure Same (page after : Page) : Prop where
  standings : after.standings = page.standings
  root : after.root? = page.root?
  /-- The same nodes listen to each signal. -/
  nodes : ∀ ref, (after.signal ref).nodes = (page.signal ref).nodes
  history : after.history = page.history
  queue : after.queue = page.queue
  visits : after.visits = page.visits

lemma Same.refl (page : Page) : Same page page := ⟨rfl, rfl, fun _ => rfl, rfl, rfl, rfl⟩

lemma Same.trans {last : Page} (h : Same page after) (h' : Same after last) : Same page last where
  standings := h'.standings.trans h.standings
  root := h'.root.trans h.root
  nodes := fun ref => (h'.nodes ref).trans (h.nodes ref)
  history := h'.history.trans h.history
  queue := h'.queue.trans h.queue
  visits := h'.visits.trans h.visits

lemma Same.forest (h : Same page after) : SameForest page after :=
  ⟨by simp only [seats_eq_map_standings, h.standings], h.root, h.nodes⟩

/-! ## Soundness -/

/-- **A sound page.** -/
structure Sound (page : Page) : Prop where
  /-- Signals give their numbers in order. -/
  orderly : ∀ ref, (page.signal ref).Orderly
  /-- A node that listens to a signal is mounted, and knows that it listens there. -/
  heard : ∀ ref number id, (number, id) ∈ (page.signal ref).nodes →
    ∃ seat, page.seats[id]? = some seat ∧ seat.mounted ∧ seat.subscription = ⟨ref, number⟩
  /-- A mounted node listens to what it has subscribed to. -/
  listening : ∀ id seat, page.seats[id]? = some seat → seat.mounted →
    (seat.subscription.number, id) ∈ (page.signal seat.subscription.signal).nodes
  /-- A node is younger than the one it is nested in. -/
  elder : Rising page.seats
  /-- Nodes listen in the order in which they were mounted. -/
  inOrder : ∀ ref, ((page.signal ref).nodes.map (·.2)).Pairwise (· < ·)
  /-- Exactly the nodes that listen for the location are matched from the root. -/
  placed : ∀ standing ∈ page.standings, standing.place = .root ↔ standing.seat.isTop
  /-- The elements of each node are in line with what it has learned. -/
  inLine : ∀ node ∈ page.nodes, node.cache.InLine node.lastMatch
  /-- Only mounted nodes that listen for the location wait. -/
  waiting : ∀ id ∈ page.queue.pending, ∃ seat, page.seats[id]? = some seat ∧ seat.mounted ∧
    seat.isTop
  /-- Subscriptions that have a name belong to no node. -/
  apart : ∀ entry ∈ page.directory.subscriptions, ∀ id,
    (entry.2.number, id) ∉ (page.signal entry.2.signal).nodes
  /-- Subscriptions that have a name were given out. -/
  given : ∀ entry ∈ page.directory.subscriptions,
    entry.2.number < (page.signal entry.2.signal).nextNumber

/-- A node that listens for the location is matched from the root. -/
lemma Sound.place_eq_root (h : page.Sound) {node : Node} (hnode : page.nodes[id]? = some node)
    (htop : node.subscription.signal = .location) : node.route.place = .root :=
  (h.placed node.standing (List.mem_map_of_mem (List.mem_of_getElem? hnode))).2
    (decide_eq_true htop)

/-- A page with the same forest is sound if what is not a matter of the forest is so. -/
lemma Sound.of_forest (h : page.Sound) (hforest : SameForest page after)
    (horderly : ∀ ref, (after.signal ref).Orderly)
    (hplaced : ∀ standing ∈ after.standings, standing.place = .root ↔ standing.seat.isTop)
    (hinLine : ∀ node ∈ after.nodes, node.cache.InLine node.lastMatch)
    (hwaiting : ∀ id ∈ after.queue.pending, ∃ seat, page.seats[id]? = some seat ∧ seat.mounted ∧
      seat.isTop)
    (hnext : ∀ ref, (page.signal ref).nextNumber ≤ (after.signal ref).nextNumber)
    (hgiven : ∀ entry ∈ after.directory.subscriptions, entry ∈ page.directory.subscriptions ∨
      (∀ id, (entry.2.number, id) ∉ (page.signal entry.2.signal).nodes) ∧
        entry.2.number < (after.signal entry.2.signal).nextNumber) :
    after.Sound where
  orderly := horderly
  heard := by rw [hforest.seats]; intro ref; rw [hforest.nodes]; exact h.heard ref
  listening := by
    rw [hforest.seats]; intro id seat; rw [hforest.nodes]; exact h.listening id seat
  elder := by rw [hforest.seats]; exact h.elder
  inOrder := by intro ref; rw [hforest.nodes]; exact h.inOrder ref
  placed := hplaced
  inLine := hinLine
  waiting := by rw [hforest.seats]; exact hwaiting
  apart := by
    intro entry hentry id
    rw [hforest.nodes]
    rcases hgiven entry hentry with hold | hnew
    · exact h.apart entry hold id
    · exact hnew.1 id
  given := by
    intro entry hentry
    rcases hgiven entry hentry with hold | hnew
    · exact Nat.lt_of_lt_of_le (h.given entry hold) (hnext _)
    · exact hnew.2

/-- What matching does not change about soundness follows from the standings; the rest is a matter
of signals, elements and names. -/
lemma Sound.of_same (h : page.Sound) (hsame : Same page after)
    (horderly : ∀ ref, (after.signal ref).Orderly)
    (hinLine : ∀ node ∈ after.nodes, node.cache.InLine node.lastMatch)
    (hnext : ∀ ref, (page.signal ref).nextNumber ≤ (after.signal ref).nextNumber)
    (hgiven : ∀ entry ∈ after.directory.subscriptions, entry ∈ page.directory.subscriptions ∨
      (∀ id, (entry.2.number, id) ∉ (page.signal entry.2.signal).nodes) ∧
        entry.2.number < (after.signal entry.2.signal).nextNumber) :
    after.Sound := by
  refine h.of_forest hsame.forest horderly ?_ hinLine ?_ hnext hgiven
  · rw [hsame.standings]; exact h.placed
  · rw [hsame.queue]; exact h.waiting

/-- The queue changes, and perhaps the history; only nodes that may wait do so. -/
lemma Sound.of_queue (h : page.Sound) (hnodes : after.nodes = page.nodes)
    (hlocation : after.locationChanged = page.locationChanged) (hroot : after.root? = page.root?)
    (hdirectory : after.directory = page.directory)
    (hwaiting : ∀ id ∈ after.queue.pending, ∃ seat, page.seats[id]? = some seat ∧ seat.mounted ∧
      seat.isTop) : after.Sound := by
  have hsignal := signal_congr hlocation hnodes
  refine h.of_forest ⟨?_, hroot, fun ref => by rw [hsignal ref]⟩ ?_ ?_ ?_ hwaiting ?_ ?_
  · simp only [seats, hnodes]
  · exact fun ref => hsignal ref ▸ h.orderly ref
  · simp only [standings, hnodes]; exact h.placed
  · rw [hnodes]; exact h.inLine
  · exact fun ref => Nat.le_of_eq (by rw [hsignal ref])
  · rw [hdirectory]; exact fun _ => .inl

lemma Same.modifySignal {change : Signal Listener → Signal Listener}
    (h : (change (page.signal ref)).nodes = (page.signal ref).nodes) :
    Same page (page.modifySignal ref change) := by
  by_cases hhas : page.HasSignal ref
  · refine ⟨standings_modifySignal page ref change, ?_, ?_, ?_, ?_, ?_⟩
    · cases ref <;> rfl
    · intro other
      by_cases hother : ref = other
      · subst hother; rw [signal_modifySignal_self hhas, h]
      · rw [signal_modifySignal_ne hother]
    all_goals cases ref <;> rfl
  · rw [modifySignal_of_not_hasSignal hhas]
    exact Same.refl page

/-- A node's elements do not hang on who listens to its tail. -/
lemma Sound.inLine_modifySignal (h : page.Sound) (ref : SignalRef)
    (change : Signal Listener → Signal Listener) :
    ∀ node ∈ (page.modifySignal ref change).nodes, node.cache.InLine node.lastMatch := by
  cases ref with
  | location => exact h.inLine
  | tailOf id => exact forall_nodes_modifyNode h.inLine fun _ _ hline => hline

lemma Sound.modifySignal {change : Signal Listener → Signal Listener} (hsound : page.Sound)
    (hnodes : (change (page.signal ref)).nodes = (page.signal ref).nodes)
    (horderly : (page.signal ref).Orderly → (change (page.signal ref)).Orderly)
    (hnext : (page.signal ref).nextNumber ≤ (change (page.signal ref)).nextNumber) :
    (page.modifySignal ref change).Sound := by
  by_cases hhas : page.HasSignal ref
  · refine hsound.of_same (Same.modifySignal hnodes) ?_ ?_ ?_ ?_
    · intro other
      by_cases hother : ref = other
      · subst hother; rw [signal_modifySignal_self hhas]; exact horderly (hsound.orderly _)
      · rw [signal_modifySignal_ne hother]; exact hsound.orderly _
    · exact hsound.inLine_modifySignal ref change
    · intro other
      by_cases hother : ref = other
      · subst hother; rw [signal_modifySignal_self hhas]; exact hnext
      · exact Nat.le_of_eq (by rw [signal_modifySignal_ne hother])
    · intro entry hentry
      rw [directory_modifySignal] at hentry
      exact .inl hentry
  · rw [modifySignal_of_not_hasSignal hhas]
    exact hsound

lemma Same.modifyNode {change : Node → Node}
    (hstanding : ∀ node, (change node).standing = node.standing)
    (htail : ∀ node, (change node).tailChanged = node.tailChanged) (page : Page) (id : NodeId) :
    Same page (page.modifyNode id change) where
  standings := map_modifyNode change Node.standing hstanding page id
  root := rfl
  nodes := fun ref => by rw [signal_modifyNode htail]
  history := rfl
  queue := rfl
  visits := rfl

lemma SameForest.modifyNode {change : Node → Node}
    (hseat : ∀ node, (change node).seat = node.seat)
    (htail : ∀ node, (change node).tailChanged = node.tailChanged) (page : Page) (id : NodeId) :
    SameForest page (page.modifyNode id change) :=
  ⟨map_modifyNode change Node.seat hseat page id, rfl, fun ref => by rw [signal_modifyNode htail]⟩

lemma Sound.modifyNode {change : Node → Node} (hsound : page.Sound)
    (hseat : ∀ node, (change node).seat = node.seat)
    (htail : ∀ node, (change node).tailChanged = node.tailChanged)
    (hplace : ∀ node, page.nodes[id]? = some node →
      ((change node).route.place = .root ↔ node.route.place = .root))
    (hinLine : ∀ node, page.nodes[id]? = some node → node.cache.InLine node.lastMatch →
      (change node).cache.InLine (change node).lastMatch) :
    (page.modifyNode id change).Sound := by
  refine hsound.of_forest (.modifyNode hseat htail page id) ?_ ?_ ?_ hsound.waiting ?_ fun _ => .inl
  · intro ref; rw [signal_modifyNode htail]; exact hsound.orderly ref
  · intro standing hstanding
    obtain ⟨node, hnode, rfl⟩ := List.mem_map.1 hstanding
    have hplaced : ∀ old ∈ page.nodes, old.standing.place = .root ↔ old.standing.seat.isTop :=
      fun old hold => hsound.placed _ (List.mem_map_of_mem hold)
    refine forall_nodes_modifyNode hplaced (fun old hold hroot => ?_) node hnode
    exact (hplace old hold).trans (hroot.trans (by simp only [Node.standing, hseat]))
  · exact forall_nodes_modifyNode hsound.inLine hinLine
  · exact fun ref => Nat.le_of_eq (by rw [signal_modifyNode htail])

/-- **Only fields changed that have no part in matching.** -/
structure Aside (page after : Page) : Prop where
  nodes : after.nodes = page.nodes
  /-- Those who listen for the location are the same. -/
  location : after.locationChanged = page.locationChanged
  root : after.root? = page.root?
  history : after.history = page.history
  queue : after.queue = page.queue
  visits : after.visits = page.visits
  named : ∀ entry ∈ after.directory.subscriptions, entry ∈ page.directory.subscriptions

/-- Other names of mounted and stored routes. -/
lemma Aside.renamed (page : Page) (mounted : List (Text × NodeId)) (stored : List (Text × Route)) :
    Aside page { page with directory := { page.directory with mounted := mounted, stored := stored } } :=
  ⟨rfl, rfl, rfl, rfl, rfl, rfl, fun _ => fun h => h⟩

lemma Aside.signal (h : Aside page after) (ref : SignalRef) :
    after.signal ref = page.signal ref :=
  signal_congr h.location h.nodes ref

lemma Aside.same (h : Aside page after) : Same page after where
  standings := by simp only [standings, h.nodes]
  root := h.root
  nodes := fun ref => by rw [h.signal]
  history := h.history
  queue := h.queue
  visits := h.visits

lemma Aside.sound (h : Aside page after) (hsound : page.Sound) : after.Sound := by
  refine hsound.of_same h.same ?_ ?_ ?_ ?_
  · intro ref; rw [h.signal]; exact hsound.orderly ref
  · rw [h.nodes]; exact hsound.inLine
  · intro ref; exact Nat.le_of_eq (by rw [h.signal])
  · exact fun entry hentry => .inl (h.named entry hentry)

lemma visits_note {event : PageEvent} (h : event.visit? = none) (page : Page) :
    ({ page with events := event :: page.events } : Page).visits = page.visits := by
  simp [visits, h]

lemma visits_refreshed (visit : Visit) (page : Page) :
    ({ page with events := .refreshed visit :: page.events } : Page).visits
      = page.visits ++ [visit] := by
  simp [visits, PageEvent.visit?]

/-- A note of anything but a visit. -/
lemma Aside.note {event : PageEvent} (h : event.visit? = none) (page : Page) :
    Aside page { page with events := event :: page.events } :=
  ⟨rfl, rfl, rfl, rfl, rfl, visits_note h page, fun _ => id⟩

end Page

end PageRouter
