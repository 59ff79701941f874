import PageRouter.Proofs.Commands
import PageRouter.Proofs.Deliveries

/-!
# What a page owes its nodes

A navigation changes the location at once, and the nodes follow one by one.  In the meantime a page
is right but for some nodes, which are excused because their turn is still to come: `Right excused`
says that every other live node has learned what there is to learn from its place, or hangs below a
node that waits; and that a node with an unmounted one around it has learned nothing.

Whatever a page does, it does either while its document is busy or while it is free.

* While it is busy, no node is matched (`Held`).  If the location changes, everyone who listens for
  it waits afterwards.
* While it is free, nodes are matched, but whatever was right is right afterwards, and either nobody
  waits afterwards or nothing happened to those who did (`Free`).

`Moves` puts the two together; it links a page to what becomes of it, so it can be followed through
any nesting of hooks, listeners and tellings.
-/

namespace PageRouter.Page

variable {page mid after : Page} {excused : NodeId → Prop}

/-- What there is to learn from a standing. -/
def reads (page : Page) (standing : Standing) : Outcome :=
  standing.seat.pattern.matchUnder standing.place page.url page.root

/-- The node hangs below one that waits. -/
def Owes (page : Page) (id : NodeId) : Prop :=
  ∃ top ∈ page.queue.pending, Below page.seats top id

/-- **A standing is right**: a live node has learned what there is to learn, or hangs below a node
that waits; any other node has learned nothing, and has no tail to learn from while it is mounted. -/
structure RightAt (page : Page) (id : NodeId) (standing : Standing) : Prop where
  live : Live page.seats id → standing.lastMatch = page.reads standing ∨ page.Owes id
  /-- A node that is not live has learned nothing. -/
  cut : ¬Live page.seats id → standing.lastMatch = none
  /-- It has no tail to learn from. -/
  alone : ¬Live page.seats id → standing.seat.mounted → standing.place = .child none

/-- **A page is right but for some nodes.** -/
def Right (excused : NodeId → Prop) (page : Page) : Prop :=
  ∀ id standing, page.standings[id]? = some standing → ¬excused id → page.RightAt id standing

lemma Right.mono (h : Right excused page) {excused' : NodeId → Prop}
    (himp : ∀ id, excused id → excused' id) : Right excused' page :=
  fun id standing hid hnot => h id standing hid fun hexcused => hnot (himp id hexcused)

/-! ## Moves -/

/-- **What becomes of a page while its document is busy.** -/
structure Held (page after : Page) : Prop where
  standings : after.standings = page.standings
  root : after.root? = page.root?
  /-- The same nodes listen to each signal. -/
  nodes : ∀ ref, (after.signal ref).nodes = (page.signal ref).nodes
  visits : after.visits = page.visits
  /-- The document is as busy as before. -/
  busy : after.queue.busy = page.queue.busy
  waits : ∀ id ∈ page.queue.pending, id ∈ after.queue.pending
  /-- If the location changed, everyone who listens for it waits. -/
  turn : after.url = page.url ∨
    ∀ id seat, page.seats[id]? = some seat → seat.mounted → seat.isTop → id ∈ after.queue.pending

/-- **What becomes of a page while its document is free.** -/
structure Free (page after : Page) : Prop where
  forest : SameForest page after
  /-- The document is as busy as before. -/
  busy : after.queue.busy = page.queue.busy
  /-- Nobody waits, or the same nodes do. -/
  pending : after.queue.pending = [] ∨ after.queue.pending = page.queue.pending
  right : ∀ excused, Right excused page → Right excused after
  /-- Tails arrive as the visits say. -/
  visits : ∃ visits, after.visits = page.visits ++ visits ∧ Accounts page after visits

/-- **What becomes of a page.** -/
structure Moves (page after : Page) : Prop where
  held : page.queue.busy = true → Held page after
  free : page.queue.busy = false → Free page after

lemma Held.forest (h : Held page after) : SameForest page after :=
  ⟨by simp only [seats_eq_map_standings, h.standings], h.root, h.nodes⟩

lemma Held.trans (h : Held page mid) (h' : Held mid after) : Held page after where
  standings := h'.standings.trans h.standings
  root := h'.root.trans h.root
  nodes := fun ref => (h'.nodes ref).trans (h.nodes ref)
  visits := h'.visits.trans h.visits
  busy := h'.busy.trans h.busy
  waits := fun id hid => h'.waits id (h.waits id hid)
  turn := by
    rcases h'.turn with hurl' | hall
    · rcases h.turn with hurl | hall
      · exact .inl (hurl'.trans hurl)
      · exact .inr fun id seat hseat hmounted htop => h'.waits id (hall id seat hseat hmounted htop)
    · exact .inr (by rw [← h.forest.seats]; exact hall)

lemma Free.trans (h : Free page mid) (h' : Free mid after) : Free page after where
  forest := h.forest.trans h'.forest
  busy := h'.busy.trans h.busy
  pending := by
    rcases h'.pending with hnil | hsame
    · exact .inl hnil
    · rcases h.pending with hnil | hsame'
      · exact .inl (hsame.trans hnil)
      · exact .inr (hsame.trans hsame')
  right := fun excused hright => h'.right excused (h.right excused hright)
  visits := by
    obtain ⟨first, hfirst, haccounts⟩ := h.visits
    obtain ⟨second, hsecond, haccounts'⟩ := h'.visits
    refine ⟨first ++ second, by rw [hsecond, hfirst, List.append_assoc], ?_⟩
    exact haccounts.append h.forest.seats haccounts'

/-! ## Changes that matching does not see -/

lemma reads_congr (hurl : after.url = page.url) (hroot : after.root? = page.root?)
    (standing : Standing) : after.reads standing = page.reads standing := by
  simp only [reads, hurl, Page.root, hroot]

/-- A standing stays right in the same forest at the same location, with the same nodes waiting. -/
lemma RightAt.congr {id : NodeId} {standing : Standing} (h : page.RightAt id standing)
    (hseats : after.seats = page.seats) (hroot : after.root? = page.root?)
    (hurl : after.url = page.url) (hpending : after.queue.pending = page.queue.pending) :
    after.RightAt id standing := by
  refine ⟨?_, hseats ▸ h.cut, hseats ▸ h.alone⟩
  rw [hseats, reads_congr hurl hroot, Owes, hpending, hseats]
  exact h.live

lemma Right.congr (h : Right excused page) (hstandings : after.standings = page.standings)
    (hroot : after.root? = page.root?) (hurl : after.url = page.url)
    (hpending : after.queue.pending = page.queue.pending) : Right excused after := by
  have hseats : after.seats = page.seats := by simp only [seats_eq_map_standings, hstandings]
  intro id standing hid hnot
  rw [hstandings] at hid
  exact (h id standing hid hnot).congr hseats hroot hurl hpending

lemma Right.of_same (h : Right excused page) (hsame : Same page after) : Right excused after :=
  h.congr hsame.standings hsame.root (by simp only [url, hsame.history]) (by rw [hsame.queue])

lemma Held.of_same (h : Same page after) : Held page after where
  standings := h.standings
  root := h.root
  nodes := h.nodes
  visits := h.visits
  busy := by rw [h.queue]
  waits := by rw [h.queue]; exact fun _ => id
  turn := .inl (by simp only [url, h.history])

lemma Free.of_same (h : Same page after) : Free page after where
  forest := h.forest
  busy := by rw [h.queue]
  pending := .inr (by rw [h.queue])
  right := fun _ hright => hright.of_same h
  visits := ⟨[], by rw [h.visits, List.append_nil], .of_standings h.standings⟩

lemma Moves.of_same (h : Same page after) : Moves page after :=
  ⟨fun _ => .of_same h, fun _ => .of_same h⟩

lemma Moves.trans (h : Moves page mid) (h' : Moves mid after) : Moves page after where
  held := fun hbusy => (h.held hbusy).trans (h'.held ((h.held hbusy).busy.trans hbusy))
  free := fun hfree => (h.free hfree).trans (h'.free ((h.free hfree).busy.trans hfree))

/-- **Moves can be followed through hooks and listeners.** -/
lemma Lasting.moves : Lasting Moves where
  refl := fun page => .of_same (.refl page)
  trans := Moves.trans
  aside := fun haside => .of_same haside.same

/-- While the document is busy, what was right stays right: nobody is matched, and if the location
changed then everyone waits. -/
lemma Right.of_held (h : Right excused page) (hheld : Held page after) : Right excused after := by
  have hseats : after.seats = page.seats := hheld.forest.seats
  intro id standing hid hnot
  rw [hheld.standings] at hid
  obtain ⟨hlive, hcut, halone⟩ := h id standing hid hnot
  refine ⟨fun his => ?_, hseats ▸ hcut, hseats ▸ halone⟩
  rw [hseats] at his
  rcases hheld.turn with hurl | hall
  · rw [reads_congr hurl hheld.root]
    refine (hlive his).imp_right ?_
    rintro ⟨top, htop, hbelow⟩
    exact ⟨top, hheld.waits top htop, hseats ▸ hbelow⟩
  · obtain ⟨top, seat, hseat, hmounted, htop, hbelow⟩ := his.exists_top
    exact .inr ⟨top, hall top seat hseat hmounted htop, hseats ▸ hbelow⟩

end PageRouter.Page
