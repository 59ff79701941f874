import Mathlib.Data.List.Pairwise
import Mathlib.Tactic.ByContra
import PageRouter.Page.Run

/-!
# The forest of a page

A page keeps its nodes in a list, and the tree that they form is spread over subscriptions and
lists of listeners.  `Seat` is what a node has for as long as nobody mounts or unmounts it: its
pattern, whether it is mounted, and what it listens to.  Everything that is a matter of the tree
alone is said of the seats, so that it plainly stays as it is while nodes are matched again.

* `Live` nodes are mounted, and so are all nodes around them; `Below` relates a node to the mounted
  nodes in it, at any depth.
* `Sound` collects what holds of every page between two commands: listeners and nodes know each
  other, parents are older than their children, and a node's elements are in line with what it
  has learned.
-/

namespace PageRouter

open Page

/-! ## Seats -/

/-- What a node has for as long as it is neither mounted nor unmounted. -/
structure Seat where
  pattern : Pattern
  mounted : Bool
  subscription : Subscription

namespace Seat

/-- A seat that listens for the location. -/
def isTop (seat : Seat) : Bool := seat.subscription.signal = .location

/-- The seat is mounted in another one. -/
def isIn (seat : Seat) (parent : NodeId) : Prop :=
  seat.mounted ∧ seat.subscription.signal = .tailOf parent

end Seat

def Node.seat (node : Node) : Seat := ⟨node.pattern, node.mounted, node.subscription⟩

/-- **A live node** is mounted, and all nodes around it are. -/
inductive Live (seats : List Seat) : NodeId → Prop
  | top {id : NodeId} {seat : Seat} : seats[id]? = some seat → seat.mounted → seat.isTop →
      Live seats id
  | nested {id parent : NodeId} {seat : Seat} : seats[id]? = some seat → seat.isIn parent →
      Live seats parent → Live seats id

/-- The mounted nodes in a node, at any depth, and the node itself. -/
inductive Below (seats : List Seat) (root : NodeId) : NodeId → Prop
  | self : Below seats root root
  | nested {id parent : NodeId} {seat : Seat} : seats[id]? = some seat → seat.isIn parent →
      Below seats root parent → Below seats root id

section Tree

variable {seats : List Seat} {id root parent : NodeId}

lemma Live.exists_seat (h : Live seats id) : ∃ seat, seats[id]? = some seat ∧ seat.mounted := by
  cases h with
  | top hseat hmounted _ => exact ⟨_, hseat, hmounted⟩
  | nested hseat hin _ => exact ⟨_, hseat, hin.1⟩

lemma Live.mounted (h : Live seats id) {seat : Seat} (hseat : seats[id]? = some seat) :
    seat.mounted := by
  obtain ⟨held, hheld, hmounted⟩ := h.exists_seat
  rw [hseat, Option.some.injEq] at hheld
  exact hheld ▸ hmounted

/-- The node around a live node is live. -/
lemma Live.around (h : Live seats id) {seat : Seat} (hseat : seats[id]? = some seat)
    (hin : seat.isIn parent) : Live seats parent := by
  cases h with
  | top htop _ his =>
      rw [hseat, Option.some.injEq] at htop
      subst htop
      have hlocation := of_decide_eq_true his
      rw [hin.2] at hlocation
      cases hlocation
  | nested hheld hin' hparent =>
      rw [hseat, Option.some.injEq] at hheld
      subst hheld
      obtain rfl := SignalRef.tailOf.inj (hin.2.symm.trans hin'.2)
      exact hparent

/-- A live node hangs below a mounted node that listens for the location. -/
lemma Live.exists_top (h : Live seats id) :
    ∃ top seat, seats[top]? = some seat ∧ seat.mounted ∧ seat.isTop ∧ Below seats top id := by
  induction h with
  | top hseat hmounted htop => exact ⟨_, _, hseat, hmounted, htop, .self⟩
  | nested hseat hin _ ih =>
      obtain ⟨top, seat, htop, hmounted, his, hbelow⟩ := ih
      exact ⟨top, seat, htop, hmounted, his, .nested hseat hin hbelow⟩

/-- What hangs below a child hangs below its parent. -/
lemma Below.of_child {child : NodeId} {seat : Seat} (hseat : seats[child]? = some seat)
    (hin : seat.isIn parent) (h : Below seats child id) : Below seats parent id := by
  induction h with
  | self => exact .nested hseat hin .self
  | nested hseat' hin' _ ih => exact .nested hseat' hin' ih

/-- What hangs below a node is the node itself, or hangs below one of its children. -/
lemma Below.cases_child (h : Below seats root id) :
    id = root ∨ ∃ child seat, seats[child]? = some seat ∧ seat.isIn root ∧
      Below seats child id := by
  induction h with
  | self => exact .inl rfl
  | nested hseat hin _ ih =>
      refine .inr ?_
      obtain rfl | ⟨child, seat, hchild, hinroot, hbelow⟩ := ih
      · exact ⟨_, _, hseat, hin, .self⟩
      · exact ⟨child, seat, hchild, hinroot, .nested hseat hin hbelow⟩

lemma Below.live (h : Below seats root id) (hroot : Live seats root) : Live seats id := by
  induction h with
  | self => exact hroot
  | nested hseat hin _ ih => exact .nested hseat hin ih

/-- Nodes are younger than the ones that they are nested in. -/
def Rising (seats : List Seat) : Prop :=
  ∀ id (seat : Seat) parent, seats[id]? = some seat → seat.subscription.signal = .tailOf parent →
    parent < id

end Tree

/-! ### Nodes that come and go -/

section Growth

variable {seats : List Seat} {seat : Seat} {id : NodeId}

lemma Live.append (h : Live seats id) : Live (seats ++ [seat]) id := by
  have hold : ∀ {other : NodeId} {held : Seat}, seats[other]? = some held →
      (seats ++ [seat])[other]? = some held := by
    intro other held hother
    rwa [List.getElem?_append_left (List.getElem?_eq_some_iff.1 hother).1]
  induction h with
  | top hseat hmounted htop => exact .top (hold hseat) hmounted htop
  | nested hseat hin _ ih => exact .nested (hold hseat) hin ih

/-- A new node makes no other one live. -/
lemma Live.of_append (hrising : Rising seats) (h : Live (seats ++ [seat]) id)
    (hid : id < seats.length) : Live seats id := by
  induction h with
  | top hseat hmounted htop =>
      rw [List.getElem?_append_left hid] at hseat
      exact .top hseat hmounted htop
  | nested hseat hin _ ih =>
      rw [List.getElem?_append_left hid] at hseat
      exact .nested hseat hin (ih (Nat.lt_trans (hrising _ _ _ hseat hin.2) hid))

end Growth

section Loss

variable {seats after : List Seat} {id other : NodeId}
  (hothers : ∀ other, other ≠ id → after[other]? = seats[other]?)
  (hgone : ∀ seat, after[id]? = some seat → seat.mounted = false)

include hothers

/-- A node that goes takes nothing with it but what hangs below it. -/
lemma Live.of_ne (h : Live seats other) (hnot : ¬Below seats id other) : Live after other := by
  have hne : ∀ {other : NodeId}, ¬Below seats id other → other ≠ id := by
    rintro other hnot rfl
    exact hnot .self
  induction h with
  | top hseat hmounted htop => exact .top ((hothers _ (hne hnot)).trans hseat) hmounted htop
  | nested hseat hin _ ih =>
      refine .nested ((hothers _ (hne hnot)).trans hseat) hin (ih fun hbelow => hnot ?_)
      exact .nested hseat hin hbelow

/-- What hangs below the node that goes still does. -/
lemma Below.of_loss (h : Below seats id other) : Below after id other := by
  induction h with
  | self => exact .self
  | @nested other parent seat hseat hin _ ih =>
      by_cases hid : other = id
      · exact hid ▸ .self
      · exact .nested ((hothers other hid).trans hseat) hin ih

include hgone

lemma Live.of_loss (h : Live after other) : Live seats other := by
  have hne : ∀ {other : NodeId} {seat : Seat}, after[other]? = some seat → seat.mounted →
      other ≠ id := by
    rintro other seat hseat hmounted rfl
    rw [hgone seat hseat] at hmounted
    cases hmounted
  induction h with
  | top hseat hmounted htop =>
      exact .top ((hothers _ (hne hseat hmounted)).symm.trans hseat) hmounted htop
  | nested hseat hin _ ih =>
      exact .nested ((hothers _ (hne hseat hin.1)).symm.trans hseat) hin ih

end Loss

/-! ## Signals -/

namespace Signal

/-- The nodes among the listeners of a signal, with their numbers. -/
def nodes (signal : Signal Listener) : List (Nat × NodeId) :=
  signal.listeners.filterMap fun
    | (number, .node id) => some (number, id)
    | (_, .watcher _) => none

/-- Numbers go up in the list of listeners, and the next one is beyond them all. -/
structure Orderly {α : Type} (signal : Signal α) : Prop where
  rising : signal.listeners.Pairwise fun a b => a.1 < b.1
  /-- The next number is beyond them all. -/
  beyond : ∀ entry ∈ signal.listeners, entry.1 < signal.nextNumber

variable {α : Type} {signal : Signal Listener}

@[simp] lemma mem_nodes {number : Nat} {id : NodeId} :
    (number, id) ∈ signal.nodes ↔ (number, Listener.node id) ∈ signal.listeners := by
  simp only [nodes, List.mem_filterMap]
  constructor
  · rintro ⟨⟨other, listener⟩, hmem, h⟩
    cases listener with
    | node other' => simp only [Option.some.injEq, Prod.mk.injEq] at h; rw [← h.1, ← h.2]; exact hmem
    | watcher place => simp at h
  · exact fun h => ⟨_, h, rfl⟩

lemma Orderly.eq_of_mem {signal : Signal α} (h : signal.Orderly) {a b : Nat × α}
    (ha : a ∈ signal.listeners) (hb : b ∈ signal.listeners) (hnumber : a.1 = b.1) : a = b := by
  by_contra hne
  have : Std.Symm fun x y : Nat × α => x.1 ≠ y.1 := ⟨fun _ _ hab => hab.symm⟩
  have hdistinct : signal.listeners.Pairwise fun x y => x.1 ≠ y.1 :=
    h.rising.imp fun hlt => Nat.ne_of_lt hlt
  exact hdistinct.forall ha hb hne hnumber

lemma isSubscribed_of_mem {number : Nat} {listener : α} {signal : Signal α}
    (h : (number, listener) ∈ signal.listeners) : signal.isSubscribed number := by
  simp only [isSubscribed, List.any_eq_true]
  exact ⟨_, h, by simp⟩

lemma Orderly.empty : (Signal.empty : Signal α).Orderly :=
  ⟨List.Pairwise.nil, by simp [Signal.empty]⟩

lemma Orderly.subscribe {signal : Signal α} (h : signal.Orderly) (listener : α) :
    (signal.subscribe listener).Orderly where
  rising := by
    simp only [Signal.subscribe, List.pairwise_append, List.pairwise_singleton, true_and]
    exact ⟨h.rising, fun a ha b hb => by simp only [List.mem_singleton] at hb; rw [hb]; exact h.beyond a ha⟩
  beyond := by
    intro entry hentry
    simp only [Signal.subscribe, List.mem_append, List.mem_singleton] at hentry ⊢
    rcases hentry with hentry | rfl
    · exact Nat.lt_succ_of_lt (h.beyond entry hentry)
    · exact Nat.lt_succ_self _

lemma Orderly.cancel {signal : Signal α} (h : signal.Orderly) (number : Nat) :
    (signal.cancel number).Orderly where
  rising := h.rising.filter _
  beyond := fun entry hentry => h.beyond entry (List.mem_filter.1 hentry).1

lemma nodes_subscribe_watcher (signal : Signal Listener) (place : Nat) :
    (signal.subscribe (.watcher place)).nodes = signal.nodes := by
  simp [nodes, Signal.subscribe]

lemma nodes_subscribe_node (signal : Signal Listener) (id : NodeId) :
    (signal.subscribe (.node id)).nodes = signal.nodes ++ [(signal.nextNumber, id)] := by
  simp [nodes, Signal.subscribe]

lemma nodes_cancel (number : Nat) :
    (signal.cancel number).nodes = signal.nodes.filter (·.1 ≠ number) := by
  simp only [nodes, Signal.cancel, List.filterMap_filter, List.filter_filterMap]
  congr 1
  funext ⟨other, listener⟩
  cases listener <;> by_cases h : other = number <;> simp [h, Option.filter]

/-- Taking away a listener that is no node leaves the nodes. -/
lemma nodes_cancel_of_not_mem {number : Nat} (h : ∀ id, (number, id) ∉ signal.nodes) :
    (signal.cancel number).nodes = signal.nodes := by
  rw [nodes_cancel, List.filter_eq_self]
  rintro ⟨other, id⟩ hmem
  simp only [ne_eq, decide_not, Bool.not_eq_eq_eq_not, Bool.not_true, decide_eq_false_iff_not]
  rintro rfl
  exact h id hmem

end Signal

end PageRouter
