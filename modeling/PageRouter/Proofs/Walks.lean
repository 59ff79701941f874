import Mathlib.Data.List.Induction
import Mathlib.Data.List.Sort
import PageRouter.Proofs.Sound

/-!
# Walks through the forest

What a page does with signals and listeners can be said of its seats alone.

* `preorder` lists the live nodes as a walk through the forest meets them: each node before the nodes
  in it, one tree after the other, siblings in the order in which they were mounted.
* `expected` is what a node learns if everyone is matched from the root downwards, each node once its
  parent is known.  Nothing that the page remembers goes into it.
-/

namespace PageRouter

open Page

variable {seats : List Seat} {id other : Nat} {ref : SignalRef}

/-! ## Preorder -/

/-- The mounted nodes that listen to a signal, in the order in which they were mounted. -/
def listenersTo (seats : List Seat) (ref : SignalRef) : List NodeId :=
  (List.range seats.length).filter fun id =>
    seats[id]?.any fun seat => seat.mounted && seat.subscription.signal = ref

/-- A node and the mounted nodes in it, down to a given depth. -/
def walk (seats : List Seat) : Nat → NodeId → List NodeId
  | 0, _ => []
  | depth + 1, id => id :: (listenersTo seats (.tailOf id)).flatMap (walk seats depth)

/-- A node and the mounted nodes in it. -/
def subtree (seats : List Seat) (id : NodeId) : List NodeId := walk seats seats.length id

/-- **The live nodes in preorder.** -/
def preorder (seats : List Seat) : List NodeId :=
  (listenersTo seats .location).flatMap (subtree seats)

lemma mem_listenersTo : id ∈ listenersTo seats ref ↔
    ∃ seat, seats[id]? = some seat ∧ seat.mounted ∧ seat.subscription.signal = ref := by
  simp only [listenersTo, List.mem_filter, List.mem_range, Option.any_eq_true, Bool.and_eq_true,
    decide_eq_true_eq]
  constructor
  · rintro ⟨-, seat, hseat, hmounted, hsignal⟩
    exact ⟨seat, hseat, hmounted, hsignal⟩
  · rintro ⟨seat, hseat, hmounted, hsignal⟩
    exact ⟨(List.getElem?_eq_some_iff.1 hseat).1, seat, hseat, hmounted, hsignal⟩

lemma lt_of_mem_listenersTo (h : id ∈ listenersTo seats ref) : id < seats.length := by
  obtain ⟨seat, hseat, -⟩ := mem_listenersTo.1 h
  exact (List.getElem?_eq_some_iff.1 hseat).1

lemma listenersTo_sorted (seats : List Seat) (ref : SignalRef) :
    (listenersTo seats ref).Pairwise (· < ·) :=
  List.pairwise_lt_range.filter _

lemma Rising.lt_of_mem_listenersTo (hrising : Rising seats) (h : id ∈ listenersTo seats (.tailOf other)) :
    other < id := by
  obtain ⟨seat, hseat, -, hsignal⟩ := mem_listenersTo.1 h
  exact hrising id seat other hseat hsignal

/-! ### Depth -/

/-- Nothing is deeper in the forest than there are nodes behind it. -/
lemma walk_eq_walk (hrising : Rising seats) {depth depth' : Nat} (hid : id < seats.length)
    (h : seats.length ≤ id + depth) (h' : seats.length ≤ id + depth') :
    walk seats depth id = walk seats depth' id := by
  induction depth generalizing id depth' with
  | zero => omega
  | succ depth ih =>
      cases depth' with
      | zero => omega
      | succ depth' =>
          simp only [walk, List.cons.injEq, true_and]
          refine List.flatMap_congr fun child hchild => ?_
          have hlt := hrising.lt_of_mem_listenersTo hchild
          exact ih (lt_of_mem_listenersTo hchild) (by omega) (by omega)

/-- A walk meets a node and then walks through the nodes in it, one after the other. -/
lemma subtree_eq (hrising : Rising seats) (hid : id < seats.length) :
    subtree seats id = id :: (listenersTo seats (.tailOf id)).flatMap (subtree seats) := by
  have hdeeper : subtree seats id = walk seats (seats.length + 1) id :=
    walk_eq_walk hrising hid (Nat.le_add_left ..) (by omega)
  rw [hdeeper, walk]
  rfl

/-! ### Whom a walk meets -/

lemma Below.le (hrising : Rising seats) (h : Below seats id other) : id ≤ other := by
  induction h with
  | self => exact Nat.le_refl _
  | nested hseat hin _ ih => exact Nat.le_trans ih (Nat.le_of_lt (hrising _ _ _ hseat hin.2))

/-- Of two nodes around a third one, one is around the other. -/
lemma Below.comparable {first second : NodeId} (h : Below seats first id)
    (h' : Below seats second id) : Below seats first second ∨ Below seats second first := by
  induction h with
  | self => exact .inr h'
  | @nested id parent seat hseat hin hbelow ih =>
      cases h' with
      | self => exact .inl (.nested hseat hin hbelow)
      | nested hseat' hin' hbelow' =>
          rw [hseat, Option.some.injEq] at hseat'
          subst hseat'
          obtain rfl := SignalRef.tailOf.inj (hin.2.symm.trans hin'.2)
          exact ih hbelow'

/-- No sibling is in another one. -/
lemma Below.eq_of_siblings (hrising : Rising seats) (hid : id ∈ listenersTo seats ref)
    (hother : other ∈ listenersTo seats ref) (h : Below seats id other) : id = other := by
  cases h with
  | self => rfl
  | @nested _ parent seat hseat hin hbelow =>
      obtain ⟨seat', hseat', -, hsignal⟩ := mem_listenersTo.1 hother
      rw [hseat, Option.some.injEq] at hseat'
      subst hseat'
      rw [← hsignal, hin.2] at hid
      exact absurd (hrising.lt_of_mem_listenersTo hid) (Nat.not_lt.2 (hbelow.le hrising))

lemma mem_walk (hrising : Rising seats) {depth : Nat} (hid : id < seats.length)
    (hdepth : seats.length ≤ id + depth) : other ∈ walk seats depth id ↔ Below seats id other := by
  induction depth generalizing id with
  | zero => omega
  | succ depth ih =>
      have hchild : ∀ child ∈ listenersTo seats (.tailOf id),
          other ∈ walk seats depth child ↔ Below seats child other := by
        intro child hchild
        have hlt := hrising.lt_of_mem_listenersTo hchild
        exact ih (lt_of_mem_listenersTo hchild) (by omega)
      simp only [walk, List.mem_cons, List.mem_flatMap]
      constructor
      · rintro (rfl | ⟨child, hmem, hother⟩)
        · exact .self
        · obtain ⟨seat, hseat, hmounted, hsignal⟩ := mem_listenersTo.1 hmem
          exact .of_child hseat ⟨hmounted, hsignal⟩ ((hchild child hmem).1 hother)
      · intro hbelow
        obtain rfl | ⟨child, seat, hseat, hin, hbelow⟩ := hbelow.cases_child
        · exact .inl rfl
        · have hmem : child ∈ listenersTo seats (.tailOf id) :=
            mem_listenersTo.2 ⟨seat, hseat, hin.1, hin.2⟩
          exact .inr ⟨child, hmem, (hchild child hmem).2 hbelow⟩

lemma mem_subtree (hrising : Rising seats) (hid : id < seats.length) :
    other ∈ subtree seats id ↔ Below seats id other :=
  mem_walk hrising hid (Nat.le_add_left ..)

/-- **Preorder lists the live nodes**, all of them and no others. -/
lemma mem_preorder (hrising : Rising seats) : id ∈ preorder seats ↔ Live seats id := by
  simp only [preorder, List.mem_flatMap]
  constructor
  · rintro ⟨top, hmem, hid⟩
    rw [mem_subtree hrising (lt_of_mem_listenersTo hmem)] at hid
    obtain ⟨seat, hseat, hmounted, hsignal⟩ := mem_listenersTo.1 hmem
    exact hid.live (.top hseat hmounted (by simpa [Seat.isTop] using hsignal))
  · intro hlive
    obtain ⟨top, seat, hseat, hmounted, htop, hbelow⟩ := hlive.exists_top
    have hmem : top ∈ listenersTo seats .location :=
      mem_listenersTo.2 ⟨seat, hseat, hmounted, by simpa [Seat.isTop] using htop⟩
    exact ⟨top, hmem, (mem_subtree hrising (lt_of_mem_listenersTo hmem)).2 hbelow⟩

/-! ### Nobody is met twice -/

/-- Walks from siblings do not meet each other. -/
lemma disjoint_of_siblings (hrising : Rising seats) {first second : NodeId} (hne : first ≠ second)
    (hfirst : first ∈ listenersTo seats ref) (hsecond : second ∈ listenersTo seats ref)
    (h : Below seats first id) (h' : Below seats second id) : False := by
  rcases h.comparable h' with hbelow | hbelow
  · exact hne (hbelow.eq_of_siblings hrising hfirst hsecond)
  · exact hne (hbelow.eq_of_siblings hrising hsecond hfirst).symm

lemma nodup_flatMap_listenersTo (hrising : Rising seats) {walks : NodeId → List NodeId}
    (hwalks : ∀ id ∈ listenersTo seats ref, (walks id).Nodup)
    (hmem : ∀ id ∈ listenersTo seats ref, ∀ other ∈ walks id, Below seats id other) :
    ((listenersTo seats ref).flatMap walks).Nodup := by
  rw [List.nodup_flatMap]
  refine ⟨hwalks, ?_⟩
  refine (listenersTo_sorted seats ref).imp_of_mem fun {first second} hfirst hsecond hlt => ?_
  intro other hother hother'
  exact disjoint_of_siblings hrising (Nat.ne_of_lt hlt) hfirst hsecond
    (hmem first hfirst other hother) (hmem second hsecond other hother')

lemma nodup_walk (hrising : Rising seats) {depth : Nat} (hid : id < seats.length)
    (hdepth : seats.length ≤ id + depth) : (walk seats depth id).Nodup := by
  induction depth generalizing id with
  | zero => exact List.nodup_nil
  | succ depth ih =>
      have hdeep : ∀ child ∈ listenersTo seats (.tailOf id), seats.length ≤ child + depth := by
        intro child hchild
        have hlt := hrising.lt_of_mem_listenersTo hchild
        omega
      have hmem : ∀ child ∈ listenersTo seats (.tailOf id), ∀ other ∈ walk seats depth child,
          Below seats child other := fun child hchild other =>
        (mem_walk hrising (lt_of_mem_listenersTo hchild) (hdeep child hchild)).1
      simp only [walk, List.nodup_cons, List.mem_flatMap]
      refine ⟨?_, nodup_flatMap_listenersTo hrising (fun child hchild =>
        ih (lt_of_mem_listenersTo hchild) (hdeep child hchild)) hmem⟩
      rintro ⟨child, hchild, hself⟩
      exact absurd ((hmem child hchild id hself).le hrising)
        (Nat.not_le.2 (hrising.lt_of_mem_listenersTo hchild))

/-- **Preorder lists every live node once.** -/
lemma nodup_preorder (hrising : Rising seats) : (preorder seats).Nodup := by
  refine nodup_flatMap_listenersTo hrising (fun top htop => ?_) fun top htop other hother => ?_
  · exact nodup_walk hrising (lt_of_mem_listenersTo htop) (Nat.le_add_left ..)
  · exact (mem_subtree hrising (lt_of_mem_listenersTo htop)).1 hother

/-! ## Matching from the root downwards -/

/-- What a node learns, if it is known what the nodes before it learn. -/
def learns (url root : Text) (known : List Outcome) (seat : Seat) : Outcome :=
  if seat.mounted then
    match seat.subscription.signal with
    | .location => seat.pattern.matchPath (stripRoot url root)
    | .tailOf parent =>
      seat.pattern.matchUnder (.child (Outcome.tail known[parent]?.join)) url root
  else none

/-- What all nodes learn from a location, one after the other. -/
def topDown (url root : Text) (seats : List Seat) : List Outcome :=
  seats.foldl (fun known seat => known ++ [learns url root known seat]) []

variable {url root : Text} {seat : Seat}

lemma topDown_append (url root : Text) (seats : List Seat) (seat : Seat) :
    topDown url root (seats ++ [seat])
      = topDown url root seats ++ [learns url root (topDown url root seats) seat] := by
  rw [topDown, List.foldl_append]
  rfl

@[simp] lemma length_topDown (url root : Text) (seats : List Seat) :
    (topDown url root seats).length = seats.length := by
  induction seats using List.reverseRecOn with
  | nil => rfl
  | append_singleton seats seat ih => rw [topDown_append, List.length_append, ih]; simp

/-- Only what the node around it has learned matters to a node. -/
lemma learns_congr {known known' : List Outcome}
    (h : ∀ parent, seat.subscription.signal = .tailOf parent → known[parent]? = known'[parent]?) :
    learns url root known seat = learns url root known' seat := by
  unfold learns
  cases hsignal : seat.subscription.signal with
  | location => rfl
  | tailOf parent => simp only [h parent hsignal]

lemma getElem?_topDown (hrising : Rising seats) (hseat : seats[id]? = some seat) :
    (topDown url root seats)[id]? = some (learns url root (topDown url root seats) seat) := by
  induction seats using List.reverseRecOn with
  | nil => cases hseat
  | append_singleton seats last ih =>
      have hbefore : Rising seats := fun other held parent hother hsignal =>
        hrising other held parent
          (by rw [List.getElem?_append_left (List.getElem?_eq_some_iff.1 hother).1]; exact hother)
          hsignal
      have hid : id < seats.length + 1 := by
        simpa using (List.getElem?_eq_some_iff.1 hseat).1
      -- the node around it comes earlier, so what it learns is known already
      have hlearns : learns url root (topDown url root (seats ++ [last])) seat
          = learns url root (topDown url root seats) seat := by
        refine learns_congr fun parent hsignal => ?_
        have hparent : parent < seats.length :=
          Nat.lt_of_lt_of_le (hrising id seat parent hseat hsignal) (Nat.le_of_lt_succ hid)
        rw [topDown_append, List.getElem?_append_left (by rw [length_topDown]; exact hparent)]
      rw [hlearns, topDown_append]
      rcases Nat.lt_or_ge id seats.length with hlt | hge
      · rw [List.getElem?_append_left hlt] at hseat
        rw [List.getElem?_append_left (by rw [length_topDown]; exact hlt)]
        exact ih hbefore hseat
      · obtain rfl : id = seats.length := by omega
        rw [List.getElem?_append_right (Nat.le_refl _), Nat.sub_self] at hseat
        obtain rfl : last = seat := by simpa using hseat
        rw [List.getElem?_append_right (by rw [length_topDown]), length_topDown, Nat.sub_self]
        rfl

namespace Page

variable {page after : Page} {parent : NodeId}

/-- **What a node learns** if everyone is matched anew, from the root downwards. -/
def expected (page : Page) (id : NodeId) : Outcome :=
  (topDown page.url page.root page.seats)[id]?.join

lemma expected_congr (hurl : after.url = page.url) (hroot : after.root = page.root)
    (hseats : after.seats = page.seats) : after.expected = page.expected := by
  funext id
  rw [expected, hurl, hroot, hseats, expected]

lemma expected_eq (hrising : Rising page.seats) (hseat : page.seats[id]? = some seat) :
    page.expected id = learns page.url page.root (topDown page.url page.root page.seats) seat := by
  rw [expected, getElem?_topDown hrising hseat]
  rfl

/-- A top-level node is matched from the root. -/
lemma expected_top (hrising : Rising page.seats) (hseat : page.seats[id]? = some seat)
    (hmounted : seat.mounted) (htop : seat.subscription.signal = .location) :
    page.expected id = seat.pattern.matchPath (stripRoot page.url page.root) := by
  rw [expected_eq hrising hseat, learns, if_pos hmounted, htop]

/-- A nested node is matched from the tail that its parent is expected to have. -/
lemma expected_nested (hrising : Rising page.seats) (hseat : page.seats[id]? = some seat)
    (hin : seat.isIn parent) :
    page.expected id
      = seat.pattern.matchUnder (.child (page.expected parent).tail) page.url page.root := by
  rw [expected_eq hrising hseat, learns, if_pos hin.1, hin.2]
  rfl

/-- Nothing is expected of a node that is not live. -/
lemma expected_of_not_live (hrising : Rising page.seats) (h : ¬Live page.seats id) :
    page.expected id = none := by
  induction id using Nat.strong_induction_on with
  | _ id ih =>
      cases hseat : page.seats[id]? with
      | none =>
          have hbeyond : page.seats.length ≤ id := List.getElem?_eq_none_iff.1 hseat
          rw [expected, List.getElem?_eq_none (by rw [length_topDown]; exact hbeyond)]
          rfl
      | some seat =>
          cases hmounted : seat.mounted with
          | false => rw [expected_eq hrising hseat, learns, hmounted]; rfl
          | true =>
              cases hsignal : seat.subscription.signal with
              | location => exact absurd (.top hseat hmounted (by simp [Seat.isTop, hsignal])) h
              | tailOf parent =>
                  have hcut : ¬Live page.seats parent :=
                    fun hparent => h (.nested hseat ⟨hmounted, hsignal⟩ hparent)
                  rw [expected_nested hrising hseat ⟨hmounted, hsignal⟩,
                    ih parent (hrising id seat parent hseat hsignal) hcut]
                  rfl

end Page

end PageRouter
