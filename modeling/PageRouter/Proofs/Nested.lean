import PageRouter.Proofs.Sessions

/-!
# Nested nodes and the tails they are told

A nested node is matched from a tail of the node around it, and it is **in sync** if that is the tail
that the other has learned last.  What it has learned always fits its own place
(`inSync_iff_settledPlace`); whether the place is in sync depends on how tellings nest.

A node that is matched once by a command leaves the nodes in it in sync (`inSync_of_matched_once`).
If it is matched again before all of them have been told its tail — because an element of the first of
them changes the location when it becomes active —, the others hear of the newer tail first and of the
older one last, and stay with the older one (`sibling_left_behind`).
-/

namespace PageRouter.Page

variable {late : Bool} {page after : Page} {command : Command} {answer : Answer}
  {parent child : NodeId} {around node : Node}

/-- What a command of a session leaves behind. -/
lemma Session.run_rests (h : Session late page) (hbrings : command.brings Command.roams)
    (htimely : late = true ∨ page.Timely command)
    (hrun : page.run command = some (answer, after)) : after.AtRest late ∧ Passes page after := by
  obtain ⟨depth, hperform⟩ := run_eq_some hrun
  exact (perform_rests (exec_conducts Scope.all depth) h.atRest hbrings htimely).of_eq hperform

lemma placeOf_of_nodes (h : page.nodes[child]? = some node) :
    page.placeOf child = node.route.place := by
  rw [placeOf, getElem?_standings, h]
  rfl

lemma tailOf_of_nodes (h : page.nodes[child]? = some node) :
    page.tailOf child = node.lastMatch.tail := by
  rw [tailOf, getElem?_standings, h]
  rfl

/-- At rest a nested node has learned what there is to learn from its place. -/
lemma AtRest.lastMatch_nested (h : page.AtRest late) (hnode : page.nodes[child]? = some node)
    (hmounted : node.mounted) (hsub : node.subscription.signal = .tailOf parent) :
    node.lastMatch = node.pattern.matchUnder node.route.place page.url page.root := by
  have hstanding : page.standings[child]? = some node.standing := standings_of_nodes hnode
  have hstale : ¬page.Stale late child := by
    rintro ⟨-, seat, hseat, -, htop⟩
    rw [seats_of_nodes hnode, Option.some.injEq] at hseat
    subst hseat
    simp only [Seat.isTop, Node.seat, hsub, decide_eq_true_eq] at htop
    cases htop
  obtain ⟨hlive, hcut, halone⟩ := h.right child node.standing hstanding hstale
  by_cases his : Live page.seats child
  · refine (hlive his).resolve_right ?_
    rintro ⟨top, htop, -⟩
    rw [h.pending] at htop
    cases htop
  · have hnone : node.lastMatch = none := hcut his
    have hplace : node.route.place = .child none := halone his hmounted
    rw [hnone, hplace]
    rfl

/-- **When a nested node is in sync after a command**: exactly if the last tail that its visits took is
the last one that the node around it published.  Either way it has learned what there is to learn from
the place that it has. -/
theorem inSync_iff_settledPlace (h : Session true page) (hbrings : command.brings Command.roams)
    (hrun : page.run command = some (answer, after)) (haround : after.nodes[parent]? = some around)
    (hnode : after.nodes[child]? = some node) (haroundMounted : around.mounted)
    (hmounted : node.mounted) (hsub : node.subscription.signal = .tailOf parent) :
    ∃ visits, after.visits = page.visits ++ visits ∧
      node.lastMatch = node.pattern.matchUnder node.route.place after.url after.root ∧
      (node.route.place = .child around.lastMatch.tail ↔
        settledPlace parent child (page.firstPlace parent child) visits
          = .child (visits.foldl (publish parent) (page.tailOf parent))) := by
  obtain ⟨hrest, hpasses⟩ := h.run_rests hbrings (.inl rfl) hrun
  obtain ⟨visits, hvisits, hsettles⟩ := hpasses.visits
  have hseat : after.seats[child]? = some node.seat := seats_of_nodes hnode
  have haroundSeat : after.seats[parent]? = some around.seat := seats_of_nodes haround
  have hdelivered := hsettles.delivered parent child _ _ hseat ⟨hmounted, hsub⟩ haroundSeat
    haroundMounted
  have hpublished := hsettles.published parent _ haroundSeat haroundMounted
  rw [placeOf_of_nodes hnode] at hdelivered
  rw [Publishes, tailOf_of_nodes haround] at hpublished
  refine ⟨visits, hvisits, hrest.lastMatch_nested hnode hmounted hsub, ?_⟩
  rw [settledPlace, hdelivered, hpublished]

/-! ## Nodes that are matched once -/

/-- Without a visit of the parent nothing is under way, and the child stays where it is. -/
lemma foldl_deliver_of_forall_ne {visits : List Visit} (h : ∀ visit ∈ visits, visit.node ≠ parent)
    (place : ParentLink) : visits.foldl (deliver parent child) ([], place) = ([], place) := by
  induction visits with
  | nil => rfl
  | cons visit rest ih =>
      have hstep : deliver parent child ([], place) visit = ([], place) := by
        simp [deliver, h visit (List.mem_cons_self ..)]
      rw [List.foldl_cons, hstep]
      exact ih fun other hother => h other (List.mem_cons_of_mem _ hother)

/-- One tail under way arrives, and the child stays there. -/
lemma foldl_deliver_of_one {visits : List Visit} (h : ∀ visit ∈ visits, visit.node ≠ parent)
    {tail : Option Tail} {place last : ParentLink}
    (hlast : visits.foldl (deliver parent child) ([tail], place) = ([], last)) :
    last = .child tail := by
  induction visits with
  | nil => cases hlast
  | cons visit rest ih =>
      have hrest : ∀ other ∈ rest, other.node ≠ parent :=
        fun other hother => h other (List.mem_cons_of_mem _ hother)
      have hne := h visit (List.mem_cons_self ..)
      rw [List.foldl_cons] at hlast
      by_cases hchild : visit.node = child
      · rw [deliver_child hchild (hchild ▸ hne), foldl_deliver_of_forall_ne hrest] at hlast
        exact (Prod.mk.injEq .. ▸ hlast).2.symm
      · rw [deliver_of_ne hne hchild] at hlast
        exact ih hrest hlast

lemma foldl_publish_of_forall_ne {visits : List Visit} (h : ∀ visit ∈ visits, visit.node ≠ parent)
    (tail : Option Tail) : visits.foldl (publish parent) tail = tail := by
  induction visits with
  | nil => rfl
  | cons visit rest ih =>
      rw [List.foldl_cons, publish, if_neg (h visit (List.mem_cons_self ..))]
      exact ih fun other hother => h other (List.mem_cons_of_mem _ hother)

/-- **A node that a command matches once** leaves the nodes in it in sync. -/
theorem inSync_of_matched_once (h : Session true page) (hbrings : command.brings Command.roams)
    (hrun : page.run command = some (answer, after)) (haround : after.nodes[parent]? = some around)
    (hnode : after.nodes[child]? = some node) (haroundMounted : around.mounted)
    (hmounted : node.mounted) (hsub : node.subscription.signal = .tailOf parent)
    {before later : List Visit} {visit : Visit}
    (hvisits : after.visits = page.visits ++ (before ++ visit :: later))
    (hbefore : ∀ other ∈ before, other.node ≠ parent) (hvisit : visit.node = parent)
    (hlater : ∀ other ∈ later, other.node ≠ parent) :
    node.route.place = .child around.lastMatch.tail := by
  obtain ⟨-, hpasses⟩ := h.run_rests hbrings (.inl rfl) hrun
  obtain ⟨visits, hvisits', hsettles⟩ := hpasses.visits
  obtain rfl : before ++ visit :: later = visits := List.append_cancel_left (hvisits.symm.trans hvisits')
  have hseat : after.seats[child]? = some node.seat := seats_of_nodes hnode
  have haroundSeat : after.seats[parent]? = some around.seat := seats_of_nodes haround
  have hdelivered := hsettles.delivered parent child _ _ hseat ⟨hmounted, hsub⟩ haroundSeat
    haroundMounted
  have hpublished := hsettles.published parent _ haroundSeat haroundMounted
  rw [List.foldl_append, foldl_deliver_of_forall_ne hbefore, List.foldl_cons, deliver_parent hvisit,
    placeOf_of_nodes hnode] at hdelivered
  rw [Publishes, List.foldl_append, List.foldl_cons, publish, if_pos hvisit,
    foldl_publish_of_forall_ne hlater, tailOf_of_nodes haround] at hpublished
  rw [foldl_deliver_of_one hlater hdelivered, hpublished]

/-! ## A sibling that is left behind -/

/-- Two routes are mounted in one, and a hook changes the location as soon as an element of the first
of them becomes active. -/
def siblings : List Command :=
  let shown (pattern element : String) : RouteSource := .fresh
    { Route.new with pattern := some pattern.toList, element := some element.toList }
  [ .mount "p".toList none (shown "/p/*r" "p-page"),
    .mount "a".toList (some "p".toList) (shown "/:x" "a-page"),
    .mount "b".toList (some "p".toList) (shown "/:x" "b-page"),
    .setHooks [⟨⟨.activated, some "a-page".toList, none⟩, 1, [.replace "/p/two".toList none]⟩] ]

/-- The page with the routes and the hook. -/
def redirecting : Page := (Page.start (.start History.localOrigin "/".toList true)).plays siblings

/-- The page after a visit that the hook turns into another one. -/
def redirected : Page := redirecting.play (.push "/p/one".toList none)

/-- **The second sibling is left behind** on the tail of the location that the hook has left. -/
theorem sibling_left_behind :
    ∃ visits node around, redirected.visits = redirecting.visits ++ visits ∧
      redirected.nodes[0]? = some around ∧ redirected.nodes[2]? = some node ∧
      node.lastMatch = node.pattern.matchUnder node.route.place redirected.url redirected.root ∧
      node.route.place ≠ .child around.lastMatch.tail := by
  have hsession : Session true redirecting := (Session.start _).plays (by decide +kernel)
  obtain ⟨answer, hrun⟩ : ∃ answer,
      redirecting.run (.push "/p/one".toList none) = some (answer, redirected) :=
    run_play (by decide +kernel)
  have hround : (redirected.nodes[0]?.map (·.mounted)) = some true := by decide +kernel
  have hin : (redirected.nodes[2]?.map fun node => (node.mounted, node.subscription.signal))
      = some (true, .tailOf 0) := by decide +kernel
  obtain ⟨around, haround, hmountedAround⟩ := Option.map_eq_some_iff.1 hround
  obtain ⟨node, hnode, hnodeIn⟩ := Option.map_eq_some_iff.1 hin
  obtain ⟨hmounted, hsub⟩ := Prod.mk.inj hnodeIn
  obtain ⟨visits, hvisits, hmatch, hsync⟩ := inSync_iff_settledPlace hsession rfl hrun haround hnode
    hmountedAround hmounted hsub
  refine ⟨visits, node, around, hvisits, haround, hnode, hmatch, mt hsync.1 ?_⟩
  have hlength : visits = redirected.visits.drop redirecting.visits.length := by
    rw [hvisits, List.drop_left]
  rw [hlength]
  decide +kernel

end PageRouter.Page
