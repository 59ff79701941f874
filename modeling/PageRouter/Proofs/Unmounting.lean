import PageRouter.Proofs.Remounts
import PageRouter.Proofs.Stranded

/-!
# Unmounting clears a subtree

Unmounting a route clears the route and all that were mounted in it, and nothing else: `ClearsExactly`
says what that means, for the moment and for ever.  The route can be mounted again under its id
(`unmounting_clears_exactly`).  Listeners can make it clear more, and so can a copy of the route with its
id (`unmounting_clears_more`).
-/

namespace PageRouter.Page

variable {kind : Command → Bool} {scope : Scope} {late : Bool} {page cleared after last : Page}
  {id : NodeId} {node : Node} {routeId : RouteId} {gone : List HostEvent}

/-- **A node is cleared away with all that are mounted in it**, at any depth, and nothing else is. -/
structure ClearsExactly (kind : Command → Bool) (page : Page) (id : NodeId) (routeId : RouteId)
    (after : Page) : Prop where
  /-- They match nothing and show nothing, whatever comes later; nor do those that had been mounted in
  them before. -/
  silent : ∀ (commands : List Command) (other : NodeId), Under page.seats id other →
    ∃ now, (after.plays commands).nodes[other]? = some now ∧ now.lastMatch = none ∧
      now.cache.activeElement = none
  /-- Whenever they are matched again, they learn nothing. -/
  unheard : ∀ commands : List Command, ∃ made, (after.plays commands).visits = after.visits ++ made ∧
    ∀ visit ∈ made, Under page.seats id visit.node → visit.outcome = none
  /-- The document is told of each of their active elements once, that it goes, and of nothing else. -/
  farewells : ∃ told, after.hostEvents = page.hostEvents ++ told ∧
    withoutRemovals told = (subtree page.seats id).flatMap page.farewellOf
  once : (subtree page.seats id).Nodup
  shown : ∀ (other : NodeId) (around : Node), Under page.seats id other →
    page.nodes[other]? = some around → around.cache.activeElement.isSome → other ∈ subtree page.seats id
  /-- All others keep their place, their match and their active element, and their whole cache unless
  somebody changes how many elements it keeps. -/
  others : ∀ (other : NodeId) (around : Node), ¬Below page.seats id other →
    page.nodes[other]? = some around → ∃ now, after.nodes[other]? = some now ∧
      now.standing = around.standing ∧ now.cache.activeElement = around.cache.activeElement ∧
      ((∀ count, ¬page.Sizes kind other count) → now.cache = around.cache)
  /-- One id leaves the registry, unless somebody registers routes by hand. -/
  registry : ¬Command.Records kind → after.registry =
    { page.registry with entries := page.registry.entries.filter (·.id ≠ routeId) }
  /-- So whoever has another id keeps its entry, or still has none. -/
  registered : ¬Command.Records kind → ∀ other, other ≠ routeId →
    after.registry.get? other = page.registry.get? other
  history : after.history = page.history

/-- **A route that has been unmounted keeps its id**, wherever it is mounted again. -/
structure KeepsId (after : Page) (name : Text) (route : Route) (routeId : RouteId) : Prop where
  /-- It is kept under the name that it had. -/
  stored : after.stored? name = some route
  /-- Mounting it at once comes to an end. -/
  atOnce : ∀ (other : Text) (parent : Option Text) (source : RouteSource), source.Gives after route →
    (∀ around ∈ parent, (after.mounted? around).isSome) →
    ∃ last, after.run (.mount other parent source) = some (.id routeId, last)
  /-- Whatever has happened since, it has its id when it is mounted. -/
  later : ∀ (commands : List Command) (other : Text) (parent : Option Text) (answer : Answer)
    (last : Page), (∀ around ∈ parent, ((after.plays commands).mounted? around).isSome) →
    (after.plays commands).run (.mount other parent (.fresh route)) = some (answer, last) →
    answer = .id routeId

/-- Whoever has a name once another has been given up had it before. -/
lemma lookup?_of_forget {α : Type} {name other : Text} {names : List (Text × α)} {value : α}
    (h : lookup? other (forget name names) = some value) : lookup? other names = some value := by
  obtain ⟨entry, hfound, rfl⟩ := Option.map_eq_some_iff.1 h
  rw [forget, List.find?_filter] at hfound
  obtain ⟨hne, hname⟩ : entry.1 ≠ name ∧ entry.1 = other := by
    simpa only [decide_eq_true_eq] using List.find?_some hfound
  refine Option.map_eq_some_iff.2 ⟨entry, ?_, rfl⟩
  rw [← hfound]
  congr 1
  funext held
  by_cases hheld : held.1 = other
  · simp [hheld, ← hname, hne]
  · simp [hheld]

/-- Without the entries for one id, every other id has the entry that it had. -/
lemma get?_without (registry : Registry) {id other : RouteId} (h : other ≠ id) :
    Registry.get? { registry with entries := registry.entries.filter (·.id ≠ id) } other =
      registry.get? other := by
  rw [Registry.get?, Registry.get?, List.find?_filter]
  congr 1
  funext entry
  by_cases hentry : entry.id = other
  · simp [hentry, h]
  · simp [hentry]

/-- **A node that has been unmounted is cleared away** on a page that comes to rest. -/
lemma Cleared.clearsExactly {names : List (Text × NodeId)}
    (h : Cleared kind scope (page.withNames names) id node gone cleared after)
    (hrest : page.AtRest late) (hnode : page.nodes[id]? = some node)
    (hid : node.route.id = some routeId)
    (hsizes : ∀ other count, (page.withNames names).Sizes kind other count → page.Sizes kind other count)
    (hlast : last.AtRest late) (hled : Led (fun _ => true) last) (hnodes : last.nodes = after.nodes)
    (hevents : last.events = after.events) (hregistry : last.registry = after.registry)
    (hhistory : last.history = after.history) : ClearsExactly kind page id routeId last := by
  have hrising : Rising page.seats := hrest.steady.sound.elder
  have hlt : id < page.seats.length := (List.getElem?_eq_some_iff.1 (seats_of_nodes hnode)).1
  have hunder : ∀ other, Under page.seats id other →
      other < last.nodes.length ∧ ¬Live last.seats other := by
    intro other hother
    rw [show last.seats = after.seats from congrArg (List.map Node.seat) hnodes, hnodes]
    exact h.cut hnode hother
  have hremains : ¬Command.Records kind → last.registry =
      { page.registry with entries := page.registry.entries.filter (·.id ≠ routeId) } := by
    intro hrecords
    rw [hregistry, h.registry hrecords, Registry.remove, hid]
    rfl
  constructor
  case silent =>
    intro commands other hother
    obtain ⟨face, hface, hmute⟩ := (hlast.stranded.plays hled).mute other (hunder other hother)
    obtain ⟨now, hnow, rfl⟩ := exists_faced hface
    have hidle : now.cache.active = false := hmute.idle
    exact ⟨now, hnow, hmute.outcome, by simp [ElementCache.activeElement, hidle]⟩
  case unheard =>
    intro commands
    obtain ⟨made, hmade, hsilent⟩ := (hlast.stranded.plays hled).visits
    exact ⟨made, hmade, fun visit hvisit hother => hsilent visit hvisit (hunder _ hother)⟩
  case farewells =>
    obtain ⟨told, htold, hfarewells⟩ := h.farewells hrising hnode
    exact ⟨told, (hostEvents_congr hevents).trans htold, hfarewells⟩
  case once => exact nodup_walk hrising hlt (Nat.le_add_left ..)
  case shown =>
    intro other around hother haround hactive
    rw [mem_subtree hrising hlt]
    exact hother.below_of_live (hrest.live_of_active haround hactive)
  case others =>
    intro other around hother haround
    obtain ⟨now, hnow, hstanding, hevolves⟩ := h.others hrising hlt hother haround
    refine ⟨now, hnodes ▸ hnow, hstanding, hevolves.activeElement_eq, fun hnobody => ?_⟩
    exact hevolves.eq fun count hcount => hnobody count (hsizes other count hcount)
  case registry => exact hremains
  case registered =>
    intro hrecords other hother
    rw [hremains hrecords, get?_without page.registry hother]
  case history =>
    rw [hhistory, h.history]
    rfl

/-- Giving up the name of a node and unmounting it comes to an end if nobody interferes. -/
lemma unmountNamed_clears (hkind : ∀ command, kind command → command.isInert)
    (hsteady : Steady kind scope page) (hqueue : page.queue = ⟨false, []⟩) {name : Text}
    (hname : page.mounted? name = some (id, node)) (hmounted : node.mounted) {depth : Nat}
    (hdepth : page.nodes.length ≤ depth) :
    Leads true (unmountNamed (exec (depth + 1)) name) page fun result after =>
      result = after.nodes[id]?.map (·.route) ∧ ∃ gone cleared, Cleared kind scope
        (page.withNames (forget name page.directory.mounted)) id node gone cleared after := by
  have hnamed : Steady kind scope (page.withNames (forget name page.directory.mounted)) :=
    hsteady.renamed _ page.directory.stored
  simp only [unmountNamed, leads_bind, leads_get, hname, forgetMounted, leads_modify]
  have hnode : (page.withNames (forget name page.directory.mounted)).nodes[id]? = some node :=
    nodes_of_mounted? hname
  have hlength : page.nodes.length ≤ id + (depth + 1) :=
    Nat.le_trans hdepth (Nat.le_trans (Nat.le_succ depth) (Nat.le_add_left ..))
  exact teardown_clears hkind hnamed hqueue hnode hmounted hlength

lemma stored?_store (page : Page) (name : Text) (route : Route) :
    (page.store name route).stored? name = some route := by
  have hnone : (forget name page.directory.stored).find? (·.1 = name) = none := by
    simp [forget, List.find?_eq_none]
  simp [stored?, store, lookup?, bind, List.find?_append, hnone]

section Commands

variable (hkind : ∀ command, kind command → command.isInert) (hsteady : Steady kind scope page)
  (hqueue : page.queue = ⟨false, []⟩) {name : Text} (hname : page.mounted? name = some (id, node))
  (hmounted : node.mounted)

include hkind hsteady hqueue hname hmounted

lemma run_drop : ∃ after gone cleared, page.run (.drop name) = some (.nothing, after) ∧
    Cleared kind scope (page.withNames (forget name page.directory.mounted)) id node gone cleared
      after := by
  obtain ⟨depth, hdepth, hrun⟩ := page.run_eq_perform (.drop name)
  have hends : Leads true (perform (exec (depth + 1)) (.drop name)) page fun answer after =>
      answer = .nothing ∧ ∃ gone cleared, Cleared kind scope
        (page.withNames (forget name page.directory.mounted)) id node gone cleared after := by
    simp only [perform, leads_bind, leads_discard, leads_pure]
    refine (unmountNamed_clears hkind hsteady hqueue hname hmounted hdepth).mono ?_
    rintro _ after ⟨-, hcleared⟩
    exact ⟨trivial, hcleared⟩
  obtain ⟨_, after, hperform, rfl, gone, cleared, hcleared⟩ := hends.exists_eq
  exact ⟨after, gone, cleared, hrun.trans hperform, hcleared⟩

lemma run_unmount : ∃ after gone cleared now, after.nodes[id]? = some now ∧
    page.run (.unmount name) = some (.route now.route, after.store name now.route) ∧
    Cleared kind scope (page.withNames (forget name page.directory.mounted)) id node gone cleared
      after := by
  obtain ⟨depth, hdepth, hrun⟩ := page.run_eq_perform (.unmount name)
  have hends : Leads true (perform (exec (depth + 1)) (.unmount name)) page fun answer last =>
      ∃ after gone cleared now, after.nodes[id]? = some now ∧ answer = .route now.route ∧
        last = after.store name now.route ∧ Cleared kind scope
          (page.withNames (forget name page.directory.mounted)) id node gone cleared after := by
    simp only [perform, leads_bind]
    refine (unmountNamed_clears hkind hsteady hqueue hname hmounted hdepth).mono ?_
    rintro _ after ⟨rfl, gone, cleared, hcleared⟩
    have hnode : (page.withNames (forget name page.directory.mounted)).nodes[id]? = some node :=
      nodes_of_mounted? hname
    obtain ⟨now, hnow, -⟩ := exists_node (hcleared.seats ▸ getElem?_seats_shut_self _ hnode)
    simp only [hnow, Option.map_some, leads_bind, leads_modify, leads_pure]
    exact ⟨after, gone, cleared, now, hnow, rfl, rfl, hcleared⟩
  obtain ⟨_, _, hperform, after, gone, cleared, now, hnow, rfl, rfl, hcleared⟩ := hends.exists_eq
  exact ⟨after, gone, cleared, now, hnow, hrun.trans hperform, hcleared⟩

end Commands

/-- **Unmounting clears exactly the subtree.**  If nobody interferes, a mounted route can be dropped and
unmounted; both clear it away with all that were mounted in it, and nothing else.  The route that
unmounting gives back can be mounted again, under any name and in any route, and has its id again. -/
theorem unmounting_clears_exactly (hkind : ∀ command, kind command → command.isInert)
    (h : Session true page) (hheeds : page.Heeds kind) {name : Text}
    (hname : page.mounted? name = some (id, node)) (hmounted : node.mounted) :
    ∃ routeId, node.route.id = some routeId ∧
      (∃ after, page.run (.drop name) = some (.nothing, after) ∧
        ClearsExactly kind page id routeId after) ∧
      ∃ route after, page.run (.unmount name) = some (.route route, after) ∧
        ClearsExactly kind page id routeId after ∧ KeepsId after name route routeId := by
  have hled := h.reached.led
  have hrest := h.atRest
  have hnode : page.nodes[id]? = some node := nodes_of_mounted? hname
  have hpresent := hheeds.steady hled.steady
  obtain ⟨routeId, hid⟩ := (hled.fit node (List.mem_of_getElem? hnode)).id
  have hsizes : ∀ other count, (page.withNames (forget name page.directory.mounted)).Sizes kind other count →
      page.Sizes kind other count := by
    rintro other count ⟨named, hnamed, hmay⟩
    exact ⟨named, lookup?_of_forget hnamed, hmay⟩
  refine ⟨routeId, hid, ?_, ?_⟩
  · obtain ⟨after, gone, cleared, hdrop, hcleared⟩ :=
      run_drop hkind hpresent hled.queue_eq hname hmounted
    have hlater : Session true after := h.step rfl (.inl rfl) hdrop
    exact ⟨after, hdrop, hcleared.clearsExactly hrest hnode hid hsizes hlater.atRest
      hlater.reached.led rfl rfl rfl rfl⟩
  · obtain ⟨after, gone, cleared, now, hnow, hunmount, hcleared⟩ :=
      run_unmount hkind hpresent hled.queue_eq hname hmounted
    have hlater : Session true (after.store name now.route) := h.step rfl (.inl rfl) hunmount
    have hquiet : (after.store name now.route).Quiet :=
      (Inert.store hcleared.accounted.steady name now.route).steady.heeds.quiet hkind
    obtain ⟨hcourse, -⟩ :=
      run_goes hled.sane hled.queue_eq rfl (Command.brings_all (.unmount name)) hunmount
    obtain ⟨held, hheld, hbadge⟩ := hcourse.node hnode
    obtain rfl : now = held := Option.some.inj (hnow.symm.trans hheld)
    have hagain : now.route.id = some routeId := (congrArg Badge.id hbadge).trans hid
    have hfit : now.IsFit := hlater.reached.led.fit now (List.mem_of_getElem? hnow)
    have hnodes : 0 < (after.store name now.route).nodes.length :=
      Nat.lt_of_le_of_lt (Nat.zero_le id) (List.getElem?_eq_some_iff.1 hnow).1
    refine ⟨now.route, _, hunmount, hcleared.clearsExactly hrest hnode hid hsizes hlater.atRest
      hlater.reached.led rfl rfl rfl rfl, stored?_store after name now.route, ?_, ?_⟩
    · intro other parent source hgives hparent
      exact run_mount hlater.reached.led hquiet hnodes hfit hagain other hparent hgives
    · intro commands other parent answer last hparent hmount
      exact run_mount_eq hfit hagain hparent (.inl rfl) hmount

/-- A route is dropped with the ones in it, and one of these is unmounted and mounted again. -/
theorem unmounting_clears_walked : ∃ dropped told route after last,
    walked.run (.drop "p".toList) = some (.nothing, dropped) ∧
    dropped.hostEvents = walked.hostEvents ++ told ∧
    withoutRemovals told = [.deactivating 1, .deactivating 2, .deactivating 3] ∧
    (∀ commands : List Command, ∃ now, (dropped.plays commands).nodes[3]? = some now ∧
      now.cache.activeElement = none) ∧
    walked.run (.unmount "a".toList) = some (.route route, after) ∧
    after.run (.mount "e".toList none (.fresh route)) = some (.id ⟨2, "/:x/*s".toList⟩, last) := by
  have hgrove : Session true grove := (Session.start _).plays (by decide +kernel)
  have hsession : Session true walked := hgrove.play rfl (.inl rfl)
  have hheeds : walked.Heeds Command.isVeto := .of_scripts (by decide +kernel) (by decide +kernel)
  have houter : (walked.mounted? "p".toList).map (fun found => (found.1, found.2.mounted))
      = some (0, true) := by decide +kernel
  obtain ⟨⟨_, outer⟩, houter, hboth⟩ := Option.map_eq_some_iff.1 houter
  obtain ⟨rfl, houterMounted⟩ := Prod.mk.inj hboth
  have hinner : (walked.mounted? "a".toList).map (fun found => (found.2.mounted, found.2.route.id))
      = some (true, some ⟨2, "/:x/*s".toList⟩) := by decide +kernel
  obtain ⟨⟨id, inner⟩, hinner, hboth⟩ := Option.map_eq_some_iff.1 hinner
  obtain ⟨hinnerMounted, hid⟩ := Prod.mk.inj hboth
  obtain ⟨_, -, ⟨dropped, hdrop, hclears⟩, -⟩ :=
    unmounting_clears_exactly Command.isInert_of_isVeto hsession hheeds houter houterMounted
  obtain ⟨routeId, hrouteId, -, route, after, hunmount, -, hkeeps⟩ :=
    unmounting_clears_exactly Command.isInert_of_isVeto hsession hheeds hinner hinnerMounted
  obtain ⟨told, htold, hfarewells⟩ := hclears.farewells
  have hgone : (subtree walked.seats 0).flatMap walked.farewellOf
      = [.deactivating 1, .deactivating 2, .deactivating 3] := by decide +kernel
  have hunder : Under walked.seats 0 3 := by
    have hlt : 0 < walked.seats.length := by decide +kernel
    have hmem : 3 ∈ subtree walked.seats 0 := by decide +kernel
    exact ((mem_subtree hsession.atRest.steady.sound.elder hlt).1 hmem).under
  obtain rfl : (⟨2, "/:x/*s".toList⟩ : RouteId) = routeId :=
    Option.some.inj (hid.symm.trans hrouteId)
  obtain ⟨last, hlast⟩ := hkeeps.atOnce "e".toList none (.fresh route) (.inl rfl) nofun
  refine ⟨dropped, told, route, after, last, hdrop, htold, hfarewells.trans hgone,
    fun commands => ?_, hunmount, hlast⟩
  obtain ⟨now, hnow, -, hidle⟩ := hclears.silent commands 3 hunder
  exact ⟨now, hnow, hidle⟩

/-- Three routes.  A listener hears of the first one's tail, drops the second one, leaves the third one
with room for one element, where it had room for two, and registers a route that is stored. -/
def meddled : Page :=
  let shown : Route := { Route.new with
    pattern := some "/:name".toList, element := some "x-page".toList, cacheCount := some 2 }
  (Page.start (.start History.localOrigin "/a".toList true)).plays
    [ .mount "r".toList none (.fresh shown),
      .mount "q".toList none (.fresh shown),
      .mount "s".toList none (.fresh shown),
      .store "t".toList shown,
      .watchTail "w".toList "r".toList
        [⟨none, 1, [.drop "q".toList, .setCacheCount "s".toList 1, .register "t".toList]⟩] ]

/-- **It is not enough that nobody navigates, nor that only the route itself is unmounted.**  Where a
listener does more when it is told that there is no tail any more, other routes lose their match, their
room and their place in the registry; and where two routes have one id, unmounting one of them takes the
other, which stays mounted and matches, out of the registry. -/
theorem unmounting_clears_more :
    (∃ after, meddled.Reached ∧ meddled.Heeds (fun command => !command.navigates) ∧
      meddled.run (.drop "r".toList) = some (.nothing, after) ∧
      (meddled.nodes.map fun node =>
        (node.subscription.signal, node.lastMatch.isSome, node.cache.capacity)) =
          [(.location, true, 2), (.location, true, 2), (.location, true, 2)] ∧
      (after.nodes.map fun node => (node.lastMatch.isSome, node.cache.capacity)) =
        [(false, 2), (false, 2), (true, 1)] ∧
      meddled.registry.ids.map (·.sequence) = [1, 2, 3] ∧
      after.registry.ids.map (·.sequence) = [3, 4]) ∧
    ∃ after, (single.run (.unmount "a".toList)).map (·.1) = some (.route returned) ∧
      Session true copied ∧ copied.Heeds (fun _ => false) ∧
      copied.run (.drop "b".toList) = some (.nothing, after) ∧
      copied.registry.ids = [⟨1, "/a".toList⟩] ∧ after.registry.ids = [] ∧
      (after.nodes.map fun node => (node.route.id, node.mounted, node.lastMatch.isSome)) =
        [(some ⟨1, "/a".toList⟩, false, false), (some ⟨1, "/a".toList⟩, false, false),
          (some ⟨1, "/a".toList⟩, true, true)] := by
  constructor
  · have hends : (meddled.run (.drop "r".toList)).any fun result => result.1 = .nothing ∧
        (result.2.nodes.map fun node => (node.lastMatch.isSome, node.cache.capacity)) =
          [(false, 2), (false, 2), (true, 1)] ∧
        result.2.registry.ids.map (·.sequence) = [3, 4] := by decide +kernel
    obtain ⟨⟨_, after⟩, hrun, hafter⟩ := (Option.any_eq_true _ _).1 hends
    obtain ⟨rfl, hnodes, hids⟩ := of_decide_eq_true hafter
    exact ⟨after, (Reached.start _).plays _, .of_scripts (by decide +kernel) (by decide +kernel), hrun,
      by decide +kernel, hnodes, by decide +kernel, hids⟩
  · have hends : (copied.run (.drop "b".toList)).any fun result => result.1 = .nothing ∧
        result.2.registry.ids = [] ∧
        (result.2.nodes.map fun node => (node.route.id, node.mounted, node.lastMatch.isSome)) =
          [(some ⟨1, "/a".toList⟩, false, false), (some ⟨1, "/a".toList⟩, false, false),
            (some ⟨1, "/a".toList⟩, true, true)] := by decide +kernel
    obtain ⟨⟨_, after⟩, hrun, hafter⟩ := (Option.any_eq_true _ _).1 hends
    obtain ⟨rfl, hids, hnodes⟩ := of_decide_eq_true hafter
    exact ⟨after, by decide +kernel, copied_session,
      .of_scripts (by decide +kernel) (by decide +kernel), hrun, by decide +kernel, hids, hnodes⟩

end PageRouter.Page
