import PageRouter.Proofs.Removals

/-!
# Mounting a route again

A route that has been mounted can be mounted again: it has an id, its pattern is good and it has an
element (`Led.fit`), so the registry takes it under the id that it has, and the page matches the new node
and is done (`run_mount`).
-/

namespace PageRouter

open Page

/-! ## Routes that can be mounted -/

/-- What makes the route of a node fit. -/
structure Papers where
  id : Option RouteId
  text : Option Text
  element : Option Text
  pattern : Pattern

def Node.papers (node : Node) : Papers :=
  ⟨node.route.id, node.route.pattern, node.route.element, node.pattern⟩

lemma fixed_papers : Fixed Node.papers :=
  ⟨fun _ _ => rfl, fun _ _ => rfl, fun _ _ _ => rfl, fun _ _ => rfl, fun _ _ => rfl⟩

lemma Node.IsFit.of_papers {node now : Node} (h : node.IsFit) (hsame : now.papers = node.papers) :
    now.IsFit := by
  obtain ⟨⟨routeId, hid⟩, hcompiled, tag, htag⟩ := h
  have hids : now.route.id = node.route.id := congrArg Papers.id hsame
  have htext : now.route.pattern = node.route.pattern := congrArg Papers.text hsame
  have helement : now.route.element = node.route.element := congrArg Papers.element hsame
  have hpattern : now.pattern = node.pattern := congrArg Papers.pattern hsame
  refine ⟨⟨routeId, hids.trans hid⟩, ?_, ?_⟩
  · rw [hpattern, ← hcompiled, Route.compiled, htext, Route.compiled]
  · cases hshown : node.route.element with
    | none => simp [Route.tag, hshown] at htag
    | some element => exact ⟨element, by simp [Route.tag, helement, hshown]⟩

/-- The route comes out of the source. -/
def RouteSource.Gives (source : RouteSource) (page : Page) (route : Route) : Prop :=
  source = .fresh route ∨ ∃ name, source = .stored name ∧ page.stored? name = some route

namespace Page

variable {scope : Scope} {page after : Page} {id : NodeId} {route : Route} {routeId : RouteId}
  {depth : Nat}

/-- **Each node's route can be mounted again.** -/
theorem Led.fit {may : Command → Bool} (h : Led may page) : ∀ node ∈ page.nodes, node.IsFit := by
  refine h.invariant (fun page _ => ∀ node ∈ page.nodes, node.IsFit)
    (fun history node hnode => by cases hnode) fun s s' hstep hfit node hnode => ?_
  have hpapers : node.papers ∈ s'.1.nodes.map Node.papers := List.mem_map_of_mem hnode
  have hold : node.papers ∈ s.1.nodes.map Node.papers → node.IsFit := by
    intro hmem
    obtain ⟨before, hbefore, hsame⟩ := List.mem_map.1 hmem
    exact (hfit before hbefore).of_papers hsame.symm
  rcases hstep.fixed fixed_papers with hsame | ⟨added, hadded, hmore⟩
  · exact hold (hsame ▸ hpapers)
  · rw [hmore, List.mem_append, List.mem_singleton] at hpapers
    exact hpapers.elim hold fun hsame => hadded.of_papers hsame

/-! ## Mounting comes to an end -/

/-- A route is registered under the id that it has. -/
lemma add_of_id {registry : Registry} {pattern : Pattern} (hcompiled : route.compiled = .ok pattern)
    (hid : route.id = some routeId) : ∃ registry', registry.add route = .ok (routeId, route, registry') := by
  obtain ⟨_, text, place, element, appendTo, cacheCount⟩ := route
  cases hid
  exact ⟨_, by simp only [Registry.add, hcompiled, Registry.issue]; rfl⟩

/-- **A node with no nodes in it** is matched and is done. -/
lemma exec_leaf {node : Node} (hnode : page.nodes[id]? = some node) (hmounted : node.mounted)
    (hsteady : Steady Command.isInert scope page) (hqueue : page.queue = ⟨false, []⟩)
    (hleaf : listenersTo page.seats (.tailOf id) = []) :
    Leads true (exec (depth + 2) (.refresh id)) page fun _ after =>
      Steady Command.isInert scope after ∧ SameForest page after ∧ after.queue = ⟨false, []⟩ := by
  have hfree : page.queue.busy = false := by rw [hqueue]
  rw [leads_exec_refresh, leads_refresh hfree hnode hmounted]
  refine (update_keeps Lasting.same (fun command hinert hbrings page hpage =>
    exec_inert hinert hbrings hpage depth)
    (hsteady.sound.inLine node (List.mem_of_getElem? hnode)) (page.outcomeOf node) _
    hsteady.occupied).mono ?_
  rintro ⟨_, cache⟩ lined ⟨⟨hlined, hsame⟩, hcache⟩
  have hsettled : Steady Command.isInert scope (lined.settled id cache (page.outcomeOf node)) :=
    hlined.settled hcache
  have hforest : SameForest page (lined.settled id cache (page.outcomeOf node)) :=
    ((SameForest.withQueue page _).trans hsame.forest).trans (.settled lined id cache _)
  have hnobody : listenersTo (lined.settled id cache (page.outcomeOf node)).seats (.tailOf id) = [] := by
    rw [hforest.seats, hleaf]
  have htold : Tours scope (emitTail (exec (depth + 1)) id (page.outcomeOf node).tail)
      ((listenersTo (lined.settled id cache (page.outcomeOf node)).seats (.tailOf id)).flatMap
        (subtree (lined.settled id cache (page.outcomeOf node)).seats))
      (lined.settled id cache (page.outcomeOf node)) := by
    refine emit_tours hsettled (fun child now hchild => ?_) fun place now hmeant hnow => ?_
    · rw [hnobody] at hchild
      cases hchild
    · exact exec_tellWatcher hmeant hnow (.tail place · (page.outcomeOf node).tail) _ (fun _ => rfl) depth
  refine htold.mono ?_
  rintro _ told ⟨htold, htoured⟩
  have hsettledQueue : (lined.settled id cache (page.outcomeOf node)).queue = ⟨false, []⟩ := by
    show { lined.queue with busy := false } = _
    rw [hsame.queue]
    show { page.queue with busy := false } = _
    rw [hqueue]
  have htoldQueue : told.queue = ⟨false, []⟩ := htoured.queue.trans hsettledQueue
  have hpending : told.queue.pending = [] := by rw [htoldQueue]
  rw [leads_drain_idle hpending]
  exact ⟨htold, hforest.trans htoured.forest, htoldQueue⟩

/-- A new node is matched and is done: nobody is younger. -/
lemma planted_ends (hsteady : Steady Command.isInert scope page) (hqueue : page.queue = ⟨false, []⟩)
    {pattern : Pattern} {tag : Text} {parent : Option (NodeId × Node)} {registry : Registry}
    (hparent : ∀ around ∈ parent, page.nodes[around.1]? = some around.2)
    (hplace : route.place = placeBelow (parent.map (·.2))) :
    Leads true (exec (depth + 2) (.refresh page.nodes.length))
      (page.planted route pattern tag parent registry) fun _ after =>
        Steady Command.isInert scope after ∧ after.queue = ⟨false, []⟩ ∧
          after.nodes.length = page.nodes.length + 1 := by
  have hplanted : Steady Command.isInert scope (page.planted route pattern tag parent registry) :=
    hsteady.planted hparent hplace
  have hseats : (page.planted route pattern tag parent registry).seats
      = page.seats ++ [(page.newcomer route pattern tag parent).seat] := seats_grown ..
  have hlength : (page.planted route pattern tag parent registry).nodes.length
      = page.nodes.length + 1 := by
    rw [← length_seats, hseats, List.length_append, length_seats]
    rfl
  have hseat : (page.planted route pattern tag parent registry).seats[page.nodes.length]?
      = some (page.newcomer route pattern tag parent).seat := getElem?_seats_grown_self
  obtain ⟨node, hnode, hsame⟩ := exists_node hseat
  have hmounted : node.mounted := congrArg Seat.mounted hsame
  have hleaf : listenersTo (page.planted route pattern tag parent registry).seats
      (.tailOf page.nodes.length) = [] := by
    refine List.eq_nil_iff_forall_not_mem.2 fun child hchild => ?_
    have hyounger := hplanted.sound.elder.lt_of_mem_listenersTo hchild
    have hlt := lt_of_mem_listenersTo hchild
    rw [length_seats, hlength] at hlt
    exact absurd hyounger (Nat.not_lt.2 (Nat.le_of_lt_succ hlt))
  refine (exec_leaf hnode hmounted hplanted ((queue_grown).trans hqueue) hleaf).mono ?_
  rintro _ after ⟨hafter, hforest, hdone⟩
  exact ⟨hafter, hdone, hforest.length.trans hlength⟩

/-- **Mounting a route that has an id** means to plant a node under this id, and to match it. -/
lemma attach_leads {must : Bool} {deeper : Deeper} {pattern : Pattern} {tag : Text}
    (hcompiled : route.compiled = .ok pattern) (htag : route.tag = .ok tag)
    (hid : route.id = some routeId) {parent : Option (NodeId × Node)}
    {post : Except RouterError (NodeId × RouteId) → Page → Prop}
    (h : ∀ registry, Leads must (deeper (.refresh page.nodes.length))
      (page.planted { route with place := placeBelow (parent.map (·.2)) } pattern tag parent registry)
      fun _ after => post (.ok (page.nodes.length, routeId)) after) :
    Leads must (attach deeper route parent) page post := by
  have hplaced : Route.compiled { route with place := placeBelow (parent.map (·.2)) }
      = .ok pattern := hcompiled
  obtain ⟨registry, hadd⟩ : ∃ registry,
      page.registry.add { route with place := placeBelow (parent.map (·.2)) }
        = .ok (routeId, { route with place := placeBelow (parent.map (·.2)) }, registry) :=
    add_of_id hplaced hid
  simp only [attach, leads_bind, leads_get, hcompiled, htag, hadd, leads_set, leads_discard, leads_pure]
  exact h registry

/-- Unmounting comes to an end, whether or not the node is still mounted. -/
lemma teardown_ends (hsteady : Steady Command.isInert scope page) (hqueue : page.queue = ⟨false, []⟩)
    (hdepth : page.nodes.length ≤ id + (depth + 1)) :
    Leads true (teardown (exec (depth + 1)) id) page fun _ _ => True := by
  cases hnode : page.nodes[id]? with
  | none => simp only [teardown, leads_bind, leads_get, hnode, leads_pure]
  | some node =>
      cases hmounted : node.mounted with
      | false =>
          simp only [teardown, leads_bind, leads_get, hnode, hmounted, Bool.false_eq_true, if_false,
            leads_pure]
      | true =>
          refine (teardown_clears (fun _ hinert => hinert) hsteady hqueue hnode hmounted hdepth).mono ?_
          exact fun _ _ _ => trivial

lemma takeRoute_eq {source : RouteSource} (hgives : source.Gives page route) :
    ∃ stored, takeRoute source page = some (some route, page.withShelf stored) := by
  rcases hgives with rfl | ⟨name, rfl, hstored⟩
  · exact ⟨page.directory.stored, rfl⟩
  · refine ⟨forget name page.directory.stored, ?_⟩
    rw [← hstored]
    rfl

/-- Where a route is to be mounted is a matter of the mounted ones. -/
lemma parentFor_withShelf (stored : List (Text × Route)) {parent : Option Text}
    (hparent : ∀ around ∈ parent, (page.mounted? around).isSome) :
    ∃ around, (page.withShelf stored).parentFor parent = .ok around := by
  cases parent with
  | none => exact ⟨none, rfl⟩
  | some outer =>
      obtain ⟨around, haround⟩ := Option.isSome_iff_exists.1 (hparent outer rfl)
      have hfound : (page.withShelf stored).mounted? outer = some around := haround
      exact ⟨some around, by simp only [parentFor, hfound]⟩

/-- **Mounting a route under a name**: it is taken, mounted and named, and whatever had the name before
is unmounted. -/
lemma mountAs_leads {must : Bool} {deeper : Deeper} {name : Text} {parent : Option Text}
    (hparent : ∀ around ∈ parent, (page.mounted? around).isSome) {source : RouteSource}
    (hgives : source.Gives page route)
    (h : ∀ stored around, (page.withShelf stored).parentFor parent = .ok around →
      Leads must (attach deeper route around) (page.withShelf stored) fun result mounted =>
        ∃ id, result = .ok (id, routeId) ∧ ∀ old, Leads must (teardown deeper old)
          (mounted.withNames (bind name id mounted.directory.mounted)) fun _ _ => True) :
    Leads must (mountAs deeper name parent source) page fun answer _ => answer = .id routeId := by
  obtain ⟨stored, htake⟩ := takeRoute_eq hgives
  obtain ⟨around, hfor⟩ := parentFor_withShelf stored hparent
  simp only [mountAs, leads_bind]
  rw [leads_of_eq htake]
  simp only [leads_bind, leads_get, hfor]
  refine (h stored around hfor).mono ?_
  rintro _ mounted ⟨id, rfl, hold⟩
  simp only [leads_bind, leads_get, leads_modify]
  split
  · next old _ _ =>
    simp only [leads_bind, leads_discard, leads_pure]
    exact hold old
  · simp only [leads_pure]

/-- **Mounting a route again** comes to an end, with the id that the route has. -/
theorem run_mount {may : Command → Bool} (hled : Led may page) (hquiet : page.Quiet)
    (hnodes : 0 < page.nodes.length) {node : Node} (hfit : node.IsFit) (hid : node.route.id = some routeId)
    (name : Text) {parent : Option Text} (hparent : ∀ around ∈ parent, (page.mounted? around).isSome)
    {source : RouteSource} (hgives : source.Gives page node.route) :
    ∃ after, page.run (.mount name parent source) = some (.id routeId, after) := by
  obtain ⟨depth, hdepth, hrun⟩ := page.run_eq_perform (.mount name parent source)
  obtain ⟨depth, rfl⟩ : ∃ less, depth = less + 1 := ⟨depth - 1, by omega⟩
  obtain ⟨tag, htag⟩ := hfit.tag
  suffices hends : Leads true (mountAs (exec (depth + 2)) name parent source) page
      fun answer _ => answer = .id routeId by
    obtain ⟨answer, after, hperform, rfl⟩ := hends.exists_eq
    exact ⟨after, hrun.trans hperform⟩
  refine mountAs_leads hparent hgives fun stored around hfor =>
    attach_leads hfit.compiled htag hid fun registry => ?_
  have htaken : Steady Command.isInert page.present (page.withShelf stored) :=
    (hquiet.steady hled.steady).renamed page.directory.mounted stored
  refine (planted_ends htaken hled.queue_eq (nodes_of_parentFor hfor) rfl).mono ?_
  rintro _ mounted ⟨hmounted, hdone, hlength⟩
  refine ⟨_, rfl, fun old => ?_⟩
  refine teardown_ends (hmounted.renamed _ mounted.directory.stored) hdone ?_
  show mounted.nodes.length ≤ old + (depth + 1 + 1)
  rw [hlength]
  show page.nodes.length + 1 ≤ old + (depth + 1 + 1)
  omega

/-- **Whenever it is mounted**, a route that has been mounted before has its id. -/
theorem run_mount_eq {node : Node} (hfit : node.IsFit) (hid : node.route.id = some routeId) {name : Text}
    {parent : Option Text} (hparent : ∀ around ∈ parent, (page.mounted? around).isSome)
    {source : RouteSource} (hgives : source.Gives page node.route) {answer : Answer}
    (hrun : page.run (.mount name parent source) = some (answer, after)) : answer = .id routeId := by
  obtain ⟨depth, hperform⟩ := run_eq_some hrun
  obtain ⟨tag, htag⟩ := hfit.tag
  have hends : Leads false (mountAs (exec depth) name parent source) page
      fun answer _ => answer = .id routeId :=
    mountAs_leads hparent hgives fun stored around _ =>
      attach_leads hfit.compiled htag hid fun registry => leads_of_forall fun _ _ _ =>
        ⟨_, rfl, fun _ => leads_of_forall fun _ _ _ => trivial⟩
  exact hends.of_eq hperform

end Page

end PageRouter
