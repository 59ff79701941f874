import PageRouter.Proofs.Lineage
import PageRouter.Proofs.Tours

/-!
# Quiet navigations

A page is **quiet** if the hooks in force and everyone who listens only give commands that change
nothing that matching looks at.  A navigation of a quiet page always ends.  It matches every live node
once, in preorder, and puts all mounted nodes in step with the location: what they have learned
is what they are expected to learn (`navigation_tours_preorder`).  That nobody navigates would not be
enough for that (`navigation_interrupted`).
-/

namespace PageRouter.Page

variable {kind : Command → Bool} {late : Bool} {scope : Scope} {page after : Page} {id : NodeId}

/-- **The hooks in force and everyone who listens** give only commands of a kind. -/
structure Heeds (kind : Command → Bool) (page : Page) : Prop where
  hooks : ∀ (index : Nat) (hook : Hook), page.firstHook ≤ index → page.hooks[index]? = some hook →
    hook.KeepsTo kind
  listeners : ∀ (ref : SignalRef) (number place : Nat) (watcher : Watcher),
    (number, Listener.watcher place) ∈ (page.signal ref).listeners →
    page.watchers[place]? = some watcher → ∀ reaction ∈ watcher.reactions, reaction.KeepsTo kind

/-- It is enough that all hooks in force and all listeners that there have been keep to the kind. -/
lemma Heeds.of_scripts (hhooks : Command.bringsHooks kind (page.hooks.drop page.firstHook))
    (hwatchers : page.watchers.all fun watcher => Command.bringsWatches kind watcher.reactions) :
    page.Heeds kind where
  hooks := by
    intro index hook hfrom hhook
    have hdrop : (page.hooks.drop page.firstHook)[index - page.firstHook]? = some hook := by
      rw [List.getElem?_drop, Nat.add_sub_cancel' hfrom, hhook]
    exact Command.bringsHooks_iff.1 hhooks hook (List.mem_of_getElem? hdrop)
  listeners := by
    intro ref number place watcher _ hplace
    exact Command.bringsWatches_iff.1 (List.all_eq_true.1 hwatchers watcher (List.mem_of_getElem? hplace))

/-- **Nobody interferes** with matching: the hooks in force and everyone who listens neither navigate nor
set the root, and they refresh, mount, unmount and drop no routes. -/
structure Quiet (page : Page) : Prop where
  hooks : ∀ (index : Nat) (hook : Hook), page.firstHook ≤ index → page.hooks[index]? = some hook →
    hook.KeepsTo Command.isInert
  listeners : ∀ (ref : SignalRef) (number place : Nat) (watcher : Watcher),
    (number, Listener.watcher place) ∈ (page.signal ref).listeners →
    page.watchers[place]? = some watcher →
    ∀ reaction ∈ watcher.reactions, reaction.KeepsTo Command.isInert

/-- Whoever gives only inert commands does not interfere. -/
lemma Heeds.quiet (h : page.Heeds kind) (hkind : ∀ command, kind command → command.isInert) :
    page.Quiet where
  hooks := fun index hook hfrom hhook => (h.hooks index hook hfrom hhook).mono hkind
  listeners := fun ref number place watcher hmem hplace reaction hreaction =>
    (h.listeners ref number place watcher hmem hplace reaction hreaction).mono hkind

lemma Quiet.heeds (h : page.Quiet) : page.Heeds Command.isInert := ⟨h.hooks, h.listeners⟩

/-- It is enough that all listeners that there have been are harmless. -/
lemma Quiet.of_scripts
    (hhooks : Command.bringsHooks Command.isInert (page.hooks.drop page.firstHook))
    (hwatchers : page.watchers.all fun watcher =>
      Command.bringsWatches Command.isInert watcher.reactions) : page.Quiet :=
  (Heeds.of_scripts hhooks hwatchers).quiet fun _ hinert => hinert

/-- Every mounted node has learned what it is expected to learn. -/
def InStep (page : Page) : Prop :=
  ∀ (id : NodeId) (node : Node), page.nodes[id]? = some node → node.mounted →
    node.lastMatch = page.expected id

/-- The hooks in force, whoever listens, and all that come. -/
def present (page : Page) : Scope where
  hooksFrom := page.firstHook
  watchers place := page.watchers.length ≤ place ∨
    ∃ ref number, (number, Listener.watcher place) ∈ (page.signal ref).listeners

/-- Whoever is there now is meant, and all that come. -/
lemma Heeds.steady {may : Command → Bool} (h : page.Heeds kind) (hsteady : Steady may Scope.all page) :
    Steady kind page.present page where
  sound := hsteady.sound
  obeys := by
    refine ⟨h.hooks, ?_, Nat.le_refl _, hsteady.obeys.firstHook, ?_, fun _ => .inl⟩
    · rintro place watcher (hbeyond | ⟨ref, number, hmem⟩) hplace
      · exact absurd (List.getElem?_eq_some_iff.1 hplace).1 (Nat.not_lt.2 hbeyond)
      · exact h.listeners ref number place watcher hmem hplace
    · exact fun ref number place hmem => .inr ⟨ref, number, hmem⟩

lemma Quiet.steady (h : page.Quiet) (hsteady : Steady kind Scope.all page) :
    Steady Command.isInert page.present page :=
  h.heeds.steady hsteady

/-! ## Navigations -/

/-- **A navigation** tours the live nodes. -/
lemma announce_tours (hsteady : Steady Command.isInert scope page)
    (hqueue : page.queue = ⟨false, []⟩) (kind : NavigationKind) (source : Option Text)
    (answer : Answer) {depth : Nat} (hdepth : page.nodes.length ≤ depth) :
    Leads true (announce (exec (depth + 1)) kind source answer) page fun result after =>
      result = answer ∧ Steady Command.isInert scope after ∧
        Toured (preorder page.seats) page after := by
  have htold : Tours scope
      (Signal.emit (return (← get).signal .location)
        (tellLocation (exec (depth + 1)) ⟨page.url, kind, source⟩)) (preorder page.seats) page := by
    refine emit_tours hsteady ?_ ?_
    · intro id now hid hnow hforest hhistory hqueueNow
      obtain ⟨seat, hseat, hmounted, hsignal⟩ := mem_listenersTo.1 hid
      have hseatNow : now.seats[id]? = some seat := hforest.seats ▸ hseat
      obtain ⟨node, hnode, rfl⟩ := exists_node hseatNow
      have hplace : node.route.place = .root := hnow.sound.place_eq_root hnode hsignal
      simp only [Tours, tellLocation, leads_discard]
      rw [← hforest.seats]
      refine exec_reaches scope (depth + 1) id node now hnode hmounted hnow
        (hqueueNow.trans hqueue) ?_ ?_ ?_
      · rw [expected_top hnow.sound.elder hseatNow hmounted hsignal, outcomeOf, hplace]
        rfl
      · intro parent hin
        cases hin.2.symm.trans hsignal
      · rw [hforest.length]
        exact Nat.lt_of_lt_of_le (Nat.lt_succ_of_le hdepth) (Nat.le_add_left ..)
    · intro place now hmeant hnow
      exact exec_tellWatcher hmeant hnow (.location place · ⟨page.url, kind, source⟩) _
        (fun _ => rfl) depth
  simp only [Page.announce, notify, leads_bind, leads_get, leads_pure]
  exact htold.mono fun _ _ hafter => ⟨trivial, hafter⟩

/-- A command is carried out by calls that go deeper than the page has nodes. -/
lemma run_eq_perform (page : Page) (command : Command) : ∃ depth, page.nodes.length ≤ depth ∧
    page.run command = perform (exec (depth + 1)) command page := by
  suffices hdeep : ∃ depth, page.depthFor command = depth + 2 ∧ page.nodes.length ≤ depth by
    obtain ⟨depth, hdepth, hlength⟩ := hdeep
    refine ⟨depth, hlength, ?_⟩
    rw [run, hdepth]
    rfl
  simp only [depthFor]
  generalize hsize : page.weight + command.weight + page.nodes.length
    + page.queue.pending.length + 4 = size
  have hpos : 0 < size := by omega
  have hle : size ≤ size * size * size * size :=
    Nat.le_mul_of_pos_left size (Nat.mul_pos (Nat.mul_pos hpos hpos) hpos)
  exact ⟨size * size * size * size - 2, by omega, by omega⟩

/-- **What is told on a quiet page** comes to an end once the live nodes have been toured. -/
lemma Quiet.announces (h : page.Quiet) (hsteady : Steady kind Scope.all page)
    (hqueue : page.queue = ⟨false, []⟩) {depth : Nat} (hlength : page.nodes.length ≤ depth)
    (history : History) (change : NavigationKind) (source : Option Text) (answer : Answer) :
    ∃ after, announce (exec (depth + 1)) change source answer (page.withHistory history)
        = some (answer, after) ∧
      Steady Command.isInert page.present after ∧
      Toured (preorder page.seats) (page.withHistory history) after := by
  obtain ⟨result, after, hannounce, rfl, hafter, htoured⟩ :=
    (announce_tours ((h.steady hsteady).withHistory history) hqueue change source answer
      hlength).exists_eq
  exact ⟨after, hannounce, hafter, htoured⟩

/-- **A quiet navigation ends**: it is refused, or the history changes and the live nodes are toured. -/
theorem Quiet.tours (h : page.Quiet) (hsteady : Steady kind Scope.all page)
    (hqueue : page.queue = ⟨false, []⟩) {command : Command} (hnavigates : command.navigates) :
    ∃ answer after, page.run command = some (answer, after) ∧
      (answer.isRefusal = true ∧ after = page ∨
        answer.isRefusal = false ∧ ∃ history, Steady Command.isInert page.present after ∧
          Toured (preorder page.seats) (page.withHistory history) after) := by
  obtain ⟨depth, hlength, hrun⟩ := page.run_eq_perform command
  rw [hrun]
  rcases perform_navigates (exec (depth + 1)) page hnavigates with
    ⟨answer, hrefusal, hperform⟩ | ⟨history, change, source, answer, haccepted, hperform⟩
  · exact ⟨answer, page, hperform, .inl ⟨hrefusal, rfl⟩⟩
  · obtain ⟨after, hannounce, hafter, htoured⟩ :=
      h.announces hsteady hqueue hlength history change source answer
    exact ⟨answer, after, hperform.trans hannounce, .inr ⟨haccepted, history, hafter, htoured⟩⟩

/-- **Whoever has been toured is in step**, and so are the others, who are not live, if they have learned
nothing before. -/
lemma Toured.inStep {history : History}
    (h : Toured (preorder page.seats) (page.withHistory history) after) (hrising : Rising page.seats)
    (hcut : ∀ (id : NodeId) (node : Node), page.nodes[id]? = some node → node.mounted →
      ¬Live page.seats id → node.lastMatch = none) : after.InStep := by
  have hseats : after.seats = page.seats := h.forest.seats
  have hexpected : after.expected = (page.withHistory history).expected := h.forest.expected h.history
  intro id node hnode hmounted
  have hstanding : after.standings[id]? = some node.standing := standings_of_nodes hnode
  by_cases hid : id ∈ preorder page.seats
  · obtain ⟨standing, hstanding', hlearned⟩ := h.learned id hid
    rw [hstanding, Option.some.injEq] at hstanding'
    rw [hexpected, ← hlearned, ← hstanding']
    rfl
  · rw [h.others id hid] at hstanding
    rw [mem_preorder hrising] at hid
    have hbefore : page.standings[id]? = some node.standing := hstanding
    rw [getElem?_standings, Option.map_eq_some_iff] at hbefore
    obtain ⟨old, hold, hsame⟩ := hbefore
    have hlearned : old.lastMatch = node.lastMatch := congrArg Standing.lastMatch hsame
    have hwas : old.mounted := (congrArg (·.seat.mounted) hsame).trans hmounted
    rw [← hlearned, hcut id old hold hwas hid, expected_of_not_live (hseats ▸ hrising) (hseats ▸ hid)]

lemma AtRest.inStep (h : page.AtRest late) {history : History}
    (htoured : Toured (preorder page.seats) (page.withHistory history) after) : after.InStep :=
  htoured.inStep h.steady.sound.elder fun _ _ hnode _ hnot =>
    h.lastMatch_of_cut hnot (standings_of_nodes hnode)

/-- A node whose parent has gone or has no tail has nothing to learn. -/
lemma InStep.lastMatch_eq_none (h : after.InStep) (hrising : Rising after.seats)
    {parent : NodeId} {node around : Node} (hnode : after.nodes[id]? = some node)
    (hmounted : node.mounted) (hsignal : node.subscription.signal = .tailOf parent)
    (haround : after.nodes[parent]? = some around)
    (hnothing : around.mounted = false ∨ Outcome.tail around.lastMatch = none) :
    node.lastMatch = none := by
  have hseat : after.seats[id]? = some node.seat := seats_of_nodes hnode
  have haroundSeat : after.seats[parent]? = some around.seat := seats_of_nodes haround
  have hnone : Outcome.tail (after.expected parent) = none := by
    cases hround : around.mounted with
    | false =>
        rw [expected_eq hrising haroundSeat, learns,
          if_neg (by rw [Node.seat, hround]; exact Bool.false_ne_true)]
        rfl
    | true =>
        rw [← h parent around haround hround]
        exact hnothing.resolve_left (by simp [hround])
  rw [h id node hnode hmounted, expected_nested hrising hseat ⟨hmounted, hsignal⟩, hnone]
  rfl

/-- **A quiet navigation** always ends.  If it is refused, nothing changes.  Otherwise it visits the
live nodes in preorder, each once, with what they are expected to learn; afterwards every mounted
node is in step, its element is active exactly if it matches, and a node whose parent has gone or has
no tail neither matches nor has an active element. -/
theorem navigation_tours_preorder (h : Session true page) (hquiet : page.Quiet) {command : Command}
    (hnavigates : command.navigates) :
    ∃ answer after, page.run command = some (answer, after) ∧
      (answer.isRefusal = true → after = page) ∧
      (answer.isRefusal = false →
        after.visits = page.visits ++
          (preorder after.seats).map (fun id => ⟨id, after.expected id⟩) ∧
        (preorder after.seats).Nodup ∧ (∀ id, id ∈ preorder after.seats ↔ Live after.seats id) ∧
        after.InStep ∧
        ∀ (id : NodeId) (node : Node), after.nodes[id]? = some node → node.mounted →
          (node.cache.activeElement.isSome ↔ node.lastMatch.isSome) ∧
          ∀ parent around, node.subscription.signal = .tailOf parent →
            after.nodes[parent]? = some around →
            around.mounted = false ∨ Outcome.tail around.lastMatch = none →
            node.lastMatch = none ∧ node.cache.activeElement = none) := by
  have hrest := h.atRest
  obtain ⟨answer, after, hrun, ⟨hrefusal, rfl⟩ | ⟨haccepted, history, hafter, htoured⟩⟩ :=
    hquiet.tours hrest.steady hrest.queue_eq hnavigates
  · refine ⟨answer, after, hrun, fun _ => rfl, fun haccepted => ?_⟩
    rw [hrefusal] at haccepted
    cases haccepted
  · have hseats : after.seats = page.seats := htoured.forest.seats
    have hexpected := htoured.forest.expected htoured.history
    have hrising : Rising after.seats := hseats ▸ hrest.steady.sound.elder
    have hstep : after.InStep := hrest.inStep htoured
    refine ⟨answer, after, hrun, fun hrefusal => ?_, fun _ =>
      ⟨?_, nodup_preorder hrising, fun _ => mem_preorder hrising, hstep, ?_⟩⟩
    · rw [haccepted] at hrefusal
      cases hrefusal
    · rw [htoured.visits, hseats, hexpected]
      rfl
    · intro id node hnode hmounted
      have hactive := (hafter.sound.inLine node (List.mem_of_getElem? hnode)).activeElement_isSome
      refine ⟨hactive, fun parent around hsignal haround hnothing => ?_⟩
      have hnone := hstep.lastMatch_eq_none hrising hnode hmounted hsignal haround hnothing
      refine ⟨hnone, ?_⟩
      rw [hnone] at hactive
      exact Option.not_isSome_iff_eq_none.1 fun hsome => absurd (hactive.1 hsome) Bool.false_ne_true

/-- Routes in routes, one of which is unmounted again, and a hook that only keeps elements. -/
def planting : List Command :=
  let shown (pattern : String) : RouteSource := .fresh
    { Route.new with pattern := some pattern.toList, element := some "x-page".toList }
  [ .mount "p".toList none (shown "/p/*r"),
    .mount "a".toList (some "p".toList) (shown "/:x/*s"),
    .mount "q".toList none (shown "/q"),
    .mount "b".toList (some "a".toList) (shown "/:y"),
    .mount "c".toList (some "p".toList) (shown "/*t"),
    .mount "d".toList (some "c".toList) (shown "/one"),
    .drop "c".toList,
    .setHooks [⟨⟨.activated, none, none⟩, 1, [.veto true]⟩] ]

/-- The page with the routes and the hook. -/
def grove : Page := (Page.start (.start History.localOrigin "/".toList true)).plays planting

/-- The walk goes through the whole of the first tree before it comes to the second. -/
theorem navigation_tours_grove : ∃ answer after,
    grove.run (.push "/p/one/two".toList none) = some (answer, after) ∧ answer.isRefusal = false ∧
    after.visits.map (·.node) = grove.visits.map (·.node) ++ [0, 1, 3, 2] ∧ after.InStep := by
  have hsession : Session true grove := (Session.start _).plays (by decide +kernel)
  have hquiet : grove.Quiet := .of_scripts (by decide +kernel) (by decide +kernel)
  obtain ⟨answer, after, hrun, -, haccepted⟩ := navigation_tours_preorder hsession hquiet
    (rfl : (Command.push "/p/one/two".toList none).navigates = true)
  have hanswer : (grove.run (.push "/p/one/two".toList none)).map (fun result =>
      (result.1.isRefusal, preorder result.2.seats)) = some (false, [0, 1, 3, 2]) := by
    decide +kernel
  rw [hrun, Option.map_some, Option.some.injEq, Prod.mk.injEq] at hanswer
  obtain ⟨haccept, hpreorder⟩ := hanswer
  obtain ⟨hvisits, -, -, hstep, -⟩ := haccepted haccept
  refine ⟨answer, after, hrun, haccept, ?_, hstep⟩
  rw [hvisits, List.map_append, List.map_map, hpreorder]
  rfl

/-- Two routes, and between them a listener that gives some commands when it first hears of a location.
-/
def interrupted (commands : List Command) : Page :=
  let shown : RouteSource := .fresh { Route.new with
    pattern := some "/:name".toList, element := some "x-page".toList, cacheCount := some 2 }
  (Page.start (.start History.localOrigin "/a".toList true)).plays
    [ .mount "first".toList none shown,
      .watchLocation "w".toList [⟨none, 1, commands⟩],
      .mount "second".toList none shown ]

lemma interrupted_reached (commands : List Command) : (interrupted commands).Reached :=
  (Reached.start _).plays _

/-- The listener sets the root. -/
def uprooted : Page := interrupted [.setRoot "/a".toList]

/-- The listener refreshes the route that has been visited before it hears of a location. -/
def revisited : Page := interrupted [.refresh "first".toList]

/-- **It is not enough that nobody navigates.**  Where the root is set, the route that was visited before
keeps a match that is not expected of it any more; where a route is refreshed, it is visited twice. -/
theorem navigation_interrupted :
    (∃ answer after, uprooted.Reached ∧ uprooted.Heeds (fun command => !command.navigates) ∧
      uprooted.run (.push "/a".toList none) = some (answer, after) ∧ answer.isRefusal = false ∧
      ¬after.InStep) ∧
    ∃ answer after, revisited.Reached ∧ revisited.Heeds (fun command => !command.navigates) ∧
      revisited.run (.push "/a".toList none) = some (answer, after) ∧ answer.isRefusal = false ∧
      after.visits.map (·.node) = revisited.visits.map (·.node) ++ [0, 0, 1] := by
  constructor
  · have hends : (uprooted.run (.push "/a".toList none)).map (fun result =>
        (result.1.isRefusal, result.2.nodes[0]?.map fun node =>
          (node.mounted, decide (node.lastMatch = result.2.expected 0))))
        = some (false, some (true, false)) := by decide +kernel
    obtain ⟨⟨answer, after⟩, hrun, hboth⟩ := Option.map_eq_some_iff.1 hends
    obtain ⟨haccepted, hfirst⟩ := Prod.mk.inj hboth
    obtain ⟨node, hnode, hboth⟩ := Option.map_eq_some_iff.1 hfirst
    obtain ⟨hmounted, hlearned⟩ := Prod.mk.inj hboth
    exact ⟨answer, after, interrupted_reached _, .of_scripts (by decide +kernel) (by decide +kernel),
      hrun, haccepted, fun hstep => of_decide_eq_false hlearned (hstep 0 node hnode hmounted)⟩
  · have hends : (revisited.run (.push "/a".toList none)).any fun result =>
        result.1.isRefusal = false ∧
          result.2.visits.map (·.node) = revisited.visits.map (·.node) ++ [0, 0, 1] := by
      decide +kernel
    obtain ⟨⟨answer, after⟩, hrun, hboth⟩ := (Option.any_eq_true _ _).1 hends
    obtain ⟨haccepted, hvisits⟩ := of_decide_eq_true hboth
    exact ⟨answer, after, interrupted_reached _, .of_scripts (by decide +kernel) (by decide +kernel),
      hrun, haccepted, hvisits⟩

/-- A page with one route. -/
def single : Page :=
  (Page.start (.start History.localOrigin "/a".toList true)).plays
    [ .mount "a".toList none (.fresh { Route.new with
        pattern := some "/a".toList, element := some "x-page".toList }) ]

/-- The route that is given back when the route of `single` is unmounted. -/
def returned : Route :=
  { Route.new with id := some ⟨1, "/a".toList⟩, pattern := some "/a".toList, element := some "x-page".toList }

/-- The route has been unmounted and is mounted twice, so that two mounted routes have one id. -/
def copied : Page :=
  single.plays [ .unmount "a".toList, .mount "b".toList none (.fresh returned),
    .mount "c".toList none (.fresh returned) ]

lemma copied_session : Session true copied := by
  have hsingle : Session true single := (Session.start _).plays (by decide +kernel)
  exact hsingle.plays (by decide +kernel)

end PageRouter.Page
