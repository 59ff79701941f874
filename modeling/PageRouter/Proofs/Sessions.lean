import PageRouter.Page.Configured
import PageRouter.Proofs.Rest

/-!
# Sessions

A session starts with a page on which nothing is mounted and gives it one command after the other:
it mounts and unmounts routes, matches them again, sets the root, changes the location, and adds
hooks and listeners — which may change the location themselves, but do not change the forest.

Every command leaves the page at rest (`perform_rests`), and so does every session
(`Session.atRest`).
-/

namespace PageRouter

/-- The command sets the root, if it is not set already. -/
def Command.setsRoot : Command → Bool
  | .setRoot _ => true
  | _ => false

namespace Page

variable {deeper : Deeper} {page mid after : Page} {id : NodeId} {late : Bool}

/-! ## Unmounting -/

/-- The page once a node that is unmounted has neither learned anything nor an active element. -/
def torn (page : Page) (id : NodeId) (cache : ElementCache) (registry : Registry) : Page :=
  { page.learned id cache none with registry := registry }

section Torn

variable {cache : ElementCache} {registry : Registry} {subscription : Subscription} {cleared : Page}

lemma signal_torn (page : Page) (id : NodeId) (cache : ElementCache) (registry : Registry)
    (ref : SignalRef) : (page.torn id cache registry).signal ref = page.signal ref := by
  rw [← signal_learned page id cache none]
  exact signal_congr rfl rfl ref

lemma Steady.torn {kind : Command → Bool} {scope : Scope} (h : Steady kind scope page)
    (hcache : cache.InLine none) : Steady kind scope (page.torn id cache registry) := by
  have hlearned : Steady kind scope (page.learned id cache none) := h.learned hcache
  exact hlearned.aside ⟨rfl, rfl, rfl, rfl, rfl, rfl, fun _ => fun h => h⟩ fun hobeys =>
    hobeys.of_eq rfl rfl rfl fun ref _ _ hmem => by cases ref <;> exact hmem

/-- What hangs below the node has heard that there is no tail, and is right again. -/
lemma AtRest.right_torn (h : page.AtRest late) (hfree : Free (page.shut id subscription) cleared)
    (hsound : cleared.Sound) {standing : Standing} (hstanding : cleared.standings[id]? = some standing)
    (hhanding : Handing id none [] (cleared.torn id cache registry) after) :
    Right (after.Stale late) after := by
  have hcleared := hfree.right _ (h.right.shut h.pending id subscription)
  have hseats : cleared.seats = (page.shut id subscription).seats := hfree.forest.seats
  have hafter : after.seats = cleared.seats :=
    hhanding.forest.seats.trans (SameForest.learned cleared id cache none).seats
  have hgone : ∀ seat, cleared.seats[id]? = some seat → seat.mounted = false := by
    rw [hseats]; exact fun _ => mounted_shut
  have hunmounted : standing.seat.mounted = false :=
    hgone _ (seats_of_standings hstanding)
  have hcut : ¬Live cleared.seats id := hseats ▸ not_live_shut
  have hlearned : Right (fun other => ((page.Stale late other ∨ Below page.seats id other) ∧
      ¬Below cleared.seats id other) ∨
      Due cleared.seats (cleared.signal (.tailOf id)).listeners other)
      (cleared.torn id cache registry) := by
    refine (hcleared.learned hsound hstanding (fun hlive => absurd hlive hcut) (fun _ => rfl)
      (fun _ hmounted => ?_) cache).congr rfl rfl rfl rfl
    rw [hunmounted] at hmounted
    cases hmounted
  have hsignal := signal_torn cleared id cache registry (.tailOf id)
  have hforest : (cleared.torn id cache registry).seats = cleared.seats :=
    (SameForest.learned cleared id cache none).seats
  rw [← hsignal, ← hforest] at hlearned
  refine (hhanding.right (.inr rfl) _ hlearned).mono fun other hexcused => ?_
  obtain ⟨hstale | hbelow, hnot⟩ := hexcused.resolve_right not_due_nil
  · have hne : other ≠ id := by rintro rfl; exact hnot .self
    exact hstale.of_seats (by rw [hafter, hseats, getElem?_seats_shut_ne hne])
  · refine absurd ?_ hnot
    rw [hforest, hseats]
    exact hbelow.of_loss fun _ hne => getElem?_seats_shut_ne hne

/-- The tails and places of all other nodes are as the visits tell. -/
lemma Passes.torn (hfree : Free (page.shut id subscription) cleared)
    (hhanding : Handing id none [] (cleared.torn id cache registry) after) : Passes page after := by
  have hclearedSeats : cleared.seats = (page.shut id subscription).seats := hfree.forest.seats
  have htorn : (cleared.torn id cache registry).seats = cleared.seats :=
    (SameForest.learned cleared id cache none).seats
  have hback : ∀ {other : NodeId} {seat : Seat}, after.seats[other]? = some seat → seat.mounted →
      page.seats[other]? = some seat ∧ other ≠ id := by
    intro other seat hseat hmounted
    rw [hhanding.forest.seats, htorn, hclearedSeats] at hseat
    exact getElem?_seats_of_shut hseat hmounted
  have hstanding : ∀ {other : NodeId}, other ≠ id →
      (page.shut id subscription).standings[other]? = page.standings[other]? := by
    intro other hne
    rw [getElem?_standings_shut]
    simp only [hne.symm, if_false, Option.map_id']
  obtain ⟨first, hfirst, haccounts⟩ := hfree.visits
  obtain ⟨second, hsecond, htells⟩ := hhanding.visits
  refine ⟨fun _ _ hseat hmounted _ => (hback hseat hmounted).1, first ++ second, ?_, ?_, ?_⟩
  · have hshut : (page.shut id subscription).visits = page.visits := by
      obtain ⟨ref, number⟩ := subscription
      cases ref <;> rfl
    rw [hsecond, show (cleared.torn id cache registry).visits = cleared.visits from rfl, hfirst,
      hshut, List.append_assoc]
  · intro other seat hseat hmounted
    obtain ⟨hold, hne⟩ := hback hseat hmounted
    have hearlier := haccounts.published other
    have hlater := htells.published other
    rw [Publishes, tailOf, hstanding hne] at hearlier
    have hkept : (cleared.torn id cache registry).tailOf other = cleared.tailOf other := by
      show (cleared.learned id cache none).tailOf other = _
      simp only [tailOf, getElem?_standings_learned, hne.symm, if_false, Option.map_id']
    rw [Publishes, hkept] at hlater
    rw [Publishes, List.foldl_append, tailOf, hearlier, hlater]
  · intro parent child seat around hseat hin haround hmounted
    obtain ⟨hold, hne⟩ := hback hseat hin.1
    obtain ⟨-, hparent⟩ := hback haround hmounted
    have hshutSeat : (page.shut id subscription).seats[child]? = some seat :=
      (getElem?_seats_shut_ne hne).trans hold
    have hearlier := haccounts.delivered parent child seat hshutSeat hin []
    have hlater := htells.others parent child seat (htorn ▸ hclearedSeats ▸ hshutSeat) hin
      (fun h => absurd h hparent) []
    have hkept : (cleared.torn id cache registry).placeOf child = cleared.placeOf child :=
      placeOf_learned child
    rw [placeOf, hstanding hne] at hearlier
    rw [hkept] at hlater
    rw [firstPlace_of_lt (lt_of_getElem?_seats hold), List.foldl_append, placeOf, hearlier, hlater]

end Torn

/-- **Unmounting a node** leaves the page at rest. -/
lemma teardown_rests (h : Conducts Scope.all deeper) (hrest : page.AtRest late) (id : NodeId) :
    Leads false (teardown deeper id) page fun _ after =>
      after.AtRest late ∧ Passes page after ∧ after.nodes.length = page.nodes.length := by
  have hidle : page.AtRest late ∧ Passes page page ∧ page.nodes.length = page.nodes.length :=
    ⟨hrest, .of_same (.refl page), rfl⟩
  simp only [teardown, leads_bind, leads_get]
  split
  · exact hidle
  · next node hnode =>
    refine leads_ite (fun hmounted => ?_) fun _ => hidle
    have hshut := hrest.steady.shut hnode hmounted hrest.pending
    have hshutFree : (page.shut id node.subscription).queue.busy = false := by
      rw [queue_shut]; exact hrest.free
    simp only [leads_bind, leads_set, leads_modify, leads_get, leads_pure]
    refine Leads.mono (deactivate_keeps Lasting.moves (fun command hroams hbrings =>
      h.command command hroams hbrings) node.cache hshut) ?_
    rintro cache cleared ⟨⟨hcleared, hmoves⟩, rfl⟩
    have hfree : Free (page.shut id node.subscription) cleared := hmoves.free hshutFree
    have hline := (hrest.steady.sound.inLine node (List.mem_of_getElem? hnode)).inactive
    have htorn : Steady Command.roams Scope.all (cleared.torn id
        { node.cache with active := false } (cleared.registry.remove node.route).2) :=
      hcleared.torn hline
    refine Leads.mono (h.tellTail_free htorn (hfree.busy.trans hshutFree) id none) ?_
    rintro _ after ⟨hafter, hhanding⟩
    have hseats : after.seats = (page.shut id node.subscription).seats :=
      (hhanding.forest.seats.trans (SameForest.learned cleared id _ none).seats).trans
        hfree.forest.seats
    have hseat := getElem?_seats_shut_self node.subscription hnode
    rw [← hfree.forest.seats] at hseat
    obtain ⟨standing, hstanding, -⟩ := exists_standing hseat
    refine ⟨⟨hafter, (hhanding.busy.trans hfree.busy).trans hshutFree, ?_,
      hrest.right_torn hfree hcleared.sound hstanding hhanding⟩, .torn hfree hhanding, ?_⟩
    · have hshutPending : (page.shut id node.subscription).queue.pending = [] := by
        rw [queue_shut]; exact hrest.pending
      exact hhanding.pending.elim (fun hnil => hnil) fun hsame =>
        hsame.trans (hfree.pending.elim (fun hnil => hnil) fun hsame => hsame.trans hshutPending)
    · rw [← length_seats, hseats, length_seats, length_shut]

/-! ## Mounting -/

/-- A route keeps its place when it is registered. -/
lemma place_of_add {registry registry' : Registry} {route route' : Route} {routeId : RouteId}
    (h : registry.add route = .ok (routeId, route', registry')) : route'.place = route.place := by
  unfold Registry.add at h
  split at h
  · cases h
  · simp only [Except.ok.injEq, Prod.mk.injEq] at h
    rw [← h.2.1]

/-- The tail that the parent has is the place of the new node. -/
lemma Passes.grown {ref : SignalRef} {node : Node} {registry : Registry}
    (hlast : node.lastMatch = none)
    (hplace : ∀ parent, node.subscription.signal = .tailOf parent →
      node.route.place = .child (page.tailOf parent)) :
    Passes page (page.grown ref node registry) := by
  have hnone : page.standings[page.nodes.length]? = none := by
    rw [List.getElem?_eq_none]
    exact Nat.le_of_eq (List.length_map ..)
  refine ⟨fun id seat hseat _ hid => ?_, [], ?_, fun id seat hseat _ => ?_, ?_⟩
  · rcases getElem?_seats_grown_cases hseat with hold | ⟨rfl, -⟩
    · exact hold
    · exact absurd hid (Nat.lt_irrefl _)
  · rw [List.append_nil]
    cases ref <;> rfl
  · refine .nil ?_
    rcases getElem?_seats_grown_cases hseat with hold | ⟨rfl, -⟩
    · rw [tailOf, getElem?_standings_grown_of_lt (lt_of_getElem?_seats hold), tailOf]
    · rw [tailOf, tailOf, getElem?_standings_grown_self, hnone]
      show node.lastMatch.tail = none
      rw [hlast]
      rfl
  · intro parent child seat around hseat hin _ _
    rw [List.foldl_nil]
    rcases getElem?_seats_grown_cases hseat with hold | ⟨rfl, rfl⟩
    · have hlt := lt_of_getElem?_seats hold
      rw [firstPlace_of_lt hlt, placeOf, placeOf, getElem?_standings_grown_of_lt hlt]
    · rw [firstPlace, if_neg (Nat.lt_irrefl _), placeOf, getElem?_standings_grown_self]
      exact congrArg _ (hplace parent hin.2).symm

/-- The node of a route that is mounted. -/
def newcomer (page : Page) (route : Route) (pattern : Pattern) (tag : Text)
    (parent : Option (NodeId × Node)) : Node :=
  let (subscription, heard) :=
    page.subscribe (signalBelow (parent.map (·.1))) (.node page.nodes.length)
  heard.newNode route pattern tag (parent.map (·.2)) subscription

/-- The page with a mounted route that has not been matched yet. -/
def planted (page : Page) (route : Route) (pattern : Pattern) (tag : Text)
    (parent : Option (NodeId × Node)) (registry : Registry) : Page :=
  page.grown (signalBelow (parent.map (·.1))) (page.newcomer route pattern tag parent) registry

section Planted

variable {route : Route} {pattern : Pattern} {tag : Text} {parent : Option (NodeId × Node)}
  {registry : Registry} (hparent : ∀ around ∈ parent, page.nodes[around.1]? = some around.2)
  (hplace : route.place = placeBelow (parent.map (·.2)))

include hparent hplace

lemma Steady.planted {kind : Command → Bool} {scope : Scope} (h : Steady kind scope page) :
    Steady kind scope (page.planted route pattern tag parent registry) := by
  have hhas : page.HasSignal (signalBelow (parent.map (·.1))) := by
    cases parent with
    | none => trivial
    | some around => exact (List.getElem?_eq_some_iff.1 (hparent around rfl)).1
  refine h.grown hhas rfl rfl rfl ?_ (.new _ _ _) registry
  show route.place = .root ↔ decide (signalBelow (parent.map (·.1)) = .location) = true
  rw [hplace]
  cases parent with
  | none => simp [placeBelow, signalBelow]
  | some around => simp [placeBelow, signalBelow]

lemma Passes.planted : Passes page (page.planted route pattern tag parent registry) := by
  refine .grown rfl fun id hid => ?_
  cases parent with
  | none => cases hid
  | some around =>
      obtain rfl : around.1 = id := SignalRef.tailOf.inj hid
      show route.place = _
      rw [hplace, tailOf, getElem?_standings, hparent around rfl]
      rfl

/-- The new node is live, or it is mounted in one that is not and has no tail to learn from. -/
lemma AtRest.planted (h : page.AtRest late) :
    Live (page.planted route pattern tag parent registry).seats page.nodes.length ∨
      (page.planted route pattern tag parent registry).placeOf page.nodes.length = .child none := by
  have hseat : (page.planted route pattern tag parent registry).seats[page.nodes.length]?
      = some (page.newcomer route pattern tag parent).seat := getElem?_seats_grown_self
  cases parent with
  | none => exact .inl (.top hseat rfl rfl)
  | some around =>
      by_cases hlive : Live page.seats around.1
      · refine .inl (.nested hseat ⟨rfl, rfl⟩ ?_)
        rw [Page.planted, seats_grown]
        exact hlive.append
      · have hnone := h.tailOf_eq_none hlive
        rw [tailOf, getElem?_standings, hparent around rfl] at hnone
        refine .inr ?_
        rw [placeOf, Page.planted, getElem?_standings_grown_self]
        show route.place = _
        rw [hplace]
        exact congrArg _ hnone

end Planted

/-- **Mounting a route** leaves the page at rest. -/
lemma attach_rests (h : Conducts Scope.all deeper) (hrest : page.AtRest late) (route : Route)
    {parent : Option (NodeId × Node)}
    (hparent : ∀ around ∈ parent, page.nodes[around.1]? = some around.2) :
    Leads false (attach deeper route parent) page fun _ after =>
      after.AtRest late ∧ Passes page after := by
  have hidle : page.AtRest late ∧ Passes page page := ⟨hrest, .of_same (.refl page)⟩
  simp only [attach, leads_bind, leads_get]
  split
  · exact hidle
  · exact hidle
  · next pattern tag hcompiled htag =>
    split
    · exact hidle
    · next routeId registered registry hadd =>
      have hplace : registered.place = placeBelow (parent.map (·.2)) := place_of_add hadd
      have hplanted : Steady Command.roams Scope.all
          (page.planted registered pattern tag parent registry) :=
        hrest.steady.planted hparent hplace
      have hfree : (page.planted registered pattern tag parent registry).queue.busy = false := by
        rw [planted, queue_grown]; exact hrest.free
      simp only [leads_bind, leads_set, leads_discard, leads_pure]
      refine (h.refresh page.nodes.length _ (page.planted registered pattern tag parent registry)
        getElem?_seats_grown_self rfl hplanted hfree).mono ?_
      rintro _ after ⟨hafter, hmatched⟩
      refine ⟨⟨hafter, hmatched.busy.trans hfree, hmatched.pending, ?_⟩,
        (Passes.planted hparent hplace).trans (.of_rematched hmatched hplanted.sound)
          hmatched.forest.length⟩
      have hstart : Right _ (page.planted registered pattern tag parent registry) :=
        hrest.right.grown hrest.steady.sound hrest.pending
      refine (hmatched.right (hrest.planted hparent hplace) _ hstart).mono ?_
      rintro id ⟨hstale | rfl, hnot⟩
      · refine hstale.of_seats ?_
        obtain ⟨-, seat, hseat, -⟩ := hstale
        rw [hmatched.forest.seats, hseat]
        exact getElem?_seats_grown_of_some hseat
      · exact absurd .self hnot

/-! ## Commands -/

lemma AtRest.of_aside (h : page.AtRest late) (haside : Aside page after)
    (hhooks : after.hooks = page.hooks) (hfirst : after.firstHook = page.firstHook)
    (hwatchers : after.watchers = page.watchers) : after.AtRest late :=
  h.of_same (Inert.of_eq h.steady haside hhooks hfirst hwatchers).steady haside.same

/-- The node of a name is one of the nodes. -/
lemma nodes_of_mounted? {name : Text} {found : NodeId × Node} (h : page.mounted? name = some found) :
    page.nodes[found.1]? = some found.2 := by
  simp only [mounted?, Option.bind_eq_some_iff, Option.map_eq_some_iff] at h
  obtain ⟨_, -, _, hnode, rfl⟩ := h
  exact hnode

/-- It has that name. -/
lemma lookup?_of_mounted? {name : Text} {found : NodeId × Node}
    (h : page.mounted? name = some found) : lookup? name page.directory.mounted = some found.1 := by
  simp only [mounted?, Option.bind_eq_some_iff, Option.map_eq_some_iff] at h
  obtain ⟨_, hname, _, -, rfl⟩ := h
  exact hname

/-- A route is mounted below a node of the page. -/
lemma nodes_of_parentFor {name : Option Text} {parent : Option (NodeId × Node)}
    (h : page.parentFor name = .ok parent) :
    ∀ around ∈ parent, page.nodes[around.1]? = some around.2 := by
  rintro around haround
  rw [Option.mem_def] at haround
  subst haround
  cases name with
  | none => cases h
  | some name =>
      simp only [parentFor] at h
      split at h
      · next found hname =>
        obtain rfl : found = around := by simpa using h
        exact nodes_of_mounted? hname
      · cases h

lemma takeRoute_rests (hrest : page.AtRest late) (source : RouteSource) :
    Leads false (takeRoute source) page fun _ after => after.AtRest late ∧ Same page after := by
  cases source with
  | fresh route => exact ⟨hrest, .refl page⟩
  | stored name =>
      have haside : Aside page { page with
          directory := { page.directory with stored := forget name page.directory.stored } } :=
        .renamed page _ _
      exact ⟨hrest.of_aside haside rfl rfl rfl, haside.same⟩

lemma mountAs_rests (h : Conducts Scope.all deeper) (hrest : page.AtRest late) (name : Text)
    (parent : Option Text) (source : RouteSource) :
    Leads false (mountAs deeper name parent source) page fun _ after =>
      after.AtRest late ∧ Passes page after := by
  simp only [mountAs, leads_bind]
  refine (takeRoute_rests hrest source).mono ?_
  rintro route taken ⟨htaken, hsame⟩
  split
  · exact ⟨htaken, .of_same hsame⟩
  · next route =>
    simp only [leads_bind, leads_get]
    split
    · exact ⟨htaken, .of_same hsame⟩
    · next around hfor =>
      simp only [leads_bind]
      refine (attach_rests h htaken route (nodes_of_parentFor hfor)).mono ?_
      rintro result mounted ⟨hmounted, hpasses⟩
      have hsofar : Passes page mounted := .after_same hsame hpasses
      split
      · exact ⟨hmounted, hsofar⟩
      · next id routeId =>
        simp only [leads_bind, leads_get, leads_modify]
        have haside : Aside mounted { mounted with
            directory := { mounted.directory with
              mounted := bind name id mounted.directory.mounted } } :=
          .renamed mounted _ _
        have hnamed := hmounted.of_aside haside rfl rfl rfl
        have hpassed := hsofar.trans (.of_same haside.same) rfl
        split
        · next old _ _ =>
          simp only [leads_bind, leads_discard, leads_pure]
          refine (teardown_rests h hnamed old).mono ?_
          rintro _ after ⟨hafter, hgone, hlength⟩
          exact ⟨hafter, hpassed.trans hgone hlength⟩
        · exact ⟨hnamed, hpassed⟩

lemma unmountNamed_rests (h : Conducts Scope.all deeper) (hrest : page.AtRest late) (name : Text) :
    Leads false (unmountNamed deeper name) page fun _ after =>
      after.AtRest late ∧ Passes page after := by
  simp only [unmountNamed, leads_bind, leads_get]
  split
  · exact ⟨hrest, .of_same (.refl page)⟩
  · next id _ _ =>
    simp only [leads_bind, forgetMounted, leads_modify]
    have haside : Aside page { page with
        directory := { page.directory with mounted := forget name page.directory.mounted } } :=
      .renamed page _ _
    refine (teardown_rests h (hrest.of_aside haside rfl rfl rfl) id).mono ?_
    rintro _ after ⟨hafter, hgone, hlength⟩
    exact ⟨hafter, .after_same haside.same hgone⟩

def rooted (page : Page) (root? : Option Text) : Page := { page with root? := root? }

/-- Only nodes that listen for the location look at the root. -/
lemma AtRest.rooted (h : page.AtRest late) (root? : Option Text) (hlate : late = true ∨ page.nodes = []) :
    (page.rooted root?).AtRest late where
  steady := by
    have hsignal : ∀ ref, (page.rooted root?).signal ref = page.signal ref := signal_congr rfl rfl
    refine ⟨⟨?_, ?_, ?_, h.steady.sound.elder, ?_, h.steady.sound.placed, h.steady.sound.inLine,
      h.steady.sound.waiting, ?_, ?_⟩, h.steady.obeys.of_eq rfl rfl rfl ?_⟩
    · exact fun ref => hsignal ref ▸ h.steady.sound.orderly ref
    · exact fun ref => hsignal ref ▸ h.steady.sound.heard ref
    · exact fun id seat => hsignal _ ▸ h.steady.sound.listening id seat
    · exact fun ref => hsignal ref ▸ h.steady.sound.inOrder ref
    · exact fun entry => hsignal _ ▸ h.steady.sound.apart entry
    · exact fun entry => hsignal _ ▸ h.steady.sound.given entry
    · exact fun ref _ _ hmem => hsignal ref ▸ hmem
  free := h.free
  pending := h.pending
  right := by
    intro id standing hstanding hnot
    have hstanding' : page.standings[id]? = some standing := hstanding
    obtain rfl | hempty := hlate
    · obtain ⟨hlive, hcut, halone⟩ := h.right id standing hstanding hnot
      refine ⟨fun his => (hlive his).imp_left fun hread => ?_, hcut, halone⟩
      cases hplace : standing.place with
      | root =>
          have htop := (h.steady.sound.placed standing (List.mem_of_getElem? hstanding)).1 hplace
          have hseat : page.seats[id]? = some standing.seat := seats_of_standings hstanding
          exact absurd ⟨rfl, standing.seat, hseat, his.mounted hseat, htop⟩ hnot
      | child tail =>
          rw [hread, reads, reads, hplace]
          cases tail <;> rfl
    · rw [standings, hempty] at hstanding'
      cases hstanding'

/-- The command does not set the root of a page on which something is mounted already. -/
def Timely (page : Page) (command : Command) : Prop :=
  command.setsRoot → page.root? = none → page.nodes = []

/-- **Every command leaves the page at rest**, and its visits tell what it did. -/
theorem perform_rests (h : Conducts Scope.all deeper) (hrest : page.AtRest late) {command : Command}
    (hbrings : command.brings Command.roams) (htimely : late = true ∨ page.Timely command) :
    Leads false (perform deeper command) page fun _ after =>
      after.AtRest late ∧ Passes page after := by
  have hidle : page.AtRest late ∧ Passes page page := ⟨hrest, .of_same (.refl page)⟩
  by_cases hroams : command.roams
  · refine Leads.mono (h.perform hrest.steady hroams hbrings) ?_
    rintro _ after ⟨hafter, hmoves⟩
    have hfree := hmoves.free hrest.free
    exact ⟨hrest.of_free hafter hfree, .of_free hfree⟩
  cases command with
  | setRoot root =>
      simp only [perform, setRoot, leads_bind, leads_get]
      split
      · exact hidle
      · next hnone =>
        simp only [leads_bind, leads_set, leads_pure]
        exact ⟨hrest.rooted _ (htimely.imp_right fun ht => ht rfl hnone), .of_standings rfl rfl⟩
  | mount name parent source => exact mountAs_rests h hrest name parent source
  | unmount name =>
      simp only [perform, leads_bind]
      refine (unmountNamed_rests h hrest name).mono ?_
      rintro route after ⟨hafter, hpasses⟩
      split
      · exact ⟨hafter, hpasses⟩
      · next route =>
        simp only [leads_bind, leads_modify, leads_pure]
        have hstored := Inert.store hafter.steady name route
        exact ⟨hafter.of_same hstored.steady hstored.same, hpasses.trans (.of_same hstored.same) rfl⟩
  | drop name =>
      simp only [perform, leads_bind, leads_discard, leads_pure]
      exact unmountNamed_rests h hrest name
  | refresh name =>
      simp only [perform, withMounted, leads_bind, leads_get]
      split
      · next id node hname =>
        have hnode : page.nodes[id]? = some node := nodes_of_mounted? hname
        simp only [leads_bind, leads_discard, leads_pure]
        cases hmounted : node.mounted with
        | false =>
            refine (h.skip id node page hnode hmounted hrest.free).mono ?_
            rintro _ _ rfl
            exact hidle
        | true =>
            have hseat : page.seats[id]? = some node.seat := seats_of_nodes hnode
            refine (h.refresh id node.seat page hseat hmounted hrest.steady hrest.free).mono ?_
            rintro _ after ⟨hafter, hmatched⟩
            refine ⟨⟨hafter, hmatched.busy.trans hrest.free, hmatched.pending, ?_⟩,
              .of_rematched hmatched hrest.steady.sound⟩
            refine (hmatched.right (hrest.live_or_alone hseat hmounted) _ hrest.right).mono ?_
            rintro other ⟨hstale, -⟩
            exact hstale.of_seats (by rw [hmatched.forest.seats])
      · exact hidle
  | _ => exact absurd rfl hroams

/-! ## Sessions -/

/-- **Sessions** of commands whose hooks and listeners do not change the forest.  In a session that is
not `late`, the root is set before the first route is mounted. -/
inductive Session (late : Bool) : Page → Prop
  | start (history : History) : Session late (.start history)
  | configured {page : Page} (config : Config) : Session late page → page.nodes = [] →
      Session late (page.configured config)
  | counting {page : Page} (count : Nat) : Session late page →
      Session late (page.withDefaultCacheCount count)
  | step {page after : Page} {command : Command} {answer : Answer} : Session late page →
      command.brings Command.roams → (late = true ∨ page.Timely command) →
      page.run command = some (answer, after) → Session late after

/-- A command that has returned was carried out by calls of a lower depth. -/
lemma run_eq_some {command : Command} {answer : Answer} (h : page.run command = some (answer, after)) :
    ∃ depth, perform (exec depth) command page = some (answer, after) := by
  unfold run at h
  cases hdepth : page.depthFor command with
  | zero => rw [hdepth] at h; cases h
  | succ depth => rw [hdepth] at h; exact ⟨depth, h⟩

lemma AtRest.start (history : History) : (Page.start history).AtRest late where
  steady := by
    have hsilent : ∀ ref, (Page.start history).signal ref = .empty := by
      intro ref
      cases ref <;> rfl
    refine ⟨⟨fun ref => ?_, ?_, ?_, ?_, fun ref => ?_, ?_, ?_, ?_, ?_, ?_⟩,
      ⟨?_, ?_, Nat.le_refl _, Nat.le_refl _, fun _ _ _ _ => trivial, fun _ _ => trivial⟩⟩
    · rw [hsilent]; exact .empty
    · intro ref number id hmem
      rw [hsilent] at hmem
      cases hmem
    · exact fun _ _ hseat => by cases hseat
    · exact fun _ _ _ hseat => by cases hseat
    · rw [hsilent]; exact List.Pairwise.nil
    · exact fun _ hmem => by cases hmem
    · exact fun _ hmem => by cases hmem
    · exact fun _ hmem => by cases hmem
    · exact fun _ hmem => by cases hmem
    · exact fun _ hmem => by cases hmem
    · exact fun _ _ _ hhook => by cases hhook
    · exact fun _ _ _ hwatcher => by cases hwatcher
  free := rfl
  pending := rfl
  right := fun _ _ hstanding => by cases hstanding

/-- **Between two commands a page is at rest.** -/
theorem Session.atRest (h : Session late page) : page.AtRest late := by
  induction h with
  | start history => exact .start history
  | configured config _ hempty ih =>
      exact (ih.rooted (config.root.map normalizeRoot) (.inr hempty)).of_aside
        ⟨rfl, rfl, rfl, rfl, rfl, rfl, fun _ => fun h => h⟩ rfl rfl rfl
  | counting count _ ih =>
      exact ih.of_aside ⟨rfl, rfl, rfl, rfl, rfl, rfl, fun _ => fun h => h⟩ rfl rfl rfl
  | step _ hbrings htimely hrun ih =>
      obtain ⟨depth, hperform⟩ := run_eq_some hrun
      exact ((perform_rests (exec_conducts Scope.all depth) ih hbrings htimely).of_eq hperform).1

/-! ### Commands one after the other -/

/-- The page after a command; it stays as it is if the command does not return. -/
def play (page : Page) (command : Command) : Page := ((page.run command).map (·.2)).getD page

/-- The page after commands one after the other. -/
def plays (page : Page) (commands : List Command) : Page := commands.foldl play page

lemma run_play {command : Command} (h : (page.run command).isSome) :
    ∃ answer, page.run command = some (answer, page.play command) := by
  obtain ⟨⟨answer, after⟩, hrun⟩ := Option.isSome_iff_exists.1 h
  exact ⟨answer, by rw [play, hrun]; rfl⟩

lemma Session.play {command : Command} (h : Session late page)
    (hbrings : command.brings Command.roams) (htimely : late = true ∨ page.Timely command) :
    Session late (page.play command) := by
  cases hrun : page.run command with
  | none => rw [Page.play, hrun]; exact h
  | some result => rw [Page.play, hrun]; exact h.step hbrings htimely hrun

lemma Session.plays {commands : List Command} (h : Session late page)
    (hbrings : ∀ command ∈ commands, command.brings Command.roams ∧ (late || !command.setsRoot)) :
    Session late (page.plays commands) := by
  induction commands generalizing page with
  | nil => exact h
  | cons command rest ih =>
      obtain ⟨hcommand, htimely⟩ := hbrings command (List.mem_cons_self ..)
      refine ih (h.play hcommand ?_) fun other hother => hbrings other (List.mem_cons_of_mem _ hother)
      rw [Bool.or_eq_true] at htimely
      exact htimely.imp_right fun hnot hsets => by simp [hsets] at hnot

end Page

end PageRouter
