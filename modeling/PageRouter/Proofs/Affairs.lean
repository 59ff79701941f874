import Mathlib.Logic.Relation
import PageRouter.Proofs.CacheRuns
import PageRouter.Proofs.Sessions

/-!
# What computations have under way

Between two commands a page says all there is to say about it.  In between it does not: a route has
been taken out of the store and is not mounted yet, a node has lost its name and is still mounted, a
node has been unmounted and is still registered, a node has a new place and has not been matched from
it.  Such things are in the hands of the computations that are going on, and hooks and listeners run
meanwhile.

`Affairs` writes down what is under way, and `Step` says how a page and its affairs change together:
each step is one change of the page, and everything that a step lays down some later step takes up
again.  A `Course` is one step after the other.  What each step keeps is therefore kept by all that a
page does, however deeply hooks and listeners nest.

Every step keeps a page `Sane`, whoever waits (`Step.sane`), and nodes keep their `Badge`
(`Step.badges`).
-/

namespace PageRouter

open Page

/-! ## Elements -/

namespace ElementCache

/-- **The cache shows an outcome**, next to a tail of the route around it. -/
structure Displays (cache : ElementCache) (outcome : Outcome) (parent : Option Tail) : Prop where
  active : cache.active = outcome.isSome
  shown : cache.activeElement.map Element.properties = outcome.map (·.properties parent)
  /-- There is room for one element. -/
  room : 1 ≤ cache.capacity

/-- Whether an outcome leaves the active element where it is. -/
def stays (cache : ElementCache) : Outcome → Bool
  | none => !cache.active
  | some found => cache.shows found.params

/-- The cache with fresh properties for an outcome that leaves the active element where it is. -/
def freshened (cache : ElementCache) (outcome : Outcome) (parent : Option Tail) : ElementCache :=
  match outcome with
  | none => cache
  | some found => cache.refreshFirst found parent

variable {cache : ElementCache} {outcome : Outcome} {parent : Option Tail}

/-- A cache that shows an outcome is in line with it. -/
lemma Displays.inLine (h : cache.Displays outcome parent) : cache.InLine outcome where
  active := h.active
  shown := by
    have hparams := congrArg (Option.map Properties.params) h.shown
    rw [Option.map_map, Option.map_map] at hparams
    exact hparams
  room := h.room

/-- An active element that stays shows the match once it has fresh properties. -/
lemma Displays.refreshFirst {found : Match} (hroom : 1 ≤ cache.capacity)
    (hshows : cache.shows found.params) (parent : Option Tail) :
    (cache.refreshFirst found parent).Displays (some found) parent := by
  simp only [shows, activeElement] at hshows
  cases hactive : cache.active with
  | false => simp [hactive] at hshows
  | true =>
      cases helements : cache.elements with
      | nil => simp [hactive, helements] at hshows
      | cons element others =>
          have hparams : element.params = found.params := by simpa [hactive, helements] using hshows
          refine ⟨?_, ?_, ?_⟩
          · simp [ElementCache.refreshFirst, helements, hactive]
          · simp [ElementCache.refreshFirst, activeElement, helements, hactive, Element.refreshed,
              Element.properties, Match.properties, hparams]
          · simpa [ElementCache.refreshFirst, helements] using hroom

end ElementCache

/-! ## Affairs -/

/-- **A node whose elements are being brought in line**, with what was known of it when this began. -/
structure Turn where
  node : NodeId
  place : ParentLink
  cache : ElementCache
  outcome : Outcome

/-- A cache that a turn may end with. -/
structure Turn.Yields (turn : Turn) (cache : ElementCache) : Prop where
  displays : cache.Displays turn.outcome (parentTail turn.place)
  /-- An element that stays only gets fresh properties. -/
  kept : turn.cache.stays turn.outcome →
    cache = turn.cache.freshened turn.outcome (parentTail turn.place)

/-- **What computations have under way.** -/
structure Affairs where
  /-- The ids of routes that nobody keeps. -/
  hand : List RouteId
  /-- Nodes that are mounted and have no name. -/
  loose : List NodeId
  /-- Nodes that have been unmounted and are still registered. -/
  leaving : List NodeId
  /-- Nodes that are about to be matched. -/
  summoned : List NodeId
  turns : List Turn
  /-- The tails that are being told, each with its node. -/
  telling : List (NodeId × Option Tail)

/-- Nothing is under way. -/
def Affairs.none : Affairs := ⟨[], [], [], [], [], []⟩

/-- Elements may come and go: a node is being unmounted, or its element does not stay. -/
def Affairs.Hosts (affairs : Affairs) : Prop :=
  affairs.leaving ≠ [] ∨ ∃ turn ∈ affairs.turns, turn.cache.stays turn.outcome = false

/-! ## Views -/

/-- What a node keeps for good. -/
structure Badge where
  id : Option RouteId
  pattern : Pattern
  subscription : Subscription

def Node.badge (node : Node) : Badge := ⟨node.route.id, node.pattern, node.subscription⟩

/-- What an event tells of the document. -/
def PageEvent.host? : PageEvent → Option HostEvent
  | .host event => some event
  | _ => none

namespace Page

variable {page mid after : Page} {id : NodeId} {may : Command → Bool} {scope : Scope}

def badges (page : Page) : List Badge := page.nodes.map Node.badge

/-- **What has happened in the document**, the earliest first. -/
def hostEvents (page : Page) : List HostEvent := page.events.reverse.filterMap PageEvent.host?

/-- The node that a name means, if there is one. -/
def bearer (page : Page) (name : Text) : List NodeId := ((page.mounted? name).map (·.1)).toList

/-- The page with other names for mounted routes. -/
def withNames (page : Page) (mounted : List (Text × NodeId)) : Page :=
  { page with directory := { page.directory with mounted := mounted } }

/-- The page with other stored routes. -/
def withShelf (page : Page) (stored : List (Text × Route)) : Page :=
  { page with directory := { page.directory with stored := stored } }

/-- What is known of a node when its turn begins. -/
def turn (page : Page) (id : NodeId) (node : Node) : Turn :=
  ⟨id, node.route.place, node.cache, page.outcomeOf node⟩

/-- The page without the subscription of a name. -/
def unwatched (page : Page) (name : Text) : Page :=
  match lookup? name page.directory.subscriptions with
  | none => page
  | some subscription =>
    { page.cancel subscription with
      directory := { page.directory with
        subscriptions := forget name page.directory.subscriptions } }

/-- The page with a new listener from outside under a name. -/
def watched (page : Page) (name : Text) (ref : SignalRef) (reactions : List Watch) : Page :=
  let before := (page.withWatcher name ref reactions).unwatched name
  { before with directory := { before.directory with
      subscriptions := bind name ⟨ref, (page.signal ref).nextNumber⟩ before.directory.subscriptions } }

/-- **A slight change**: the nodes, who listens, what is registered, who waits, the names and the
elements in the document stay as they are, and no new commands come. -/
structure Slight (may : Command → Bool) (page after : Page) : Prop where
  nodes : after.nodes = page.nodes
  location : after.locationChanged = page.locationChanged
  registry : after.registry = page.registry
  queue : after.queue = page.queue
  directory : after.directory = page.directory
  made : after.document.made = page.document.made
  attached : after.document.attached = page.document.attached
  host : after.hostEvents = page.hostEvents
  visits : after.visits = page.visits
  obeys : ∀ scope, page.Obeys may scope → after.Obeys may scope

end Page

/-! ## Steps -/

/-- **The ways in which a page and its affairs change.**  What there may be only by a command of some
kind is told with it. -/
inductive Step (may : Command → Bool) : Page × Affairs → Page × Affairs → Prop
  | slight {page after : Page} (affairs : Affairs) :
      Slight may page after → Step may (page, affairs) (after, affairs)
  /-- Something happens in the document. -/
  | hosts {page : Page} {affairs : Affairs} (event : HostEvent) (change : Document → Document) :
      affairs.Hosts → Step may (page, affairs)
        ({ page with document := change page.document, events := .host event :: page.events }, affairs)
  -- routes go from hand to hand
  | takes (page : Page) (affairs : Affairs) (name : Text) :
      Step may (page, affairs) (page.withShelf (forget name page.directory.stored),
        { affairs with hand := ((page.stored? name).bind (·.id)).toList ++ affairs.hand })
  | brings (page : Page) (affairs : Affairs) {route : Route} :
      ((∃ name parent, may (.mount name parent (.fresh route))) ∨ ∃ name, may (.store name route)) →
      Step may (page, affairs) (page, { affairs with hand := route.id.toList ++ affairs.hand })
  | drops (page : Page) (affairs : Affairs) (ids : List RouteId) :
      Step may (page, { affairs with hand := ids ++ affairs.hand }) (page, affairs)
  | stores (page : Page) (affairs : Affairs) (name : Text) (route : Route) :
      Step may (page, { affairs with hand := route.id.toList ++ affairs.hand })
        (page.store name route, affairs)
  /-- Registered or taken out by hand. -/
  | records (page : Page) (affairs : Affairs) (registry : Registry) (stored : List (Text × Route)) :
      ((∃ name, may (.register name)) ∨ ∃ name, may (.unregister name)) →
      Step may (page, affairs) ({ page.withShelf stored with registry := registry }, affairs)
  -- nodes come and go
  | plants {page : Page} (affairs : Affairs) {route registered : Route} {pattern : Pattern}
      {tag : Text} {parent : Option (NodeId × Node)} {routeId : RouteId} {registry : Registry} :
      (∃ name below source, may (.mount name below source)) →
      (∀ around ∈ parent, page.nodes[around.1]? = some around.2) → route.compiled = .ok pattern →
      route.tag = .ok tag →
      page.registry.add { route with place := placeBelow (parent.map (·.2)) }
        = .ok (routeId, registered, registry) →
      Step may (page, { affairs with hand := route.id.toList ++ affairs.hand })
        (page.planted registered pattern tag parent registry,
          { affairs with loose := page.nodes.length :: affairs.loose })
  /-- A node gets a name, and the one that had it loses it. -/
  | names (page : Page) (affairs : Affairs) (name : Text) (id : NodeId) :
      Step may (page, { affairs with loose := id :: affairs.loose })
        (page.withNames (Page.bind name id page.directory.mounted),
          { affairs with loose := page.bearer name ++ affairs.loose })
  | unnames (page : Page) (affairs : Affairs) (name : Text) :
      (may (.unmount name) ∨ may (.drop name)) →
      Step may (page, affairs) (page.withNames (forget name page.directory.mounted),
        { affairs with loose := page.bearer name ++ affairs.loose })
  | shuts {page : Page} (affairs : Affairs) {id : NodeId} {node : Node} :
      page.nodes[id]? = some node → node.mounted →
      Step may (page, { affairs with loose := id :: affairs.loose })
        (page.shut id node.subscription, { affairs with leaving := id :: affairs.leaving })
  | tears {page : Page} (affairs : Affairs) {id : NodeId} {node : Node} {cache : ElementCache}
      {route : Route} : page.nodes[id]? = some node → route.id = node.route.id →
      cache.InLine none →
      Step may (page, { affairs with leaving := id :: affairs.leaving })
        (page.torn id cache (page.registry.remove route).2,
          { affairs with
            hand := node.route.id.toList ++ affairs.hand
            telling := (id, none) :: affairs.telling })
  /-- A node that was not mounted any more cannot be unmounted. -/
  | lets {page : Page} (affairs : Affairs) {id : NodeId} {node : Node} :
      page.nodes[id]? = some node → node.mounted = false →
      Step may (page, { affairs with loose := id :: affairs.loose })
        (page, { affairs with hand := node.route.id.toList ++ affairs.hand })
  | resizes (page : Page) (affairs : Affairs) (id : NodeId) (count : Nat) :
      (∃ name, lookup? name page.directory.mounted = some id ∧ may (.setCacheCount name count)) →
      Step may (page, affairs) (page.modifyNode id fun node => { node with
        route := node.route.withCacheCount count, cache := node.cache.setCapacity count }, affairs)
  -- listeners from outside come and go
  | watches {page : Page} (affairs : Affairs) {name : Text} {ref : SignalRef}
      {reactions : List Watch} : page.HasSignal ref →
      (∀ reaction ∈ reactions, reaction.KeepsTo may) →
      Step may (page, affairs) (page.watched name ref reactions, affairs)
  | unwatches (page : Page) (affairs : Affairs) (name : Text) :
      Step may (page, affairs) (page.unwatched name, affairs)
  -- nodes are matched
  | summons (page : Page) (affairs : Affairs) (id : NodeId) :
      Step may (page, affairs) (page, { affairs with summoned := id :: affairs.summoned })
  | tells {page : Page} {affairs : Affairs} {child parent : NodeId} {tail : Option Tail} {seat : Seat} :
      page.seats[child]? = some seat → seat.subscription.signal = .tailOf parent →
      (parent, tail) ∈ affairs.telling →
      Step may (page, affairs)
        (page.withPlace child tail, { affairs with summoned := child :: affairs.summoned })
  | hushes (page : Page) (affairs : Affairs) (told : NodeId × Option Tail) :
      Step may (page, { affairs with telling := told :: affairs.telling }) (page, affairs)
  | defers {page : Page} (affairs : Affairs) (id : NodeId) : page.queue.busy = true →
      Step may (page, { affairs with summoned := id :: affairs.summoned })
        ({ page with queue := page.queue.defer id }, affairs)
  | skips {page : Page} (affairs : Affairs) {id : NodeId} : page.queue.busy = false →
      (∀ node, page.nodes[id]? = some node → node.mounted = false) →
      Step may (page, { affairs with summoned := id :: affairs.summoned }) (page, affairs)
  | begins {page : Page} (affairs : Affairs) {id : NodeId} {node : Node} : page.queue.busy = false →
      page.nodes[id]? = some node → node.mounted →
      Step may (page, { affairs with summoned := id :: affairs.summoned })
        (page.occupied, { affairs with turns := page.turn id node :: affairs.turns })
  | settles (page : Page) (affairs : Affairs) {turn : Turn} {cache : ElementCache} :
      turn.Yields cache →
      Step may (page, { affairs with turns := turn :: affairs.turns })
        (page.settled turn.node cache turn.outcome,
          { affairs with telling := (turn.node, turn.outcome.tail) :: affairs.telling })
  /-- A node that has waited gets its turn. -/
  | calls {page : Page} (affairs : Affairs) {id : NodeId} {rest : List NodeId} :
      page.queue.busy = false → page.queue.pending = id :: rest →
      Step may (page, affairs)
        ({ page with queue := { page.queue with pending := rest } },
          { affairs with summoned := id :: affairs.summoned })

/-- **One step after the other.** -/
abbrev Course (may : Command → Bool) : Page × Affairs → Page × Affairs → Prop :=
  Relation.ReflTransGen (Step may)

/-- What each step keeps is kept all along. -/
lemma Course.invariant {may : Command → Bool} {s s' : Page × Affairs} (h : Course may s s')
    (holds : Page → Affairs → Prop)
    (hstep : ∀ s s', Step may s s' → holds s.1 s.2 → holds s'.1 s'.2) (hstart : holds s.1 s.2) :
    holds s'.1 s'.2 := by
  induction h with
  | refl => exact hstart
  | tail _ hlast ih => exact hstep _ _ hlast ih

namespace Page

variable {page mid after : Page} {id : NodeId} {may : Command → Bool} {scope : Scope}

/-! ## Sane pages -/

/-- The page with nobody waiting. -/
def idle (page : Page) : Page := { page with queue := ⟨false, []⟩ }

/-- **A sane page** is steady but for who waits. -/
def Sane (may : Command → Bool) (scope : Scope) (page : Page) : Prop := Steady may scope page.idle

/-- Soundness is a matter of the nodes, of who listens and waits, and of the names of listeners. -/
lemma Sound.of_fields (h : page.Sound) (hnodes : after.nodes = page.nodes)
    (hlocation : after.locationChanged = page.locationChanged) (hqueue : after.queue = page.queue)
    (hnamed : after.directory.subscriptions = page.directory.subscriptions) : after.Sound := by
  have hsignal := signal_congr hlocation hnodes
  have hseats : after.seats = page.seats := congrArg (List.map Node.seat) hnodes
  have hstandings : after.standings = page.standings := congrArg (List.map Node.standing) hnodes
  refine ⟨?_, ?_, ?_, hseats ▸ h.elder, ?_, hstandings ▸ h.placed, hnodes ▸ h.inLine, ?_, ?_, ?_⟩
  · simpa only [hsignal] using h.orderly
  · simpa only [hsignal, hseats] using h.heard
  · simpa only [hsignal, hseats] using h.listening
  · simpa only [hsignal] using h.inOrder
  · simpa only [hqueue, hseats] using h.waiting
  · simpa only [hsignal, hnamed] using h.apart
  · simpa only [hsignal, hnamed] using h.given

lemma obeys_idle : page.idle.Obeys may scope ↔ page.Obeys may scope := by
  have hsignal : ∀ ref, page.idle.signal ref = page.signal ref := signal_congr rfl rfl
  refine ⟨fun h => h.of_eq rfl rfl rfl fun ref _ _ hmem => ?_,
    fun h => h.of_eq rfl rfl rfl fun ref _ _ hmem => ?_⟩
  · rwa [hsignal]
  · rwa [hsignal] at hmem

lemma Sane.obeys (h : Sane may scope page) : page.Obeys may scope := obeys_idle.1 (Steady.obeys h)

lemma Sane.of_fields (h : Sane may scope page) (hnodes : after.nodes = page.nodes)
    (hlocation : after.locationChanged = page.locationChanged)
    (hnamed : after.directory.subscriptions = page.directory.subscriptions)
    (hobeys : page.Obeys may scope → after.Obeys may scope) : Sane may scope after :=
  ⟨(Steady.sound h).of_fields hnodes hlocation rfl hnamed, obeys_idle.2 (hobeys h.obeys)⟩

/-- Neither hooks nor listeners change. -/
lemma Sane.of_eq (h : Sane may scope page) (hnodes : after.nodes = page.nodes)
    (hlocation : after.locationChanged = page.locationChanged)
    (hnamed : after.directory.subscriptions = page.directory.subscriptions)
    (hhooks : after.hooks = page.hooks) (hfirst : after.firstHook = page.firstHook)
    (hwatchers : after.watchers = page.watchers) : Sane may scope after :=
  h.of_fields hnodes hlocation hnamed fun hobeys => hobeys.of_eq hhooks hfirst hwatchers
    fun ref _ _ hmem => by rwa [signal_congr hlocation hnodes] at hmem

/-! ### Nodes that come -/

/-- A route that is registered gets the id that it had, or a new one, and nothing else changes. -/
lemma add_eq_ok {registry registry' : Registry} {route registered : Route} {pattern : Pattern}
    {routeId : RouteId} (hcompiled : route.compiled = .ok pattern)
    (h : registry.add route = .ok (routeId, registered, registry')) :
    routeId = (registry.issue route pattern).1 ∧ registered = { route with id := some routeId } ∧
      registry' = { (registry.issue route pattern).2 with
        entries := Registry.put ⟨routeId, pattern⟩ registry.entries } := by
  have hentries : (registry.issue route pattern).2.entries = registry.entries := by
    unfold Registry.issue
    split
    · rfl
    · rfl
  simp only [Registry.add, hcompiled, Except.ok.injEq, Prod.mk.injEq] at h
  obtain ⟨rfl, rfl, rfl⟩ := h
  rw [hentries]
  exact ⟨rfl, rfl, rfl⟩

lemma Sane.planted (h : Sane may scope page) {route : Route} {pattern : Pattern} {tag : Text}
    {parent : Option (NodeId × Node)} {registry : Registry}
    (hparent : ∀ around ∈ parent, page.nodes[around.1]? = some around.2)
    (hplace : route.place = placeBelow (parent.map (·.2))) :
    Sane may scope (page.planted route pattern tag parent registry) := by
  have hhas : page.idle.HasSignal (signalBelow (parent.map (·.1))) := by
    cases parent with
    | none => trivial
    | some around => exact (List.getElem?_eq_some_iff.1 (hparent around rfl)).1
  have hroot : route.place = .root ↔ decide (signalBelow (parent.map (·.1)) = .location) = true := by
    rw [hplace]
    cases parent with
    | none => simp [placeBelow, signalBelow]
    | some around => simp [placeBelow, signalBelow]
  have hidle : (page.planted route pattern tag parent registry).idle
      = page.idle.planted route pattern tag parent registry := by
    cases parent <;> rfl
  rw [Sane, hidle]
  exact Steady.grown h hhas rfl rfl rfl hroot (.new _ _ _) registry

/-! ### Nodes that go -/

lemma Sane.shut (h : Sane may scope page) {node : Node} (hnode : page.nodes[id]? = some node)
    (hmounted : node.mounted) : Sane may scope (page.shut id node.subscription) := by
  have hidle : (page.shut id node.subscription).idle = page.idle.shut id node.subscription := by
    obtain ⟨ref, number⟩ := node.subscription
    cases ref <;> rfl
  rw [Sane, hidle]
  exact Steady.shut h hnode hmounted rfl

lemma Sane.torn (h : Sane may scope page) {cache : ElementCache} (hcache : cache.InLine none)
    (registry : Registry) : Sane may scope (page.torn id cache registry) := by
  have hlearned : Sane may scope (page.learned id cache none) := Steady.learned h hcache
  exact hlearned.of_eq rfl rfl rfl rfl rfl rfl

/-! ### Listeners from outside -/

lemma unwatchNamed_eq (page : Page) (name : Text) :
    ∃ found, unwatchNamed name page = some (found, page.unwatched name) := by
  simp only [unwatchNamed, bind_apply, get_apply, Option.bind_some, unwatched]
  cases lookup? name page.directory.subscriptions with
  | none => exact ⟨false, rfl⟩
  | some subscription => exact ⟨true, rfl⟩

lemma watch_eq (page : Page) (name : Text) (ref : SignalRef) (reactions : List Watch) :
    watch name ref reactions page = some ((), page.watched name ref reactions) := by
  obtain ⟨found, hunwatch⟩ := unwatchNamed_eq (page.withWatcher name ref reactions) name
  have hwatch : watch name ref reactions page
      = ((discard (unwatchNamed name) : PageM Unit) (page.withWatcher name ref reactions)).bind
        fun result => some ((), { result.2 with directory := { result.2.directory with
          subscriptions := Page.bind name ⟨ref, (page.signal ref).nextNumber⟩
            result.2.directory.subscriptions } }) := rfl
  have hdiscard : (discard (unwatchNamed name) : PageM Unit) (page.withWatcher name ref reactions)
      = some ((), (page.withWatcher name ref reactions).unwatched name) := by
    show ((unwatchNamed name (page.withWatcher name ref reactions)).bind fun r =>
      some (Function.const _ () r.1, r.2)) = _
    rw [hunwatch]
    rfl
  rw [hwatch, hdiscard]
  rfl

lemma idle_unwatched (page : Page) (name : Text) :
    (page.unwatched name).idle = page.idle.unwatched name := by
  unfold unwatched
  show _ = match lookup? name page.directory.subscriptions with
    | none => page.idle
    | some subscription => { page.idle.cancel subscription with
        directory := { page.directory with
          subscriptions := forget name page.directory.subscriptions } }
  split
  · rfl
  · next subscription _ =>
    obtain ⟨ref, number⟩ := subscription
    cases ref <;> rfl

lemma idle_withWatcher (page : Page) (name : Text) (ref : SignalRef) (reactions : List Watch) :
    (page.withWatcher name ref reactions).idle = page.idle.withWatcher name ref reactions := by
  cases ref <;> rfl

/-- **Only who listens has changed.** -/
structure Relistened (page after : Page) : Prop where
  queue : after.queue = page.queue
  registry : after.registry = page.registry
  mounted : after.directory.mounted = page.directory.mounted
  stored : after.directory.stored = page.directory.stored
  document : after.document = page.document
  events : after.events = page.events

lemma relistened_unwatched (page : Page) (name : Text) : Relistened page (page.unwatched name) := by
  unfold Page.unwatched
  split
  · exact ⟨rfl, rfl, rfl, rfl, rfl, rfl⟩
  · next subscription _ =>
    obtain ⟨ref, number⟩ := subscription
    cases ref <;> exact ⟨rfl, rfl, rfl, rfl, rfl, rfl⟩

lemma relistened_watched (page : Page) (name : Text) (ref : SignalRef) (reactions : List Watch) :
    Relistened page (page.watched name ref reactions) := by
  have h := relistened_unwatched (page.withWatcher name ref reactions) name
  cases ref <;> exact ⟨h.queue, h.registry, h.mounted, h.stored, h.document, h.events⟩

lemma Sane.unwatched (h : Sane may scope page) (name : Text) :
    Sane may scope (page.unwatched name) := by
  obtain ⟨found, hunwatch⟩ := unwatchNamed_eq page.idle name
  rw [Sane, idle_unwatched]
  exact ((unwatchNamed_inert h name).of_eq hunwatch).1.steady

lemma Sane.watched (h : Sane may scope page) (name : Text) {ref : SignalRef}
    {reactions : List Watch} (hhas : page.HasSignal ref)
    (hreactions : ∀ reaction ∈ reactions, reaction.KeepsTo may) :
    Sane may scope (page.watched name ref reactions) := by
  have hidle : (page.watched name ref reactions).idle = page.idle.watched name ref reactions := by
    have hbefore := idle_unwatched (page.withWatcher name ref reactions) name
    rw [idle_withWatcher] at hbefore
    have hnumber : page.idle.signal ref = page.signal ref := signal_congr rfl rfl ref
    unfold Page.watched
    rw [← hbefore, hnumber]
    rfl
  have hidleHas : page.idle.HasSignal ref := by
    cases ref with
    | location => trivial
    | tailOf id => exact hhas
  rw [Sane, hidle]
  exact ((watch_inert h name hidleHas hreactions).of_eq (watch_eq page.idle name ref reactions)).steady

end Page

/-- **Every step keeps a page sane.** -/
theorem Step.sane {may : Command → Bool} {scope : Scope} {s s' : Page × Affairs} (h : Step may s s')
    (hsane : Sane may scope s.1) : Sane may scope s'.1 := by
  cases h with
  | slight affairs hslight =>
      exact hsane.of_fields hslight.nodes hslight.location
        (congrArg Directory.subscriptions hslight.directory) (hslight.obeys scope)
  | plants affairs hmay hparent hcompiled htag hadd => exact hsane.planted hparent (place_of_add hadd)
  | shuts affairs hnode hmounted => exact hsane.shut hnode hmounted
  | tears affairs hnode hroute hcache => exact hsane.torn hcache _
  | resizes page affairs id count => exact (Inert.setCacheCount hsane id count).steady
  | watches affairs hhas hreactions => exact hsane.watched _ hhas hreactions
  | unwatches page affairs name => exact hsane.unwatched name
  | tells hseat hsignal htold => exact Steady.withPlace_of_signal hsane hseat hsignal
  | settles page affairs hyields => exact Steady.settled hsane hyields.displays.inLine
  | _ => exact hsane.of_eq rfl rfl rfl rfl rfl rfl

lemma Course.sane {may : Command → Bool} {scope : Scope} {s s' : Page × Affairs}
    (h : Course may s s') (hsane : Sane may scope s.1) : Sane may scope s'.1 :=
  h.invariant (fun page _ => Sane may scope page) (fun _ _ => Step.sane) hsane

/-! ## Views of the nodes -/

namespace Page

variable {page : Page}

section View

variable {β : Type} (view : Node → β)

/-- What changes of a node changes in any view of the nodes. -/
lemma view_modifyNode {change : Node → Node} {change' : β → β}
    (h : ∀ node, view (change node) = change' (view node)) (page : Page) (id : NodeId) :
    (page.modifyNode id change).nodes.map view = (page.nodes.map view).modify id change' := by
  refine List.ext_getElem? fun other => ?_
  simp only [nodes_modifyNode, List.getElem?_map, List.getElem?_modify]
  cases page.nodes[other]? with
  | none => rfl
  | some node => by_cases hid : id = other <;> simp [hid, h]

/-- What is there after a change was there before, changed or not. -/
lemma exists_of_modify {l : List β} {id other : NodeId} {change : β → β} {b : β}
    (h : (l.modify id change)[other]? = some b) :
    ∃ old, l[other]? = some old ∧ b = if id = other then change old else old := by
  rw [List.getElem?_modify] at h
  obtain ⟨old, hold, rfl⟩ := Option.map_eq_some_iff.1 h
  exact ⟨old, hold, rfl⟩

-- who listens is not in view
variable (hview : ∀ node tailChanged, view { node with tailChanged := tailChanged } = view node)

include hview

lemma view_unwatched (page : Page) (name : Text) :
    (page.unwatched name).nodes.map view = page.nodes.map view := by
  unfold unwatched
  split
  · rfl
  · next subscription _ => exact map_modifySignal view hview page subscription.signal _

lemma view_watched (page : Page) (name : Text) (ref : SignalRef) (reactions : List Watch) :
    (page.watched name ref reactions).nodes.map view = page.nodes.map view :=
  (view_unwatched view hview (page.withWatcher name ref reactions) name).trans
    (map_modifySignal view hview page ref (·.subscribe (.watcher page.watchers.length)))

lemma view_planted (page : Page) (route : Route) (pattern : Pattern) (tag : Text)
    (parent : Option (NodeId × Node)) (registry : Registry) :
    (page.planted route pattern tag parent registry).nodes.map view
      = page.nodes.map view ++ [view (page.newcomer route pattern tag parent)] := by
  have hheard := map_modifySignal view hview page (signalBelow (parent.map (·.1)))
    (·.subscribe (.node page.nodes.length))
  rw [← hheard]
  exact List.map_append

lemma view_shut {change : β → β} (h : ∀ node, view { node with mounted := false } = change (view node))
    (page : Page) (id : NodeId) (subscription : Subscription) :
    (page.shut id subscription).nodes.map view = (page.nodes.map view).modify id change := by
  rw [← map_modifySignal view hview page subscription.signal (·.cancel subscription.number)]
  exact view_modifyNode view h _ id

end View

end Page

/-! ### What nodes keep -/

/-- **A view of what a node keeps for good.** -/
structure Fixed {β : Type} (view : Node → β) : Prop where
  tailChanged : ∀ node tailChanged, view { node with tailChanged := tailChanged } = view node
  mounted : ∀ node mounted, view { node with mounted := mounted } = view node
  learned : ∀ node cache outcome, view { node with cache := cache, lastMatch := outcome } = view node
  placed : ∀ node tail,
    view { node with route := { node.route with place := .child tail } } = view node
  resized : ∀ node count, view { node with
    route := node.route.withCacheCount count, cache := node.cache.setCapacity count } = view node

/-- **The route of a node can be mounted again**: it has an id, the pattern of the node, and an
element. -/
structure Node.IsFit (node : Node) : Prop where
  id : ∃ routeId, node.route.id = some routeId
  compiled : node.route.compiled = .ok node.pattern
  tag : ∃ tag, node.route.tag = .ok tag

/-- The node of a route that has just been registered is fit. -/
lemma isFit_newcomer {page : Page} {route registered : Route} {pattern : Pattern} {tag : Text}
    {parent : Option (NodeId × Node)} {routeId : RouteId} {registry : Registry}
    (hcompiled : route.compiled = .ok pattern) (htag : route.tag = .ok tag)
    (hadd : page.registry.add { route with place := placeBelow (parent.map (·.2)) }
      = .ok (routeId, registered, registry)) :
    (page.newcomer registered pattern tag parent).IsFit := by
  have hplaced : Route.compiled { route with place := placeBelow (parent.map (·.2)) }
      = .ok pattern := hcompiled
  obtain ⟨-, rfl, -⟩ := add_eq_ok hplaced hadd
  refine ⟨⟨routeId, rfl⟩, hcompiled, ?_⟩
  cases helement : route.element with
  | none => simp [Route.tag, helement] at htag
  | some element => exact ⟨element, by simp [Page.newcomer, newNode, Route.tag]⟩

/-- **Nodes keep what they have for good**, and those that are added are fit. -/
theorem Step.fixed {may : Command → Bool} {s s' : Page × Affairs} (h : Step may s s') {β : Type}
    {view : Node → β} (hview : Fixed view) :
    s'.1.nodes.map view = s.1.nodes.map view ∨
      ∃ node : Node, node.IsFit ∧ s'.1.nodes.map view = s.1.nodes.map view ++ [view node] := by
  cases h with
  | slight affairs hslight => exact .inl (congrArg (List.map view) hslight.nodes)
  | plants affairs _ _ hcompiled htag hadd =>
      exact .inr ⟨_, isFit_newcomer hcompiled htag hadd, view_planted view hview.tailChanged ..⟩
  | shuts =>
      have hsame : ∀ node : Node,
          view { node with mounted := false } = (fun seen => seen) (view node) :=
        fun node => hview.mounted node false
      exact .inl ((view_shut view hview.tailChanged hsame ..).trans (List.modify_id ..))
  | @tears page affairs id node cache =>
      exact .inl (map_modifyNode _ view (fun node => hview.learned node cache none) page id)
  | resizes page affairs id count =>
      exact .inl (map_modifyNode _ view (fun node => hview.resized node count) page id)
  | watches => exact .inl (view_watched view hview.tailChanged ..)
  | unwatches page affairs name => exact .inl (view_unwatched view hview.tailChanged page name)
  | @tells page _ child parent tail =>
      exact .inl (map_modifyNode _ view (fun node => hview.placed node tail) page child)
  | @settles page affairs turn cache =>
      exact .inl (map_modifyNode _ view (fun node => hview.learned node cache turn.outcome)
        { page with queue := { page.queue with busy := false } } turn.node)
  | _ => exact .inl rfl

lemma fixed_badge : Fixed Node.badge :=
  ⟨fun _ _ => rfl, fun _ _ => rfl, fun _ _ _ => rfl, fun _ _ => rfl, fun _ _ => rfl⟩

/-- **Nodes keep their badges**: they are only added, at the end of the list. -/
theorem Step.badges {may : Command → Bool} {s s' : Page × Affairs} (h : Step may s s') :
    s.1.badges <+: s'.1.badges := by
  rcases h.fixed fixed_badge with hsame | ⟨node, -, hadded⟩
  · have hbadges : s'.1.badges = s.1.badges := hsame
    exact hbadges ▸ List.prefix_rfl
  · rw [Page.badges, Page.badges, hadded]
    exact List.prefix_append ..

lemma Course.badges {may : Command → Bool} {s s' : Page × Affairs} (h : Course may s s') :
    s.1.badges <+: s'.1.badges :=
  h.invariant (fun page _ => s.1.badges <+: page.badges) (fun _ _ hstep ih => ih.trans hstep.badges)
    List.prefix_rfl

/-- A node is still there later, with its badge. -/
lemma Course.node {may : Command → Bool} {s s' : Page × Affairs} (h : Course may s s') {id : NodeId}
    {node : Node} (hnode : s.1.nodes[id]? = some node) :
    ∃ now, s'.1.nodes[id]? = some now ∧ now.badge = node.badge := by
  have hbadge : s.1.badges[id]? = some node.badge := by
    rw [Page.badges, List.getElem?_map, hnode, Option.map_some]
  obtain ⟨more, hmore⟩ := h.badges
  have hlater : s'.1.badges[id]? = some node.badge := by
    rw [← hmore, List.getElem?_append_left (List.getElem?_eq_some_iff.1 hbadge).1, hbadge]
  rwa [Page.badges, List.getElem?_map, Option.map_eq_some_iff] at hlater

end PageRouter
