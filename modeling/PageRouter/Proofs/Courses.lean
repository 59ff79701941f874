import PageRouter.Proofs.Affairs
import PageRouter.Proofs.Lineage
import PageRouter.Proofs.Quiet

/-!
# Everything that a page does takes its course

Whatever a page does, with whatever hooks and listeners, it goes one `Step` after the other, and what
was under way before is under way again when it is done (`exec_serves`).  A call to match a node takes
up a summons, and a call to match the nodes that wait leaves nobody waiting.

Nodes can only begin to wait while the document is busy.  So a computation leaves the document as busy
as it was, and on a page whose document is free nobody waits who did not wait before (`Calm`); between
two commands nobody waits at all (`Led.queue_eq`).
-/

namespace PageRouter.Page

variable {may : Command → Bool} {scope : Scope} {page mid after : Page} {id : NodeId}
  {affairs before later : Affairs}

/-! ## Stretches -/

/-- **The document is as busy as before**, and if it is free, nobody waits who did not before. -/
structure Calm (page after : Page) : Prop where
  busy : after.queue.busy = page.queue.busy
  pending : page.queue.busy = false →
    after.queue.pending = [] ∨ after.queue.pending = page.queue.pending

lemma Calm.of_queue (h : after.queue = page.queue) : Calm page after :=
  ⟨by rw [h], fun _ => .inr (by rw [h])⟩

lemma Calm.trans (h : Calm page mid) (h' : Calm mid after) : Calm page after where
  busy := h'.busy.trans h.busy
  pending := fun hfree => (h'.pending (h.busy.trans hfree)).elim .inl fun hsame =>
    (h.pending hfree).imp hsame.trans hsame.trans

/-- **A stretch of what a page does.** -/
structure Stretch (may : Command → Bool) (page : Page) (affairs : Affairs) (after : Page)
    (later : Affairs) : Prop where
  course : Course may (page, affairs) (after, later)
  calm : Calm page after

namespace Stretch

lemma refl (page : Page) (affairs : Affairs) : Stretch may page affairs page affairs :=
  ⟨.refl, .of_queue rfl⟩

lemma trans (h : Stretch may page before mid affairs) (h' : Stretch may mid affairs after later) :
    Stretch may page before after later :=
  ⟨h.course.trans h'.course, h.calm.trans h'.calm⟩

lemma of_step (h : Step may (page, affairs) (after, later)) (hqueue : after.queue = page.queue) :
    Stretch may page affairs after later :=
  ⟨.single h, .of_queue hqueue⟩

lemma slight (h : Slight may page after) (affairs : Affairs) :
    Stretch may page affairs after affairs :=
  of_step (.slight affairs h) h.queue

lemma sane (h : Stretch may page affairs after later) (hsane : Sane may scope page) :
    Sane may scope after := h.course.sane hsane

end Stretch

/-- Settings change that have no part in any of this, or the location. -/
lemma Slight.settings (page : Page) (history : History) (root? : Option Text) (intercepts : Bool)
    (count : Nat) (veto : Bool) :
    Slight may page { page with
      history := history, root? := root?, interceptsLinks := intercepts, defaultCacheCount := count,
      document := { page.document with veto := veto } } where
  nodes := rfl
  location := rfl
  registry := rfl
  queue := rfl
  directory := rfl
  made := rfl
  attached := rfl
  host := rfl
  visits := rfl
  obeys := fun _ hobeys => hobeys.of_eq rfl rfl rfl fun ref _ _ => by cases ref <;> exact id

lemma Slight.note {event : PageEvent} (hvisit : event.visit? = none) (hhost : event.host? = none)
    (page : Page) : Slight may page { page with events := event :: page.events } where
  nodes := rfl
  location := rfl
  registry := rfl
  queue := rfl
  directory := rfl
  made := rfl
  attached := rfl
  host := by simp [hostEvents, hhost]
  visits := visits_note hvisit page
  obeys := fun _ hobeys => hobeys.of_eq rfl rfl rfl fun ref _ _ => by cases ref <;> exact id

/-- Only what hooks and listeners can do changes. -/
lemma Slight.scripts (page : Page) (watchers : List Watcher) (hooks : List Hook) (firstHook : Nat)
    (hobeys : ∀ scope, page.Obeys may scope → Obeys may scope
      { page with watchers := watchers, hooks := hooks, firstHook := firstHook }) :
    Slight may page { page with watchers := watchers, hooks := hooks, firstHook := firstHook } :=
  ⟨rfl, rfl, rfl, rfl, rfl, rfl, rfl, rfl, rfl, hobeys⟩

/-! ## Calls -/

/-- **Calls of the next level** take their course. -/
structure Serves (may : Command → Bool) (scope : Scope) (deeper : Deeper) : Prop where
  command : ∀ {command : Command} {page : Page} (affairs : Affairs), may command →
    command.brings may → Sane may scope page →
    Leads false (deeper (.command command)) page fun _ after =>
      Stretch may page affairs after affairs
  refresh : ∀ (id : NodeId) {page : Page} (affairs : Affairs), Sane may scope page →
    Leads false (deeper (.refresh id)) page fun _ after =>
      Stretch may page { affairs with summoned := id :: affairs.summoned } after affairs
  drain : ∀ {page : Page} (affairs : Affairs), Sane may scope page → page.queue.busy = false →
    Leads false (deeper .drain) page fun _ after =>
      Stretch may page affairs after affairs ∧ after.queue.pending = []

section Calls

variable {deeper : Deeper} (h : Serves may scope deeper)

include h

/-! ### Reactions -/

lemma performAll_goes {commands : List Command}
    (hcommands : ∀ command ∈ commands, may command ∧ command.brings may) (hsane : Sane may scope page) :
    Leads false (performAll deeper commands) page fun _ after =>
      Stretch may page affairs after affairs := by
  refine leads_performAll (fun now => Stretch may page affairs now affairs) commands ?_ page
    (.refl page affairs)
  intro command hmem now hnow
  obtain ⟨hmay, hbrings⟩ := hcommands command hmem
  refine (h.command affairs hmay hbrings (hnow.sane hsane)).mono fun answer after hafter => ?_
  exact (hnow.trans hafter).trans (.slight (.note rfl rfl after) affairs)

/-- **A listener that is meant** takes its course. -/
lemma tellWatcher_goes {place : Nat} (event : Text → PageEvent) (key : Text)
    (hmeant : scope.watchers place) (hvisit : ∀ name, (event name).visit? = none)
    (hhost : ∀ name, (event name).host? = none) (hsane : Sane may scope page) :
    Leads false (tellWatcher deeper place event key) page fun _ after =>
      Stretch may page affairs after affairs := by
  simp only [tellWatcher, leads_bind, leads_get]
  split
  · exact .refl page affairs
  · next watcher _ =>
    simp only [leads_bind, leads_note]
    refine leads_offer (Reaction.isDue key) (fun now => Stretch may page affairs now affairs)
      (fun _ => rfl) _ ?_ _ (.slight (.note (hvisit _) (hhost _) page) affairs)
    intro index _ now reaction hnow hreaction hruns
    have hcommands : ∀ command ∈ reaction.commands, may command ∧ command.brings may := by
      split at hreaction
      · next listener hlistener =>
        exact (hnow.sane hsane).obeys.watchers place listener hmeant hlistener reaction
          (List.mem_of_getElem? hreaction) hruns
      · cases hreaction
    have hused : Stretch may now affairs { now with
        watchers := now.watchers.modify place fun watcher =>
          { watcher with reactions := Reaction.useUp index watcher.reactions } } affairs :=
      .slight (.scripts now _ _ _ fun _ hobeys => hobeys.useWatch place index) affairs
    simp only [leads_bind, useReaction, leads_modify]
    exact (performAll_goes h hcommands (hused.sane (hnow.sane hsane))).mono fun _ after hafter =>
      hnow.trans (hused.trans hafter)

/-- **The hooks in force** take their course. -/
lemma runHooks_goes (moment : Moment) (tag : Text) (hsane : Sane may scope page) :
    Leads false (runHooks deeper moment tag) page fun _ after =>
      Stretch may page affairs after affairs := by
  simp only [runHooks, leads_bind, leads_get]
  refine leads_offer (hookDue moment tag page.url) (fun now => Stretch may page affairs now affairs)
    (fun _ => rfl) _ ?_ page (.refl page affairs)
  intro index hindex now hook hnow hhook hruns
  have hfrom : scope.hooksFrom ≤ index :=
    Nat.le_trans hsane.obeys.inForce (List.mem_range'_1.1 hindex).1
  have hcommands := (hnow.sane hsane).obeys.hooks index hook hfrom hhook hruns
  have hused : Stretch may now affairs { now with hooks := Reaction.useUp index now.hooks } affairs :=
    .slight (.scripts now _ _ _ fun _ hobeys => hobeys.useHook index) affairs
  simp only [leads_bind, leads_modify]
  exact (performAll_goes h hcommands (hused.sane (hnow.sane hsane))).mono fun _ after hafter =>
    hnow.trans (hused.trans hafter)

/-! ### The document -/

section Hosted

variable (hhosts : affairs.Hosts)

include hhosts

omit h in
lemma record_goes (may : Command → Bool) (event : HostEvent) (change : Document → Document) :
    Leads false (record event change) page fun _ after => Stretch may page affairs after affairs :=
  .of_step (.hosts event change hhosts) rfl

omit h in
lemma append_goes (may : Command → Bool) (target : Option Text) (serial : Nat) :
    Leads false ((host deeper).append target serial) page fun _ after =>
      Stretch may page affairs after affairs :=
  record_goes hhosts may (.appended target serial) (·.append serial)

omit h in
lemma remove_goes (may : Command → Bool) (serial : Nat) :
    Leads false ((host deeper).remove serial) page fun _ after =>
      Stretch may page affairs after affairs :=
  record_goes hhosts may (.removed serial) (·.remove serial)

lemma activated_goes (element : Element) (hsane : Sane may scope page) :
    Leads false ((host deeper).activated element) page fun _ after =>
      Stretch may page affairs after affairs := by
  simp only [host, leads_bind]
  refine (record_goes hhosts may _ _).mono fun _ now hnow => ?_
  exact (runHooks_goes h _ _ (hnow.sane hsane)).mono fun _ after hafter => hnow.trans hafter

lemma deactivating_goes (element : Element) (hsane : Sane may scope page) :
    Leads false ((host deeper).deactivating element) page fun _ after =>
      Stretch may page affairs after affairs := by
  simp only [host, leads_bind, leads_get, leads_pure]
  refine (record_goes hhosts may _ _).mono fun _ now hnow => ?_
  exact (runHooks_goes h _ _ (hnow.sane hsane)).mono fun _ after hafter => hnow.trans hafter

lemma deactivate_goes (cache : ElementCache) (hsane : Sane may scope page) :
    Leads false (cache.deactivate (host deeper)) page fun result after =>
      Stretch may page affairs after affairs ∧ result = { cache with active := false } := by
  simp only [ElementCache.deactivate]
  split
  · next element _ =>
    rw [leads_bind]
    refine (deactivating_goes h hhosts element hsane).mono fun removes now hnow => ?_
    refine leads_ite (fun _ => ?_) fun _ => ⟨hnow, rfl⟩
    rw [leads_bind]
    exact (remove_goes hhosts may _).mono fun _ after hafter => ⟨hnow.trans hafter, rfl⟩
  · exact ⟨.refl page affairs, rfl⟩

omit h in
lemma elementFor_goes (may : Command → Bool) (tag : Text) {kept : Option Element} {found : Match}
    (parent : Option Tail) (hkept : ∀ element, kept = some element → element.params = found.params) :
    Leads false (ElementCache.elementFor (host deeper) tag kept found parent) page
      fun element after => Stretch may page affairs after affairs ∧
        element.properties = found.properties parent := by
  cases kept with
  | some element =>
      refine ⟨.refl page affairs, ?_⟩
      simp only [Element.properties, Element.refreshed, Match.properties, hkept element rfl]
  | none =>
      simp only [ElementCache.elementFor, host, leads_bind, leads_get, leads_pure]
      exact (record_goes hhosts may _ _).mono fun _ _ hafter => ⟨hafter, rfl⟩

lemma activate_goes {cache : ElementCache} (hroom : 1 ≤ cache.capacity) (found : Match)
    (parent : Option Tail) (hsane : Sane may scope page) :
    Leads false (cache.activate (host deeper) found parent) page fun result after =>
      Stretch may page affairs after affairs ∧ result.2.2.Displays (some found) parent := by
  simp only [ElementCache.activate, leads_bind, leads_pure]
  refine (deactivate_goes h hhosts cache hsane).mono ?_
  rintro _ first ⟨hfirst, rfl⟩
  refine (elementFor_goes hhosts may _ parent fun _ => ElementCache.params_of_takeOut).mono ?_
  rintro element second ⟨hsecond, hshows⟩
  refine (append_goes hhosts may _ _).mono fun _ third hthird => ?_
  have hsofar := (hfirst.trans hsecond).trans hthird
  refine (activated_goes h hhosts element (hsofar.sane hsane)).mono fun _ after hafter => ?_
  refine ⟨hsofar.trans hafter, rfl, ?_, hroom⟩
  obtain ⟨more, hmore⟩ : ∃ more, cache.capacity = more + 1 := ⟨_, (Nat.sub_add_cancel hroom).symm⟩
  simp [ElementCache.activeElement, hmore, hshows]

end Hosted

/-- **Bringing elements in line** ends with a cache that the turn may end with.  An element that stays
only gets fresh properties, of which the document hears nothing. -/
lemma update_goes {turn : Turn} (hturn : turn ∈ affairs.turns) (hroom : 1 ≤ turn.cache.capacity)
    (hsane : Sane may scope page) :
    Leads false (turn.cache.update (host deeper) turn.outcome (parentTail turn.place)) page
      fun result after => Stretch may page affairs after affairs ∧ turn.Yields result.2 := by
  have hhosts : turn.cache.stays turn.outcome = false → affairs.Hosts := fun hleaves =>
    .inr ⟨turn, hturn, hleaves⟩
  obtain ⟨id, place, cache, outcome⟩ := turn
  cases outcome with
  | none =>
      simp only [ElementCache.update]
      refine leads_ite (fun hactive => ?_) fun hinactive => ?_
      · have hleaves : cache.stays none = false := by simp [ElementCache.stays, hactive]
        simp only [leads_bind, leads_pure]
        refine (deactivate_goes h (hhosts hleaves) cache hsane).mono ?_
        rintro _ after ⟨hafter, rfl⟩
        refine ⟨hafter, ⟨rfl, rfl, hroom⟩, fun hstays => ?_⟩
        rw [hleaves] at hstays
        cases hstays
      · rw [Bool.not_eq_true] at hinactive
        refine ⟨.refl page affairs, ⟨hinactive, ?_, hroom⟩, fun _ => rfl⟩
        simp [ElementCache.activeElement, hinactive]
  | some found =>
      simp only [ElementCache.update]
      refine leads_ite (fun hshows => ?_) fun hother => ?_
      · exact ⟨.refl page affairs, .refreshFirst hroom hshows _, fun _ => rfl⟩
      · have hleaves : cache.stays (some found) = false := by simpa [ElementCache.stays] using hother
        simp only [leads_bind, leads_pure]
        refine (activate_goes h (hhosts hleaves) hroom found _ hsane).mono fun result after hafter => ?_
        refine ⟨hafter.1, hafter.2, fun hstays => ?_⟩
        rw [hleaves] at hstays
        cases hstays

/-! ### Tellings -/

omit h in
/-- **Telling everyone** takes its course if each call of those who listened when it began does. -/
lemma emit_goes (ref : SignalRef) {call : Listener → PageM Unit}
    (hcall : ∀ number listener, (number, listener) ∈ (page.signal ref).listeners → ∀ now,
      Course may (page, affairs) (now, affairs) →
      Leads false (call listener) now fun _ after => Stretch may now affairs after affairs) :
    Leads false (Signal.emit (return (← get).signal ref) call) page fun _ after =>
      Stretch may page affairs after affairs := by
  have hinv : (page.signal ref).listeners ⊆ (page.signal ref).listeners ∧
      Stretch may page affairs page affairs := ⟨List.Subset.refl _, .refl page affairs⟩
  refine (leads_emit (fun rest now => rest ⊆ (page.signal ref).listeners ∧
    Stretch may page affairs now affairs) ?_ ?_ hinv).mono fun _ _ hafter => hafter.2
  · rintro number listener rest now ⟨hrest, hnow⟩ -
    obtain ⟨hlistens, hrest⟩ := List.cons_subset.1 hrest
    exact (hcall number listener hlistens now hnow.course).mono fun _ after hafter =>
      ⟨hrest, hnow.trans hafter⟩
  · rintro number listener rest now ⟨hrest, hnow⟩ -
    exact ⟨(List.cons_subset.1 hrest).2, hnow⟩

/-- A node is asked to be matched. -/
lemma refresh_asked (affairs : Affairs) (id : NodeId) (hsane : Sane may scope page) :
    Leads false (deeper (.refresh id)) page fun _ after => Stretch may page affairs after affairs :=
  (h.refresh id affairs hsane).mono fun _ _ hafter =>
    (Stretch.of_step (.summons page affairs id) rfl).trans hafter

lemma notify_goes (kind : NavigationKind) (source : Option Text) (hsane : Sane may scope page) :
    Leads false (notify deeper kind source) page fun _ after =>
      Stretch may page affairs after affairs := by
  simp only [notify, leads_bind, leads_get]
  refine emit_goes .location fun number listener hlistens now hnow => ?_
  cases listener with
  | node id =>
      simp only [tellLocation, leads_discard]
      exact refresh_asked h affairs id (hnow.sane hsane)
  | watcher place =>
      exact tellWatcher_goes h (.location place · ⟨page.url, kind, source⟩) page.url
        (hsane.obeys.listening .location number place hlistens)
        (fun _ => rfl) (fun _ => rfl) (hnow.sane hsane)

/-- Whoever listens to the tail of a node is nested in it. -/
lemma emitTail_goes {tail : Option Tail} (htelling : (id, tail) ∈ affairs.telling)
    (hsane : Sane may scope page) :
    Leads false (emitTail deeper id tail) page fun _ after =>
      Stretch may page affairs after affairs := by
  refine emit_goes (.tailOf id) fun number listener hlistens now hnow => ?_
  cases listener with
  | node child =>
      have hidle : page.idle.signal (.tailOf id) = page.signal (.tailOf id) := signal_congr rfl rfl _
      have hheard : (number, child) ∈ (page.idle.signal (.tailOf id)).nodes :=
        Signal.mem_nodes.2 (hidle ▸ hlistens)
      obtain ⟨seat, hseat, -, hsubscribed⟩ := (Steady.sound hsane).heard _ _ _ hheard
      obtain ⟨node, hnode, rfl⟩ := exists_node hseat
      obtain ⟨later, hlater, hbadge⟩ := hnow.node hnode
      have hsignal : later.subscription.signal = .tailOf id :=
        (congrArg (·.subscription.signal) hbadge).trans (congrArg Subscription.signal hsubscribed)
      have htold : Step may (now, affairs) (now.withPlace child tail,
          { affairs with summoned := child :: affairs.summoned }) :=
        .tells (seats_of_nodes hlater) hsignal htelling
      simp only [tellTail, leads_bind, leads_modify, leads_discard]
      exact (h.refresh child affairs (htold.sane (hnow.sane hsane))).mono fun _ _ hafter =>
        (Stretch.of_step htold rfl).trans hafter
  | watcher place =>
      exact tellWatcher_goes h (.tail place · tail) (tailKey tail)
        (hsane.obeys.listening _ number place hlistens)
        (fun _ => rfl) (fun _ => rfl) (hnow.sane hsane)

/-! ### Mounting and unmounting -/

omit h in
/-- What is under way once a route has been mounted, or has not. -/
def mountedAffairs (affairs : Affairs) : Except RouterError (NodeId × RouteId) → Affairs
  | .error _ => affairs
  | .ok (id, _) => { affairs with loose := id :: affairs.loose }

lemma attach_goes (affairs : Affairs) {route : Route} {parent : Option (NodeId × Node)}
    (hmay : ∃ name below source, may (.mount name below source))
    (hparent : ∀ around ∈ parent, page.nodes[around.1]? = some around.2)
    (hsane : Sane may scope page) :
    Leads false (attach deeper route parent) page fun result after =>
      Stretch may page { affairs with hand := route.id.toList ++ affairs.hand } after
        (mountedAffairs affairs result) := by
  have hrefused : Stretch may page { affairs with hand := route.id.toList ++ affairs.hand } page
      affairs := .of_step (.drops page affairs _) rfl
  simp only [attach, leads_bind, leads_get]
  split
  · exact hrefused
  · exact hrefused
  · next pattern tag hcompiled htag =>
    split
    · exact hrefused
    · next routeId registered registry hadd =>
      have hplants : Step may (page, { affairs with hand := route.id.toList ++ affairs.hand })
          (page.planted registered pattern tag parent registry,
            { affairs with loose := page.nodes.length :: affairs.loose }) :=
        .plants affairs hmay hparent hcompiled htag hadd
      simp only [leads_bind, leads_set, leads_discard, leads_pure]
      refine (refresh_asked h (mountedAffairs affairs (.ok (page.nodes.length, routeId)))
        page.nodes.length (hplants.sane hsane)).mono fun _ after hafter => ?_
      exact (Stretch.of_step hplants queue_grown).trans hafter

/-- A node that is unmounted leaves its route behind. -/
lemma teardown_goes (affairs : Affairs) {node : Node} (hnode : page.nodes[id]? = some node)
    (hsane : Sane may scope page) :
    Leads false (teardown deeper id) page fun route after =>
      Stretch may page { affairs with loose := id :: affairs.loose } after
        { affairs with hand := (route.bind (·.id)).toList ++ affairs.hand } := by
  simp only [teardown, leads_bind, leads_get, hnode]
  refine leads_ite (fun hmounted => ?_) fun hgone => ?_
  · have hshut : Step may (page, { affairs with loose := id :: affairs.loose })
        (page.shut id node.subscription, { affairs with leaving := id :: affairs.leaving }) :=
      .shuts affairs hnode hmounted
    simp only [leads_bind, leads_set, leads_modify, leads_get, leads_pure]
    have hhosts : Affairs.Hosts { affairs with leaving := id :: affairs.leaving } :=
      .inl (List.cons_ne_nil _ _)
    refine (deactivate_goes h hhosts node.cache (hshut.sane hsane)).mono ?_
    rintro cache cleared ⟨hcleared, rfl⟩
    have hsofar := (Stretch.of_step hshut queue_shut).trans hcleared
    obtain ⟨now, hnow, hbadge⟩ := hsofar.course.node hnode
    have hid : node.route.id = now.route.id := (congrArg Badge.id hbadge).symm
    have hline := ((Steady.sound hsane).inLine node (List.mem_of_getElem? hnode)).inactive
    have htears : Step may (cleared, { affairs with leaving := id :: affairs.leaving })
        (cleared.torn id { node.cache with active := false } (cleared.registry.remove node.route).2,
          { affairs with
            hand := now.route.id.toList ++ affairs.hand
            telling := (id, none) :: affairs.telling }) := .tears affairs hnow hid hline
    have htelling : (id, none) ∈ Affairs.telling { affairs with
        hand := now.route.id.toList ++ affairs.hand
        telling := (id, none) :: affairs.telling } := List.mem_cons_self ..
    refine (emitTail_goes h htelling (htears.sane (hsofar.sane hsane))).mono ?_
    intro _ after hafter
    have hdone := (hsofar.trans (.of_step htears rfl)).trans hafter
    obtain ⟨last, hlast, hbadge'⟩ := hdone.course.node hnode
    have hroute : (after.nodes[id]?.map (·.route)).bind (·.id) = now.route.id := by
      rw [hlast, ← hid]
      exact congrArg Badge.id hbadge'
    rw [hroute]
    exact hdone.trans (.of_step (.hushes after
      { affairs with hand := now.route.id.toList ++ affairs.hand } (id, none)) rfl)
  · simp only [leads_get, leads_bind, leads_pure, hnode]
    exact .of_step (.lets affairs hnode (by simpa using hgone)) rfl

lemma unmountNamed_goes (affairs : Affairs) {name : Text} (hmay : may (.unmount name) ∨ may (.drop name))
    (hsane : Sane may scope page) :
    Leads false (unmountNamed deeper name) page fun route after =>
      Stretch may page affairs after
        { affairs with hand := (route.bind (·.id)).toList ++ affairs.hand } := by
  simp only [unmountNamed, leads_bind, leads_get]
  split
  · exact .refl page affairs
  · next id node hname =>
    have hnode : page.nodes[id]? = some node := nodes_of_mounted? hname
    have hunnames : Step may (page, affairs) _ := .unnames page affairs name hmay
    rw [bearer, hname] at hunnames
    simp only [leads_bind, forgetMounted, leads_modify]
    refine (teardown_goes h affairs (by exact hnode) (hunnames.sane hsane)).mono ?_
    exact fun route after hafter => (Stretch.of_step hunnames rfl).trans hafter

omit h in
lemma takeRoute_goes (affairs : Affairs) {source : RouteSource}
    (hmay : ∃ name below, may (.mount name below source)) :
    Leads false (takeRoute source) page fun route after => Stretch may page affairs after
      { affairs with hand := (route.bind (·.id)).toList ++ affairs.hand } := by
  cases source with
  | fresh route => exact .of_step (.brings page affairs (.inl hmay)) rfl
  | stored name => exact .of_step (.takes page affairs name) rfl

lemma mountAs_goes (affairs : Affairs) {name : Text} {parent : Option Text} {source : RouteSource}
    (hmay : may (.mount name parent source)) (hsane : Sane may scope page) :
    Leads false (mountAs deeper name parent source) page fun _ after =>
      Stretch may page affairs after affairs := by
  simp only [mountAs, leads_bind]
  refine (takeRoute_goes affairs ⟨name, parent, hmay⟩).mono fun route taken htaken => ?_
  split
  · exact htaken
  · next route =>
    simp only [leads_bind, leads_get]
    split
    · exact htaken.trans (.of_step (.drops taken affairs _) rfl)
    · next around hfor =>
      simp only [leads_bind]
      refine (attach_goes h affairs ⟨name, parent, source, hmay⟩ (nodes_of_parentFor hfor)
        (htaken.sane hsane)).mono fun result mounted hmounted => ?_
      have hsofar := htaken.trans hmounted
      split
      · exact hsofar
      · next id routeId =>
        simp only [leads_bind, leads_get, leads_modify]
        have hnames : Step may (mounted, { affairs with loose := id :: affairs.loose }) _ :=
          .names mounted affairs name id
        have hnamed := hsofar.trans (.of_step hnames rfl)
        cases hold : mounted.mounted? name with
        | none =>
            rw [bearer, hold] at hnamed
            exact hnamed
        | some found =>
            have hnode : mounted.nodes[found.1]? = some found.2 := nodes_of_mounted? hold
            rw [bearer, hold] at hnamed
            simp only [leads_bind, leads_discard, leads_pure]
            refine (teardown_goes h affairs (by exact hnode) (hnamed.sane hsane)).mono ?_
            intro _ after hafter
            exact (hnamed.trans hafter).trans (.of_step (.drops after affairs _) rfl)

/-! ### Commands -/

omit h in
lemma withMounted_goes {name : Text} {action : NodeId → Node → PageM Answer}
    (haction : ∀ id node, page.mounted? name = some (id, node) →
      Leads false (action id node) page fun _ after => Stretch may page affairs after affairs) :
    Leads false (withMounted name action) page fun _ after =>
      Stretch may page affairs after affairs := by
  simp only [withMounted, leads_bind, leads_get]
  split
  · next id node hname => exact haction id node hname
  · exact .refl page affairs

omit h in
lemma withStored_goes {name : Text} {action : Route → PageM Answer}
    (haction : ∀ route, page.stored? name = some route →
      Leads false (action route) page fun _ after => Stretch may page affairs after affairs) :
    Leads false (withStored name action) page fun _ after =>
      Stretch may page affairs after affairs := by
  simp only [withStored, leads_bind, leads_get]
  split
  · next route hname => exact haction route hname
  · exact .refl page affairs

lemma navigation_goes {command : Command} (hnavigates : command.navigates)
    (hsane : Sane may scope page) :
    Leads false (perform deeper command) page fun _ after =>
      Stretch may page affairs after affairs := by
  rcases perform_navigates deeper page hnavigates with
    ⟨answer, -, hperform⟩ | ⟨history, kind, source, answer, -, hperform⟩
  · rw [leads_of_eq hperform]
    exact .refl page affairs
  · have hslight : Slight may page (page.withHistory history) :=
      .settings page ..
    have hmoved := Stretch.slight hslight affairs
    rw [leads_congr hperform]
    simp only [announce, leads_bind, leads_pure]
    exact (notify_goes h kind source (hmoved.sane hsane)).mono fun _ _ hafter => hmoved.trans hafter

/-- **Every command** takes its course. -/
theorem perform_goes (affairs : Affairs) {command : Command} (hmay : may command)
    (hbrings : command.brings may) (hsane : Sane may scope page) :
    Leads false (perform deeper command) page fun _ after =>
      Stretch may page affairs after affairs := by
  by_cases hnavigates : command.navigates
  · exact navigation_goes h hnavigates hsane
  cases command with
  | setRoot root =>
      simp only [perform, setRoot, leads_bind, leads_get]
      split
      · exact .refl page affairs
      · simp only [leads_bind, leads_set, leads_pure]
        exact .slight (.settings page ..) affairs
  | intercept enabled =>
      simp only [perform, leads_bind, leads_modify, leads_pure]
      exact .slight (.settings page ..) affairs
  | mount name parent source => exact mountAs_goes h affairs hmay hsane
  | unmount name =>
      simp only [perform, leads_bind]
      refine (unmountNamed_goes h affairs (.inl hmay) hsane).mono fun route after hafter => ?_
      split
      · exact hafter
      · next route =>
        simp only [leads_bind, leads_modify, leads_pure]
        exact hafter.trans (.of_step (.stores after affairs name route) rfl)
  | drop name =>
      simp only [perform, leads_bind, leads_discard, leads_pure]
      refine (unmountNamed_goes h affairs (.inr hmay) hsane).mono fun route after hafter => ?_
      exact hafter.trans (.of_step (.drops after affairs _) rfl)
  | refresh name =>
      refine withMounted_goes fun id _ _ => ?_
      simp only [leads_bind, leads_discard, leads_pure]
      exact refresh_asked h affairs id hsane
  | setCacheCount name count =>
      exact withMounted_goes fun id _ hname =>
        .of_step (.resizes page affairs id count ⟨name, lookup?_of_mounted? hname, hmay⟩) rfl
  | lastMatch name => exact withMounted_goes fun _ _ _ => .refl page affairs
  | store name route =>
      exact (Stretch.of_step (.brings page affairs (.inr ⟨name, hmay⟩)) rfl).trans
        (.of_step (.stores page affairs name route) rfl)
  | showRoute name => exact withStored_goes fun _ _ => .refl page affairs
  | setPattern name pattern =>
      refine withStored_goes fun route hname => ?_
      split
      · exact .refl page affairs
      · next changed hchanged =>
        -- the route is taken out of the store and put back
        have hid : changed.id = route.id := by
          unfold Route.setPattern at hchanged
          split at hchanged
          · cases hchanged; rfl
          · split at hchanged
            · cases hchanged; rfl
            · cases hchanged
        have htakes : Step may (page, affairs) _ := .takes page affairs name
        rw [hname, Option.bind_some, ← hid] at htakes
        have hstores : Step may _ _ :=
          .stores (page.withShelf (forget name page.directory.stored)) affairs name changed
        have hsame : (page.withShelf (forget name page.directory.stored)).store name changed
            = page.store name changed := by
          simp only [withShelf, Page.store, Page.bind, forget, List.filter_filter, Bool.and_self]
        rw [hsame] at hstores
        exact (Stretch.of_step htakes rfl).trans (.of_step hstores rfl)
  | register name =>
      refine withStored_goes fun route _ => ?_
      simp only [registerStored, leads_bind, leads_get]
      split
      · exact .refl page affairs
      · exact .of_step (.records page affairs _ _ (.inl ⟨name, hmay⟩)) rfl
  | unregister name =>
      refine withStored_goes fun route _ => ?_
      exact .of_step (.records page affairs _ page.directory.stored (.inr ⟨name, hmay⟩)) rfl
  | matchRoute name => exact withStored_goes fun _ _ => .refl page affairs
  | watchLocation name reactions =>
      have hwatches : Step may (page, affairs) (page.watched name .location reactions, affairs) :=
        .watches affairs trivial (Command.bringsWatches_iff.1 hbrings)
      simp only [perform, leads_bind, leads_pure]
      rw [leads_of_eq (watch_eq ..)]
      exact .of_step hwatches (relistened_watched ..).queue
  | watchTail name route reactions =>
      refine withMounted_goes fun id node hname => ?_
      have hhas : page.HasSignal (.tailOf id) :=
        (List.getElem?_eq_some_iff.1 (nodes_of_mounted? hname)).1
      have hwatches : Step may (page, affairs) (page.watched name (.tailOf id) reactions, affairs) :=
        .watches affairs hhas (Command.bringsWatches_iff.1 hbrings)
      simp only [leads_bind, leads_pure]
      rw [leads_of_eq (watch_eq ..)]
      exact .of_step hwatches (relistened_watched ..).queue
  | unwatch name =>
      obtain ⟨found, hunwatch⟩ := unwatchNamed_eq page name
      simp only [perform, leads_bind, leads_pure]
      rw [leads_of_eq hunwatch]
      exact .of_step (.unwatches page affairs name) (relistened_unwatched ..).queue
  | veto veto =>
      simp only [perform, leads_bind, leads_modify, leads_pure]
      exact .slight (.settings page ..) affairs
  | setHooks hooks =>
      refine .slight (.scripts page _ _ _ fun scope hobeys => ?_) affairs
      exact hobeys.setHooks (Command.bringsHooks_iff.1 hbrings)
  | describe what =>
      cases what with
      | controller => exact .refl page affairs
      | router => exact .refl page affairs
      | route name => exact withMounted_goes fun _ _ _ => .refl page affairs
  | _ => exact absurd rfl hnavigates

/-! ### Matching nodes -/

/-- The turn of a node, from its beginning to the last that follows from it. -/
lemma turn_goes (affairs : Affairs) {id : NodeId} {node : Node} (hfree : page.queue.busy = false)
    (hnode : page.nodes[id]? = some node) (hmounted : node.mounted) (hsane : Sane may scope page) :
    Leads false (refresh deeper id) page fun _ after =>
      Stretch may page { affairs with summoned := id :: affairs.summoned } after affairs := by
  have hbegins : Step may (page, { affairs with summoned := id :: affairs.summoned })
      (page.occupied, { affairs with turns := page.turn id node :: affairs.turns }) :=
    .begins affairs hfree hnode hmounted
  have hoccupied := hbegins.sane hsane
  have hroom : 1 ≤ node.cache.capacity :=
    ((Steady.sound hsane).inLine node (List.mem_of_getElem? hnode)).room
  have hturn : page.turn id node ∈ Affairs.turns
      { affairs with turns := page.turn id node :: affairs.turns } := List.mem_cons_self ..
  rw [leads_refresh hfree hnode hmounted]
  refine (update_goes h hturn hroom hoccupied).mono ?_
  rintro ⟨_, cache⟩ lined ⟨hlined, hyields⟩
  have hsettles : Step may (lined,
      { affairs with turns := page.turn id node :: affairs.turns })
      (lined.settled id cache (page.outcomeOf node), { affairs with
        telling := (id, (page.outcomeOf node).tail) :: affairs.telling }) :=
    .settles lined affairs hyields
  have hsettled := hsettles.sane (hlined.sane hoccupied)
  have htelling : (id, (page.outcomeOf node).tail) ∈ Affairs.telling { affairs with
      telling := (id, (page.outcomeOf node).tail) :: affairs.telling } :=
    List.mem_cons_self ..
  refine Leads.mono (emitTail_goes h htelling hsettled) fun _ told htold => ?_
  have htoldFree : told.queue.busy = false := htold.calm.busy
  refine (h.drain affairs (htold.sane hsettled) htoldFree).mono ?_
  rintro _ after ⟨hafter, hpending⟩
  refine ⟨?_, ?_, fun _ => .inl hpending⟩
  · have hcourse := ((hlined.course.head hbegins).tail hsettles).trans htold.course
    exact (hcourse.tail (.hushes told affairs _)).trans hafter.course
  · rw [hfree, hafter.calm.busy, htoldFree]

lemma refresh_goes (affairs : Affairs) (id : NodeId) (hsane : Sane may scope page) :
    Leads false (refresh deeper id) page fun _ after =>
      Stretch may page { affairs with summoned := id :: affairs.summoned } after affairs := by
  cases hbusy : page.queue.busy with
  | true =>
      simp only [refresh, leads_bind, leads_get, hbusy, if_true, leads_set]
      refine ⟨.single (.defers affairs id hbusy), busy_defer page.queue id, fun hfree => ?_⟩
      rw [hbusy] at hfree
      cases hfree
  | false =>
      by_cases hmounted : ∃ node, page.nodes[id]? = some node ∧ node.mounted
      · obtain ⟨node, hnode, hmounted⟩ := hmounted
        exact turn_goes h affairs hbusy hnode hmounted hsane
      · have hskips : Stretch may page { affairs with summoned := id :: affairs.summoned } page affairs :=
          .of_step (.skips affairs hbusy fun node hnode => by
            simpa using fun hmount => hmounted ⟨node, hnode, hmount⟩) rfl
        simp only [refresh, leads_bind, leads_get, hbusy, Bool.false_eq_true, if_false]
        cases hnode : page.nodes[id]? with
        | none => exact hskips
        | some node => exact leads_ite (fun hmount => absurd ⟨node, hnode, hmount⟩ hmounted) fun _ => hskips

lemma drain_goes (affairs : Affairs) (hsane : Sane may scope page) (hfree : page.queue.busy = false) :
    Leads false (drain deeper) page fun _ after =>
      Stretch may page affairs after affairs ∧ after.queue.pending = [] := by
  simp only [drain, leads_bind, leads_get]
  cases hpending : page.queue.pending with
  | nil => exact ⟨.refl page affairs, hpending⟩
  | cons id rest =>
      have hcalls : Step may (page, affairs) ({ page with queue := { page.queue with pending := rest } },
          { affairs with summoned := id :: affairs.summoned }) := .calls affairs hfree hpending
      have hcalled := hcalls.sane hsane
      simp only [leads_bind, leads_set, leads_discard]
      refine (h.refresh id affairs hcalled).mono fun _ now hnow => ?_
      have hnowFree : now.queue.busy = false := hnow.calm.busy.trans hfree
      refine (h.drain affairs (hnow.sane hcalled) hnowFree).mono ?_
      rintro _ after ⟨hafter, hnobody⟩
      refine ⟨⟨(hnow.course.head hcalls).trans hafter.course, ?_, fun _ => .inl hnobody⟩, hnobody⟩
      rw [hafter.calm.busy, hnowFree, hfree]

end Calls

/-- **Calls of any depth** take their course. -/
theorem exec_serves (may : Command → Bool) (scope : Scope) (depth : Nat) :
    Serves may scope (exec depth) := by
  induction depth with
  | zero => exact ⟨fun _ _ _ _ => rfl, fun _ _ _ _ => rfl, fun _ _ _ => rfl⟩
  | succ depth ih =>
      refine ⟨fun affairs hmay hbrings hsane => ?_, fun id _ affairs hsane => ?_,
        fun affairs hsane hfree => ?_⟩
      · exact perform_goes ih affairs hmay hbrings hsane
      · simp only [exec, step, leads_bind, leads_pure]
        exact refresh_goes ih affairs id hsane
      · simp only [exec, step, leads_bind, leads_pure]
        exact drain_goes ih affairs hsane hfree

/-! ## Pages that commands lead to -/

/-- **The pages that commands of a kind lead to**, with hooks and listeners that give only such. -/
inductive Led (may : Command → Bool) : Page → Prop
  | start (history : History) : Led may (.start history)
  | configured {page : Page} (config : Config) : Led may page → page.nodes = [] →
      Led may (page.configured config)
  | counting {page : Page} (count : Nat) : Led may page → Led may (page.withDefaultCacheCount count)
  | step {page after : Page} {command : Command} {answer : Answer} : Led may page → may command →
      command.brings may → page.run command = some (answer, after) → Led may after

lemma Led.reached (h : Led may page) : page.Reached := by
  induction h with
  | start history => exact .start history
  | configured config _ hempty ih => exact ih.configured config hempty
  | counting count _ ih => exact ih.counting count
  | step _ _ _ hrun ih => exact ih.step hrun

/-- **All pages** are led to by commands of any kind. -/
lemma Reached.led (h : page.Reached) : Led (fun _ => true) page := by
  induction h with
  | start history => exact .start history
  | configured config _ hempty ih => exact ih.configured config hempty
  | counting count _ ih => exact ih.counting count
  | step _ hrun ih => exact ih.step rfl (Command.brings_all _) hrun

/-- A page on which nothing is mounted is sane. -/
lemma Sane.start (history : History) : Sane may Scope.all (.start history) where
  sound := (AtRest.start history : AtRest false _).steady.sound
  obeys := by
    refine ⟨fun _ _ _ hhook => ?_, fun _ _ _ hwatcher => ?_, Nat.le_refl _, Nat.le_refl _,
      fun _ _ _ _ => trivial, fun _ _ => trivial⟩
    · cases hhook
    · cases hwatcher

/-- **A command from outside** takes its course, and nobody waits when it is done. -/
theorem run_goes {command : Command} {answer : Answer} (hsane : Sane may scope page)
    (hqueue : page.queue = ⟨false, []⟩) (hmay : may command) (hbrings : command.brings may)
    (hrun : page.run command = some (answer, after)) :
    Course may (page, .none) (after, .none) ∧ after.queue = ⟨false, []⟩ := by
  obtain ⟨depth, hperform⟩ := run_eq_some hrun
  obtain ⟨hcourse, hcalm⟩ :=
    (perform_goes (exec_serves may scope depth) .none hmay hbrings hsane).of_eq hperform
  have hbusy : after.queue.busy = false := by rw [hcalm.busy, hqueue]
  have hpending : after.queue.pending = [] := by
    rcases hcalm.pending (by rw [hqueue]) with hnobody | hsame
    · exact hnobody
    · rw [hsame, hqueue]
  refine ⟨hcourse, ?_⟩
  cases hafter : after.queue with
  | mk busy pending =>
      rw [hafter] at hbusy hpending
      rw [show busy = false from hbusy, show pending = [] from hpending]

/-- **Where a page that commands lead to comes from**, and who waits there: nobody. -/
theorem Led.course (h : Led may page) :
    (∃ history, Course may (.start history, .none) (page, .none)) ∧ page.queue = ⟨false, []⟩ := by
  induction h with
  | start history => exact ⟨⟨history, .refl⟩, rfl⟩
  | @configured page config _ _ ih =>
      obtain ⟨⟨history, hcourse⟩, hqueue⟩ := ih
      exact ⟨⟨history, hcourse.tail (.slight .none (.settings page ..))⟩, hqueue⟩
  | @counting page count _ ih =>
      obtain ⟨⟨history, hcourse⟩, hqueue⟩ := ih
      exact ⟨⟨history, hcourse.tail (.slight .none (.settings page ..))⟩, hqueue⟩
  | @step page after command answer _ hmay hbrings hrun ih =>
      obtain ⟨⟨history, hcourse⟩, hqueue⟩ := ih
      obtain ⟨hruns, hafter⟩ :=
        run_goes (hcourse.sane (Sane.start history)) hqueue hmay hbrings hrun
      exact ⟨⟨history, hcourse.trans hruns⟩, hafter⟩

lemma Led.queue_eq (h : Led may page) : page.queue = ⟨false, []⟩ := h.course.2

lemma Led.sane (h : Led may page) : Sane may Scope.all page := by
  obtain ⟨⟨history, hcourse⟩, -⟩ := h.course
  exact hcourse.sane (Sane.start history)

lemma Led.idle_eq (h : Led may page) : page.idle = page := by rw [idle, ← h.queue_eq]

lemma Led.steady (h : Led may page) : Steady may Scope.all page := by
  rw [← h.idle_eq]
  exact h.sane

lemma Led.sound (h : Led may page) : page.Sound := h.steady.sound

/-- **What holds at the start and survives each step** holds of all pages that commands lead to. -/
theorem Led.invariant (holds : Page → Affairs → Prop)
    (hstart : ∀ history, holds (.start history) .none)
    (hstep : ∀ s s', Step may s s' → holds s.1 s.2 → holds s'.1 s'.2) (h : Led may page) :
    holds page .none := by
  obtain ⟨⟨history, hcourse⟩, -⟩ := h.course
  exact hcourse.invariant holds hstep (hstart history)

lemma Led.play (h : Led may page) {command : Command} (hmay : may command)
    (hbrings : command.brings may) : Led may (page.play command) := by
  cases hrun : page.run command with
  | none => rw [Page.play, hrun]; exact h
  | some result => rw [Page.play, hrun]; exact h.step hmay hbrings hrun

lemma Led.plays (h : Led may page) {commands : List Command}
    (hcommands : ∀ command ∈ commands, may command ∧ command.brings may) :
    Led may (page.plays commands) := by
  induction commands generalizing page with
  | nil => exact h
  | cons command rest ih =>
      obtain ⟨⟨hmay, hbrings⟩, hrest⟩ := List.forall_mem_cons.1 hcommands
      exact ih (h.play hmay hbrings) hrest

end PageRouter.Page
