import PageRouter.Proofs.Bystanders

/-!
# Rounds of quiet tellings

Where hooks and listeners are mere bystanders, rounds account for all that tellings do to elements.  A
document that is asked to bring a cache in line tells of it as the outcome says (`update_hears`); so a
node that is matched makes one round of its own, and the nodes in it make theirs
(`exec_accounts`).  Rounds go with the visits that are made, one with each (`Recounted.round`).
-/

namespace PageRouter.Page

variable {kind : Command → Bool} {scope : Scope} {page mid after : Page} {id : NodeId} {depth : Nat}
  {told told' : List HostEvent}

/-! ## Stretches without a visit -/

/-- **The document has been told something**, and nothing changed that matching looks at. -/
structure Heard (kind : Command → Bool) (scope : Scope) (told : List HostEvent) (page after : Page) :
    Prop where
  steady : Steady kind scope after
  same : Same page after
  recounted : Recounted kind [] told page after

lemma Heard.refl (h : Steady kind scope page) : Heard kind scope [] page page :=
  ⟨h, .refl page, .refl page⟩

lemma Heard.trans (h : Heard kind scope told page mid) (h' : Heard kind scope told' mid after) :
    Heard kind scope (told ++ told') page after :=
  ⟨h'.steady, h.same.trans h'.same, h.recounted.trans h'.recounted⟩

/-- Nothing is heard at last. -/
lemma Heard.then_silence (h : Heard kind scope told page mid) (h' : Heard kind scope [] mid after) :
    Heard kind scope told page after := by
  have hboth := h.trans h'
  rwa [List.append_nil] at hboth

section Bystanders

variable (hkind : ∀ command, kind command → command.isInert)

include hkind

/-- Commands of bystanders change nothing that matching looks at, at any depth. -/
lemma exec_bystands {command : Command} (hmay : kind command) (hbrings : command.brings kind)
    (hsteady : Steady kind scope page) :
    Keeps false kind scope Same (exec depth (.command command)) page := by
  cases depth with
  | zero => exact rfl
  | succ depth =>
      exact (perform_inert hsteady (hkind command hmay) hbrings).weaken.mono
        fun _ _ hafter => ⟨hafter.steady, hafter.same⟩

/-- **A stretch that changes nothing that matching looks at** is accounted for without a round. -/
lemma hears_of_goes {α : Type} {c : PageM α} (hkeeps : Keeps false kind scope Same c page)
    (hgoes : Leads false c page fun _ after => Stretch kind page .none after .none) :
    Leads false c page fun _ after => Heard kind scope [] page after := by
  refine (hkeeps.and hgoes).mono fun _ after hafter => ?_
  obtain ⟨⟨hsteady, hsame⟩, hstretch⟩ := hafter
  exact ⟨hsteady, hsame, hstretch.course.recounted hkind hsame.visits rfl rfl rfl⟩

lemma runHooks_hears (moment : Moment) (tag : Text) (hsteady : Steady kind scope page) :
    Leads false (runHooks (exec depth) moment tag) page fun _ after =>
      Heard kind scope [] page after := by
  have hkeeps : Keeps false kind scope Same (runHooks (exec depth) moment tag) page :=
    runHooks_keeps Lasting.same (fun _ hmay hbrings _ hpage => exec_bystands hkind hmay hbrings hpage)
      moment tag hsteady
  have hgoes : Leads false (runHooks (exec depth) moment tag) page fun _ after =>
      Stretch kind page .none after .none :=
    runHooks_goes (exec_serves kind scope depth) moment tag hsteady.sane
  exact hears_of_goes hkind hkeeps hgoes

lemma tellWatcher_hears {place : Nat} (event : Text → PageEvent) (key : Text)
    (hmeant : scope.watchers place) (hvisit : ∀ name, (event name).visit? = none)
    (hhost : ∀ name, (event name).host? = none) (hsteady : Steady kind scope page) :
    Leads false (tellWatcher (exec depth) place event key) page fun _ after =>
      Heard kind scope [] page after := by
  have hkeeps : Keeps false kind scope Same (tellWatcher (exec depth) place event key) page :=
    tellWatcher_keeps Lasting.same (fun _ hmay hbrings _ hpage => exec_bystands hkind hmay hbrings hpage)
      hmeant hvisit hsteady
  have hgoes : Leads false (tellWatcher (exec depth) place event key) page fun _ after =>
      Stretch kind page .none after .none :=
    tellWatcher_goes (exec_serves kind scope depth) event key hmeant hvisit hhost hsteady.sane
  exact hears_of_goes hkind hkeeps hgoes

/-! ## The document -/

omit hkind in
lemma record_hears (event : HostEvent) (change : Document → Document)
    (hsteady : Steady kind scope page) :
    Leads false (record event change) page fun _ after => Heard kind scope [event] page after := by
  have hkeeps : Keeps false kind scope Same (record event change) page :=
    record_keeps Lasting.same event change hsteady
  obtain ⟨hafter, hsame⟩ := hkeeps
  refine ⟨hafter, hsame, ?_, ?_, rfl, .inl rfl, fun id cache hcache => ⟨cache, hcache, .refl cache⟩⟩
  · rw [hsame.visits, List.map_nil, List.append_nil]
  · simp [hostEvents, PageEvent.host?]

lemma activated_hears (element : Element) (hsteady : Steady kind scope page) :
    Leads false ((host (exec depth)).activated element) page fun _ after =>
      Heard kind scope [.activated element.serial] page after := by
  simp only [host, leads_bind]
  refine (record_hears _ _ hsteady).mono fun _ now hnow => ?_
  exact (runHooks_hears hkind _ _ hnow.steady).mono fun _ after hafter => hnow.then_silence hafter

lemma deactivating_hears (element : Element) (hsteady : Steady kind scope page) :
    Leads false ((host (exec depth)).deactivating element) page fun _ after =>
      Heard kind scope [.deactivating element.serial] page after := by
  simp only [host, leads_bind, leads_get, leads_pure]
  refine (record_hears _ _ hsteady).mono fun _ now hnow => ?_
  exact (runHooks_hears hkind _ _ hnow.steady).mono fun _ after hafter => hnow.then_silence hafter

/-- **Hiding the active element**: the document is told of it once. -/
lemma deactivate_hears (cache : ElementCache) (hsteady : Steady kind scope page) :
    Leads false (cache.deactivate (host (exec depth))) page fun result after =>
      result = { cache with active := false } ∧
        ∃ told, cache.Hides told ∧ Heard kind scope told page after := by
  simp only [ElementCache.deactivate]
  split
  · next element hactive =>
    rw [leads_bind]
    refine (deactivating_hears hkind element hsteady).mono fun removes now hnow => ?_
    refine leads_ite (fun _ => ?_) fun _ => ⟨rfl, _, .kept hactive, hnow⟩
    rw [leads_bind]
    refine (record_hears (.removed element.serial) (·.remove element.serial) hnow.steady).mono ?_
    exact fun _ after hafter => ⟨rfl, _, .removed hactive, hnow.trans hafter⟩
  · next hidle => exact ⟨rfl, [], .idle (Option.eq_none_iff_forall_ne_some.2 hidle), .refl hsteady⟩

omit hkind in
lemma elementFor_hears (cache : ElementCache) (found : Match) (parent : Option Tail)
    (hsteady : Steady kind scope page) :
    Leads false (ElementCache.elementFor (host (exec depth)) cache.tag
        (ElementCache.takeOut found.params cache.elements).1 found parent) page
      fun element after => ∃ made, cache.Finds found parent element made ∧
        Heard kind scope made page after := by
  cases hkept : (ElementCache.takeOut found.params cache.elements).1 with
  | some element => exact ⟨[], .kept hkept, .refl hsteady⟩
  | none =>
      simp only [ElementCache.elementFor, host, leads_bind, leads_get, leads_pure]
      refine (record_hears _ _ hsteady).mono fun _ after hafter => ?_
      exact ⟨_, .made _ hkept, hafter⟩

/-- **Bringing a cache in line**: the document is told what the outcome asks for. -/
lemma update_hears (cache : ElementCache) (outcome : Outcome) (parent : Option Tail)
    (hsteady : Steady kind scope page) :
    Leads false (cache.update (host (exec depth)) outcome parent) page fun result after =>
      ∃ told, cache.Brought parent outcome told result.2 ∧ Heard kind scope told page after := by
  cases outcome with
  | none =>
      simp only [ElementCache.update]
      refine leads_ite (fun hactive => ?_) fun hidle => ?_
      · simp only [leads_bind, leads_pure]
        refine (deactivate_hears hkind cache hsteady).mono ?_
        rintro _ after ⟨rfl, told, hhides, hheard⟩
        refine ⟨told, .hides ?_ hhides, hheard⟩
        simp [ElementCache.stays, hactive]
      · refine ⟨[], .stays ?_, .refl hsteady⟩
        simp [ElementCache.stays, hidle]
  | some found =>
      simp only [ElementCache.update]
      refine leads_ite (fun hshows => ⟨[], .stays hshows, .refl hsteady⟩) fun hother => ?_
      simp only [ElementCache.activate, leads_bind, leads_pure]
      refine (deactivate_hears hkind cache hsteady).mono ?_
      rintro _ first ⟨rfl, gone, hhides, hgone⟩
      refine (elementFor_hears { cache with active := false } found parent hgone.steady).mono ?_
      rintro element second ⟨made, hfinds, hmade⟩
      refine (record_hears (.appended cache.appendTo element.serial) (·.append element.serial)
        hmade.steady).mono fun _ third hthird => ?_
      refine (activated_hears hkind element hthird.steady).mono fun _ after hafter => ?_
      refine ⟨_, .shows ?_ hhides ?_, hgone.trans (hmade.trans (hthird.trans hafter))⟩
      · simpa [ElementCache.stays] using hother
      · cases hfinds with
        | kept hkept => exact .kept hkept
        | made serial hnone => exact .made serial hnone

end Bystanders

/-! ## Matching -/

/-- A turn makes one round. -/
lemma Recounted.settled {lined : Page} (h : Recounted kind [] told page.occupied lined) {node : Node}
    (hnode : page.nodes[id]? = some node) {cache : ElementCache} {outcome : Outcome}
    {parent : Option Tail} (hbrought : node.cache.Brought parent outcome told cache) :
    Recounted kind [⟨id, outcome, told⟩] told page (lined.settled id cache outcome) where
  visits := by
    rw [visits_settled, h.visits, List.map_nil, List.append_nil]
    rfl
  host := by
    have hheard : lined.hostEvents = page.hostEvents ++ told := h.host
    rw [← hheard]
    simp [hostEvents, Page.settled, PageEvent.host?]
  named := h.named
  registry := h.registry
  caches := by
    intro other before hbefore
    obtain ⟨now, hnow, hevolves⟩ : ∃ now, lined.caches[other]? = some now ∧
        ElementCache.Evolves (page.Sizes kind other) [] before now := h.caches other before hbefore
    have hcaches : (lined.settled id cache outcome).caches = lined.caches.modify id fun _ => cache :=
      caches_learned { lined with queue := { lined.queue with busy := false } } id cache outcome
    by_cases hid : id = other
    · subst hid
      rw [getElem?_caches hnode, Option.some.injEq] at hbefore
      subst hbefore
      refine ⟨cache, ?_, ?_⟩
      · rw [hcaches, List.getElem?_modify, hnow]
        simp
      · simpa using ElementCache.Evolves.brought (.refl node.cache) hbrought
    · refine ⟨now, ?_, ?_⟩
      · rw [hcaches, List.getElem?_modify, hnow]
        simp [hid]
      · simpa [hid] using hevolves

/-- **Rounds account for what became of a page**, which is as steady as before. -/
structure Accounted (kind : Command → Bool) (scope : Scope) (page after : Page) : Prop where
  steady : Steady kind scope after
  forest : SameForest page after
  queue : after.queue = page.queue
  rounds : ∃ rounds : List Round, Recounted kind rounds (rounds.flatMap Round.told) page after

lemma Heard.accounted (h : Heard kind scope [] page after) : Accounted kind scope page after :=
  ⟨h.steady, h.same.forest, h.same.queue, [], h.recounted⟩

lemma Accounted.trans (h : Accounted kind scope page mid) (h' : Accounted kind scope mid after) :
    Accounted kind scope page after := by
  obtain ⟨first, hfirst⟩ := h.rounds
  obtain ⟨second, hsecond⟩ := h'.rounds
  refine ⟨h'.steady, h.forest.trans h'.forest, h'.queue.trans h.queue, first ++ second, ?_⟩
  rw [List.flatMap_append]
  exact hfirst.trans hsecond

/-- **Telling everyone** is accounted for if calling each of those who listen is. -/
lemma emit_accounts {ref : SignalRef} {call : Listener → PageM Unit} (hsteady : Steady kind scope page)
    (hnode : ∀ id now, id ∈ listenersTo page.seats ref → Accounted kind scope page now →
      Leads false (call (.node id)) now fun _ after => Accounted kind scope now after)
    (hwatcher : ∀ place now, scope.watchers place → Steady kind scope now →
      Leads false (call (.watcher place)) now fun _ after => Heard kind scope [] now after) :
    Leads false (Signal.emit (return (← get).signal ref) call) page fun _ after =>
      Accounted kind scope page after := by
  refine leads_tell hsteady.sound (fun _ now => Accounted kind scope page now) ?_ ?_ ?_ ?_ ?_
  · intro _ now hnow
    exact hnow.forest
  · intro _ id _ now hnow _ hlistens
    exact (hnode id now (mem_listenersTo.2 hlistens) hnow).mono fun _ _ hafter => hnow.trans hafter
  · intro number place _ now hnow hmem
    have hmeant := hsteady.obeys.listening ref number place hmem
    exact (hwatcher place now hmeant hnow.steady).mono fun _ _ hafter => hnow.trans hafter.accounted
  · intro _ _ _ _ hnow
    exact hnow
  · exact (Heard.refl hsteady).accounted

/-- If nobody waits, nobody gets a turn, at any depth. -/
lemma exec_drain_idle (depth : Nat) (hpending : page.queue.pending = []) :
    Leads false (exec depth .drain) page fun _ after => after = page := by
  cases depth with
  | zero => exact rfl
  | succ depth => rw [leads_drain_idle hpending]

section Matching

variable (hkind : ∀ command, kind command → command.isInert)

include hkind

/-- The nodes in a node, when its tail is told. -/
lemma emitTail_accounts (hmatched : ∀ id node page, page.nodes[id]? = some node → node.mounted →
      Steady kind scope page → page.queue = ⟨false, []⟩ →
      Leads false (exec depth (.refresh id)) page fun _ after => Accounted kind scope page after)
    (hsteady : Steady kind scope page) (hqueue : page.queue = ⟨false, []⟩) (tail : Option Tail) :
    Leads false (emitTail (exec depth) id tail) page fun _ after => Accounted kind scope page after := by
  refine emit_accounts hsteady (fun child now hchild hnow => ?_) fun place now hmeant hnow => ?_
  · obtain ⟨seat, hseat, hmounted, hsignal⟩ := mem_listenersTo.1 hchild
    have hseatNow : now.seats[child]? = some seat := hnow.forest.seats ▸ hseat
    obtain ⟨node, hnode, rfl⟩ := exists_node hseatNow
    have hplaced : Accounted kind scope now (now.withPlace child tail) :=
      ⟨hnow.steady.withPlace hseatNow ⟨hmounted, hsignal⟩, .withPlace now child tail, rfl, [],
        .of_eq rfl rfl rfl rfl (caches_withPlace ..)⟩
    simp only [tellTail, leads_bind, leads_modify, leads_discard]
    refine (hmatched child _ _ (getElem?_modifyNode_self hnode) hmounted hplaced.steady
      (hnow.queue.trans hqueue)).mono ?_
    intro _ after hafter
    exact hplaced.trans hafter
  · exact tellWatcher_hears hkind (.tail place · tail) _ hmeant (fun _ => rfl) (fun _ => rfl) hnow

/-- **A node that is matched** makes a round, and so do the nodes in it. -/
theorem exec_accounts (scope : Scope) (depth : Nat) : ∀ id node page, page.nodes[id]? = some node →
    node.mounted → Steady kind scope page → page.queue = ⟨false, []⟩ →
    Leads false (exec depth (.refresh id)) page fun _ after => Accounted kind scope page after := by
  induction depth with
  | zero => exact fun _ _ _ _ _ _ _ => rfl
  | succ depth ih =>
      intro id node page hnode hmounted hsteady hqueue
      have hfree : page.queue.busy = false := by rw [hqueue]
      rw [leads_exec_refresh, leads_refresh hfree hnode hmounted]
      -- the cache is in line afterwards, and the document has been told what that takes
      have hline : Leads false (node.cache.update (host (exec depth)) (page.outcomeOf node)
          (parentTail node.route.place)) page.occupied fun result after =>
            (Steady kind scope after ∧ Same page.occupied after) ∧
              result.2.InLine (page.outcomeOf node) :=
        update_keeps Lasting.same (fun _ hmay hbrings _ hpage => exec_bystands hkind hmay hbrings hpage)
          (hsteady.sound.inLine node (List.mem_of_getElem? hnode)) _ _ hsteady.occupied
      have hheard : Leads false (node.cache.update (host (exec depth)) (page.outcomeOf node)
          (parentTail node.route.place)) page.occupied fun result after => ∃ told,
            node.cache.Brought (parentTail node.route.place) (page.outcomeOf node) told result.2 ∧
              Heard kind scope told page.occupied after :=
        update_hears hkind node.cache _ _ hsteady.occupied
      refine (hline.and hheard).mono ?_
      rintro ⟨_, cache⟩ lined ⟨⟨⟨hlined, hsame⟩, hcache⟩, told, hbrought, hheard⟩
      have hsettled : Accounted kind scope page (lined.settled id cache (page.outcomeOf node)) := by
        refine ⟨hlined.settled hcache, ?_, ?_, [⟨id, page.outcomeOf node, told⟩], ?_⟩
        · exact ((SameForest.withQueue page _).trans hsame.forest).trans (.settled lined id cache _)
        · show { lined.queue with busy := false } = page.queue
          rw [hsame.queue, ← hfree]
          rfl
        · rw [List.flatMap_singleton]
          exact hheard.recounted.settled hnode hbrought
      refine (emitTail_accounts hkind ih hsettled.steady (hsettled.queue.trans hqueue)
        (page.outcomeOf node).tail).mono fun _ told htold => ?_
      have hpending : told.queue.pending = [] := by
        rw [htold.queue, hsettled.queue, hqueue]
      refine (exec_drain_idle depth hpending).mono ?_
      rintro _ _ rfl
      exact hsettled.trans htold

/-- **A navigation of a page with bystanders** is accounted for. -/
theorem Heeds.accounts {may : Command → Bool} (h : page.Heeds kind) (hsteady : Steady may Scope.all page)
    (hqueue : page.queue = ⟨false, []⟩) {command : Command} (hnavigates : command.navigates)
    {answer : Answer} (hrun : page.run command = some (answer, after)) :
    Accounted kind page.present page after := by
  have hpresent := h.steady hsteady
  obtain ⟨depth, hperform⟩ := run_eq_some hrun
  rcases perform_navigates (exec depth) page hnavigates with
    ⟨result, -, hresult⟩ | ⟨history, change, source, result, -, hresult⟩
  · rw [hperform, Option.some.injEq, Prod.mk.injEq] at hresult
    rw [hresult.2]
    exact (Heard.refl hpresent).accounted
  · have hmoved : Accounted kind page.present page (page.withHistory history) :=
      ⟨hpresent.withHistory history, ⟨rfl, rfl, fun ref => by cases ref <;> rfl⟩, rfl, [],
        .of_eq rfl rfl rfl rfl rfl⟩
    rw [hperform] at hresult
    have htold : Leads false (Signal.emit (return (← get).signal .location)
        (tellLocation (exec depth) ⟨(page.withHistory history).url, change, source⟩))
        (page.withHistory history) fun _ after =>
          Accounted kind page.present (page.withHistory history) after := by
      refine emit_accounts hmoved.steady (fun id now hid hnow => ?_) fun place now hmeant hnow => ?_
      · obtain ⟨seat, hseat, hmounted, -⟩ := mem_listenersTo.1 hid
        have hseatNow : now.seats[id]? = some seat := hnow.forest.seats ▸ hseat
        obtain ⟨node, hnode, rfl⟩ := exists_node hseatNow
        simp only [tellLocation, leads_discard]
        exact exec_accounts hkind _ depth id node now hnode hmounted hnow.steady
          (hnow.queue.trans hqueue)
      · exact tellWatcher_hears hkind (.location place · _) _ hmeant (fun _ => rfl) (fun _ => rfl) hnow
    have hannounced : Leads false (announce (exec depth) change source result)
        (page.withHistory history) fun _ after =>
          Accounted kind page.present (page.withHistory history) after := by
      simp only [Page.announce, notify, leads_bind, leads_get, leads_pure]
      exact htold
    exact hmoved.trans (hannounced.of_eq hresult.symm)

end Matching

/-! ## Rounds and visits -/

/-- **One round goes with each visit.**  If each of some nodes is visited once, then each of them makes
one round, and no other node makes any. -/
lemma Recounted.round {rounds : List Round} (h : Recounted kind rounds told page after)
    {ids : List NodeId} {outcome : NodeId → Outcome}
    (hvisits : after.visits = page.visits ++ ids.map fun id => ⟨id, outcome id⟩) (hnodup : ids.Nodup)
    (id : NodeId) :
    (id ∈ ids → ∃ told, rounds.filter (·.node = id) = [⟨id, outcome id, told⟩]) ∧
      (id ∉ ids → rounds.filter (·.node = id) = []) := by
  have hsame : rounds.map Round.visit = ids.map fun id => ⟨id, outcome id⟩ :=
    List.append_cancel_left (h.visits.symm.trans hvisits)
  clear h hvisits
  induction ids generalizing rounds with
  | nil =>
      rw [List.map_nil, List.map_eq_nil_iff] at hsame
      simp [hsame]
  | cons first rest ih =>
      obtain ⟨hfirst, hrest⟩ := List.nodup_cons.1 hnodup
      cases rounds with
      | nil => simp at hsame
      | cons round rounds =>
          obtain ⟨node, found, told⟩ := round
          simp only [List.map_cons, List.cons.injEq, Round.visit, Visit.mk.injEq] at hsame
          obtain ⟨⟨rfl, rfl⟩, hrounds⟩ := hsame
          obtain ⟨hin, hout⟩ := ih hrest hrounds
          by_cases hid : node = id
          · subst hid
            refine ⟨fun _ => ⟨told, ?_⟩, fun hnot => absurd (List.mem_cons_self ..) hnot⟩
            simp [hout hfirst]
          · have hother : id ≠ node := fun hsame => hid hsame.symm
            have hskip : (⟨node, outcome node, told⟩ :: rounds).filter (·.node = id)
                = rounds.filter (·.node = id) := by simp [hid]
            simp only [hskip, List.mem_cons, hother, false_or]
            exact ⟨hin, hout⟩

end PageRouter.Page
