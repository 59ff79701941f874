import PageRouter.Proofs.Edits
import PageRouter.Proofs.LeftmostFirst

/-!
# What a whole run keeps

A `Regime` says what holds of pages, what becomes of them, and what commands there may be.  Whoever
knows its edits knows what becomes of a page by anything that does not navigate (`keeps_perform`),
and whoever knows its navigations as well knows it of calls of any depth (`keeps_exec`).  What a
regime asks of a listener when it is told something still holds while it reacts, since what it can
give only wears off.
-/

namespace PageRouter

open Page

/-! ## Regimes -/

/-- **What holds of pages, what becomes of them, and what commands there may be**, told by the edits
that such commands lead to. -/
structure Regime where
  holds : Page → Prop
  becomes : Page → Page → Prop
  may : Command → Prop
  refl : ∀ page, becomes page page
  trans : ∀ {page mid after}, Worn page mid → Worn mid after → becomes page mid →
    becomes mid after → becomes page after
  edit : ∀ {page after}, holds page → Edit may page after → holds after ∧ becomes page after
  /-- The hooks in force give only commands that there may be. -/
  hooks : ∀ {page index}, holds page → page.firstHook ≤ index → index < page.hooks.length →
    page.HookBound may index
  /-- So do those who listen for a tail. -/
  listeners : ∀ {page id number place}, holds page →
    (number, Listener.watcher place) ∈ (page.signal (.tailOf id)).listeners →
    page.ListenerBound may place

namespace Regime

variable {regime : Regime} {page mid after : Page} {α β : Type}

/-- **What a regime says of a stretch of a run.** -/
structure Kept (regime : Regime) (page after : Page) : Prop where
  holds : regime.holds after
  becomes : regime.becomes page after
  worn : Worn page after

lemma Kept.refl (h : regime.holds page) : regime.Kept page page := ⟨h, regime.refl page, .refl page⟩

lemma Kept.trans (h : regime.Kept page mid) (h' : regime.Kept mid after) : regime.Kept page after :=
  ⟨h'.holds, regime.trans h.worn h'.worn h.becomes h'.becomes, h.worn.trans h'.worn⟩

lemma Kept.edit (h : regime.holds page) (hedit : Edit regime.may page after) :
    regime.Kept page after :=
  ⟨(regime.edit h hedit).1, (regime.edit h hedit).2, hedit.worn⟩

lemma Kept.minor (h : regime.holds page) (hminor : Minor page after) : regime.Kept page after :=
  .edit h (.minor hminor)

/-- A computation keeps to a regime from this page on. -/
def At (regime : Regime) (page : Page) (c : PageM α) : Prop :=
  regime.holds page → Leads false c page fun _ after => regime.Kept page after

/-- **A computation keeps to a regime.** -/
def Keeps (regime : Regime) (c : PageM α) : Prop := ∀ page, regime.At page c

/-- The calls that there may be. -/
def Permits (regime : Regime) : Call → Prop
  | .command command => regime.may command
  | .refresh _ | .drain => True

/-! ### Computations -/

lemma At.bind {c : PageM α} {f : α → PageM β} (h : regime.At page c)
    (hf : ∀ a, regime.Keeps (f a)) : regime.At page (c >>= f) := by
  intro hholds
  rw [leads_bind]
  refine (h hholds).mono fun a mid hmid => ?_
  exact (hf a mid hmid.holds).mono fun _ _ hafter => hmid.trans hafter

lemma Keeps.bind {c : PageM α} {f : α → PageM β} (h : regime.Keeps c)
    (hf : ∀ a, regime.Keeps (f a)) : regime.Keeps (c >>= f) :=
  fun page => (h page).bind hf

/-- What is read from the page is known to be its own. -/
lemma At.get_bind {f : Page → PageM β} (h : regime.At page (f page)) :
    regime.At page (get >>= f) := h

lemma Keeps.get_bind {f : Page → PageM β} (hf : ∀ page, regime.At page (f page)) :
    regime.Keeps (get >>= f) := hf

lemma Keeps.pure (a : α) : regime.Keeps (pure a) := fun _ hholds => .refl hholds

lemma Keeps.discard {c : PageM α} (h : regime.Keeps c) : regime.Keeps (discard c) := by
  intro page hholds
  rw [leads_discard]
  exact h page hholds

lemma At.write (h : regime.holds page → regime.Kept page after) : regime.At page (set after) := h

lemma Keeps.modify {f : Page → Page} (h : ∀ page, Edit regime.may page (f page)) :
    regime.Keeps (modify f) :=
  fun page hholds => Kept.edit hholds (h page)

lemma Keeps.note {event : PageEvent} (h : event.hearing? = none) : regime.Keeps (note event) :=
  .modify fun page => .minor (.note h page)

lemma Keeps.ite {P : Prop} [Decidable P] {c d : PageM α} (hc : regime.Keeps c)
    (hd : regime.Keeps d) : regime.Keeps (if P then c else d) := by
  split
  · exact hc
  · exact hd

/-- **Calls of the next level** keep to a regime, those of commands together with the note of their
answer. -/
structure Carries (regime : Regime) (deeper : Deeper) : Prop where
  answered : ∀ command, regime.may command →
    regime.Keeps (do note (.answered command (← deeper (.command command))))
  refresh : ∀ id, regime.Keeps (deeper (.refresh id))
  drain : regime.Keeps (deeper .drain)

lemma Carries.of_forall {deeper : Deeper}
    (h : ∀ call, regime.Permits call → regime.Keeps (deeper call)) : regime.Carries deeper where
  answered command hmay := (h (.command command) hmay).bind fun _ => .note rfl
  refresh id := h (.refresh id) trivial
  drain := h .drain trivial

/-! ### Reactions and tellings -/

section Calls

variable {deeper : Deeper} (h : regime.Carries deeper)

include h

lemma keeps_performAll {commands : List Command} (hmay : ∀ command ∈ commands, regime.may command) :
    regime.Keeps (performAll deeper commands) := by
  induction commands with
  | nil => exact .pure ()
  | cons command rest ih =>
      obtain ⟨hcommand, hrest⟩ := List.forall_mem_cons.1 hmay
      intro page hholds
      have hnoted := h.answered command hcommand page hholds
      simp only [performAll, leads_bind] at hnoted ⊢
      refine hnoted.mono fun _ _ hanswer => hanswer.mono fun _ _ hmid => ?_
      exact (ih hrest _ hmid.holds).mono fun _ _ hafter => hmid.trans hafter

/-- **A listener reacts**, with commands that there may be. -/
lemma at_react {place : Nat} (hbound : page.ListenerBound regime.may place) (key : Text)
    (indices : List Nat) :
    regime.At page (Reaction.offer (reactionsOf place) (useReaction place) (Reaction.isDue key)
      (performAll deeper) indices) := by
  intro hholds
  refine leads_offer (Reaction.isDue key) (regime.Kept page) (fun _ => rfl) indices ?_ page
    (.refl hholds)
  intro index _ mid reaction hmid hreaction hruns
  have hgives : ∀ command ∈ reaction.commands, regime.may command := by
    split at hreaction
    · next watcher hwatcher =>
      exact hbound mid hmid.worn watcher hwatcher reaction (List.mem_of_getElem? hreaction) hruns
    · cases hreaction
  have hused := Kept.edit hmid.holds (.useReaction place index)
  simp only [leads_bind, useReaction, leads_modify]
  exact (keeps_performAll h hgives _ hused.holds).mono fun _ after hafter =>
    hmid.trans (hused.trans hafter)

/-- **A listener is told something**, and what it writes down keeps to the regime. -/
lemma at_tellWatcher {place : Nat} (event : Text → PageEvent) (key : Text)
    (hbound : page.ListenerBound regime.may place)
    (hnote : ∀ name, regime.holds page →
      regime.Kept page { page with events := event name :: page.events }) :
    regime.At page (tellWatcher deeper place event key) := by
  intro hholds
  simp only [tellWatcher, leads_bind, leads_get]
  split
  · exact .refl hholds
  · next watcher _ =>
    have hnoted := hnote watcher.name hholds
    simp only [leads_bind, leads_note]
    exact (at_react h (fun after hworn => hbound after (hnoted.worn.trans hworn)) key _
      hnoted.holds).mono fun _ _ hafter => hnoted.trans hafter

omit h in
/-- **Telling everyone** keeps to the regime if calling each of those does who listened when the
telling began. -/
lemma at_emit (ref : SignalRef) {call : Listener → PageM Unit}
    (hcall : ∀ number listener, (number, listener) ∈ (page.signal ref).listeners →
      ∀ mid, regime.Kept page mid → regime.At mid (call listener)) :
    regime.At page (Signal.emit (return (← get).signal ref) call) := by
  intro hholds
  have hinv : (page.signal ref).listeners ⊆ (page.signal ref).listeners ∧ regime.Kept page page :=
    ⟨List.Subset.refl _, .refl hholds⟩
  refine (leads_emit (fun rest now => rest ⊆ (page.signal ref).listeners ∧ regime.Kept page now)
    ?_ ?_ hinv).mono fun _ _ hafter => hafter.2
  · rintro number listener rest now ⟨hrest, hnow⟩ -
    obtain ⟨hlistens, hrest⟩ := List.cons_subset.1 hrest
    exact (hcall number listener hlistens now hnow hnow.holds).mono fun _ after hafter =>
      ⟨hrest, hnow.trans hafter⟩
  · rintro number listener rest now ⟨hrest, hnow⟩ -
    exact ⟨(List.cons_subset.1 hrest).2, hnow⟩

lemma keeps_emitTail (id : NodeId) (tail : Option Tail) : regime.Keeps (emitTail deeper id tail) := by
  intro page hholds
  refine at_emit (.tailOf id) (fun number listener hlistens mid hmid => ?_) hholds
  cases listener with
  | node child =>
      refine Keeps.bind (.modify fun page => .minor (.modifyNode ?_ ?_ page child)) (fun _ => ?_) mid
      · exact fun _ => rfl
      · exact fun _ => rfl
      · exact (h.refresh child).discard
  | watcher place =>
      refine at_tellWatcher h (.tail place · tail) (tailKey tail) (fun after hworn => ?_) ?_
      · exact regime.listeners hholds hlistens after (hmid.worn.trans hworn)
      · exact fun _ hnow => .minor hnow (.note rfl mid)

/-! ### The document -/

lemma keeps_runHooks (moment : Moment) (tag : Text) : regime.Keeps (runHooks deeper moment tag) := by
  intro page hholds
  simp only [runHooks, leads_bind, leads_get]
  refine leads_offer (hookDue moment tag page.url) (regime.Kept page) (fun _ => rfl) _ ?_ page
    (.refl hholds)
  intro index hindex mid hook hmid hhook hruns
  obtain ⟨hfrom, hto⟩ := List.mem_range'_1.1 hindex
  have hgives := regime.hooks hholds hfrom (by omega) mid hmid.worn hook hhook hruns
  have hused := Kept.edit hmid.holds (.useHook index)
  simp only [leads_bind, leads_modify]
  exact (keeps_performAll h hgives _ hused.holds).mono fun _ after hafter =>
    hmid.trans (hused.trans hafter)

omit h in
lemma keeps_record (event : HostEvent) (change : Document → Document) :
    regime.Keeps (record event change) :=
  .modify fun page => .minor (.of_nodes rfl rfl rfl rfl rfl rfl rfl (hearings_note rfl page) (List.suffix_cons ..))

omit h in
lemma keeps_append (target : Option Text) (serial : Nat) :
    regime.Keeps ((host deeper).append target serial) :=
  keeps_record (.appended target serial) (·.append serial)

omit h in
lemma keeps_remove (serial : Nat) : regime.Keeps ((host deeper).remove serial) :=
  keeps_record (.removed serial) (·.remove serial)

lemma keeps_activated (element : Element) : regime.Keeps ((host deeper).activated element) :=
  (keeps_record _ _).bind fun _ => keeps_runHooks h _ _

lemma keeps_deactivate (cache : ElementCache) : regime.Keeps (cache.deactivate (host deeper)) := by
  simp only [ElementCache.deactivate]
  cases cache.activeElement with
  | none => exact .pure _
  | some element =>
      have hdeactivating : regime.Keeps ((host deeper).deactivating element) :=
        (keeps_record _ _).bind fun _ => (keeps_runHooks h _ _).bind fun _ =>
          Keeps.get_bind fun page => Keeps.pure _ page
      refine hdeactivating.bind fun removes => Keeps.ite ?_ (.pure _)
      exact (keeps_remove _).bind fun _ => .pure _

lemma keeps_update (cache : ElementCache) (outcome : Outcome) (parent : Option Tail) :
    regime.Keeps (cache.update (host deeper) outcome parent) := by
  cases outcome with
  | none => exact .ite ((keeps_deactivate h cache).bind fun _ => .pure _) (.pure _)
  | some found =>
      refine .ite (.pure _) (Keeps.bind ?_ fun _ => .pure _)
      refine (keeps_deactivate h cache).bind fun cache => ?_
      have helement : ∀ kept, regime.Keeps
          (ElementCache.elementFor (host deeper) cache.tag kept found parent) := by
        intro kept
        cases kept with
        | some element => exact .pure _
        | none =>
            refine Keeps.bind (Keeps.get_bind fun page => ?_) fun _ => .pure _
            exact ((keeps_record _ _).bind fun _ => .pure _) page
      exact (helement _).bind fun element => (keeps_append _ _).bind fun _ =>
        (keeps_activated h element).bind fun _ => .pure _

/-! ### Mounting and unmounting -/

omit h in
/-- A route keeps its pattern when it is registered. -/
lemma pattern_of_add {registry registry' : Registry} {route route' : Route} {routeId : RouteId}
    (h : registry.add route = .ok (routeId, route', registry')) :
    route'.pattern = route.pattern := by
  unfold Registry.add at h
  split at h
  · cases h
  · simp only [Except.ok.injEq, Prod.mk.injEq] at h
    rw [← h.2.1]

omit h in
lemma pattern_of_compiled {route : Route} {pattern : Pattern} (h : route.compiled = .ok pattern) :
    route.pattern = some pattern.text := by
  unfold Route.compiled at h
  split at h
  · cases h
  · next text htext =>
    cases hcompile : Pattern.compile text with
    | error fault =>
        rw [hcompile] at h
        cases h
    | ok compiled =>
        rw [hcompile] at h
        obtain rfl : compiled = pattern := Except.ok.inj h
        rw [htext, Pattern.compile_eq_ok_iff.1 hcompile]

lemma at_attach (route : Route) {parent : Option (NodeId × Node)}
    (hparent : ∀ around ∈ parent, page.nodes[around.1]? = some around.2) :
    regime.At page (attach deeper route parent) := by
  refine At.get_bind ?_
  cases hcompiled : route.compiled with
  | error error => exact Keeps.pure _ page
  | ok pattern =>
      cases route.tag with
      | error error => exact Keeps.pure _ page
      | ok tag =>
          cases hadd : page.registry.add { route with place := placeBelow (parent.map (·.2)) } with
          | error error =>
              simp only
              exact Keeps.pure _ page
          | ok added =>
              obtain ⟨routeId, registered, registry⟩ := added
              have hroute : registered.pattern = some pattern.text :=
                (pattern_of_add hadd).trans (pattern_of_compiled hcompiled)
              simp only
              refine At.bind (.write fun hholds => .edit hholds (.planted hparent hroute)) fun _ => ?_
              exact (h.refresh _).discard.bind fun _ => .pure _

lemma keeps_teardown (id : NodeId) : regime.Keeps (teardown deeper id) := by
  refine Keeps.get_bind fun page => ?_
  have hroute : regime.Keeps (do return (← get).nodes[id]?.map (·.route) : PageM (Option Route)) :=
    Keeps.get_bind fun page => Keeps.pure _ page
  cases page.nodes[id]? with
  | none => exact Keeps.pure _ page
  | some node =>
      cases hmounted : node.mounted with
      | false =>
          simp only [hmounted]
          exact hroute page
      | true =>
          simp only [hmounted]
          have hshut : regime.holds page → regime.Kept page (page.shut id node.subscription) := by
            intro hholds
            have hcancelled := Kept.edit hholds (.cancel node.subscription)
            refine hcancelled.trans (.minor hcancelled.holds (.modifyNode ?_ ?_ _ id))
            · exact fun _ => rfl
            · exact fun _ => rfl
          refine At.bind (.write hshut) fun _ => (keeps_deactivate h node.cache).bind fun cache => ?_
          refine Keeps.bind (.modify fun page => .minor ?_) fun _ =>
            (keeps_emitTail h id none).bind fun _ => hroute
          have hlearned : Minor page (page.learned id cache none) := by
            refine Minor.modifyNode ?_ ?_ page id
            · exact fun _ => rfl
            · exact fun _ => rfl
          exact hlearned.trans (.aside ..)

/-! ### Commands -/

omit h in
lemma keeps_takeRoute (source : RouteSource) : regime.Keeps (takeRoute source) := by
  cases source with
  | fresh route => exact .pure _
  | stored name =>
      refine Keeps.get_bind fun page => At.bind (Keeps.modify ?_ page) fun _ => .pure _
      exact fun _ => .minor (.aside ..)

lemma keeps_mountAs (name : Text) (parent : Option Text) (source : RouteSource) :
    regime.Keeps (mountAs deeper name parent source) := by
  refine (keeps_takeRoute source).bind fun route => ?_
  cases route with
  | none => exact .pure _
  | some route =>
      refine Keeps.get_bind fun page => ?_
      cases hparent : page.parentFor parent with
      | error name => exact Keeps.pure _ page
      | ok parent =>
          refine (at_attach h route (nodes_of_parentFor hparent)).bind fun result => ?_
          cases result with
          | error error => exact .pure _
          | ok ids =>
              refine Keeps.get_bind fun page => At.bind (Keeps.modify ?_ page) fun _ => ?_
              · exact fun _ => .minor (.aside ..)
              cases page.mounted? name with
              | none => exact .pure _
              | some old => exact (keeps_teardown h old.1).discard.bind fun _ => .pure _

lemma keeps_unmountNamed (name : Text) : regime.Keeps (unmountNamed deeper name) := by
  refine Keeps.get_bind fun page => ?_
  cases page.mounted? name with
  | none => exact Keeps.pure _ page
  | some found =>
      refine At.bind (Keeps.modify ?_ page) fun _ => keeps_teardown h found.1
      exact fun _ => .minor (.aside ..)

omit h in
/-- What is done with the mounted route of a name is done with one of the nodes. -/
lemma keeps_withMounted {name : Text} {action : NodeId → Node → PageM Answer}
    (haction : ∀ page id node, page.nodes[id]? = some node → regime.At page (action id node)) :
    regime.Keeps (withMounted name action) := by
  refine Keeps.get_bind fun page => ?_
  cases hfound : page.mounted? name with
  | none => exact Keeps.pure _ page
  | some found => exact haction page found.1 found.2 (nodes_of_mounted? hfound)

omit h in
lemma keeps_withStored {name : Text} {action : Route → PageM Answer}
    (haction : ∀ route, regime.Keeps (action route)) : regime.Keeps (withStored name action) := by
  refine Keeps.get_bind fun page => ?_
  cases page.stored? name with
  | none => exact Keeps.pure _ page
  | some route => exact haction route page

omit h in
lemma keeps_unwatchNamed (name : Text) : regime.Keeps (unwatchNamed name) := by
  refine Keeps.get_bind fun page => ?_
  cases lookup? name page.directory.subscriptions with
  | none => exact Keeps.pure _ page
  | some subscription =>
      refine At.bind (.write fun hholds => ?_) fun _ => .pure _
      have hcancelled := Kept.edit hholds (.cancel subscription)
      exact hcancelled.trans
        (.minor hcancelled.holds (.aside ..))

omit h in
lemma at_watch {name : Text} {ref : SignalRef} {reactions : List Watch}
    (hcomes : Edit regime.may page (page.withWatcher name ref reactions)) :
    regime.At page (watch name ref reactions) := by
  refine At.get_bind (At.bind (.write fun hholds => .edit hholds hcomes) fun _ => ?_)
  refine (keeps_unwatchNamed name).discard.bind fun _ => .modify fun _ => ?_
  exact .minor (.aside ..)

omit h in
/-- The root is set in its written form, once and for all. -/
lemma keeps_setRoot (root : Text) : regime.Keeps (setRoot root) := by
  refine Keeps.get_bind fun page => ?_
  cases hroot : page.root? with
  | some current => exact Keeps.pure _ page
  | none => exact At.bind (.write fun hholds => .edit hholds (.setRoot root hroot)) fun _ => .pure _

omit h in
lemma keeps_store (name : Text) (route : Route) :
    regime.Keeps (modify (·.store name route)) :=
  .modify fun _ => .minor (.aside ..)

/-- **A command that does not navigate** keeps to the regime. -/
theorem keeps_perform {command : Command} (hmay : regime.may command)
    (hstays : command.navigates = false) : regime.Keeps (perform deeper command) := by
  cases command with
  | setRoot root => exact (keeps_setRoot root).bind fun _ => .pure _
  | intercept enabled =>
      refine Keeps.bind (.modify fun _ => ?_) fun _ => .pure _
      exact .minor (.aside ..)
  | mount name parent source => exact keeps_mountAs h name parent source
  | unmount name =>
      refine (keeps_unmountNamed h name).bind fun route => ?_
      cases route with
      | none => exact .pure _
      | some route => exact (keeps_store name route).bind fun _ => .pure _
  | drop name => exact (keeps_unmountNamed h name).discard.bind fun _ => .pure _
  | refresh name =>
      exact keeps_withMounted fun page id _ _ =>
        ((h.refresh id).discard.bind fun _ => .pure _) page
  | setCacheCount name count =>
      refine keeps_withMounted fun page id _ _ => ?_
      refine Keeps.bind (.modify fun page => .minor (.modifyNode ?_ ?_ page id))
        (fun _ => .pure _) page
      · exact fun _ => rfl
      · exact fun _ => rfl
  | lastMatch name => exact keeps_withMounted fun page _ _ _ => Keeps.pure _ page
  | store name route => exact (keeps_store name route).bind fun _ => .pure _
  | showRoute name => exact keeps_withStored fun _ => .pure _
  | setPattern name pattern =>
      refine keeps_withStored fun route => ?_
      cases route.setPattern pattern with
      | error error => exact .pure _
      | ok route => exact (keeps_store name route).bind fun _ => .pure _
  | register name =>
      refine keeps_withStored fun route => Keeps.get_bind fun page => ?_
      cases page.registry.add route with
      | error error => exact Keeps.pure _ page
      | ok added =>
          refine At.bind (.write fun hholds => .minor hholds ?_) fun _ => .pure _
          exact .aside ..
  | unregister name =>
      refine keeps_withStored fun route => Keeps.get_bind fun page => ?_
      refine At.bind (.write fun hholds => .minor hholds ?_) fun _ => .pure _
      exact .aside ..
  | matchRoute name =>
      exact keeps_withStored fun route => Keeps.get_bind fun page => Keeps.pure _ page
  | watchLocation name reactions =>
      exact fun page => (at_watch (.watchLocation hmay)).bind fun _ => .pure _
  | watchTail name route reactions =>
      refine keeps_withMounted fun page id node hnode => ?_
      exact (at_watch (.watchTail hmay (List.getElem?_eq_some_iff.1 hnode).1)).bind fun _ => .pure _
  | unwatch name => exact (keeps_unwatchNamed name).bind fun _ => .pure _
  | veto veto =>
      refine Keeps.bind (.modify fun _ => ?_) fun _ => .pure _
      exact .minor (.aside ..)
  | setHooks hooks => exact Keeps.bind (.modify fun _ => .setHooks hmay) fun _ => .pure _
  | describe what =>
      cases what with
      | controller => exact Keeps.get_bind fun page => Keeps.pure _ page
      | router => exact Keeps.get_bind fun page => Keeps.pure _ page
      | route name => exact keeps_withMounted fun page _ _ _ => Keeps.pure _ page
  | _ => cases hstays

/-! ### Calls -/

lemma keeps_refresh (id : NodeId) : regime.Keeps (refresh deeper id) := by
  refine Keeps.get_bind fun page => ?_
  cases page.queue.busy with
  | true => exact At.write fun hholds => .minor hholds (.aside ..)
  | false =>
      cases page.nodes[id]? with
      | none => exact Keeps.pure _ page
      | some node =>
          cases hmounted : node.mounted with
          | false => simp only [hmounted]; exact Keeps.pure _ page
          | true =>
              simp only [hmounted]
              have hbusy : ∀ busy, regime.Keeps (setBusy busy) :=
                fun busy => .modify fun _ => .minor (.aside ..)
              refine At.bind (hbusy true page) fun _ =>
                (keeps_update h node.cache _ _).bind fun result => (hbusy false).bind fun _ => ?_
              refine Keeps.bind (.modify fun page => .minor (.modifyNode ?_ ?_ page id)) fun _ => ?_
              · exact fun _ => rfl
              · exact fun _ => rfl
              · exact Keeps.bind (.note rfl) fun _ => (keeps_emitTail h id _).bind fun _ =>
                  h.drain.discard

lemma keeps_drain : regime.Keeps (drain deeper) := by
  refine Keeps.get_bind fun page => ?_
  cases page.queue.pending with
  | nil => exact Keeps.pure () page
  | cons id rest =>
      refine At.bind (.write fun hholds => .minor hholds ?_) fun _ =>
        (h.refresh id).discard.bind fun _ => h.drain.discard
      exact .aside ..

lemma keeps_step (hnavigate : ∀ command, regime.may command → command.navigates →
    regime.Keeps (perform deeper command)) {call : Call} (hcall : regime.Permits call) :
    regime.Keeps (step deeper call) := by
  cases call with
  | command command =>
      cases hnavigates : command.navigates with
      | true => exact hnavigate command hcall hnavigates
      | false => exact keeps_perform h hcall hnavigates
  | refresh id => exact (keeps_refresh h id).bind fun _ => .pure _
  | drain => exact (keeps_drain h).bind fun _ => .pure _

end Calls

/-- **Calls of any depth** keep to the regime, if navigating does. -/
theorem keeps_exec (hnavigate : ∀ depth,
      (∀ call, regime.Permits call → regime.Keeps (exec depth call)) →
      ∀ command, regime.may command → command.navigates →
        regime.Keeps (perform (exec depth) command)) (depth : Nat) {call : Call}
    (hcall : regime.Permits call) : regime.Keeps (exec depth call) := by
  induction depth generalizing call with
  | zero => exact fun _ _ => rfl
  | succ depth ih =>
      have hdeeper : ∀ call, regime.Permits call → regime.Keeps (exec depth call) := fun _ => ih
      exact keeps_step (.of_forall hdeeper) (hnavigate depth hdeeper) hcall

/-! ### Without bounds -/

/-- **A regime without bounds**: there may be any command, any location, and any telling of it. -/
structure Unbounded (regime : Regime) : Prop where
  may : ∀ command, regime.may command
  history : ∀ {page} history, regime.holds page → regime.Kept page (page.withHistory history)
  /-- A listener may be told a location. -/
  told : ∀ {page} place name event, regime.holds page →
    regime.Kept page { page with events := .location place name event :: page.events }

lemma Unbounded.permits (hall : regime.Unbounded) (call : Call) : regime.Permits call := by
  cases call with
  | command command => exact hall.may command
  | refresh => trivial
  | drain => trivial

lemma Unbounded.keeps_navigation (hall : regime.Unbounded) {deeper : Deeper}
    (h : regime.Carries deeper) {command : Command} (hnavigates : command.navigates) :
    regime.Keeps (perform deeper command) := by
  intro page hholds
  rcases perform_navigates deeper page hnavigates with
    ⟨answer, -, hrun⟩ | ⟨history, kind, source, answer, -, hrun⟩
  · simp only [Leads, hrun]
    exact .refl hholds
  · have hmoved := hall.history history hholds
    have htold : regime.At (page.withHistory history) (notify deeper kind source) := by
      refine At.get_bind (at_emit .location fun number listener _ mid hmid => ?_)
      cases listener with
      | node id => exact (h.refresh id).discard mid
      | watcher place =>
          refine at_tellWatcher h (.location place · _) _ (.of_forall hall.may) fun name hnow => ?_
          exact hall.told place name _ hnow
    rw [leads_congr hrun]
    simp only [announce, leads_bind, leads_pure]
    exact (htold hmoved.holds).mono fun _ _ hafter => hmoved.trans hafter

/-- **Everything that a page does** keeps to a regime without bounds. -/
theorem Unbounded.keeps_exec (hall : regime.Unbounded) (depth : Nat) (call : Call) :
    regime.Keeps (exec depth call) :=
  Regime.keeps_exec (fun _ hdeeper _ _ => hall.keeps_navigation (.of_forall hdeeper)) depth
    (hall.permits call)

end Regime

end PageRouter
