import PageRouter.Proofs.Spending

/-!
# Every command comes to an end

Calls nest: a command tells a location, which matches a node, which tells its tail to the nodes in
it, which makes the document act, which gives commands.  `Page.run` grants a depth that depends on the
page, and it is always enough (`run_returns`).

Three things go down along a chain of nested calls.

* The weight of the page and of what it is asked to do goes down from one command to the next.
* While no command is given, the nodes that wait become fewer with each one that gets its turn.
* While none gets its turn, the numbers of the nodes go up from each node to the nodes in it.

Their sum, with enough weight on the first two, is what a call `needs`.  What makes the later parts start
again from the beginning is paid for by the earlier ones, since the nodes never become more than the nodes
and the weight that there were at first.
-/

namespace PageRouter

open Page

/-! ## Calls -/

/-- The weight of what a call is asked to do. -/
def Call.weight : Call → Nat
  | .command asked => asked.weight
  | .refresh _ | .drain => 0

/-- **When a call may be made**: the node that is to be matched is there, and those who wait get their
turns while the document is free. -/
def Call.Apt (page : Page) : Call → Prop
  | .command _ => True
  | .refresh id => id < page.nodes.length
  | .drain => page.queue.busy = false

namespace Page

variable {page mid after : Page} {deeper : Deeper} {id : NodeId}

/-! ## Computations that come to an end -/

/-- **A page that can pay**: with what is to be spent, it keeps to the weight and to the size that are
allowed. -/
structure Fits (most size more : Nat) (page : Page) : Prop where
  branched : page.Branched
  weight : page.weight + (more - 1) ≤ most
  size : page.nodes.length + page.weight + more ≤ size

/-- **A computation comes to an end** on a page that can pay. -/
def Ends {α : Type} (most size : Nat) (strict : Prop) (more : Nat) (page : Page) (c : PageM α) : Prop :=
  Fits most size more page → Leads true c page fun _ after => Spends strict more page after

section Ends

variable {α β : Type} {most size more : Nat} {strict : Prop}

lemma Fits.spends (h : Fits most size more page) (hspends : Spends strict 0 page after) :
    Fits most size more after where
  branched := hspends.branched
  weight := by have := hspends.weight; have := h.weight; omega
  size := by have := hspends.size; have := h.size; omega

lemma Fits.spent (h : Fits most size more page) (hspends : Spends strict more page after) :
    Fits most size 0 after where
  branched := hspends.branched
  weight := by have := hspends.weight; have := h.weight; omega
  size := by have := hspends.size; have := h.size; omega

lemma Ends.bind {c : PageM α} {f : α → PageM β} (h : Ends most size strict 0 page c)
    (hf : ∀ a mid, Spends strict 0 page mid → Ends most size strict more mid (f a)) :
    Ends most size strict more page (c >>= f) := by
  intro hfits
  have hfree : Fits most size 0 page := by
    refine ⟨hfits.branched, ?_, ?_⟩
    · have := hfits.weight; omega
    · have := hfits.size; omega
  rw [leads_bind]
  refine (h hfree).mono fun a mid hmid => ?_
  exact (hf a mid hmid (hfits.spends hmid)).mono fun _ _ hafter => hmid.before hafter

/-- What is to be spent is spent in the beginning. -/
lemma Ends.spend_bind {c : PageM α} {f : α → PageM β} (h : Ends most size strict more page c)
    (hf : ∀ a mid, Spends strict more page mid → Ends most size strict 0 mid (f a)) :
    Ends most size strict more page (c >>= f) := by
  intro hfits
  rw [leads_bind]
  refine (h hfits).mono fun a mid hmid => ?_
  exact (hf a mid hmid (hfits.spent hmid)).mono fun _ _ hafter => hmid.trans hafter

/-- Whoever has something to spend need not ask who waits. -/
lemma Ends.pay {c : PageM α} (h : Ends most size False 0 page c) (hmore : 0 < more) :
    Ends most size strict more page c := by
  intro hfits
  refine (h ⟨hfits.branched, ?_, ?_⟩).mono fun _ _ hafter => hafter.pay (Nat.zero_le _) hmore
  · have := hfits.weight; omega
  · have := hfits.size; omega

lemma Ends.pure (a : α) : Ends most size strict 0 page (pure a) :=
  fun hfits => .refl strict hfits.branched

lemma Ends.discard {c : PageM α} (h : Ends most size strict more page c) :
    Ends most size strict more page (discard c) := by
  intro hfits
  rw [leads_discard]
  exact h hfits

/-- What is read from the page is known to be its own. -/
lemma Ends.get_bind {f : Page → PageM β} (h : Ends most size strict more page (f page)) :
    Ends most size strict more page (get >>= f) := h

/-- What is to be spent is spent by writing a page down. -/
lemma Ends.set_bind {f : PUnit → PageM β} (h : page.Branched → Spends strict more page mid)
    (hf : Ends most size strict 0 mid (f ⟨⟩)) :
    Ends most size strict more page (set mid >>= f) := by
  intro hfits
  have hmid := h hfits.branched
  rw [leads_bind]
  exact (hf (hfits.spent hmid)).mono fun _ _ hafter => hmid.trans hafter

/-- A change in which nobody begins to listen or to wait is free. -/
lemma Ends.minor {f : Page → Page} (h : Minor page (f page)) (hqueue : (f page).queue = page.queue) :
    Ends most size strict 0 page (modify f) := fun hfits => .minor hfits.branched h hqueue

lemma Ends.modify {f : Page → Page} (h : page.Branched → Spends strict more page (f page)) :
    Ends most size strict more page (modify f) := fun hfits => h hfits.branched

lemma Ends.note {event : PageEvent} : Ends most size strict 0 page (note event) :=
  .modify fun h => .note h event

lemma Ends.ite {P : Prop} [Decidable P] {c d : PageM α} (hc : Ends most size strict more page c)
    (hd : Ends most size strict more page d) :
    Ends most size strict more page (if P then c else d) := by
  split
  · exact hc
  · exact hd

end Ends

/-! ### Reactions and tellings -/

/-- **The commands of the next level** come to an end if they have less weight in all. -/
def Sustains (most size : Nat) (deeper : Deeper) : Prop :=
  ∀ command page, page.Branched → page.weight + command.weight < most →
    page.nodes.length + page.weight + command.weight ≤ size →
    Leads true (deeper (.command command)) page fun _ after => Spends False command.weight page after

section Calls

variable {most size : Nat} {strict : Prop} (h : Sustains most size deeper)

include h

lemma performAll_ends {commands : List Command} (hbranched : page.Branched)
    (hweight : page.weight + Command.weightOfList commands < most)
    (hsize : page.nodes.length + page.weight + Command.weightOfList commands ≤ size) :
    Leads true (performAll deeper commands) page fun _ after =>
      Spends False (Command.weightOfList commands) page after := by
  induction commands generalizing page with
  | nil => exact .refl False hbranched
  | cons command rest ih =>
      rw [Command.weightOfList] at hweight hsize ⊢
      simp only [performAll, leads_bind, leads_note]
      refine (h command page hbranched (by omega) (by omega)).mono fun answer mid hmid => ?_
      have hnoted := hmid.trans (.note hmid.branched (.answered command answer))
      have hless := hnoted.weight
      have hsmall := hnoted.size
      exact (ih hnoted.branched (by omega) (by omega)).mono fun _ _ hafter => hnoted.trans hafter

/-- **A reaction that acts** comes to an end. -/
lemma acted_ends {used : Page} {commands : List Command} (hfits : Fits most size 0 page)
    (hused : used.weight + (1 + Command.weightOfList commands) = page.weight)
    (hlength : used.nodes.length = page.nodes.length) (hqueue : used.queue = page.queue)
    (hsignal : ∀ ref, used.signal ref = page.signal ref) :
    Leads true (performAll deeper commands) used fun _ after => Spends strict 0 page after := by
  have hbranched : used.Branched := hfits.branched.of_listeners
    (fun ref _ _ hmem => hsignal ref ▸ hmem) (Nat.le_of_eq hlength.symm) (hqueue ▸ List.Sublist.refl _)
  have hweight := hfits.weight
  have hsize := hfits.size
  exact (performAll_ends h hbranched (by omega) (by omega)).mono fun _ _ hafter =>
    .acted hlength hqueue hused hafter

lemma tellWatcher_ends (place : Nat) (event : Text → PageEvent) (key : Text) :
    Ends most size strict 0 page (tellWatcher deeper place event key) := by
  refine Ends.get_bind ?_
  cases page.watchers[place]? with
  | none => exact .pure ()
  | some watcher =>
      refine Ends.bind .note fun _ noted _ hfits => ?_
      refine leads_offer (Reaction.isDue key) (Spends strict 0 noted) (fun _ => rfl) _ ?_ noted
        (.refl strict hfits.branched)
      intro index _ now reaction hnow hreaction hruns
      split at hreaction
      · next listener hlistener =>
        simp only [leads_bind, useReaction, leads_modify]
        have hused := weight_reacting hlistener hreaction hruns
        exact (acted_ends h (hfits.spends hnow) hused rfl rfl (signal_congr rfl rfl)).mono
          fun _ _ hafter => hnow.before hafter
      · cases hreaction

omit h in
/-- **Telling everyone** comes to an end if calling each of those does who listened when the telling
began. -/
lemma emit_ends (ref : SignalRef) {call : Listener → PageM Unit}
    (hcall : ∀ number listener, (number, listener) ∈ (page.signal ref).listeners →
      ∀ mid, Spends strict 0 page mid → Ends most size strict 0 mid (call listener)) :
    Ends most size strict 0 page (Signal.emit (return (← get).signal ref) call) := by
  intro hfits
  have hinv : (page.signal ref).listeners ⊆ (page.signal ref).listeners ∧ Spends strict 0 page page :=
    ⟨List.Subset.refl _, .refl strict hfits.branched⟩
  refine (leads_emit (fun rest now => rest ⊆ (page.signal ref).listeners ∧ Spends strict 0 page now)
    ?_ ?_ hinv).mono fun _ _ hafter => hafter.2
  · rintro number listener rest now ⟨hrest, hnow⟩ -
    obtain ⟨hlistens, hrest⟩ := List.cons_subset.1 hrest
    exact (hcall number listener hlistens now hnow (hfits.spends hnow)).mono fun _ after hafter =>
      ⟨hrest, hnow.before hafter⟩
  · rintro number listener rest now ⟨hrest, hnow⟩ -
    exact ⟨(List.cons_subset.1 hrest).2, hnow⟩

/-- A node tells its tail to nodes with larger numbers. -/
lemma emitTail_ends (id : NodeId) (tail : Option Tail)
    (hrefresh : ∀ child mid, id < child → child < mid.nodes.length → Spends strict 0 page mid →
      Ends most size strict 0 mid (deeper (.refresh child))) :
    Ends most size strict 0 page (emitTail deeper id tail) := by
  intro hfits
  refine emit_ends (.tailOf id) (fun number listener hlistens mid hmid => ?_) hfits
  cases listener with
  | node child =>
      have hplaced : Minor mid (mid.withPlace child tail) := by
        refine Minor.modifyNode ?_ ?_ mid child
        · exact fun _ => rfl
        · exact fun _ => rfl
      refine Ends.bind (.modify fun hbranched => .minor hbranched hplaced rfl) fun _ placed hnow => ?_
      have hchild := hfits.branched.there _ number child hlistens
      have hsofar := hmid.before hnow
      exact (hrefresh child placed (hfits.branched.younger id number child hlistens)
        (Nat.lt_of_lt_of_le hchild hsofar.grows) hsofar).discard
  | watcher place => exact tellWatcher_ends h place (.tail place · tail) (tailKey tail)

/-! ### The document -/

lemma runHooks_ends (moment : Moment) (tag : Text) :
    Ends most size strict 0 page (runHooks deeper moment tag) := by
  refine Ends.get_bind fun hfits => ?_
  refine leads_offer (hookDue moment tag page.url) (Spends strict 0 page) (fun _ => rfl) _ ?_ page
    (.refl strict hfits.branched)
  intro index _ now hook hnow hhook hruns
  simp only [leads_bind, leads_modify]
  have hused := weight_hooked hhook hruns
  exact (acted_ends h (hfits.spends hnow) hused rfl rfl (signal_congr rfl rfl)).mono
    fun _ _ hafter => hnow.before hafter

omit h in
lemma record_ends (event : HostEvent) (change : Document → Document) :
    Ends most size strict 0 page (record event change) :=
  .modify fun hbranched => .of_listeners hbranched (fun _ _ _ hmem => signal_congr rfl rfl _ ▸ hmem)
    rfl rfl rfl rfl

omit h in
lemma append_ends (target : Option Text) (serial : Nat) :
    Ends most size strict 0 page ((host deeper).append target serial) :=
  record_ends (.appended target serial) (·.append serial)

omit h in
lemma remove_ends (serial : Nat) : Ends most size strict 0 page ((host deeper).remove serial) :=
  record_ends (.removed serial) (·.remove serial)

lemma activated_ends (element : Element) :
    Ends most size strict 0 page ((host deeper).activated element) :=
  (record_ends _ _).bind fun _ _ _ => runHooks_ends h _ _

lemma deactivate_ends (cache : ElementCache) :
    Ends most size strict 0 page (cache.deactivate (host deeper)) := by
  simp only [ElementCache.deactivate]
  cases cache.activeElement with
  | none => exact .pure _
  | some element =>
      have hdeactivating : Ends most size strict 0 page ((host deeper).deactivating element) :=
        (record_ends _ _).bind fun _ _ _ => (runHooks_ends h _ _).bind fun _ _ _ =>
          Ends.get_bind (.pure _)
      refine hdeactivating.bind fun removes _ _ => Ends.ite ?_ (.pure _)
      exact (remove_ends _).bind fun _ _ _ => .pure _

lemma update_ends (cache : ElementCache) (outcome : Outcome) (parent : Option Tail) :
    Ends most size strict 0 page (cache.update (host deeper) outcome parent) := by
  cases outcome with
  | none => exact .ite ((deactivate_ends h cache).bind fun _ _ _ => .pure _) (.pure _)
  | some found =>
      refine .ite (.pure _) (Ends.bind ?_ fun _ _ _ => .pure _)
      refine (deactivate_ends h cache).bind fun cache cleared _ => ?_
      have helement : ∀ kept, Ends most size strict 0 cleared
          (ElementCache.elementFor (host deeper) cache.tag kept found parent) := by
        intro kept
        cases kept with
        | some element => exact .pure _
        | none =>
            refine Ends.bind (Ends.get_bind ?_) fun _ _ _ => .pure _
            exact (record_ends _ _).bind fun _ _ _ => .pure _
      exact (helement _).bind fun element _ _ => (append_ends _ _).bind fun _ _ _ =>
        (activated_ends h element).bind fun _ _ _ => .pure _

end Calls

/-! ### Commands -/

section Commands

variable {most size : Nat} (h : Sustains most size deeper)
  (hrefresh : ∀ id page, id < page.nodes.length → Ends most size False 0 page (deeper (.refresh id)))

include h hrefresh

lemma notify_ends (kind : NavigationKind) (source : Option Text) :
    Ends most size False 0 page (notify deeper kind source) := by
  refine Ends.get_bind fun hfits => ?_
  refine emit_ends .location (fun number listener hlistens mid hmid => ?_) hfits
  cases listener with
  | node id =>
      have hid := hfits.branched.there _ number id hlistens
      exact (hrefresh id mid (Nat.lt_of_lt_of_le hid hmid.grows)).discard
  | watcher place => exact tellWatcher_ends h place (.location place · ⟨page.url, kind, source⟩) page.url

omit h in
/-- A new node is paid for. -/
lemma attach_ends (route : Route) {parent : Option (NodeId × Node)}
    (hparent : ∀ around ∈ parent, page.nodes[around.1]? = some around.2) :
    Ends most size False 1 page (attach deeper route parent) := by
  refine Ends.get_bind ?_
  cases route.compiled with
  | error error => exact (Ends.pure _).pay Nat.one_pos
  | ok pattern =>
      cases route.tag with
      | error error => exact (Ends.pure _).pay Nat.one_pos
      | ok tag =>
          cases page.registry.add { route with place := placeBelow (parent.map (·.2)) } with
          | error error => exact (Ends.pure _).pay Nat.one_pos
          | ok added =>
              obtain ⟨routeId, registered, registry⟩ := added
              refine Ends.set_bind (fun hbranched => .planted hbranched hparent) ?_
              have hnew : page.nodes.length <
                  (page.planted registered pattern tag parent registry).nodes.length := by
                rw [length_planted]
                exact Nat.lt_succ_self _
              exact (hrefresh _ _ hnew).discard.bind fun _ _ _ => .pure _

lemma ends_teardown (id : NodeId) : Ends most size False 0 page (teardown deeper id) := by
  refine Ends.get_bind ?_
  have hroute : ∀ page, Ends most size False 0 page
      (do return (← get).nodes[id]?.map (·.route) : PageM (Option Route)) :=
    fun page => Ends.get_bind (.pure _)
  cases page.nodes[id]? with
  | none => exact .pure _
  | some node =>
      cases hmounted : node.mounted with
      | false => simp only [hmounted]; exact hroute page
      | true =>
          simp only [hmounted]
          have hshut : page.Branched → Spends False 0 page (page.shut id node.subscription) := by
            intro hbranched
            have hcancelled : Spends False 0 page (page.cancel node.subscription) := .cancel hbranched _
            refine hcancelled.before (.minor hcancelled.branched (.modifyNode ?_ ?_ _ id) rfl)
            · exact fun _ => rfl
            · exact fun _ => rfl
          refine Ends.set_bind hshut ((deactivate_ends h node.cache).bind fun cache cleared _ => ?_)
          have htorn : Minor cleared (cleared.torn id cache (cleared.registry.remove node.route).2) := by
            refine Minor.trans (.modifyNode ?_ ?_ cleared id) (.aside ..)
            · exact fun _ => rfl
            · exact fun _ => rfl
          refine Ends.bind (.modify fun hbranched => .minor hbranched htorn rfl) fun _ _ _ => ?_
          exact (emitTail_ends h id none fun child mid _ hchild _ => hrefresh child mid hchild).bind
            fun _ _ _ => hroute _

omit h hrefresh in
lemma takeRoute_ends (source : RouteSource) : Ends most size strict 0 page (takeRoute source) := by
  cases source with
  | fresh route => exact .pure _
  | stored name => exact Ends.get_bind (Ends.bind (.minor (.aside ..) rfl) fun _ _ _ => .pure _)

lemma mountAs_ends (name : Text) (parent : Option Text) (source : RouteSource) :
    Ends most size False 1 page (mountAs deeper name parent source) := by
  refine (takeRoute_ends source).bind fun route taken _ => ?_
  cases route with
  | none => exact (Ends.pure _).pay Nat.one_pos
  | some route =>
      refine Ends.get_bind ?_
      cases hparent : taken.parentFor parent with
      | error name => exact (Ends.pure _).pay Nat.one_pos
      | ok parent =>
          refine (attach_ends hrefresh route (nodes_of_parentFor hparent)).spend_bind fun result mid _ => ?_
          cases result with
          | error error => exact .pure _
          | ok ids =>
              refine Ends.get_bind (Ends.bind (.minor (.aside ..) rfl) fun _ _ _ => ?_)
              cases mid.mounted? name with
              | none => exact .pure _
              | some old => exact (ends_teardown h hrefresh old.1).discard.bind fun _ _ _ => .pure _

lemma unmountNamed_ends (name : Text) : Ends most size False 0 page (unmountNamed deeper name) := by
  refine Ends.get_bind ?_
  cases page.mounted? name with
  | none => exact .pure _
  | some found =>
      exact Ends.bind (.minor (.aside ..) rfl) fun _ _ _ => ends_teardown h hrefresh found.1

omit h hrefresh in
lemma withMounted_ends {name : Text} {action : NodeId → Node → PageM Answer} {more : Nat}
    (haction : ∀ id node, page.nodes[id]? = some node →
      Ends most size False more page (action id node)) (hmore : 0 < more) :
    Ends most size False more page (withMounted name action) := by
  refine Ends.get_bind ?_
  cases hfound : page.mounted? name with
  | none => exact (Ends.pure _).pay hmore
  | some found => exact haction found.1 found.2 (nodes_of_mounted? hfound)

omit h hrefresh in
lemma withStored_ends {name : Text} {action : Route → PageM Answer}
    (haction : ∀ route, Ends most size strict 0 page (action route)) :
    Ends most size strict 0 page (withStored name action) := by
  refine Ends.get_bind ?_
  cases page.stored? name with
  | none => exact .pure _
  | some route => exact haction route

omit h hrefresh in
lemma unwatchNamed_ends (name : Text) : Ends most size strict 0 page (unwatchNamed name) := by
  refine Ends.get_bind ?_
  cases lookup? name page.directory.subscriptions with
  | none => exact .pure _
  | some subscription =>
      refine Ends.set_bind (fun hbranched => ?_) (.pure _)
      have hcancelled : Spends strict 0 page (page.cancel subscription) := .cancel hbranched subscription
      exact hcancelled.before (.minor hcancelled.branched (.aside ..) rfl)

omit h hrefresh in
/-- **A listener is paid for** by the command that brings it. -/
lemma watch_ends (name : Text) {ref : SignalRef} (hhas : page.HasSignal ref) (reactions : List Watch) :
    Ends most size strict (1 + Command.weightOfWatches reactions) page (watch name ref reactions) :=
  Ends.get_bind <| Ends.set_bind (fun hbranched => .withWatcher hbranched hhas name reactions) <|
    (unwatchNamed_ends name).discard.bind fun _ _ _ => .minor (.aside ..) rfl

omit h hrefresh in
lemma store_ends (name : Text) (route : Route) :
    Ends most size strict 0 page (modify (·.store name route)) := .minor (.aside ..) rfl

/-- **A command that navigates** is free. -/
lemma perform_ends_of_navigates {command : Command} (hnavigates : command.navigates) :
    Ends most size False 0 page (perform deeper command) := by
  intro hfits
  rcases perform_navigates deeper page hnavigates with
    ⟨answer, -, hrun⟩ | ⟨history, kind, source, answer, -, hrun⟩
  · rw [leads_of_eq hrun]
    exact .refl False hfits.branched
  · have hmoved : Spends False 0 page (page.withHistory history) :=
      .of_listeners hfits.branched (fun _ _ _ hmem => signal_congr rfl rfl _ ▸ hmem) rfl rfl rfl rfl
    rw [leads_congr hrun]
    have htold : Ends most size False 0 (page.withHistory history)
        (announce deeper kind source answer) :=
      (notify_ends h hrefresh kind source).bind fun _ _ _ => .pure _
    exact (htold (hfits.spends hmoved)).mono fun _ _ hafter => hmoved.before hafter

/-- **A command** comes to an end, and spends its weight at most. -/
lemma perform_ends (command : Command) :
    Ends most size False command.weight page (perform deeper command) := by
  have hpos := command.weight_pos
  cases command with
  | mount name parent source => exact mountAs_ends h hrefresh name parent source
  | watchLocation name reactions =>
      have hhas : page.HasSignal .location := trivial
      exact Ends.spend_bind (watch_ends name hhas reactions) fun _ _ _ => .pure _
  | watchTail name route reactions =>
      refine withMounted_ends (fun id node hnode => ?_) hpos
      have hhas : page.HasSignal (.tailOf id) := (List.getElem?_eq_some_iff.1 hnode).1
      exact Ends.spend_bind (watch_ends name hhas reactions) fun _ _ _ => .pure _
  | setHooks hooks =>
      exact Ends.spend_bind (.modify fun hbranched => .setHooks hbranched hooks) fun _ _ _ => .pure _
  | setRoot root =>
      refine (Ends.bind (Ends.get_bind ?_) fun _ _ _ => .pure _).pay hpos
      cases page.root? with
      | some current => exact .pure _
      | none =>
          refine Ends.set_bind (fun hbranched => ?_) (.pure _)
          exact .of_listeners hbranched (fun _ _ _ hmem => signal_congr rfl rfl _ ▸ hmem) rfl rfl rfl rfl
  | intercept enabled => exact (Ends.bind (.minor (.aside ..) rfl) fun _ _ _ => .pure _).pay hpos
  | unmount name =>
      refine ((unmountNamed_ends h hrefresh name).bind fun route _ _ => ?_).pay hpos
      cases route with
      | none => exact .pure _
      | some route => exact (store_ends name route).bind fun _ _ _ => .pure _
  | drop name => exact ((unmountNamed_ends h hrefresh name).discard.bind fun _ _ _ => .pure _).pay hpos
  | refresh name =>
      refine withMounted_ends (fun id node hnode => Ends.pay ?_ hpos) hpos
      have hid := (List.getElem?_eq_some_iff.1 hnode).1
      exact (hrefresh id page hid).discard.bind fun _ _ _ => .pure _
  | setCacheCount name count =>
      refine withMounted_ends (fun id node _ => Ends.pay ?_ hpos) hpos
      refine Ends.bind (.minor (.modifyNode ?_ ?_ page id) rfl) fun _ _ _ => .pure _
      · exact fun _ => rfl
      · exact fun _ => rfl
  | lastMatch name => exact withMounted_ends (fun _ _ _ => (Ends.pure _).pay hpos) hpos
  | store name route => exact ((store_ends name route).bind fun _ _ _ => .pure _).pay hpos
  | showRoute name => exact (withStored_ends fun _ => .pure _).pay hpos
  | setPattern name pattern =>
      refine (withStored_ends fun route => ?_).pay hpos
      cases route.setPattern pattern with
      | error error => exact .pure _
      | ok route => exact (store_ends name route).bind fun _ _ _ => .pure _
  | register name =>
      refine (withStored_ends fun route => Ends.get_bind ?_).pay hpos
      cases page.registry.add route with
      | error error => exact .pure _
      | ok added => exact Ends.set_bind (fun hbranched => .minor hbranched (.aside ..) rfl) (.pure _)
  | unregister name =>
      refine (withStored_ends fun route => Ends.get_bind ?_).pay hpos
      exact Ends.set_bind (fun hbranched => .minor hbranched (.aside ..) rfl) (.pure _)
  | matchRoute name => exact (withStored_ends fun _ => Ends.get_bind (.pure _)).pay hpos
  | unwatch name => exact ((unwatchNamed_ends name).bind fun _ _ _ => .pure _).pay hpos
  | veto veto => exact (Ends.bind (.minor (.aside ..) rfl) fun _ _ _ => .pure _).pay hpos
  | describe what =>
      cases what with
      | controller => exact (Ends.get_bind (.pure _)).pay hpos
      | router => exact (Ends.get_bind (.pure _)).pay hpos
      | route name => exact withMounted_ends (fun _ _ _ => (Ends.pure _).pay hpos) hpos
  | _ => exact (perform_ends_of_navigates h hrefresh rfl).pay hpos

end Commands

/-! ### Matching nodes -/

/-- While the document is busy, a node that is to be matched waits. -/
lemma refresh_waits (h : page.Branched) (hid : id < page.nodes.length) (hbusy : page.queue.busy = true) :
    Leads true (refresh deeper id) page fun _ after => Spends (page.queue.busy = false) 0 page after := by
  simp only [refresh, leads_bind, leads_get, hbusy, if_true, leads_set]
  exact hbusy ▸ Spends.defer h hid hbusy

/-- **A turn** comes to an end if the turns of nodes with larger numbers do, and those of the nodes that
wait. -/
lemma turn_ends {most size : Nat} (h : Sustains most size deeper) (hfree : page.queue.busy = false)
    (hrefresh : ∀ child mid, id < child → child < mid.nodes.length → Spends True 0 page mid →
      Ends most size True 0 mid (deeper (.refresh child)))
    (hdrain : ∀ mid, mid.queue.busy = false → Spends True 0 page mid →
      Ends most size True 0 mid (deeper .drain)) :
    Ends most size True 0 page (refresh deeper id) := by
  intro hfits
  by_cases hmounted : ∃ node, page.nodes[id]? = some node ∧ node.mounted
  · obtain ⟨node, hnode, hmounted⟩ := hmounted
    have hbranched := hfits.branched
    have hoccupied : page.occupied.Branched :=
      ⟨hbranched.there, hbranched.younger, hbranched.waiting, hbranched.once⟩
    have hlines : Ends most size True 0 page.occupied (node.cache.update (host deeper)
        (page.outcomeOf node) (parentTail node.route.place)) := fun hfits => update_ends h _ _ _ hfits
    rw [leads_refresh hfree hnode hmounted]
    refine (hlines ⟨hoccupied, hfits.weight, hfits.size⟩).mono ?_
    rintro ⟨_, cache⟩ lined hlined
    have hsettled : Spends True 0 page (lined.settled id cache (page.outcomeOf node)) :=
      hlined.settled hfree
    have htells := emitTail_ends h id (page.outcomeOf node).tail fun child mid hyounger hchild hmid =>
      hrefresh child mid hyounger hchild (hsettled.before hmid)
    refine (htells (hfits.spends hsettled)).mono fun _ told htold => ?_
    have htoldFree : told.queue.busy = false := htold.busy
    have hsofar := hsettled.before htold
    exact (hdrain told htoldFree hsofar (hfits.spends hsofar)).mono fun _ _ hafter =>
      hsofar.before hafter
  · simp only [refresh, leads_bind, leads_get, hfree, Bool.false_eq_true, if_false]
    cases hnode : page.nodes[id]? with
    | none => exact .refl True hfits.branched
    | some node =>
        exact leads_ite (fun hmount => absurd ⟨node, hnode, hmount⟩ hmounted) fun _ =>
          .refl True hfits.branched

/-! ## Calls of any depth -/

/-- The depth that is granted from one command to the next, on pages of some size. -/
def stride (size : Nat) : Nat := (size + 2) * size + size + 3

/-- The depth that the weight of a page takes and those who wait. -/
def upkeep (size : Nat) (page : Page) : Nat :=
  stride size * page.weight + (size + 2) * page.queue.pending.length

/-- **The depth that a call needs**, on pages of some size. -/
def needs (size : Nat) (page : Page) : Call → Nat
  | .command command => stride size * (page.weight + command.weight)
  | .refresh id => page.upkeep size + (size - id) + 2
  | .drain => page.upkeep size + 1

section Depths

variable {size weight : Nat} {call : Call}

/-- **Whatever has less weight** needs less depth. -/
lemma needs_lt (h : page.Branched) (hsize : page.nodes.length + page.weight ≤ size)
    (hless : page.weight + call.weight < weight) : page.needs size call < stride size * weight := by
  have hpending := h.pending_le
  have hwaiting : (size + 2) * page.queue.pending.length ≤ (size + 2) * size :=
    Nat.mul_le_mul_left _ (by omega)
  have hspent : stride size * (page.weight + call.weight) + stride size ≤ stride size * weight := by
    rw [← Nat.mul_succ]
    exact Nat.mul_le_mul_left _ hless
  have hstride : stride size = (size + 2) * size + size + 3 := rfl
  cases call with
  | command command =>
      simp only [needs, Call.weight] at hspent ⊢
      omega
  | refresh id =>
      simp only [needs, upkeep, Call.weight, Nat.add_zero] at hspent ⊢
      omega
  | drain =>
      simp only [needs, upkeep, Call.weight, Nat.add_zero] at hspent ⊢
      omega

lemma needs_pos (size : Nat) (page : Page) (call : Call) : 0 < page.needs size call := by
  cases call with
  | command command =>
      exact Nat.mul_pos (Nat.succ_pos _) (Nat.lt_of_lt_of_le command.weight_pos (Nat.le_add_left ..))
  | refresh id => exact Nat.succ_pos _
  | drain => exact Nat.succ_pos _

/-- **What is left to do** does not become more. -/
lemma upkeep_le (h : Spends True 0 page mid) (hsize : mid.nodes.length + mid.weight ≤ size) :
    mid.upkeep size ≤ page.upkeep size := by
  rcases Nat.lt_or_eq_of_le h.weight with hless | hsame
  · have hneeds : mid.needs size .drain < stride size * page.weight :=
      needs_lt h.branched hsize hless
    simp only [needs, upkeep] at hneeds ⊢
    omega
  · exact Nat.add_le_add (Nat.le_of_eq (by rw [hsame]; rfl))
      (Nat.mul_le_mul_left _ (h.waits trivial hsame))

end Depths

/-- **Calls of the next level** come to an end if a depth is enough for what they need. -/
def Grants (size depth : Nat) (deeper : Deeper) : Prop :=
  ∀ call page, page.Branched → page.nodes.length + page.weight + call.weight ≤ size → call.Apt page →
    page.needs size call ≤ depth →
    Leads true (deeper call) page fun _ after =>
      Spends (page.queue.busy = false) call.weight page after

section Steps

variable {size depth : Nat} (h : Grants size depth deeper) (hbranched : page.Branched)

include h

lemma Grants.sustains {most : Nat} (hdepth : stride size * most ≤ depth + 1) : Sustains most size deeper := by
  intro command now hnow hless hsize
  have hneeds : now.needs size (.command command) < stride size * most :=
    needs_lt hnow (by omega) hless
  refine (h (.command command) now hnow hsize trivial (by omega)).mono fun _ _ hafter => ?_
  exact hafter.weaken False.elim

include hbranched

lemma command_ends {command : Command}
    (hsize : page.nodes.length + page.weight + command.weight ≤ size)
    (hneeds : page.needs size (.command command) ≤ depth + 1) :
    Leads true (perform deeper command) page fun _ after =>
      Spends (page.queue.busy = false) command.weight page after := by
  have hpos := command.weight_pos
  have hdepth : stride size * (page.weight + (command.weight - 1)) ≤ depth + 1 :=
    Nat.le_trans (Nat.mul_le_mul_left _ (by omega)) hneeds
  have hrefresh : ∀ id now, id < now.nodes.length →
      Ends (page.weight + (command.weight - 1)) size False 0 now (deeper (.refresh id)) := by
    intro id now hid hfits
    have hweight := hfits.weight
    have hless : now.needs size (.refresh id) < stride size * (page.weight + command.weight) :=
      needs_lt hfits.branched hfits.size (by show now.weight < _; omega)
    refine (h (.refresh id) now hfits.branched hfits.size hid ?_).mono fun _ _ hafter => ?_
    · exact Nat.le_of_lt_succ (Nat.lt_of_lt_of_le hless hneeds)
    · exact hafter.weaken False.elim
  exact (perform_ends (h.sustains hdepth) hrefresh command ⟨hbranched, Nat.le_refl _, hsize⟩).mono
    fun _ _ hafter => hafter.pay (Nat.le_refl _) hpos

lemma refresh_ends (hsize : page.nodes.length + page.weight ≤ size) (hid : id < page.nodes.length)
    (hneeds : page.needs size (.refresh id) ≤ depth + 1) :
    Leads true (refresh deeper id) page fun _ after => Spends (page.queue.busy = false) 0 page after := by
  cases hbusy : page.queue.busy with
  | true => exact hbusy ▸ refresh_waits hbranched hid hbusy
  | false =>
      simp only [needs] at hneeds
      have hsustains : Sustains page.weight size deeper := h.sustains (by rw [upkeep] at hneeds; omega)
      refine (turn_ends hsustains hbusy (fun child mid hyounger hchild hmid hfits => ?_)
        (fun mid hfree hmid hfits => ?_) ⟨hbranched, Nat.le_refl _, hsize⟩).mono
        fun _ _ hafter => hafter.weaken fun _ => trivial
      · have hupkeep := upkeep_le hmid hfits.size
        have hcloser : size - child < size - id :=
          Nat.sub_lt_sub_left (Nat.lt_of_lt_of_le hid (Nat.le_trans (Nat.le_add_right ..) hsize)) hyounger
        refine (h (.refresh child) mid hfits.branched hfits.size hchild ?_).mono fun _ _ hafter => ?_
        · simp only [needs]
          omega
        · exact hafter.weaken fun _ => hmid.busy.trans hbusy
      · have hupkeep := upkeep_le hmid hfits.size
        refine (h .drain mid hfits.branched hfits.size hfree ?_).mono fun _ _ hafter => ?_
        · simp only [needs]
          omega
        · exact hafter.weaken fun _ => hfree

lemma drain_ends (hsize : page.nodes.length + page.weight ≤ size) (hfree : page.queue.busy = false)
    (hneeds : page.needs size .drain ≤ depth + 1) :
    Leads true (drain deeper) page fun _ after => Spends True 0 page after := by
  simp only [drain, leads_bind, leads_get]
  cases hpending : page.queue.pending with
  | nil => exact .refl True hbranched
  | cons id rest =>
      simp only [leads_bind, leads_set, leads_discard]
      have hid : id < page.nodes.length := hbranched.waiting id (hpending ▸ List.mem_cons_self ..)
      have hcalled : Spends True 0 page (page.called rest) := .called hbranched hpending
      have hless : (page.called rest).upkeep size + (size + 2) = page.upkeep size := by
        rw [upkeep, upkeep, hpending, List.length_cons, Nat.mul_succ, Nat.add_assoc]
        rfl
      simp only [needs] at hneeds
      refine (h (.refresh id) (page.called rest) hcalled.branched hsize hid ?_).mono fun _ mid hmid => ?_
      · simp only [needs]
        omega
      · have hsofar : Spends True 0 (page.called rest) mid := hmid.weaken fun _ => hfree
        have hmidFree : mid.queue.busy = false := hsofar.busy.trans hfree
        have hupkeep := upkeep_le hsofar (Nat.le_trans hsofar.size hsize)
        refine (h .drain mid hsofar.branched (Nat.le_trans hsofar.size hsize) hmidFree ?_).mono
          fun _ after hafter => (hcalled.before hsofar).before (hafter.weaken fun _ => hmidFree)
        simp only [needs]
        omega

end Steps

/-- **Calls of any depth** come to an end if they are granted what they need. -/
theorem exec_ends (size depth : Nat) : Grants size depth (exec depth) := by
  induction depth with
  | zero =>
      intro call page _ _ _ hneeds
      exact absurd (page.needs_pos size call) (Nat.not_lt.2 hneeds)
  | succ depth ih =>
      intro call page hbranched hsize hapt hneeds
      cases call with
      | command command => exact command_ends ih hbranched hsize hneeds
      | refresh id =>
          simp only [exec, step, leads_bind, leads_pure]
          exact refresh_ends ih hbranched hsize hapt hneeds
      | drain =>
          simp only [exec, step, leads_bind, leads_pure]
          exact (drain_ends ih hbranched hsize hapt hneeds).mono fun _ _ hafter =>
            hafter.weaken fun _ => trivial

/-- **The depth that a page grants** is what its commands need. -/
lemma needs_le_depthFor (page : Page) (command : Command) :
    page.needs (page.nodes.length + page.weight + command.weight) (.command command) ≤
      page.depthFor command := by
  simp only [needs, depthFor]
  generalize htotal : page.nodes.length + page.weight + command.weight = total
  generalize hsize : page.weight + command.weight + page.nodes.length + page.queue.pending.length + 4 = size
  have hstride : stride total ≤ size * size :=
    calc (total + 2) * total + total + 3
      _ ≤ (total + 4) * (total + 4) := by simp only [Nat.add_mul, Nat.mul_add]; omega
      _ ≤ size * size := Nat.mul_le_mul (by omega) (by omega)
  calc stride total * (page.weight + command.weight)
    _ ≤ size * size * size := Nat.mul_le_mul hstride (by omega)
    _ ≤ size * size * size * size := Nat.le_mul_of_pos_right _ (by omega)

/-! ## Commands from outside -/

lemma run_ends (h : page.Branched) (command : Command) :
    ∃ answer after, page.run command = some (answer, after) ∧ after.Branched := by
  obtain ⟨answer, after, hrun, hafter⟩ :=
    (exec_ends _ _ (.command command) page h (Nat.le_refl _) trivial
      (page.needs_le_depthFor command)).exists_eq
  exact ⟨answer, after, hrun, hafter.branched⟩

/-- Numbers go up on all pages that commands lead to. -/
lemma Reached.branched (h : page.Reached) : page.Branched := by
  induction h with
  | start history => exact .start history
  | configured config _ _ ih => exact ⟨ih.there, ih.younger, ih.waiting, ih.once⟩
  | counting count _ ih => exact ⟨ih.there, ih.younger, ih.waiting, ih.once⟩
  | @step page after command answer _ hrun ih =>
      obtain ⟨answer', after', hends, hbranched⟩ := run_ends ih command
      rw [hrun] at hends
      cases hends
      exact hbranched

/-- **Every command comes to an end**, whatever listeners and hooks there are and whatever they do. -/
theorem run_returns (h : page.Reached) (command : Command) : (page.run command).isSome := by
  obtain ⟨answer, after, hrun, -⟩ := run_ends h.branched command
  rw [hrun]
  rfl

end Page

end PageRouter
