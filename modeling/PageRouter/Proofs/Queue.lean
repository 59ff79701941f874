import PageRouter.Proofs.Leads

/-!
# Who waits

A page's list of waiting nodes changes in two places only: a node is put in while the document is
busy, and taken out when its turn comes.  Everything else that a page does touches the list at most
through the calls that it makes (`perform_alike`).

`execChecked` carries out calls as `Page.exec` does, but refuses to go on if a node waits twice when a
call begins or when it ends.  It never has a reason to refuse (`execChecked_eq`), so no node ever
waits twice: between the beginnings and ends of calls the list does not change.
-/

namespace PageRouter.Page

variable {α β : Type} {I : List NodeId → Prop}

/-! ## Computations that do alike -/

/-- On this page both computations do the same, and they keep what is known of who waits. -/
def AlikeAt (I : List NodeId → Prop) (c c' : PageM α) (page : Page) : Prop :=
  I page.queue.pending →
    c page = c' page ∧ ∀ a after, c page = some (a, after) → I after.queue.pending

/-- **Both computations do the same**, and they keep what is known of who waits. -/
def Alike (I : List NodeId → Prop) (c c' : PageM α) : Prop :=
  ∀ page, AlikeAt I c c' page

lemma AlikeAt.bind {c c' : PageM α} {f f' : α → PageM β} {page : Page} (h : AlikeAt I c c' page)
    (hf : ∀ a, Alike I (f a) (f' a)) : AlikeAt I (c >>= f) (c' >>= f') page := by
  intro hI
  obtain ⟨heq, hkeeps⟩ := h hI
  simp only [bind_apply, ← heq]
  cases hc : c page with
  | none => exact ⟨rfl, fun _ _ h => by cases h⟩
  | some result =>
      obtain ⟨a, after⟩ := result
      exact hf a after (hkeeps a after hc)

lemma Alike.bind {c c' : PageM α} {f f' : α → PageM β} (h : Alike I c c')
    (hf : ∀ a, Alike I (f a) (f' a)) : Alike I (c >>= f) (c' >>= f') :=
  fun page => (h page).bind hf

/-- What is read from the page is known to be its own. -/
lemma Alike.get_bind {f f' : Page → PageM β} (hf : ∀ page, AlikeAt I (f page) (f' page) page) :
    Alike I (get >>= f) (get >>= f') :=
  fun page => hf page

lemma Alike.pure (a : α) : Alike I (pure a) (pure a) := by
  intro page hI
  refine ⟨rfl, ?_⟩
  rintro _ _ ⟨⟩
  exact hI

lemma Alike.discard {c c' : PageM α} (h : Alike I c c') : Alike I (discard c) (discard c') := by
  intro page hI
  obtain ⟨heq, hkeeps⟩ := h page hI
  have hmap : ∀ c : PageM α, (Functor.discard c : PageM Unit) page = (c page).map fun r => ((), r.2) := by
    intro c
    show ((c page).bind fun r => some (Function.const α () r.1, r.2)) = _
    cases c page <;> rfl
  rw [hmap, hmap, ← heq]
  refine ⟨rfl, fun a after hafter => ?_⟩
  obtain ⟨⟨b, _⟩, hb, heq⟩ := Option.map_eq_some_iff.1 hafter
  obtain ⟨rfl, rfl⟩ := Prod.mk.inj heq
  exact hkeeps b _ hb

lemma AlikeAt.write {new page : Page} (h : I page.queue.pending → I new.queue.pending) :
    AlikeAt I (set new) (set new) page := by
  intro hI
  refine ⟨rfl, ?_⟩
  rintro _ _ ⟨⟩
  exact h hI

lemma AlikeAt.write_of_eq {new page : Page} (h : new.queue.pending = page.queue.pending) :
    AlikeAt I (set new) (set new) page :=
  .write fun hI => by rwa [h]

lemma Alike.modify {f : Page → Page} (h : ∀ page, (f page).queue.pending = page.queue.pending) :
    Alike I (modify f) (modify f) := by
  intro page hI
  refine ⟨rfl, ?_⟩
  rintro _ _ ⟨⟩
  rw [h]
  exact hI

lemma Alike.note (event : PageEvent) : Alike I (note event) (note event) :=
  .modify fun _ => rfl

lemma Alike.ite {P : Prop} [Decidable P] {c c' d d' : PageM α} (hc : Alike I c c')
    (hd : Alike I d d') : Alike I (if P then c else d) (if P then c' else d') := by
  split
  · exact hc
  · exact hd

lemma pending_modifySignal (page : Page) (ref : SignalRef)
    (change : Signal Listener → Signal Listener) :
    (page.modifySignal ref change).queue.pending = page.queue.pending := by cases ref <;> rfl

/-! ## Reactions and tellings -/

section Calls

variable {deeper deeper' : Deeper} (h : ∀ call, Alike I (deeper call) (deeper' call))

include h

lemma performAll_alike (commands : List Command) :
    Alike I (performAll deeper commands) (performAll deeper' commands) := by
  induction commands with
  | nil => exact .pure ()
  | cons command rest ih =>
      exact (h (.command command)).bind fun answer => (Alike.note _).bind fun _ => ih

omit h in
lemma offer_alike {τ : Type} {current : PageM (List (Reaction τ Command))} {use : Nat → PageM Unit}
    {due : τ → Bool} {perform perform' : List Command → PageM Unit}
    (hcurrent : Alike I current current) (huse : ∀ index, Alike I (use index) (use index))
    (hperform : ∀ commands, Alike I (perform commands) (perform' commands)) (indices : List Nat) :
    Alike I (Reaction.offer current use due perform indices)
      (Reaction.offer current use due perform' indices) := by
  induction indices with
  | nil => exact .pure ()
  | cons index rest ih =>
      refine hcurrent.bind fun reactions => ?_
      cases reactions[index]? with
      | none => exact ih
      | some reaction =>
          refine Alike.ite ?_ ih
          exact (huse index).bind fun _ => (hperform reaction.commands).bind fun _ => ih

lemma tellWatcher_alike (place : Nat) (event : Text → PageEvent) (key : Text) :
    Alike I (tellWatcher deeper place event key) (tellWatcher deeper' place event key) := by
  refine Alike.get_bind fun page => ?_
  cases page.watchers[place]? with
  | none => exact Alike.pure () page
  | some watcher =>
      refine ((Alike.note _).bind fun _ => offer_alike ?_ ?_ (performAll_alike h) _) page
      · exact Alike.get_bind fun page => Alike.pure _ page
      · exact fun index => .modify fun _ => rfl

omit h in
lemma emit_alike {current : PageM (Signal Listener)} {call call' : Listener → PageM Unit}
    (hcurrent : Alike I current current) (hcall : ∀ listener, Alike I (call listener) (call' listener)) :
    Alike I (Signal.emit current call) (Signal.emit current call') := by
  refine hcurrent.bind fun signal => ?_
  induction signal.listeners with
  | nil => exact .pure ()
  | cons entry rest ih =>
      obtain ⟨number, listener⟩ := entry
      refine hcurrent.bind fun now => Alike.ite ?_ ih
      exact (hcall listener).bind fun _ => ih

lemma notify_alike (kind : NavigationKind) (source : Option Text) :
    Alike I (notify deeper kind source) (notify deeper' kind source) := by
  refine Alike.get_bind fun page => (emit_alike ?_ fun listener => ?_) page
  · exact Alike.get_bind fun page => Alike.pure _ page
  · cases listener with
    | node id => exact (h (.refresh id)).discard
    | watcher place =>
        exact tellWatcher_alike h place (.location place · ⟨page.url, kind, source⟩) page.url

lemma emitTail_alike (id : NodeId) (tail : Option Tail) :
    Alike I (emitTail deeper id tail) (emitTail deeper' id tail) := by
  refine emit_alike ?_ fun listener => ?_
  · exact Alike.get_bind fun page => Alike.pure _ page
  · cases listener with
    | node id =>
        refine Alike.bind (.modify fun _ => rfl) fun _ => ?_
        exact (h (.refresh id)).discard
    | watcher place => exact tellWatcher_alike h place (.tail place · tail) (tailKey tail)

/-! ## The document -/

lemma runHooks_alike (moment : Moment) (tag : Text) :
    Alike I (runHooks deeper moment tag) (runHooks deeper' moment tag) := by
  refine Alike.get_bind fun page => offer_alike ?_ ?_ (performAll_alike h) _ page
  · exact Alike.get_bind fun page => Alike.pure _ page
  · exact fun index => .modify fun _ => rfl

omit h in
lemma record_alike (event : HostEvent) (change : Document → Document) :
    Alike I (record event change) (record event change) := .modify fun _ => rfl

omit h in
lemma append_alike (target : Option Text) (serial : Nat) :
    Alike I ((host deeper).append target serial) ((host deeper').append target serial) :=
  record_alike (.appended target serial) (·.append serial)

omit h in
lemma remove_alike (serial : Nat) :
    Alike I ((host deeper).remove serial) ((host deeper').remove serial) :=
  record_alike (.removed serial) (·.remove serial)

lemma activated_alike (element : Element) :
    Alike I ((host deeper).activated element) ((host deeper').activated element) :=
  (record_alike _ _).bind fun _ => runHooks_alike h _ _

lemma deactivate_alike (cache : ElementCache) :
    Alike I (cache.deactivate (host deeper)) (cache.deactivate (host deeper')) := by
  simp only [ElementCache.deactivate]
  cases cache.activeElement with
  | none => exact .pure _
  | some element =>
      have hdeactivating : Alike I ((host deeper).deactivating element)
          ((host deeper').deactivating element) :=
        (record_alike _ _).bind fun _ => (runHooks_alike h _ _).bind fun _ =>
          Alike.get_bind fun page => Alike.pure _ page
      refine hdeactivating.bind fun removes => Alike.ite ?_ (.pure _)
      exact (remove_alike _).bind fun _ => .pure _

lemma update_alike (cache : ElementCache) (outcome : Outcome) (parent : Option Tail) :
    Alike I (cache.update (host deeper) outcome parent)
      (cache.update (host deeper') outcome parent) := by
  cases outcome with
  | none => exact .ite ((deactivate_alike h cache).bind fun _ => .pure _) (.pure _)
  | some found =>
      refine .ite (.pure _) (Alike.bind ?_ fun _ => .pure _)
      refine (deactivate_alike h cache).bind fun cache => ?_
      have helement : ∀ kept, Alike I
          (ElementCache.elementFor (host deeper) cache.tag kept found parent)
          (ElementCache.elementFor (host deeper') cache.tag kept found parent) := by
        intro kept
        cases kept with
        | some element => exact .pure _
        | none =>
            refine Alike.bind (Alike.get_bind fun page => ?_) fun _ => .pure _
            exact ((record_alike _ _).bind fun _ => .pure _) page
      exact (helement _).bind fun element => (append_alike _ _).bind fun _ =>
        (activated_alike h element).bind fun _ => .pure _

/-! ## Commands -/

lemma goTo_alike (replaces : Bool) (url : Text) (source : Option Text) :
    Alike I (goTo deeper replaces url source) (goTo deeper' replaces url source) := by
  cases replaces with
  | true => exact Alike.bind (.modify fun _ => rfl) fun _ => notify_alike h _ _
  | false => exact Alike.bind (.modify fun _ => rfl) fun _ => notify_alike h _ _

lemma travel_alike (step? : History → Option History) :
    Alike I (travel deeper step?) (travel deeper' step?) := by
  refine Alike.get_bind fun page => ?_
  cases step? page.history with
  | none => exact Alike.pure _ page
  | some history =>
      refine AlikeAt.bind (Alike.modify ?_ page) fun _ => ?_
      · exact fun _ => rfl
      · exact (notify_alike h .popState none).bind fun _ => .pure _

lemma updateQuery_alike (updates : List Query.Update) :
    Alike I (updateQuery deeper updates) (updateQuery deeper' updates) := by
  refine Alike.get_bind fun page => ?_
  cases updatedUrl? page.url updates with
  | none => exact Alike.pure _ page
  | some url => exact ((goTo_alike h true url none).bind fun _ => .pure _) page

lemma followLink_alike (href : Text) (replaces : Bool) :
    Alike I (followLink deeper href replaces) (followLink deeper' href replaces) := by
  refine Alike.get_bind fun page => ?_
  cases page.resolve href with
  | error fault => exact Alike.pure _ page
  | ok url => exact ((goTo_alike h replaces url none).bind fun _ => .pure _) page

lemma handleClick_alike (click : Click) :
    Alike I (handleClick deeper click) (handleClick deeper' click) := by
  refine Alike.get_bind fun page => ?_
  cases page.interceptClick click with
  | error reason => exact Alike.pure _ page
  | ok target => exact ((goTo_alike h target.2 target.1 none).bind fun _ => .pure _) page

lemma navigateTo_alike (node : Node) (options : NavigateOptions) :
    Alike I (navigateTo deeper node options) (navigateTo deeper' node options) := by
  refine Alike.get_bind fun page => ?_
  cases navigationUrl page.root node options with
  | error error => exact Alike.pure _ page
  | ok url => exact ((goTo_alike h options.replaces url _).bind fun _ => .pure _) page

lemma attach_alike (route : Route) (parent : Option (NodeId × Node)) :
    Alike I (attach deeper route parent) (attach deeper' route parent) := by
  refine Alike.get_bind fun page => ?_
  cases route.compiled with
  | error error => exact Alike.pure _ page
  | ok pattern =>
      cases route.tag with
      | error error => exact Alike.pure _ page
      | ok tag =>
          cases page.registry.add { route with place := placeBelow (parent.map (·.2)) } with
          | error error => exact Alike.pure _ page
          | ok added =>
              refine AlikeAt.bind (.write_of_eq (pending_modifySignal ..)) fun _ => ?_
              exact ((h (.refresh _)).discard).bind fun _ => .pure _

lemma teardown_alike (id : NodeId) : Alike I (teardown deeper id) (teardown deeper' id) := by
  refine Alike.get_bind fun page => ?_
  have hroute : Alike I (do return (← get).nodes[id]?.map (·.route) : PageM (Option Route)) _ :=
    Alike.get_bind fun page => Alike.pure _ page
  cases page.nodes[id]? with
  | none => exact Alike.pure _ page
  | some node =>
      cases hmounted : node.mounted with
      | false =>
          simp only [hmounted]
          exact hroute page
      | true =>
          simp only [hmounted]
          refine AlikeAt.bind (.write_of_eq (pending_modifySignal ..)) fun _ => ?_
          refine (deactivate_alike h node.cache).bind fun cache => ?_
          exact Alike.bind (.modify fun _ => rfl) fun _ => (emitTail_alike h id none).bind fun _ => hroute

omit h in
lemma takeRoute_alike (source : RouteSource) : Alike I (takeRoute source) (takeRoute source) := by
  cases source with
  | fresh route => exact .pure _
  | stored name =>
      refine Alike.get_bind fun page => AlikeAt.bind (Alike.modify ?_ page) fun _ => .pure _
      exact fun _ => rfl

lemma mountAs_alike (name : Text) (parent : Option Text) (source : RouteSource) :
    Alike I (mountAs deeper name parent source) (mountAs deeper' name parent source) := by
  refine (takeRoute_alike source).bind fun route => ?_
  cases route with
  | none => exact .pure _
  | some route =>
      refine Alike.get_bind fun page => ?_
      cases page.parentFor parent with
      | error name => exact Alike.pure _ page
      | ok parent =>
          refine ((attach_alike h route parent).bind fun result => ?_) page
          cases result with
          | error error => exact .pure _
          | ok ids =>
              refine Alike.get_bind fun page => AlikeAt.bind (Alike.modify ?_ page) fun _ => ?_
              · exact fun _ => rfl
              cases page.mounted? name with
              | none => exact .pure _
              | some old => exact (teardown_alike h old.1).discard.bind fun _ => .pure _

lemma unmountNamed_alike (name : Text) :
    Alike I (unmountNamed deeper name) (unmountNamed deeper' name) := by
  refine Alike.get_bind fun page => ?_
  cases page.mounted? name with
  | none => exact Alike.pure _ page
  | some found =>
      refine AlikeAt.bind (Alike.modify ?_ page) fun _ => teardown_alike h found.1
      exact fun _ => rfl

omit h in
lemma withMounted_alike {name : Text} {action action' : NodeId → Node → PageM Answer}
    (haction : ∀ id node, Alike I (action id node) (action' id node)) :
    Alike I (withMounted name action) (withMounted name action') := by
  refine Alike.get_bind fun page => ?_
  cases page.mounted? name with
  | none => exact Alike.pure _ page
  | some found => exact haction found.1 found.2 page

omit h in
lemma withStored_alike {name : Text} {action : Route → PageM Answer}
    (haction : ∀ route, Alike I (action route) (action route)) :
    Alike I (withStored name action) (withStored name action) := by
  refine Alike.get_bind fun page => ?_
  cases page.stored? name with
  | none => exact Alike.pure _ page
  | some route => exact haction route page

omit h in
lemma unwatchNamed_alike (name : Text) : Alike I (unwatchNamed name) (unwatchNamed name) := by
  refine Alike.get_bind fun page => ?_
  cases lookup? name page.directory.subscriptions with
  | none => exact Alike.pure _ page
  | some subscription =>
      exact AlikeAt.bind (.write_of_eq (pending_modifySignal ..)) fun _ => .pure _

omit h in
lemma watch_alike (name : Text) (ref : SignalRef) (reactions : List Watch) :
    Alike I (watch name ref reactions) (watch name ref reactions) := by
  refine Alike.get_bind fun page => AlikeAt.bind (.write_of_eq (pending_modifySignal ..)) fun _ => ?_
  exact (unwatchNamed_alike name).discard.bind fun _ => .modify fun _ => rfl

/-- **A command touches the list of waiting nodes by its calls alone.** -/
theorem perform_alike (command : Command) :
    Alike I (perform deeper command) (perform deeper' command) := by
  cases command with
  | setRoot root =>
      refine Alike.bind (Alike.get_bind fun page => ?_) fun _ => .pure _
      cases page.root? with
      | none => exact AlikeAt.bind (.write_of_eq rfl) fun _ => .pure _
      | some current => exact Alike.pure _ page
  | push url source => exact (goTo_alike h false url source).bind fun _ => .pure _
  | replace url source => exact (goTo_alike h true url source).bind fun _ => .pure _
  | updateQuery updates => exact (updateQuery_alike h updates).bind fun _ => .pure _
  | follow href replaces => exact (followLink_alike h href replaces).bind fun _ => .pure _
  | back => exact (travel_alike h _).bind fun _ => .pure _
  | forward => exact (travel_alike h _).bind fun _ => .pure _
  | popState => exact (notify_alike h _ _).bind fun _ => .pure _
  | pageLoad => exact (notify_alike h _ _).bind fun _ => .pure _
  | intercept enabled => exact Alike.bind (.modify fun _ => rfl) fun _ => .pure _
  | click click => exact handleClick_alike h click
  | mount name parent source => exact mountAs_alike h name parent source
  | unmount name =>
      refine (unmountNamed_alike h name).bind fun route => ?_
      cases route with
      | none => exact .pure _
      | some route => exact Alike.bind (.modify fun _ => rfl) fun _ => .pure _
  | drop name => exact (unmountNamed_alike h name).discard.bind fun _ => .pure _
  | refresh name =>
      exact withMounted_alike fun id _ => (h (.refresh id)).discard.bind fun _ => .pure _
  | setCacheCount name count =>
      exact withMounted_alike fun _ _ => Alike.bind (.modify fun _ => rfl) fun _ => .pure _
  | navigate name options =>
      exact withMounted_alike fun _ node => (navigateTo_alike h node options).bind fun _ => .pure _
  | lastMatch name => exact withMounted_alike fun _ _ => .pure _
  | store name route => exact Alike.bind (.modify fun _ => rfl) fun _ => .pure _
  | showRoute name => exact withStored_alike fun _ => .pure _
  | setPattern name pattern =>
      refine withStored_alike fun route => ?_
      cases route.setPattern pattern with
      | error error => exact .pure _
      | ok route => exact Alike.bind (.modify fun _ => rfl) fun _ => .pure _
  | register name =>
      refine withStored_alike fun route => Alike.get_bind fun page => ?_
      cases page.registry.add route with
      | error error => exact Alike.pure _ page
      | ok added => exact AlikeAt.bind (.write_of_eq rfl) fun _ => .pure _
  | unregister name =>
      exact withStored_alike fun route => Alike.get_bind fun page =>
        AlikeAt.bind (.write_of_eq rfl) fun _ => .pure _
  | matchRoute name =>
      exact withStored_alike fun route => Alike.get_bind fun page => Alike.pure _ page
  | watchLocation name reactions => exact (watch_alike _ _ _).bind fun _ => .pure _
  | watchTail name route reactions =>
      exact withMounted_alike fun _ _ => (watch_alike _ _ _).bind fun _ => .pure _
  | unwatch name => exact (unwatchNamed_alike name).bind fun _ => .pure _
  | veto veto => exact Alike.bind (.modify fun _ => rfl) fun _ => .pure _
  | setHooks hooks => exact Alike.bind (.modify fun _ => rfl) fun _ => .pure _
  | describe what =>
      cases what with
      | controller => exact Alike.get_bind fun page => Alike.pure _ page
      | router => exact Alike.get_bind fun page => Alike.pure _ page
      | route name => exact withMounted_alike fun _ _ => .pure _

end Calls

/-! ## Calls that are checked -/

/-- A node that has to wait is put in unless it waits already. -/
lemma refresh_alike {deeper deeper' : Deeper}
    (h : ∀ call, Alike List.Nodup (deeper call) (deeper' call)) (id : NodeId) :
    Alike List.Nodup (refresh deeper id) (refresh deeper' id) := by
  refine Alike.get_bind fun page => ?_
  cases page.queue.busy with
  | true =>
      refine AlikeAt.write fun hunique => ?_
      show (page.queue.defer id).pending.Nodup
      unfold RefreshQueue.defer
      split
      · exact hunique
      · next hnot =>
        rw [List.nodup_append]
        refine ⟨hunique, List.pairwise_singleton .., ?_⟩
        rintro other hother _ hid rfl
        exact hnot (List.mem_singleton.1 hid ▸ hother)
  | false =>
      cases page.nodes[id]? with
      | none => exact Alike.pure _ page
      | some node =>
          cases hmounted : node.mounted with
          | false => simp only [hmounted]; exact Alike.pure _ page
          | true =>
              simp only [hmounted]
              refine AlikeAt.bind (Alike.modify ?_ page) fun _ =>
                (update_alike h node.cache _ _).bind fun result => ?_
              · exact fun _ => rfl
              refine Alike.bind (.modify fun _ => rfl) fun _ => Alike.bind (.modify ?_) fun _ => ?_
              · exact fun _ => rfl
              exact (Alike.note _).bind fun _ => (emitTail_alike h id _).bind fun _ =>
                (h .drain).discard

/-- A node whose turn comes is taken out. -/
lemma drain_alike {deeper deeper' : Deeper}
    (h : ∀ call, Alike List.Nodup (deeper call) (deeper' call)) :
    Alike List.Nodup (drain deeper) (drain deeper') := by
  refine Alike.get_bind fun page => ?_
  cases hpending : page.queue.pending with
  | nil => simp only; exact Alike.pure _ page
  | cons id rest =>
      simp only
      refine AlikeAt.bind (.write fun hunique => ?_) fun _ =>
        ((h (.refresh id)).discard).bind fun _ => (h .drain).discard
      rw [hpending] at hunique
      exact hunique.of_cons

lemma step_alike {deeper deeper' : Deeper}
    (h : ∀ call, Alike List.Nodup (deeper call) (deeper' call)) (call : Call) :
    Alike List.Nodup (step deeper call) (step deeper' call) := by
  cases call with
  | command command => exact perform_alike h command
  | refresh id => exact (refresh_alike h id).bind fun _ => .pure _
  | drain => exact (drain_alike h).bind fun _ => .pure _

/-- A call that refuses to go on if a node waits twice when it begins or when it ends. -/
def checked (call : PageM Answer) : PageM Answer := do
  if (← get).queue.pending.Nodup then
    let answer ← call
    if (← get).queue.pending.Nodup then return answer else failure
  else failure

def execChecked : Nat → Call → PageM Answer
  | 0, _ => failure
  | depth + 1, call => checked (step (execChecked depth) call)

def runChecked (page : Page) (command : Command) : Option (Answer × Page) :=
  (execChecked (page.depthFor command) (.command command)).run page

lemma Alike.checked {c c' : PageM Answer} (h : Alike List.Nodup c c') :
    Alike List.Nodup c (checked c') := by
  intro page hunique
  obtain ⟨heq, hkeeps⟩ := h page hunique
  refine ⟨?_, hkeeps⟩
  show _ = (if page.queue.pending.Nodup then _ else _ : PageM Answer) page
  rw [if_pos hunique, bind_apply, ← heq]
  cases hc : c page with
  | none => rfl
  | some result =>
      obtain ⟨answer, after⟩ := result
      show _ = (if after.queue.pending.Nodup then _ else _ : PageM Answer) after
      rw [if_pos (hkeeps answer after hc)]
      rfl

lemma execChecked_alike (depth : Nat) (call : Call) :
    Alike List.Nodup (exec depth call) (execChecked depth call) := by
  induction depth generalizing call with
  | zero => exact fun page _ => ⟨rfl, fun _ _ h => by cases h⟩
  | succ depth ih => exact (step_alike ih call).checked

/-- **No node ever waits twice**: no call has a reason to refuse. -/
theorem runChecked_eq {page : Page} (h : page.queue.pending.Nodup) (command : Command) :
    page.runChecked command = page.run command :=
  ((execChecked_alike (page.depthFor command) (.command command)) page h).1.symm

end PageRouter.Page
