import PageRouter.Proofs.Hooks

/-!
# What single commands do

* An inert command always ends, keeps a page steady and changes nothing that matching looks at
  (`perform_inert`).
* A command that navigates is refused and changes nothing, or it makes one change of the history and
  tells everyone (`perform_makes`, `perform_navigates`).
-/

namespace PageRouter

open Page

/-- **What it takes to tell a change of a kind**: how the history changes first. -/
def History.Step : NavigationKind → History → History → Prop
  | .pushState, before, after => ∃ url, after = before.push url
  | .replaceState, before, after => ∃ url, after = before.replace url
  | .popState, before, after =>
    before.back? = some after ∨ before.forward? = some after ∨ after = before
  | .pageLoad, before, after => after = before

/-- The answer says that nothing was done. -/
def Answer.isRefusal : Answer → Bool
  | .flag value => !value
  | .ignored _ _ | .failed _ | .unknown _ => true
  | _ => false

namespace Page

variable {kind : Command → Bool} {scope : Scope} {page after : Page} {deeper : Deeper}

/-! ## Inert commands -/

/-- The page after an inert change. -/
structure Inert (kind : Command → Bool) (scope : Scope) (page after : Page) : Prop where
  /-- It is as steady as before. -/
  steady : Steady kind scope after
  /-- Nothing changed that matching looks at. -/
  same : Same page after

lemma Inert.refl (h : Steady kind scope page) : Inert kind scope page page := ⟨h, Same.refl page⟩

lemma Inert.trans {last : Page} (h : Inert kind scope page after)
    (h' : Inert kind scope after last) : Inert kind scope page last :=
  ⟨h'.steady, h.same.trans h'.same⟩

lemma Inert.of_aside (h : Steady kind scope page) (haside : Aside page after)
    (hobeys : Obeys kind scope page → Obeys kind scope after) : Inert kind scope page after :=
  ⟨h.aside haside hobeys, haside.same⟩

/-- Fields changed that neither matching nor hooks nor listeners depend on. -/
lemma Inert.of_eq (h : Steady kind scope page) (haside : Aside page after)
    (hhooks : after.hooks = page.hooks) (hfirst : after.firstHook = page.firstHook)
    (hwatchers : after.watchers = page.watchers) : Inert kind scope page after :=
  .of_aside h haside fun hobeys => hobeys.of_eq hhooks hfirst hwatchers fun ref _ _ hmem => by
    rwa [haside.signal] at hmem

lemma Steady.renamed (h : Steady kind scope page) (mounted : List (Text × NodeId))
    (stored : List (Text × Route)) : Steady kind scope
      { page with directory := { page.directory with mounted := mounted, stored := stored } } :=
  (Inert.of_eq h (.renamed page mounted stored) rfl rfl rfl).steady

lemma Inert.store (h : Steady kind scope page) (name : Text) (route : Route) :
    Inert kind scope page (page.store name route) :=
  .of_eq h (.renamed page _ _) rfl rfl rfl

/-- Changing the capacity of a node's cache. -/
lemma Inert.setCacheCount (h : Steady kind scope page) (id : NodeId) (count : Nat) :
    Inert kind scope page (page.modifyNode id fun node => { node with
      route := node.route.withCacheCount count
      cache := node.cache.setCapacity count }) := by
  refine ⟨⟨h.sound.modifyNode ?_ ?_ ?_ ?_, ?_⟩, .modifyNode ?_ ?_ page id⟩
  case refine_3 => exact fun _ _ => Iff.rfl
  case refine_4 => exact fun _ _ hnode => hnode.setCapacity count
  case refine_5 =>
    refine h.obeys.of_eq rfl rfl rfl fun ref _ _ hmem => ?_
    rw [signal_modifyNode] at hmem
    · exact hmem
    · exact fun _ => rfl
  all_goals exact fun _ => rfl

/-- Cancelling a listener that is no node takes no node's place. -/
lemma Inert.cancel (h : Steady kind scope page) {subscription : Subscription}
    (hapart : ∀ id, (subscription.number, id) ∉ (page.signal subscription.signal).nodes) :
    Inert kind scope page (page.cancel subscription) := by
  have hnodes := Signal.nodes_cancel_of_not_mem hapart
  refine ⟨⟨h.sound.modifySignal hnodes ?_ (Nat.le_refl _), ?_⟩, .modifySignal hnodes⟩
  · exact fun horderly => horderly.cancel _
  · refine h.obeys.of_eq ?_ ?_ ?_ fun ref number place hlistens => ?_
    any_goals simp [Page.cancel]
    by_cases hhas : page.HasSignal subscription.signal
    · by_cases href : subscription.signal = ref
      · subst href
        rw [Page.cancel, signal_modifySignal_self hhas] at hlistens
        exact (List.mem_filter.1 hlistens).1
      · rwa [Page.cancel, signal_modifySignal_ne href] at hlistens
    · rwa [Page.cancel, modifySignal_of_not_hasSignal hhas] at hlistens

lemma nextNumber_cancel (page : Page) (subscription : Subscription) (ref : SignalRef) :
    ((page.cancel subscription).signal ref).nextNumber = (page.signal ref).nextNumber := by
  by_cases hhas : page.HasSignal subscription.signal
  · by_cases href : subscription.signal = ref
    · subst href; rw [Page.cancel, signal_modifySignal_self hhas]; rfl
    · rw [Page.cancel, signal_modifySignal_ne href]
  · rw [Page.cancel, modifySignal_of_not_hasSignal hhas]

/-- Giving up the subscription of a name takes no node's place. -/
lemma unwatchNamed_inert (h : Steady kind scope page) (name : Text) :
    Leads true (unwatchNamed name) page fun _ after => Inert kind scope page after ∧
      ∀ ref, (after.signal ref).nextNumber = (page.signal ref).nextNumber := by
  simp only [unwatchNamed, leads_bind, leads_get]
  split
  · exact ⟨Inert.refl h, fun _ => rfl⟩
  · next subscription hlookup =>
    simp only [leads_bind, leads_set, leads_pure]
    have hmem : (name, subscription) ∈ page.directory.subscriptions := by
      obtain ⟨entry, hentry, rfl⟩ := Option.map_eq_some_iff.1 hlookup
      have hname : entry.1 = name := by simpa using List.find?_some hentry
      have := List.mem_of_find?_eq_some hentry
      rwa [← hname]
    have hcancelled : Inert kind scope page (page.cancel subscription) :=
      .cancel h (h.sound.apart _ hmem)
    refine ⟨hcancelled.trans (.of_eq hcancelled.steady ?_ rfl rfl rfl), fun ref => ?_⟩
    · refine ⟨rfl, rfl, rfl, rfl, rfl, rfl, fun entry hentry => ?_⟩
      rw [Page.cancel, directory_modifySignal]
      exact (List.mem_filter.1 hentry).1
    · rw [← nextNumber_cancel page subscription ref]
      exact congrArg _ (signal_congr rfl rfl ref)

/-- The page with one more listener from outside, which has no name yet. -/
def withWatcher (page : Page) (name : Text) (ref : SignalRef) (reactions : List Watch) : Page :=
  let came := (page.subscribe ref (.watcher page.watchers.length)).2
  { came with watchers := came.watchers ++ [Watcher.mk name reactions] }

lemma Inert.withWatcher (h : Steady kind scope page) (name : Text) (ref : SignalRef)
    {reactions : List Watch} (hreactions : ∀ reaction ∈ reactions, reaction.KeepsTo kind) :
    Inert kind scope page (page.withWatcher name ref reactions) := by
  have hnodes := (page.signal ref).nodes_subscribe_watcher page.watchers.length
  have hsound : (page.modifySignal ref (·.subscribe (.watcher page.watchers.length))).Sound :=
    h.sound.modifySignal hnodes (fun horderly => horderly.subscribe _)
      (Nat.le_succ (page.signal ref).nextNumber)
  have haside : Aside (page.modifySignal ref (·.subscribe (.watcher page.watchers.length)))
      (page.withWatcher name ref reactions) := ⟨rfl, rfl, rfl, rfl, rfl, rfl, fun _ => id⟩
  refine ⟨⟨haside.sound hsound, ?_⟩, (Same.modifySignal hnodes).trans haside.same⟩
  have hfields : (page.withWatcher name ref reactions).hooks = page.hooks ∧
      (page.withWatcher name ref reactions).firstHook = page.firstHook ∧
      (page.withWatcher name ref reactions).watchers
        = page.watchers ++ [Watcher.mk name reactions] := by
    simp [Page.withWatcher, Page.subscribe]
  obtain ⟨hhooks, hfirst, hwatchers⟩ := hfields
  refine ⟨?_, ?_, ?_, ?_, ?_, ?_⟩
  · rw [hhooks]; exact h.obeys.hooks
  · intro place watcher hmeant hplace
    rw [hwatchers] at hplace
    rcases Nat.lt_or_ge place page.watchers.length with hlt | hge
    · rw [List.getElem?_append_left hlt] at hplace
      exact h.obeys.watchers place watcher hmeant hplace
    · rw [List.getElem?_append_right hge] at hplace
      have := List.mem_of_getElem? hplace
      simp only [List.mem_singleton] at this
      rw [this]
      exact hreactions
  · rw [hfirst]; exact h.obeys.inForce
  · rw [hfirst, hhooks]; exact h.obeys.firstHook
  · intro other number place hlistens
    rw [haside.signal] at hlistens
    have hold := h.obeys.listening other number place
    by_cases hhas : page.HasSignal ref
    · by_cases hother : ref = other
      · subst hother
        rw [signal_modifySignal_self hhas] at hlistens
        simp only [Signal.subscribe, List.mem_append, List.mem_singleton, Prod.mk.injEq,
          Listener.watcher.injEq] at hlistens
        rcases hlistens with hlistens | ⟨-, rfl⟩
        · exact hold hlistens
        · exact h.obeys.coming _ (Nat.le_refl _)
      · rw [signal_modifySignal_ne hother] at hlistens
        exact hold hlistens
    · rw [modifySignal_of_not_hasSignal hhas] at hlistens
      exact hold hlistens
  · intro place hplace
    rw [hwatchers, List.length_append] at hplace
    exact h.obeys.coming place (Nat.le_trans (Nat.le_add_right _ _) hplace)

/-- A subscription gets a name, which is not a node's. -/
lemma Inert.named (h : Steady kind scope page) (name : Text) (subscription : Subscription)
    (hapart : ∀ id, (subscription.number, id) ∉ (page.signal subscription.signal).nodes)
    (hgiven : subscription.number < (page.signal subscription.signal).nextNumber) :
    Inert kind scope page { page with directory := { page.directory with
      subscriptions := bind name subscription page.directory.subscriptions } } := by
  have hsignal : ∀ ref, Page.signal { page with directory := { page.directory with
      subscriptions := bind name subscription page.directory.subscriptions } } ref
        = page.signal ref := signal_congr rfl rfl
  refine ⟨⟨h.sound.of_same ?_ ?_ h.sound.inLine ?_ ?_, ?_⟩, ?_⟩
  case refine_1 | refine_6 => exact ⟨rfl, rfl, fun ref => by rw [hsignal ref], rfl, rfl, rfl⟩
  · exact fun ref => hsignal ref ▸ h.sound.orderly ref
  · exact fun ref => Nat.le_of_eq (by rw [hsignal ref])
  · intro entry hentry
    simp only [bind, List.mem_append, List.mem_singleton] at hentry
    rcases hentry with hold | rfl
    · exact .inl (List.mem_filter.1 hold).1
    · exact .inr ⟨hapart, by rw [hsignal]; exact hgiven⟩
  · exact h.obeys.of_eq rfl rfl rfl fun ref _ _ hmem => by rwa [hsignal ref] at hmem

/-- A new listener gets a number of its own. -/
lemma watch_inert (h : Steady kind scope page) (name : Text) {ref : SignalRef}
    {reactions : List Watch} (hhas : page.HasSignal ref)
    (hreactions : ∀ reaction ∈ reactions, reaction.KeepsTo kind) :
    Leads true (watch name ref reactions) page fun _ after => Inert kind scope page after := by
  have hcame : Inert kind scope page (page.withWatcher name ref reactions) :=
    .withWatcher h name ref hreactions
  have hnext : ((page.withWatcher name ref reactions).signal ref).nextNumber
      = (page.signal ref).nextNumber + 1 := by
    have : (page.withWatcher name ref reactions).signal ref
        = (page.modifySignal ref (·.subscribe (.watcher page.watchers.length))).signal ref :=
      signal_congr rfl rfl ref
    rw [this, signal_modifySignal_self hhas]
    rfl
  simp only [watch, leads_bind, leads_get, leads_set, leads_discard, leads_modify]
  refine (unwatchNamed_inert hcame.steady name).mono fun _ before hbefore => ?_
  have hinert := hcame.trans hbefore.1
  refine hinert.trans (.named hinert.steady name _ (fun id hid => ?_) ?_)
  · rw [hinert.same.nodes, Signal.mem_nodes] at hid
    exact absurd ((h.sound.orderly ref).beyond _ hid) (Nat.lt_irrefl _)
  · rw [hbefore.2]
    exact Nat.lt_of_lt_of_eq (Nat.lt_succ_self _) hnext.symm

/-- **An inert command ends and changes nothing that matching looks at.** -/
theorem perform_inert (h : Steady kind scope page) {command : Command} (hinert : command.isInert)
    (hbrings : command.brings kind) :
    Leads true (perform deeper command) page fun _ after => Inert kind scope page after := by
  have hmounted : ∀ (name : Text) (action : NodeId → Node → PageM Answer),
      (∀ id node, page.nodes[id]? = some node → Leads true (action id node) page
        fun _ after => Inert kind scope page after) →
      Leads true (withMounted name action) page fun _ after => Inert kind scope page after := by
    intro name action haction
    simp only [withMounted, leads_bind, leads_get]
    split
    · next id node hfound =>
      simp only [mounted?, Option.bind_eq_some_iff, Option.map_eq_some_iff, Prod.mk.injEq] at hfound
      obtain ⟨_, -, _, hnode, rfl, rfl⟩ := hfound
      exact haction _ _ hnode
    · exact .refl h
  have hstored : ∀ (name : Text) (action : Route → PageM Answer),
      (∀ route, Leads true (action route) page fun _ after => Inert kind scope page after) →
      Leads true (withStored name action) page fun _ after => Inert kind scope page after := by
    intro name action haction
    simp only [withStored, leads_bind, leads_get]
    split
    · exact haction _
    · exact .refl h
  cases command with
  | intercept enabled => exact Inert.of_eq h ⟨rfl, rfl, rfl, rfl, rfl, rfl, fun _ => id⟩ rfl rfl rfl
  | setCacheCount name count => exact hmounted _ _ fun id _ _ => .setCacheCount h id count
  | lastMatch name => exact hmounted _ _ fun _ _ _ => .refl h
  | store name route => exact .store h name route
  | showRoute name => exact hstored _ _ fun _ => .refl h
  | setPattern name pattern =>
      refine hstored _ _ fun route => ?_
      split
      · exact .refl h
      · exact .store h name _
  | register name =>
      refine hstored _ _ fun route => ?_
      simp only [registerStored, leads_bind, leads_get]
      split
      · exact .refl h
      · exact Inert.of_eq h ⟨rfl, rfl, rfl, rfl, rfl, rfl, fun _ => id⟩ rfl rfl rfl
  | unregister name =>
      exact hstored _ _ fun route =>
        Inert.of_eq h ⟨rfl, rfl, rfl, rfl, rfl, rfl, fun _ => id⟩ rfl rfl rfl
  | matchRoute name => exact hstored _ _ fun _ => .refl h
  | watchLocation name reactions =>
      simp only [perform, leads_bind, leads_pure]
      exact watch_inert h name trivial (Command.bringsWatches_iff.1 hbrings)
  | watchTail name route reactions =>
      refine hmounted _ _ fun id node hnode => ?_
      simp only [leads_bind, leads_pure]
      obtain ⟨hlt, -⟩ := List.getElem?_eq_some_iff.1 hnode
      exact watch_inert h name hlt (Command.bringsWatches_iff.1 hbrings)
  | unwatch name =>
      simp only [perform, leads_bind, leads_pure]
      exact (unwatchNamed_inert h name).mono fun _ _ hafter => hafter.1
  | veto veto => exact Inert.of_eq h ⟨rfl, rfl, rfl, rfl, rfl, rfl, fun _ => id⟩ rfl rfl rfl
  | setHooks hooks =>
      exact .of_aside h ⟨rfl, rfl, rfl, rfl, rfl, rfl, fun _ => id⟩
        fun hobeys => hobeys.setHooks (Command.bringsHooks_iff.1 hbrings)
  | describe what =>
      cases what with
      | controller => exact .refl h
      | router => exact .refl h
      | route name => exact hmounted _ _ fun _ _ _ => .refl h
  | _ => simp [Command.isInert] at hinert

/-! ## Commands that navigate -/

def withHistory (page : Page) (history : History) : Page := { page with history := history }

/-- The page after a navigation that changed the history: everyone is told. -/
def announce (deeper : Deeper) (kind : NavigationKind) (source : Option Text) (answer : Answer) :
    PageM Answer := do
  notify deeper kind source
  return answer

/-- An operation that is refused: the page stays as it is. -/
def Refuses (run : PageM Answer) (page : Page) : Prop :=
  ∃ answer, answer.isRefusal ∧ run page = some (answer, page)

/-- An operation that changes the history at most, and then tells everyone. -/
def Announces (deeper : Deeper) (run : PageM Answer) (page : Page) : Prop :=
  ∃ history kind source answer, answer.isRefusal = false ∧
    run page = announce deeper kind source answer (page.withHistory history)

/-- An operation that changes the history as the kind of the change says, and then tells everyone. -/
def Makes (deeper : Deeper) (run : PageM Answer) (page : Page) : Prop :=
  ∃ history kind source answer, History.Step kind page.history history ∧
    answer.isRefusal = false ∧ run page = announce deeper kind source answer (page.withHistory history)

lemma Makes.announces {run : PageM Answer} (h : Makes deeper run page) : Announces deeper run page := by
  obtain ⟨history, kind, source, answer, -, hrest⟩ := h
  exact ⟨history, kind, source, answer, hrest⟩

lemma makes_goTo (deeper : Deeper) (page : Page) {run : PageM Answer} (replaces : Bool)
    (url : Text) (source : Option Text) (answer : Answer) (hanswer : answer.isRefusal = false)
    (hrun : run page = (do goTo deeper replaces url source; return answer : PageM Answer) page) :
    Makes deeper run page := by
  cases replaces with
  | true =>
      exact ⟨page.history.replace url, .replaceState, source, answer, ⟨url, rfl⟩, hanswer, hrun⟩
  | false => exact ⟨page.history.push url, .pushState, source, answer, ⟨url, rfl⟩, hanswer, hrun⟩

/-- A step to another entry of the history is taken and told. -/
lemma travel_announces (deeper : Deeper) (page : Page) {step? : History → Option History}
    {history : History} (hstep : step? page.history = some history) :
    (do return .flag (← travel deeper step?) : PageM Answer) page
      = announce deeper .popState none (.flag true) (page.withHistory history) := by
  simp only [travel, bind_apply, get_apply, Option.bind_some, hstep, announce]
  change ((notify deeper .popState none (page.withHistory history)).bind _).bind _ = _
  cases notify deeper .popState none (page.withHistory history) <;> rfl

/-- There may be no entry of the history to go to. -/
lemma travel_makes (deeper : Deeper) (page : Page) {step? : History → Option History}
    (hpops : ∀ history, step? page.history = some history →
      History.Step .popState page.history history) :
    Refuses (do return .flag (← travel deeper step?)) page ∨
      Makes deeper (do return .flag (← travel deeper step?)) page := by
  cases hstep : step? page.history with
  | none =>
      refine .inl ⟨.flag false, rfl, ?_⟩
      simp only [travel, bind_apply, get_apply, Option.bind_some, hstep]
      rfl
  | some history =>
      exact .inr ⟨history, .popState, none, .flag true, hpops history hstep, rfl,
        travel_announces deeper page hstep⟩

/-- **A command that navigates** is refused, or it makes one change of the history and tells everyone
of it. -/
theorem perform_makes (deeper : Deeper) (page : Page) {command : Command}
    (h : command.navigates) :
    Refuses (perform deeper command) page ∨ Makes deeper (perform deeper command) page := by
  cases command with
  | push url source => exact .inr (makes_goTo deeper page false url source .nothing rfl rfl)
  | replace url source => exact .inr (makes_goTo deeper page true url source .nothing rfl rfl)
  | updateQuery updates =>
      cases hurl : updatedUrl? page.url updates with
      | none =>
          refine .inl ⟨.flag false, rfl, ?_⟩
          simp only [perform, updateQuery, bind_apply, get_apply, Option.bind_some, hurl]
          rfl
      | some url =>
          refine .inr (makes_goTo deeper page true url none (.flag true) rfl ?_)
          simp only [perform, updateQuery, bind_apply, get_apply, Option.bind_some, hurl]
          cases goTo deeper true url none page <;> rfl
  | follow href replaces =>
      cases hurl : page.resolve href with
      | error fault =>
          refine .inl ⟨.failed (.invalidUrl href fault), rfl, ?_⟩
          simp only [perform, followLink, bind_apply, get_apply, Option.bind_some, hurl]
          rfl
      | ok url =>
          refine .inr (makes_goTo deeper page replaces url none (.text url) rfl ?_)
          simp only [perform, followLink, bind_apply, get_apply, Option.bind_some, hurl]
          cases goTo deeper replaces url none page <;> rfl
  | back => exact travel_makes deeper page fun _ hback => .inl hback
  | forward => exact travel_makes deeper page fun _ hforward => .inr (.inl hforward)
  | popState =>
      exact .inr ⟨page.history, .popState, none, .nothing, .inr (.inr rfl), rfl, rfl⟩
  | pageLoad => exact .inr ⟨page.history, .pageLoad, none, .nothing, rfl, rfl, rfl⟩
  | click click =>
      cases hclick : page.interceptClick click with
      | error reason =>
          refine .inl ⟨.ignored reason click.prevented, rfl, ?_⟩
          simp only [perform, handleClick, bind_apply, get_apply, Option.bind_some, hclick]
          rfl
      | ok target =>
          obtain ⟨url, replaces⟩ := target
          refine .inr (makes_goTo deeper page replaces url none
            (.navigated url (if replaces then .replaceState else .pushState) true) rfl ?_)
          simp only [perform, handleClick, bind_apply, get_apply, Option.bind_some, hclick]
  | navigate name options =>
      cases hname : page.mounted? name with
      | none =>
          refine .inl ⟨.unknown name, rfl, ?_⟩
          simp only [perform, withMounted, bind_apply, get_apply, Option.bind_some, hname]
          rfl
      | some found =>
          obtain ⟨id, node⟩ := found
          cases hurl : navigationUrl page.root node options with
          | error error =>
              refine .inl ⟨.failed error, rfl, ?_⟩
              simp only [perform, withMounted, navigateTo, bind_apply, get_apply, Option.bind_some,
                hname, hurl]
              rfl
          | ok url =>
              refine .inr (makes_goTo deeper page options.replaces url
                (node.route.id.map RouteId.text) (.text url) rfl ?_)
              simp only [perform, withMounted, navigateTo, bind_apply, get_apply, Option.bind_some,
                hname, hurl]
              cases goTo deeper options.replaces url (node.route.id.map RouteId.text) page <;> rfl
  | _ => simp [Command.navigates] at h

/-- **A command that navigates** is refused, or it changes the history and tells everyone. -/
theorem perform_navigates (deeper : Deeper) (page : Page) {command : Command}
    (h : command.navigates) :
    Refuses (perform deeper command) page ∨ Announces deeper (perform deeper command) page :=
  (perform_makes deeper page h).imp_right Makes.announces

end Page

end PageRouter
