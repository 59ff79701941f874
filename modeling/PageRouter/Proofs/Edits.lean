import PageRouter.Proofs.Sessions

/-!
# The ways in which a page changes

However deeply hooks and listeners nest, a page changes in few ways: one run of a reaction is used
up, a node is planted, a listener comes or goes, hooks are replaced, the root is set; anything else
is `Minor`.  These are the `Edit`s.  Next to them a page only changes its history and tells of it, and
no edit does either (`Edit.silent`).

What reactions can still give only shrinks, and the numbers of listeners are given out once
(`Worn`, `Edit.worn`).  Hooks and listeners that come are brought along by commands (`Edit.listens`,
`Edit.hooks`).
-/

namespace PageRouter

open Page

/-! ## Views -/

/-- What a node is made with. -/
structure Fixture where
  text : Option Text
  pattern : Pattern
  /-- The patterns of the routes around it. -/
  lineage : List Text
  signal : SignalRef

def Node.fixture (node : Node) : Fixture :=
  ⟨node.route.pattern, node.pattern, node.lineage, node.subscription.signal⟩

/-- What an event tells a listener from outside of the location, and the listener's place. -/
def PageEvent.hearing? : PageEvent → Option (Nat × LocationEvent)
  | .location place _ event => some (place, event)
  | _ => none

/-- **A reaction gives only commands of a kind** as long as it has a run left. -/
def Reaction.Gives {τ : Type} (reaction : Reaction τ Command) (kind : Command → Prop) : Prop :=
  0 < reaction.runs → ∀ command ∈ reaction.commands, kind command

lemma Reaction.Gives.usedOnce {τ : Type} {reaction : Reaction τ Command} {kind : Command → Prop}
    (h : reaction.Gives kind) : reaction.usedOnce.Gives kind :=
  fun hruns => h (Nat.lt_of_lt_of_le hruns (Nat.sub_le _ _))

lemma Reaction.gives_useUp {τ : Type} {reactions : List (Reaction τ Command)}
    {kind : Command → Prop} (index : Nat) {other : Nat}
    (h : ∀ reaction, reactions[other]? = some reaction → reaction.Gives kind) :
    ∀ reaction, (Reaction.useUp index reactions)[other]? = some reaction → reaction.Gives kind := by
  intro reaction hother
  simp only [Reaction.useUp, List.getElem?_modify] at hother
  obtain ⟨old, hold, rfl⟩ := Option.map_eq_some_iff.1 hother
  split
  · exact (h old hold).usedOnce
  · exact h old hold

namespace Page

variable {page mid after : Page} {kind : Command → Prop} {place index : Nat}

def fixtures (page : Page) : List Fixture := page.nodes.map Node.fixture

/-- **What listeners from outside have been told of the location**, the earliest first. -/
def hearings (page : Page) : List (Nat × LocationEvent) :=
  page.events.reverse.filterMap PageEvent.hearing?

/-- The listener at a place gives only commands of a kind. -/
def ListenerGives (kind : Command → Prop) (page : Page) (place : Nat) : Prop :=
  ∀ watcher, page.watchers[place]? = some watcher →
    ∀ reaction ∈ watcher.reactions, reaction.Gives kind

/-- A hook gives only commands of a kind. -/
def HookGives (kind : Command → Prop) (page : Page) (index : Nat) : Prop :=
  ∀ hook, page.hooks[index]? = some hook → hook.Gives kind

/-! ### Signals -/

/-- The signal of a node that does not exist has nobody to lose. -/
lemma signal_cancel (page : Page) (subscription : Subscription) (ref : SignalRef) :
    (page.cancel subscription).signal ref
      = if subscription.signal = ref then (page.signal ref).cancel subscription.number
        else page.signal ref := by
  by_cases hhas : page.HasSignal subscription.signal
  · split
    · next href => subst href; exact signal_modifySignal_self hhas _
    · next href => exact signal_modifySignal_ne href _
  · rw [cancel, modifySignal_of_not_hasSignal hhas]
    split
    · next href =>
      subst href
      have hnobody : page.signal subscription.signal = .empty := by
        obtain ⟨ref, number⟩ := subscription
        cases ref with
        | location => exact absurd trivial hhas
        | tailOf id => simp only [signal, List.getElem?_eq_none (Nat.not_lt.1 hhas)]
      rw [hnobody]
      rfl
    · rfl

lemma signal_withWatcher {ref : SignalRef} (hhas : page.HasSignal ref) (name : Text)
    (reactions : List Watch) (other : SignalRef) :
    (page.withWatcher name ref reactions).signal other
      = if ref = other then (page.signal ref).subscribe (.watcher page.watchers.length)
        else page.signal other := by
  have hold : (page.withWatcher name ref reactions).signal other
      = (page.modifySignal ref (·.subscribe (.watcher page.watchers.length))).signal other :=
    signal_congr rfl rfl other
  rw [hold]
  split
  · next href => subst href; exact signal_modifySignal_self hhas _
  · next href => exact signal_modifySignal_ne href _

lemma watchers_withWatcher (page : Page) (name : Text) (ref : SignalRef) (reactions : List Watch) :
    (page.withWatcher name ref reactions).watchers = page.watchers ++ [⟨name, reactions⟩] := by
  simp only [withWatcher, Page.subscribe, watchers_modifySignal]

lemma signal_planted {route : Route} {pattern : Pattern} {tag : Text}
    {parent : Option (NodeId × Node)} {registry : Registry}
    (hparent : ∀ around ∈ parent, page.nodes[around.1]? = some around.2) (other : SignalRef) :
    (page.planted route pattern tag parent registry).signal other
      = if signalBelow (parent.map (·.1)) = other then
          (page.signal (signalBelow (parent.map (·.1)))).subscribe (.node page.nodes.length)
        else page.signal other := by
  refine signal_grown ?_ rfl other
  cases parent with
  | none => trivial
  | some around => exact (List.getElem?_eq_some_iff.1 (hparent around rfl)).1

/-! ## Edits -/

/-- **A change that leaves alone** the history, the root, what nodes are made with, who listens to
what, what listeners and hooks can do, and what has been told of the location. -/
structure Minor (page after : Page) : Prop where
  history : after.history = page.history
  root : after.root? = page.root?
  fixtures : after.fixtures = page.fixtures
  signal : ∀ ref, after.signal ref = page.signal ref
  watchers : after.watchers = page.watchers
  hooks : after.hooks = page.hooks
  firstHook : after.firstHook = page.firstHook
  hearings : after.hearings = page.hearings
  /-- What has happened has happened. -/
  events : page.events <:+ after.events

lemma Minor.trans (h : Minor page mid) (h' : Minor mid after) : Minor page after where
  history := h'.history.trans h.history
  root := h'.root.trans h.root
  fixtures := h'.fixtures.trans h.fixtures
  signal := fun ref => (h'.signal ref).trans (h.signal ref)
  watchers := h'.watchers.trans h.watchers
  hooks := h'.hooks.trans h.hooks
  firstHook := h'.firstHook.trans h.firstHook
  hearings := h'.hearings.trans h.hearings
  events := h.events.trans h'.events

/-- The nodes stay as they are. -/
lemma Minor.of_nodes (hnodes : after.nodes = page.nodes)
    (hlocation : after.locationChanged = page.locationChanged)
    (hhistory : after.history = page.history) (hroot : after.root? = page.root?)
    (hwatchers : after.watchers = page.watchers) (hhooks : after.hooks = page.hooks)
    (hfirst : after.firstHook = page.firstHook) (hhearings : after.hearings = page.hearings)
    (hevents : page.events <:+ after.events) : Minor page after :=
  ⟨hhistory, hroot, congrArg (List.map Node.fixture) hnodes, signal_congr hlocation hnodes,
    hwatchers, hhooks, hfirst, hhearings, hevents⟩

/-- Fields change that have no part in any of this. -/
lemma Minor.aside (page : Page) (registry : Registry) (intercepts : Bool) (queue : RefreshQueue)
    (document : Document) (directory : Directory) :
    Minor page { page with
      registry := registry, interceptsLinks := intercepts, queue := queue, document := document,
      directory := directory } :=
  .of_nodes rfl rfl rfl rfl rfl rfl rfl rfl List.suffix_rfl

lemma hearings_note {event : PageEvent} (h : event.hearing? = none) (page : Page) :
    ({ page with events := event :: page.events } : Page).hearings = page.hearings := by
  simp [hearings, h]

lemma Minor.note {event : PageEvent} (h : event.hearing? = none) (page : Page) :
    Minor page { page with events := event :: page.events } :=
  .of_nodes rfl rfl rfl rfl rfl rfl rfl (hearings_note h page) (List.suffix_cons ..)

lemma Minor.modifyNode {change : Node → Node} (hfixture : ∀ node, (change node).fixture = node.fixture)
    (htail : ∀ node, (change node).tailChanged = node.tailChanged) (page : Page) (id : NodeId) :
    Minor page (page.modifyNode id change) :=
  ⟨rfl, rfl, map_modifyNode change Node.fixture hfixture page id, signal_modifyNode htail page id,
    rfl, rfl, rfl, rfl, List.suffix_rfl⟩

/-- **The ways in which a page changes**, but for its history and for what listeners are told of it.
Hooks and listeners come by commands that there may be. -/
inductive Edit (may : Command → Prop) (page : Page) : Page → Prop
  | minor {after : Page} : Minor page after → Edit may page after
  | useHook (index : Nat) :
      Edit may page { page with hooks := Reaction.useUp index page.hooks }
  | useReaction (place index : Nat) :
      Edit may page { page with
        watchers := page.watchers.modify place fun watcher =>
          { watcher with reactions := Reaction.useUp index watcher.reactions } }
  | planted {route : Route} {pattern : Pattern} {tag : Text} {parent : Option (NodeId × Node)}
      {registry : Registry} (hparent : ∀ around ∈ parent, page.nodes[around.1]? = some around.2)
      (hroute : route.pattern = some pattern.text) :
      Edit may page (page.planted route pattern tag parent registry)
  | cancel (subscription : Subscription) : Edit may page (page.cancel subscription)
  | watchLocation {name : Text} {reactions : List Watch} :
      may (.watchLocation name reactions) →
      Edit may page (page.withWatcher name .location reactions)
  | watchTail {name route : Text} {id : NodeId} {reactions : List Watch} :
      may (.watchTail name route reactions) → id < page.nodes.length →
      Edit may page (page.withWatcher name (.tailOf id) reactions)
  | setHooks {hooks : List Hook} : may (.setHooks hooks) →
      Edit may page { page with hooks := page.hooks ++ hooks, firstHook := page.hooks.length }
  | setRoot (root : Text) : page.root? = none →
      Edit may page (page.rooted (some (normalizeRoot root)))

/-! ## What wears off -/

/-- **What wears off and never comes back**: the listeners and hooks that there are have less and
less to give, and a listener that has gone does not come back under its number. -/
structure Worn (page after : Page) : Prop where
  watchers : page.watchers.length ≤ after.watchers.length
  hooks : page.hooks.length ≤ after.hooks.length
  listener : ∀ kind place, place < page.watchers.length → page.ListenerGives kind place →
    after.ListenerGives kind place
  hook : ∀ kind index, index < page.hooks.length → page.HookGives kind index →
    after.HookGives kind index
  numbers : page.locationChanged.nextNumber ≤ after.locationChanged.nextNumber
  /-- Whoever listens for the location came lately or listened before. -/
  listening : ∀ entry ∈ after.locationChanged.listeners,
    entry.1 < page.locationChanged.nextNumber → entry ∈ page.locationChanged.listeners

lemma Worn.trans (h : Worn page mid) (h' : Worn mid after) : Worn page after where
  watchers := Nat.le_trans h.watchers h'.watchers
  hooks := Nat.le_trans h.hooks h'.hooks
  listener := fun kind place hplace hgives =>
    h'.listener kind place (Nat.lt_of_lt_of_le hplace h.watchers) (h.listener kind place hplace hgives)
  hook := fun kind index hindex hgives =>
    h'.hook kind index (Nat.lt_of_lt_of_le hindex h.hooks) (h.hook kind index hindex hgives)
  numbers := Nat.le_trans h.numbers h'.numbers
  listening := fun entry hentry hnumber =>
    h.listening entry (h'.listening entry hentry (Nat.lt_of_lt_of_le hnumber h.numbers)) hnumber

/-- What an edit does to the signal that tells the location: nothing, or one listener comes, or one
goes. -/
def Follows (signal after : Signal Listener) : Prop :=
  after = signal ∨ (∃ listener, after = signal.subscribe listener) ∨
    ∃ number, after = signal.cancel number

lemma Edit.location {may : Command → Prop} (h : Edit may page after) :
    Follows page.locationChanged after.locationChanged := by
  cases h with
  | minor hminor => exact .inl (hminor.signal .location)
  | @planted route pattern tag parent registry hparent hroute =>
      have hsignal : (page.planted route pattern tag parent registry).signal .location = _ :=
        signal_planted hparent .location
      split at hsignal
      · next href => rw [href] at hsignal; exact .inr (.inl ⟨_, hsignal⟩)
      · exact .inl hsignal
  | cancel subscription =>
      have hsignal := signal_cancel page subscription .location
      split at hsignal
      · exact .inr (.inr ⟨_, hsignal⟩)
      · exact .inl hsignal
  | watchLocation => exact .inr (.inl ⟨_, rfl⟩)
  | _ => exact .inl rfl

lemma Follows.orderly {signal after : Signal Listener} (h : Follows signal after)
    (horderly : signal.Orderly) : after.Orderly := by
  obtain rfl | ⟨listener, rfl⟩ | ⟨number, rfl⟩ := h
  · exact horderly
  · exact horderly.subscribe listener
  · exact horderly.cancel number

/-- Hooks and listeners are added, and nothing else happens to them. -/
lemma Worn.of_append (hwatchers : page.watchers <+: after.watchers)
    (hhooks : page.hooks <+: after.hooks)
    (hlocation : Follows page.locationChanged after.locationChanged) : Worn page after where
  watchers := hwatchers.length_le
  hooks := hhooks.length_le
  listener := by
    obtain ⟨more, hmore⟩ := hwatchers
    intro kind place hplace hgives watcher hwatcher
    rw [← hmore, List.getElem?_append_left hplace] at hwatcher
    exact hgives watcher hwatcher
  hook := by
    obtain ⟨more, hmore⟩ := hhooks
    intro kind index hindex hgives hook hhook
    rw [← hmore, List.getElem?_append_left hindex] at hhook
    exact hgives hook hhook
  numbers := by
    obtain hsame | ⟨listener, hsame⟩ | ⟨number, hsame⟩ := hlocation
    · exact Nat.le_of_eq (by rw [hsame])
    · rw [hsame]; exact Nat.le_succ _
    · exact Nat.le_of_eq (by rw [hsame]; rfl)
  listening := by
    intro entry hentry hnumber
    obtain hsame | ⟨listener, hsame⟩ | ⟨number, hsame⟩ := hlocation
    · rwa [hsame] at hentry
    · rw [hsame, Signal.subscribe, List.mem_append, List.mem_singleton] at hentry
      rcases hentry with hold | rfl
      · exact hold
      · exact absurd hnumber (Nat.lt_irrefl _)
    · rw [hsame] at hentry
      exact (List.mem_filter.1 hentry).1

lemma Worn.of_eq (hwatchers : after.watchers = page.watchers) (hhooks : after.hooks = page.hooks)
    (hlocation : Follows page.locationChanged after.locationChanged) : Worn page after :=
  .of_append (hwatchers ▸ List.prefix_rfl) (hhooks ▸ List.prefix_rfl) hlocation

lemma Worn.refl (page : Page) : Worn page page := .of_eq rfl rfl (.inl rfl)

/-- **Every edit** wears things off at most. -/
lemma Edit.worn {may : Command → Prop} (h : Edit may page after) : Worn page after := by
  have hlocation := h.location
  cases h with
  | minor hminor => exact .of_eq hminor.watchers hminor.hooks hlocation
  | useHook index =>
      refine ⟨Nat.le_refl _, ?_, fun _ _ _ => id, ?_, Nat.le_refl _, fun _ hentry _ => hentry⟩
      · simp [Reaction.useUp]
      · exact fun kind other _ hgives => Reaction.gives_useUp index hgives
  | useReaction place index =>
      refine ⟨?_, Nat.le_refl _, ?_, fun _ _ _ => id, Nat.le_refl _, fun _ hentry _ => hentry⟩
      · simp
      · intro kind other _ hgives watcher hwatcher
        simp only [List.getElem?_modify] at hwatcher
        obtain ⟨old, hold, rfl⟩ := Option.map_eq_some_iff.1 hwatcher
        have hold := hgives old hold
        split
        · intro reaction hmem
          obtain ⟨spot, hspot⟩ := List.mem_iff_getElem?.1 hmem
          exact Reaction.gives_useUp index
            (fun reaction hreaction => hold reaction (List.mem_of_getElem? hreaction)) reaction hspot
        · exact hold
  | planted => exact .of_eq (watchers_modifySignal ..) (hooks_modifySignal ..) hlocation
  | cancel => exact .of_eq (watchers_modifySignal ..) (hooks_modifySignal ..) hlocation
  | watchLocation =>
      exact .of_append (watchers_withWatcher page .. ▸ List.prefix_append ..) List.prefix_rfl hlocation
  | watchTail =>
      exact .of_append (watchers_withWatcher page .. ▸ List.prefix_append ..) List.prefix_rfl hlocation
  | setHooks => exact .of_append List.prefix_rfl (List.prefix_append ..) hlocation
  | setRoot => exact .of_eq rfl rfl hlocation

/-- From now on the listener at a place gives only commands of a kind. -/
def ListenerBound (kind : Command → Prop) (page : Page) (place : Nat) : Prop :=
  ∀ after, Worn page after → after.ListenerGives kind place

/-- From now on a hook gives only commands of a kind. -/
def HookBound (kind : Command → Prop) (page : Page) (index : Nat) : Prop :=
  ∀ after, Worn page after → after.HookGives kind index

lemma ListenerGives.bound (h : page.ListenerGives kind place) (hplace : place < page.watchers.length) :
    page.ListenerBound kind place :=
  fun _ hworn => hworn.listener kind place hplace h

lemma HookGives.bound (h : page.HookGives kind index) (hindex : index < page.hooks.length) :
    page.HookBound kind index :=
  fun _ hworn => hworn.hook kind index hindex h

lemma ListenerBound.of_forall (h : ∀ command, kind command) : page.ListenerBound kind place :=
  fun _ _ _ _ _ _ _ command _ => h command

lemma HookBound.of_forall (h : ∀ command, kind command) : page.HookBound kind index :=
  fun _ _ _ _ _ command _ => h command

lemma HookGives.mono {kind kind' : Command → Prop} {index : Nat} (h : page.HookGives kind index)
    (himp : ∀ command, kind command → kind' command) : page.HookGives kind' index :=
  fun hook hhook hruns command hmem => himp command (h hook hhook hruns command hmem)

lemma ListenerGives.mono {kind kind' : Command → Prop} (h : page.ListenerGives kind place)
    (himp : ∀ command, kind command → kind' command) : page.ListenerGives kind' place :=
  fun watcher hwatcher reaction hreaction hruns command hmem =>
    himp command (h watcher hwatcher reaction hreaction hruns command hmem)

/-! ## Who comes -/

section Comings

variable {may : Command → Prop} {number : Nat}

lemma history_modifySignal (page : Page) (ref : SignalRef)
    (change : Signal Listener → Signal Listener) :
    (page.modifySignal ref change).history = page.history := by cases ref <;> rfl

lemma events_modifySignal (page : Page) (ref : SignalRef)
    (change : Signal Listener → Signal Listener) :
    (page.modifySignal ref change).events = page.events := by cases ref <;> rfl

lemma hearings_modifySignal (page : Page) (ref : SignalRef)
    (change : Signal Listener → Signal Listener) :
    (page.modifySignal ref change).hearings = page.hearings := by
  rw [hearings, events_modifySignal, hearings]

/-- **No edit touches the history** or tells anyone of it. -/
lemma Edit.silent (h : Edit may page after) :
    after.history = page.history ∧ after.hearings = page.hearings := by
  cases h with
  | minor hminor => exact ⟨hminor.history, hminor.hearings⟩
  | planted => exact ⟨history_modifySignal .., hearings_modifySignal ..⟩
  | cancel => exact ⟨history_modifySignal .., hearings_modifySignal ..⟩
  | watchTail => exact ⟨history_modifySignal .., hearings_modifySignal ..⟩
  | _ => exact ⟨rfl, rfl⟩

/-- **No edit forgets** what has happened. -/
lemma Edit.events (h : Edit may page after) : page.events <:+ after.events := by
  cases h with
  | minor hminor => exact hminor.events
  | planted => exact (events_modifySignal ..).symm ▸ List.suffix_rfl
  | cancel => exact (events_modifySignal ..).symm ▸ List.suffix_rfl
  | watchTail => exact (events_modifySignal ..).symm ▸ List.suffix_rfl
  | _ => exact List.suffix_rfl

/-- **Who comes**: a listener with its name and its reactions. -/
def Comes (page after : Page) (ref : SignalRef) (reactions : List Watch) (number place : Nat) : Prop :=
  place = page.watchers.length ∧ number = (page.signal ref).nextNumber ∧
    ∃ name, after.watchers = page.watchers ++ [Watcher.mk name reactions]

lemma comes_withWatcher {ref ref' : SignalRef} {name : Text} {reactions : List Watch}
    (hhas : page.HasSignal ref')
    (hmem : (number, Listener.watcher place) ∈
      ((page.withWatcher name ref' reactions).signal ref).listeners) :
    (number, Listener.watcher place) ∈ (page.signal ref).listeners ∨
      ref' = ref ∧ Comes page (page.withWatcher name ref' reactions) ref reactions number place := by
  rw [signal_withWatcher hhas] at hmem
  split at hmem
  · next href =>
    subst href
    simp only [Signal.subscribe, List.mem_append, List.mem_singleton, Prod.mk.injEq,
      Listener.watcher.injEq] at hmem
    rcases hmem with hold | ⟨hnumber, hplace⟩
    · exact .inl hold
    · exact .inr ⟨rfl, hplace, hnumber, name, watchers_withWatcher page name ref' reactions⟩
  · exact .inl hmem

/-- **Who listens after an edit** listened before, or has just come by a command that there may be. -/
lemma Edit.listens (h : Edit may page after) (ref : SignalRef)
    (hmem : (number, Listener.watcher place) ∈ (after.signal ref).listeners) :
    (number, Listener.watcher place) ∈ (page.signal ref).listeners ∨
      ∃ reactions, Comes page after ref reactions number place ∧
        ((ref = .location ∧ ∃ name, may (.watchLocation name reactions)) ∨
          ∃ name route, may (.watchTail name route reactions)) := by
  cases h with
  | minor hminor => exact .inl (by rwa [hminor.signal] at hmem)
  | planted hparent =>
      rw [signal_planted hparent] at hmem
      split at hmem
      · next href =>
        subst href
        simp only [Signal.subscribe, List.mem_append, List.mem_singleton, Prod.mk.injEq,
          reduceCtorEq, and_false, or_false] at hmem
        exact .inl hmem
      · exact .inl hmem
  | cancel subscription =>
      rw [signal_cancel] at hmem
      split at hmem
      · exact .inl (List.mem_filter.1 hmem).1
      · exact .inl hmem
  | @watchLocation name reactions hmay =>
      have hhas : page.HasSignal .location := trivial
      rcases comes_withWatcher hhas hmem with hold | ⟨href, hcomes⟩
      · exact .inl hold
      · exact .inr ⟨reactions, hcomes, .inl ⟨href.symm, name, hmay⟩⟩
  | @watchTail name route id reactions hmay hid =>
      have hhas : page.HasSignal (.tailOf id) := hid
      rcases comes_withWatcher hhas hmem with hold | ⟨-, hcomes⟩
      · exact .inl hold
      · exact .inr ⟨reactions, hcomes, .inr ⟨name, route, hmay⟩⟩
  | _ => exact .inl (by cases ref <;> exact hmem)

lemma Comes.gives {ref : SignalRef} {reactions : List Watch} {kind : Command → Prop}
    (h : Comes page after ref reactions number place)
    (hgives : ∀ reaction ∈ reactions, reaction.Gives kind) : after.ListenerGives kind place := by
  obtain ⟨rfl, -, name, hwatchers⟩ := h
  intro watcher hwatcher
  rw [hwatchers, List.getElem?_concat_length, Option.some.injEq] at hwatcher
  subst hwatcher
  exact hgives

/-- **Hooks change** as a whole, by a command that there may be, or one of them is used. -/
lemma Edit.hooks (h : Edit may page after) :
    after.firstHook = page.firstHook ∧ after.hooks.length = page.hooks.length ∨
      ∃ hooks, may (.setHooks hooks) ∧ after.firstHook = page.hooks.length ∧
        after.hooks = page.hooks ++ hooks := by
  cases h with
  | minor hminor => exact .inl ⟨hminor.firstHook, congrArg _ hminor.hooks⟩
  | useHook index => exact .inl ⟨rfl, by simp [Reaction.useUp]⟩
  | planted =>
      exact .inl ⟨firstHook_modifySignal .., congrArg List.length (hooks_modifySignal ..)⟩
  | cancel =>
      exact .inl ⟨firstHook_modifySignal .., congrArg List.length (hooks_modifySignal ..)⟩
  | watchTail =>
      exact .inl ⟨firstHook_modifySignal .., congrArg List.length (hooks_modifySignal ..)⟩
  | setHooks hmay => exact .inr ⟨_, hmay, rfl, rfl⟩
  | _ => exact .inl ⟨rfl, rfl⟩

end Comings

end Page

end PageRouter
