import Mathlib.Algebra.Ring.Nat
import PageRouter.Proofs.Courses
import PageRouter.Proofs.Edits

/-!
# What a run spends

A page has a **weight**: how many commands its listeners and hooks can still lead to.  A reaction that
acts takes more weight from the page than its commands bring back (`Reaction.weightOf_useUp`), and
nothing else that a page does brings weight, but for what a command from outside brings along.  A new
node is paid for by the command that mounts it.  So along a run the nodes and the weight together become
at most as many as there were in the beginning (`Spends`).

Nodes have larger numbers than the nodes around them, and nobody listens or waits who is not there
(`Branched`).
-/

namespace PageRouter

open Page

/-! ## Weights of reactions -/

/-- How many commands a list of reactions can lead to. -/
def Reaction.weightOf {τ : Type} (reactions : List (Reaction τ Command)) : Nat :=
  (reactions.map fun reaction => reaction.runs * (1 + Command.weightOfList reaction.commands)).sum

lemma Command.weightOfWatches_eq (reactions : List Watch) :
    Command.weightOfWatches reactions = Reaction.weightOf reactions := by
  induction reactions with
  | nil => rfl
  | cons reaction rest ih => rw [Command.weightOfWatches, ih]; rfl

lemma Command.weightOfHooks_eq (hooks : List Hook) :
    Command.weightOfHooks hooks = Reaction.weightOf hooks := by
  induction hooks with
  | nil => rfl
  | cons hook rest ih => rw [Command.weightOfHooks, ih]; rfl

lemma Command.weight_pos (command : Command) : 0 < command.weight := by
  cases command <;> simp only [Command.weight] <;> omega

/-- One summand goes down, and so does the sum. -/
lemma sum_map_modify {α : Type} {list : List α} {index less : Nat} {a : α} {f : α → Nat} {g : α → α}
    (ha : list[index]? = some a) (hless : f (g a) + less = f a) :
    ((list.modify index g).map f).sum + less = (list.map f).sum := by
  induction list generalizing index with
  | nil => cases ha
  | cons b rest ih =>
      cases index with
      | zero =>
          obtain rfl := Option.some.inj ha
          simp only [List.modify_zero_cons, List.map_cons, List.sum_cons]
          omega
      | succ index =>
          simp only [List.modify_succ_cons, List.map_cons, List.sum_cons]
          have := ih ha
          omega

/-- **A reaction that acts** has paid for the commands it gives. -/
lemma Reaction.weightOf_useUp {τ : Type} {reactions : List (Reaction τ Command)} {index : Nat}
    {reaction : Reaction τ Command} (h : reactions[index]? = some reaction) (hruns : 0 < reaction.runs) :
    weightOf (useUp index reactions) + (1 + Command.weightOfList reaction.commands) =
      weightOf reactions := by
  refine sum_map_modify h ?_
  show (reaction.runs - 1) * _ + _ = reaction.runs * _
  obtain ⟨runs, hsucc⟩ := Nat.exists_eq_succ_of_ne_zero (Nat.ne_of_gt hruns)
  rw [hsucc, Nat.succ_sub_one, Nat.succ_mul]
  rfl

namespace Page

variable {page mid after : Page} {deeper : Deeper} {id : NodeId} {command : Command}

lemma weight_eq (page : Page) : page.weight =
    (page.watchers.map (Reaction.weightOf ·.reactions)).sum + Reaction.weightOf page.hooks := by
  rw [weight, ← Command.weightOfHooks_eq]
  induction page.watchers with
  | nil => simp
  | cons watcher rest ih =>
      rw [List.foldr_cons, ih, Command.weightOfWatches_eq, List.map_cons, List.sum_cons, Nat.add_assoc]

lemma weight_congr (hwatchers : after.watchers = page.watchers) (hhooks : after.hooks = page.hooks) :
    after.weight = page.weight := by
  rw [weight, hwatchers, hhooks, weight]

/-- The page once a listener has used up one run of a reaction. -/
def reacting (page : Page) (place index : Nat) : Page :=
  { page with watchers := page.watchers.modify place fun watcher =>
      { watcher with reactions := Reaction.useUp index watcher.reactions } }

lemma weight_reacting {place index : Nat} {watcher : Watcher} {reaction : Watch}
    (hwatcher : page.watchers[place]? = some watcher)
    (hreaction : watcher.reactions[index]? = some reaction) (hruns : 0 < reaction.runs) :
    (page.reacting place index).weight + (1 + Command.weightOfList reaction.commands) =
      page.weight := by
  have hsum := sum_map_modify (f := fun watcher : Watcher => Reaction.weightOf watcher.reactions)
    (g := fun watcher => { watcher with reactions := Reaction.useUp index watcher.reactions })
    hwatcher (Reaction.weightOf_useUp hreaction hruns)
  rw [weight_eq, weight_eq, ← hsum]
  show _ + Reaction.weightOf page.hooks + _ = _
  rw [Nat.add_right_comm]
  rfl

/-- The page once a hook has used up one run. -/
def hooked (page : Page) (index : Nat) : Page :=
  { page with hooks := Reaction.useUp index page.hooks }

lemma weight_hooked {index : Nat} {hook : Hook} (hhook : page.hooks[index]? = some hook)
    (hruns : 0 < hook.runs) :
    (page.hooked index).weight + (1 + Command.weightOfList hook.commands) = page.weight := by
  rw [weight_eq, weight_eq, ← Reaction.weightOf_useUp hhook hruns, Nat.add_assoc]
  rfl

/-- The page once the first of those who wait has been called. -/
def called (page : Page) (rest : List NodeId) : Page :=
  { page with queue := { page.queue with pending := rest } }

/-! ## Numbers that go up -/

/-- **Numbers go up**: nodes have larger numbers than the nodes around them, and whoever listens or
waits is a node that there is. -/
structure Branched (page : Page) : Prop where
  there : ∀ ref number child, (number, Listener.node child) ∈ (page.signal ref).listeners →
    child < page.nodes.length
  younger : ∀ id number child,
    (number, Listener.node child) ∈ (page.signal (.tailOf id)).listeners → id < child
  waiting : ∀ id ∈ page.queue.pending, id < page.nodes.length
  once : page.queue.pending.Nodup

lemma Branched.start (history : History) : (Page.start history).Branched := by
  have hnobody : ∀ ref, ((Page.start history).signal ref).listeners = [] := fun ref => by
    cases ref <;> rfl
  refine ⟨fun ref number child hmem => ?_, fun id number child hmem => ?_, fun id hid => ?_,
    List.nodup_nil⟩
  · rw [hnobody] at hmem
    cases hmem
  · rw [hnobody] at hmem
    cases hmem
  · cases hid

/-- Not more nodes wait than there are. -/
lemma Branched.pending_le (h : page.Branched) : page.queue.pending.length ≤ page.nodes.length := by
  have hsubset : page.queue.pending ⊆ List.range page.nodes.length := fun id hid =>
    List.mem_range.2 (h.waiting id hid)
  simpa using (List.subperm_of_subset h.once hsubset).length_le

/-- No node begins to listen or to wait. -/
lemma Branched.of_listeners (h : page.Branched)
    (hlisteners : ∀ ref number child, (number, Listener.node child) ∈ (after.signal ref).listeners →
      (number, Listener.node child) ∈ (page.signal ref).listeners)
    (hlength : page.nodes.length ≤ after.nodes.length)
    (hpending : after.queue.pending.Sublist page.queue.pending) : after.Branched where
  there := fun ref number child hmem =>
    Nat.lt_of_lt_of_le (h.there ref number child (hlisteners ref number child hmem)) hlength
  younger := fun id number child hmem => h.younger id number child (hlisteners _ number child hmem)
  waiting := fun id hid => Nat.lt_of_lt_of_le (h.waiting id (hpending.subset hid)) hlength
  once := h.once.sublist hpending

/-- A node that there is begins to wait, unless it waits already. -/
lemma Branched.defer (h : page.Branched) (hid : id < page.nodes.length) :
    ({ page with queue := page.queue.defer id } : Page).Branched := by
  refine ⟨h.there, h.younger, fun other hother => ?_, ?_⟩
  · rw [show ({ page with queue := page.queue.defer id } : Page).queue = page.queue.defer id from rfl,
      RefreshQueue.defer] at hother
    split at hother
    · exact h.waiting other hother
    · rcases List.mem_append.1 hother with hother | hother
      · exact h.waiting other hother
      · exact List.mem_singleton.1 hother ▸ hid
  · show (page.queue.defer id).pending.Nodup
    rw [RefreshQueue.defer]
    split
    · exact h.once
    · next hnew =>
      refine List.nodup_append.2 ⟨h.once, List.pairwise_singleton .., ?_⟩
      rintro other hother _ hlast rfl
      exact hnew (List.mem_singleton.1 hlast ▸ hother)

section Planted

variable {route : Route} {pattern : Pattern} {tag : Text} {parent : Option (NodeId × Node)}
  {registry : Registry} (hparent : ∀ around ∈ parent, page.nodes[around.1]? = some around.2)

lemma length_planted :
    (page.planted route pattern tag parent registry).nodes.length = page.nodes.length + 1 := by
  rw [← length_seats, planted, seats_grown, List.length_append, length_seats]
  rfl

include hparent

/-- A new node has a larger number than the one that it is mounted below. -/
lemma Branched.planted (h : page.Branched) :
    (page.planted route pattern tag parent registry).Branched := by
  have hlisteners : ∀ ref number child, (number, Listener.node child) ∈
      ((page.planted route pattern tag parent registry).signal ref).listeners →
      (number, Listener.node child) ∈ (page.signal ref).listeners ∨
        child = page.nodes.length ∧ ref = signalBelow (parent.map (·.1)) := by
    intro ref number child hmem
    rw [signal_planted hparent] at hmem
    split at hmem
    · next href =>
      rcases List.mem_append.1 hmem with hold | hnew
      · exact .inl (href ▸ hold)
      · cases List.mem_singleton.1 hnew
        exact .inr ⟨rfl, href.symm⟩
    · exact .inl hmem
  have hqueue : (page.planted route pattern tag parent registry).queue = page.queue := queue_grown
  refine ⟨fun ref number child hmem => ?_, fun id number child hmem => ?_, fun id hid => ?_, ?_⟩
  · rw [length_planted]
    rcases hlisteners ref number child hmem with hold | ⟨rfl, -⟩
    · exact Nat.lt_succ_of_lt (h.there ref number child hold)
    · exact Nat.lt_succ_self _
  · rcases hlisteners _ number child hmem with hold | ⟨rfl, href⟩
    · exact h.younger id number child hold
    · cases parent with
      | none => cases href
      | some around =>
          obtain rfl := SignalRef.tailOf.inj href
          exact (List.getElem?_eq_some_iff.1 (hparent around rfl)).1
  · rw [length_planted]
    rw [hqueue] at hid
    exact Nat.lt_succ_of_lt (h.waiting id hid)
  · rw [hqueue]
    exact h.once

end Planted

/-! ## What is spent -/

/-- **What a stretch of a run spends**, with the weight of what it is asked to do added to what the page
has.  Commands take one unit of weight at least, and each new node another one; and if nothing else is
spent, no node begins to wait while the document is free. -/
structure Spends (strict : Prop) (more : Nat) (page after : Page) : Prop where
  branched : after.Branched
  weight : after.weight ≤ page.weight + (more - 1)
  size : after.nodes.length + after.weight ≤ page.nodes.length + page.weight + more
  grows : page.nodes.length ≤ after.nodes.length
  busy : after.queue.busy = page.queue.busy
  waits : strict → after.weight = page.weight + more →
    after.queue.pending.length ≤ page.queue.pending.length

section Spends

variable {strict : Prop} {more most : Nat}

lemma Spends.refl (strict : Prop) (h : page.Branched) : Spends strict 0 page page :=
  ⟨h, Nat.le_refl _, Nat.le_refl _, Nat.le_refl _, rfl, fun _ _ => Nat.le_refl _⟩

lemma Spends.trans (h : Spends strict more page mid) (h' : Spends strict most mid after) :
    Spends strict (more + most) page after where
  branched := h'.branched
  weight := by have := h.weight; have := h'.weight; omega
  size := by have := h.size; have := h'.size; omega
  grows := Nat.le_trans h.grows h'.grows
  busy := h'.busy.trans h.busy
  waits := by
    intro hstrict hsame
    have hweight := h.weight
    have hweight' := h'.weight
    exact Nat.le_trans (h'.waits hstrict (by omega)) (h.waits hstrict (by omega))

/-- What follows a stretch without a command of its own. -/
lemma Spends.before (h : Spends strict 0 page mid) (h' : Spends strict more mid after) :
    Spends strict more page after := by
  simpa using h.trans h'

/-- Whoever has something to spend need not ask who waits. -/
lemma Spends.pay {strict' : Prop} (h : Spends strict more page after) (hle : more ≤ most)
    (hpos : 0 < most) : Spends strict' most page after where
  branched := h.branched
  weight := by have := h.weight; omega
  size := by have := h.size; omega
  grows := h.grows
  busy := h.busy
  waits := by
    intro _ hsame
    have := h.weight
    omega

lemma Spends.weaken {strict' : Prop} (h : Spends strict more page after) (himp : strict' → strict) :
    Spends strict' more page after :=
  ⟨h.branched, h.weight, h.size, h.grows, h.busy, fun hstrict => h.waits (himp hstrict)⟩

/-- A change of nothing that has a part in this. -/
lemma Spends.of_listeners (h : page.Branched)
    (hlisteners : ∀ ref number child, (number, Listener.node child) ∈ (after.signal ref).listeners →
      (number, Listener.node child) ∈ (page.signal ref).listeners)
    (hlength : after.nodes.length = page.nodes.length) (hqueue : after.queue = page.queue)
    (hwatchers : after.watchers = page.watchers) (hhooks : after.hooks = page.hooks) :
    Spends strict 0 page after where
  branched := h.of_listeners hlisteners (Nat.le_of_eq hlength.symm) (hqueue ▸ List.Sublist.refl _)
  weight := Nat.le_of_eq (weight_congr hwatchers hhooks)
  size := Nat.le_of_eq (by rw [hlength, weight_congr hwatchers hhooks, Nat.add_zero])
  grows := Nat.le_of_eq hlength.symm
  busy := by rw [hqueue]
  waits := fun _ _ => by rw [hqueue]

lemma Spends.minor (h : page.Branched) (hminor : Minor page after)
    (hqueue : after.queue = page.queue) : Spends strict 0 page after := by
  refine .of_listeners h (fun ref _ _ hmem => hminor.signal ref ▸ hmem) ?_ hqueue hminor.watchers
    hminor.hooks
  have hlength := congrArg List.length hminor.fixtures
  rwa [fixtures, fixtures, List.length_map, List.length_map] at hlength

lemma length_modifySignal (page : Page) (ref : SignalRef)
    (change : Signal Listener → Signal Listener) :
    (page.modifySignal ref change).nodes.length = page.nodes.length := by
  rw [← length_seats, seats_eq_map_standings, standings_modifySignal, ← seats_eq_map_standings,
    length_seats]

lemma queue_modifySignal (page : Page) (ref : SignalRef)
    (change : Signal Listener → Signal Listener) :
    (page.modifySignal ref change).queue = page.queue := by
  cases ref <;> rfl

lemma Spends.cancel (h : page.Branched) (subscription : Subscription) :
    Spends strict 0 page (page.cancel subscription) := by
  refine .of_listeners h (fun ref number child hmem => ?_) (length_modifySignal ..)
    (queue_modifySignal ..) (watchers_modifySignal ..) (hooks_modifySignal ..)
  rw [signal_cancel] at hmem
  split at hmem
  · exact List.mem_of_mem_filter hmem
  · exact hmem

/-- A listener from outside brings its weight. -/
lemma Spends.withWatcher (h : page.Branched) {ref : SignalRef} (hhas : page.HasSignal ref)
    (name : Text) (reactions : List Watch) :
    Spends strict (1 + Command.weightOfWatches reactions) page
      (page.withWatcher name ref reactions) := by
  have hlength : (page.withWatcher name ref reactions).nodes.length = page.nodes.length :=
    length_modifySignal page ref (·.subscribe (.watcher page.watchers.length))
  have hqueue : (page.withWatcher name ref reactions).queue = page.queue :=
    queue_modifySignal page ref (·.subscribe (.watcher page.watchers.length))
  have hweight : (page.withWatcher name ref reactions).weight =
      page.weight + Command.weightOfWatches reactions := by
    have hhooks : (page.withWatcher name ref reactions).hooks = page.hooks :=
      hooks_modifySignal page ref (·.subscribe (.watcher page.watchers.length))
    rw [weight_eq, weight_eq, watchers_withWatcher, hhooks, List.map_append, List.sum_append,
      Command.weightOfWatches_eq]
    simp only [List.map_singleton, List.sum_singleton]
    omega
  refine ⟨h.of_listeners (fun other number child hmem => ?_) (Nat.le_of_eq hlength.symm)
    (hqueue ▸ List.Sublist.refl _), ?_, ?_, Nat.le_of_eq hlength.symm, by rw [hqueue],
    fun _ _ => by rw [hqueue]⟩
  · rw [signal_withWatcher hhas] at hmem
    split at hmem
    · next href =>
      rcases List.mem_append.1 hmem with hold | hnew
      · exact href ▸ hold
      · cases List.mem_singleton.1 hnew
    · exact hmem
  · omega
  · omega

lemma Spends.setHooks (h : page.Branched) (hooks : List Hook) :
    Spends strict (1 + Command.weightOfHooks hooks) page
      { page with hooks := page.hooks ++ hooks, firstHook := page.hooks.length } := by
  have hweight : ({ page with hooks := page.hooks ++ hooks, firstHook := page.hooks.length } : Page).weight
      = page.weight + Command.weightOfHooks hooks := by
    rw [weight_eq, weight_eq, Command.weightOfHooks_eq]
    simp only [Reaction.weightOf, List.map_append, List.sum_append]
    omega
  refine ⟨⟨h.there, h.younger, h.waiting, h.once⟩, ?_, ?_, Nat.le_refl _, rfl,
    fun _ _ => Nat.le_refl _⟩
  · omega
  · show page.nodes.length + _ ≤ _
    omega

/-- A new node takes one unit. -/
lemma Spends.planted (h : page.Branched) {route : Route} {pattern : Pattern} {tag : Text}
    {parent : Option (NodeId × Node)} {registry : Registry}
    (hparent : ∀ around ∈ parent, page.nodes[around.1]? = some around.2) :
    Spends strict 1 page (page.planted route pattern tag parent registry) := by
  have hweight : (page.planted route pattern tag parent registry).weight = page.weight :=
    weight_congr (watchers_modifySignal ..) (hooks_modifySignal ..)
  have hqueue : (page.planted route pattern tag parent registry).queue = page.queue := queue_grown
  refine ⟨h.planted hparent, Nat.le_of_eq hweight, ?_, ?_, by rw [hqueue], fun _ _ => by rw [hqueue]⟩
  · rw [length_planted]
    omega
  · rw [length_planted]
    exact Nat.le_succ _

/-- Nobody begins to listen. -/
lemma Spends.note (h : page.Branched) (event : PageEvent) :
    Spends strict 0 page { page with events := event :: page.events } :=
  .of_listeners h (fun _ _ _ hmem => signal_congr rfl rfl _ ▸ hmem) rfl rfl rfl rfl

/-- **A reaction that acts** takes weight from the page, whatever it leads to. -/
lemma Spends.acted {used : Page} {total : Nat} (hlength : used.nodes.length = page.nodes.length)
    (hqueue : used.queue = page.queue) (hused : used.weight + (1 + total) = page.weight)
    (h : Spends False total used after) : Spends strict 0 page after where
  branched := h.branched
  weight := by have := h.weight; omega
  size := by have := h.size; omega
  grows := hlength ▸ h.grows
  busy := by rw [h.busy, hqueue]
  waits := by
    intro _ hsame
    have := h.weight
    omega

/-- While the document is busy, nodes may begin to wait. -/
lemma Spends.defer (h : page.Branched) (hid : id < page.nodes.length) (hbusy : page.queue.busy = true) :
    Spends (page.queue.busy = false) 0 page { page with queue := page.queue.defer id } where
  branched := h.defer hid
  weight := Nat.le_refl _
  size := Nat.le_refl _
  grows := Nat.le_refl _
  busy := busy_defer page.queue id
  waits := fun hfree => by
    rw [hfree] at hbusy
    cases hbusy

/-- A node that waits gets its turn. -/
lemma Spends.called (h : page.Branched) {rest : List NodeId} (hpending : page.queue.pending = id :: rest) :
    Spends strict 0 page (page.called rest) where
  branched := h.of_listeners (fun _ _ _ hmem => signal_congr rfl rfl _ ▸ hmem) (Nat.le_refl _)
    (hpending ▸ List.sublist_cons_self id rest)
  weight := Nat.le_refl _
  size := Nat.le_refl _
  grows := Nat.le_refl _
  busy := rfl
  waits := fun _ _ => by
    rw [hpending]
    exact Nat.le_succ _

/-- The document is free again when a node has learned what there is. -/
lemma Spends.settled {cache : ElementCache} {outcome : Outcome} (hfree : page.queue.busy = false)
    (h : Spends strict 0 page.occupied mid) :
    Spends strict 0 page (mid.settled id cache outcome) := by
  have hweight : (mid.settled id cache outcome).weight = mid.weight := weight_congr rfl rfl
  have hlength : (mid.settled id cache outcome).nodes.length = mid.nodes.length :=
    List.length_modify ..
  have hsignal : ∀ ref, (mid.settled id cache outcome).signal ref = mid.signal ref := fun ref => by
    rw [← signal_learned mid id cache outcome]
    exact signal_congr rfl rfl ref
  refine ⟨h.branched.of_listeners (fun ref _ _ hmem => hsignal ref ▸ hmem) (Nat.le_of_eq hlength.symm)
    (List.Sublist.refl _), ?_, ?_, ?_, hfree.symm, fun hstrict hsame => h.waits hstrict ?_⟩
  · exact hweight ▸ h.weight
  · rw [hweight, hlength]
    exact h.size
  · exact hlength ▸ h.grows
  · exact hweight ▸ hsame

end Spends

end Page

end PageRouter
