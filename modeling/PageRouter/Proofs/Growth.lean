import PageRouter.Proofs.Refreshing

/-!
# Nodes that come and go

Mounting adds a node at the end of the list and to the listeners of one signal; unmounting takes a
node out of the listeners and marks it.  Either way the page stays sound, and every node that does
not hang below the one that comes or goes is as right as it was.
-/

namespace PageRouter.Page

variable {kind : Command → Bool} {scope : Scope} {page : Page} {id : NodeId}
  {excused : NodeId → Prop}

/-! ## A node that comes -/

/-- The page with one more node, which listens to a signal. -/
def grown (page : Page) (ref : SignalRef) (node : Node) (registry : Registry) : Page :=
  let heard := (page.subscribe ref (.node page.nodes.length)).2
  { heard with registry := registry, nodes := heard.nodes ++ [node] }

section Grown

variable {ref : SignalRef} {node : Node} {registry : Registry}

lemma standings_grown (page : Page) (ref : SignalRef) (node : Node) (registry : Registry) :
    (page.grown ref node registry).standings = page.standings ++ [node.standing] := by
  rw [← standings_modifySignal page ref (·.subscribe (.node page.nodes.length))]
  simp only [standings, grown, Page.subscribe, List.map_append, List.map_singleton]

lemma seats_grown (page : Page) (ref : SignalRef) (node : Node) (registry : Registry) :
    (page.grown ref node registry).seats = page.seats ++ [node.seat] := by
  simp only [seats_eq_map_standings, standings_grown, List.map_append, List.map_singleton]
  rfl

/-- The new node is nobody's signal yet. -/
lemma signal_grown (hhas : page.HasSignal ref) (hsilent : node.tailChanged = .empty)
    (other : SignalRef) :
    (page.grown ref node registry).signal other
      = if ref = other then (page.signal ref).subscribe (.node page.nodes.length)
        else page.signal other := by
  have hold : (page.grown ref node registry).signal other
      = (page.modifySignal ref (·.subscribe (.node page.nodes.length))).signal other := by
    cases other with
    | location => rfl
    | tailOf id =>
        simp only [signal, grown, Page.subscribe]
        rcases Nat.lt_trichotomy id
          (page.modifySignal ref (·.subscribe (.node page.nodes.length))).nodes.length
          with hlt | rfl | hgt
        · rw [List.getElem?_append_left hlt]
        · simp [hsilent]
        · rw [List.getElem?_eq_none (Nat.le_of_lt hgt), List.getElem?_eq_none]
          simp only [List.length_append, List.length_singleton]
          exact hgt
  rw [hold]
  split
  · next href => subst href; exact signal_modifySignal_self hhas _
  · next href => exact signal_modifySignal_ne href _

lemma getElem?_seats_grown_of_some {seat : Seat} (h : page.seats[id]? = some seat) :
    (page.grown ref node registry).seats[id]? = some seat := by
  rwa [seats_grown, List.getElem?_append_left (List.getElem?_eq_some_iff.1 h).1]

lemma getElem?_seats_grown_self :
    (page.grown ref node registry).seats[page.nodes.length]? = some node.seat := by
  rw [seats_grown, ← length_seats]
  exact List.getElem?_concat_length

lemma getElem?_seats_grown_cases {seat : Seat}
    (h : (page.grown ref node registry).seats[id]? = some seat) :
    page.seats[id]? = some seat ∨ id = page.nodes.length ∧ seat = node.seat := by
  rw [seats_grown] at h
  rcases Nat.lt_trichotomy id page.seats.length with hlt | rfl | hgt
  · rw [List.getElem?_append_left hlt] at h; exact .inl h
  · rw [List.getElem?_concat_length, Option.some.injEq] at h
    exact .inr ⟨length_seats page, h.symm⟩
  · rw [List.getElem?_eq_none] at h
    · cases h
    · simp only [List.length_append, List.length_singleton]; exact hgt

lemma getElem?_standings_grown_self :
    (page.grown ref node registry).standings[page.nodes.length]? = some node.standing := by
  rw [standings_grown, ← List.length_map Node.standing]
  exact List.getElem?_concat_length

lemma getElem?_standings_grown_of_lt (h : id < page.nodes.length) :
    (page.grown ref node registry).standings[id]? = page.standings[id]? := by
  rw [standings_grown, List.getElem?_append_left]
  rwa [standings, List.length_map]

lemma directory_grown : (page.grown ref node registry).directory = page.directory :=
  directory_modifySignal page ref _

lemma queue_grown : (page.grown ref node registry).queue = page.queue := by cases ref <;> rfl

/-- The nodes that listen to a signal are older than the one that comes. -/
lemma Sound.lt_of_listens (h : page.Sound) {number : Nat}
    (hmem : (number, id) ∈ (page.signal ref).nodes) : id < page.nodes.length := by
  obtain ⟨seat, hseat, -⟩ := h.heard ref number id hmem
  rw [← length_seats]
  exact (List.getElem?_eq_some_iff.1 hseat).1

/-- The listeners are those of before, and the new node on its signal. -/
lemma mem_nodes_grown (hhas : page.HasSignal ref) (hsilent : node.tailChanged = .empty)
    (other : SignalRef) (number : Nat) (id : NodeId) :
    (number, id) ∈ ((page.grown ref node registry).signal other).nodes ↔
      (number, id) ∈ (page.signal other).nodes ∨
        other = ref ∧ number = (page.signal ref).nextNumber ∧ id = page.nodes.length := by
  rw [signal_grown hhas hsilent]
  split
  · next href =>
    subst href
    simp only [Signal.nodes_subscribe_node, List.mem_append, List.mem_singleton, Prod.mk.injEq,
      true_and]
  · next href => simp only [Ne.symm href, false_and, or_false]

lemma Sound.inOrder_grown (h : page.Sound) (hhas : page.HasSignal ref)
    (hsilent : node.tailChanged = .empty) (other : SignalRef) :
    (((page.grown ref node registry).signal other).nodes.map (·.2)).Pairwise (· < ·) := by
  rw [signal_grown hhas hsilent]
  split
  · rw [Signal.nodes_subscribe_node, List.map_append, List.pairwise_append]
    refine ⟨h.inOrder ref, List.pairwise_singleton .., ?_⟩
    intro older holder newer hnewer
    obtain ⟨⟨number, id⟩, hmem, rfl⟩ := List.mem_map.1 holder
    simp only [List.map_singleton, List.mem_singleton] at hnewer
    subst hnewer
    exact h.lt_of_listens hmem
  · exact h.inOrder other

lemma Sound.grown (h : page.Sound) (hhas : page.HasSignal ref) (hsilent : node.tailChanged = .empty)
    (hmounted : node.mounted = true)
    (hsub : node.subscription = ⟨ref, (page.signal ref).nextNumber⟩)
    (hplaced : node.route.place = .root ↔ node.seat.isTop)
    (hinLine : node.cache.InLine node.lastMatch) (registry : Registry) :
    (page.grown ref node registry).Sound where
  orderly := by
    intro other
    rw [signal_grown hhas hsilent]
    split
    · exact (h.orderly ref).subscribe _
    · exact h.orderly other
  heard := by
    intro other number id hmem
    rcases (mem_nodes_grown hhas hsilent other number id).1 hmem with hold | ⟨rfl, rfl, rfl⟩
    · obtain ⟨seat, hseat, hrest⟩ := h.heard other number id hold
      exact ⟨seat, getElem?_seats_grown_of_some hseat, hrest⟩
    · exact ⟨node.seat, getElem?_seats_grown_self, hmounted, hsub⟩
  listening := by
    intro id seat hseat hseatMounted
    rw [mem_nodes_grown hhas hsilent]
    rcases getElem?_seats_grown_cases hseat with hold | ⟨rfl, rfl⟩
    · exact .inl (h.listening id seat hold hseatMounted)
    · exact .inr ⟨congrArg Subscription.signal hsub, congrArg Subscription.number hsub, rfl⟩
  elder := by
    intro id seat parent hseat hparent
    rcases getElem?_seats_grown_cases hseat with hold | ⟨rfl, rfl⟩
    · exact h.elder id seat parent hold hparent
    · have href : ref = .tailOf parent := (congrArg Subscription.signal hsub).symm.trans hparent
      subst href
      exact hhas
  inOrder := h.inOrder_grown hhas hsilent
  placed := by
    intro standing hstanding
    rw [standings_grown, List.mem_append, List.mem_singleton] at hstanding
    rcases hstanding with hold | rfl
    · exact h.placed standing hold
    · exact hplaced
  inLine := by
    intro other hother
    rcases List.mem_append.1 hother with hmem | hmem
    · exact h.inLine_modifySignal ref _ other hmem
    · rw [List.mem_singleton.1 hmem]; exact hinLine
  waiting := by
    rw [queue_grown]
    intro id hid
    obtain ⟨seat, hseat, hrest⟩ := h.waiting id hid
    exact ⟨seat, getElem?_seats_grown_of_some hseat, hrest⟩
  apart := by
    rw [directory_grown]
    intro entry hentry id hid
    rcases (mem_nodes_grown hhas hsilent _ _ _).1 hid with hold | ⟨href, hnumber, -⟩
    · exact h.apart entry hentry id hold
    · -- the number of the new node was never given out
      have hlt := h.given entry hentry
      rw [href, hnumber] at hlt
      exact Nat.lt_irrefl _ hlt
  given := by
    rw [directory_grown]
    intro entry hentry
    rw [signal_grown hhas hsilent]
    split
    · next href => rw [href]; exact Nat.lt_succ_of_lt (h.given entry hentry)
    · exact h.given entry hentry

lemma Steady.grown (h : Steady kind scope page) (hhas : page.HasSignal ref)
    (hsilent : node.tailChanged = .empty) (hmounted : node.mounted = true)
    (hsub : node.subscription = ⟨ref, (page.signal ref).nextNumber⟩)
    (hplaced : node.route.place = .root ↔ node.seat.isTop)
    (hinLine : node.cache.InLine node.lastMatch) (registry : Registry) :
    Steady kind scope (page.grown ref node registry) := by
  refine ⟨h.sound.grown hhas hsilent hmounted hsub hplaced hinLine registry,
    h.obeys.of_eq (hooks_modifySignal ..) (firstHook_modifySignal ..) (watchers_modifySignal ..) ?_⟩
  intro other number place hmem
  rw [signal_grown hhas hsilent] at hmem
  split at hmem
  · next href =>
    subst href
    simp only [Signal.subscribe, List.mem_append, List.mem_singleton, Prod.mk.injEq, and_false,
      or_false, reduceCtorEq] at hmem
    exact hmem
  · exact hmem

/-- Only the new node may be wrong. -/
lemma Right.grown (h : Right excused page) (hsound : page.Sound) (hpending : page.queue.pending = []) :
    Right (fun id => excused id ∨ id = page.nodes.length) (page.grown ref node registry) := by
  have hurl : (page.grown ref node registry).url = page.url := by cases ref <;> rfl
  have hroot : (page.grown ref node registry).root? = page.root? := by cases ref <;> rfl
  intro id standing hstanding hnot
  rw [standings_grown] at hstanding
  have hlt : id < page.standings.length := by
    refine Nat.lt_of_not_le fun hge => ?_
    rw [List.getElem?_append_right hge, List.getElem?_singleton] at hstanding
    split at hstanding
    · next hzero =>
      refine hnot (.inr ?_)
      rw [← List.length_map Node.standing]
      exact Nat.le_antisymm (Nat.le_of_sub_eq_zero hzero) hge
    · cases hstanding
  rw [List.getElem?_append_left hlt] at hstanding
  obtain ⟨hlive, hcut, halone⟩ := h id standing hstanding fun hexcused => hnot (.inl hexcused)
  have hsame : Live (page.grown ref node registry).seats id ↔ Live page.seats id := by
    rw [seats_grown]
    refine ⟨fun his => his.of_append hsound.elder ?_, .append⟩
    rwa [length_seats, ← List.length_map Node.standing]
  refine ⟨fun his => .inl ?_, fun hnot => hcut (mt hsame.2 hnot),
    fun hnot => halone (mt hsame.2 hnot)⟩
  rw [reads_congr hurl hroot]
  refine (hlive (hsame.1 his)).resolve_right ?_
  rintro ⟨top, htop, -⟩
  rw [hpending] at htop
  cases htop

end Grown

/-! ## A node that goes -/

/-- The page once a node is not mounted any more and does not listen. -/
def shut (page : Page) (id : NodeId) (subscription : Subscription) : Page :=
  (page.cancel subscription).modifyNode id fun node => { node with mounted := false }

section Shut

variable {node : Node}

lemma getElem?_standings_shut (page : Page) (id : NodeId) (subscription : Subscription)
    (other : NodeId) :
    (page.shut id subscription).standings[other]? = page.standings[other]?.map fun standing =>
      if id = other then { standing with seat := { standing.seat with mounted := false } }
      else standing := by
  rw [← standings_modifySignal page subscription.signal (·.cancel subscription.number)]
  simp only [getElem?_standings, shut, Page.cancel, nodes_modifyNode, List.getElem?_modify]
  cases (page.modifySignal subscription.signal (·.cancel subscription.number)).nodes[other]? with
  | none => rfl
  | some old => by_cases hid : id = other <;> simp [hid, Node.standing, Node.seat]

lemma getElem?_seats_shut_ne {subscription : Subscription} {other : NodeId} (hne : other ≠ id) :
    (page.shut id subscription).seats[other]? = page.seats[other]? := by
  simp only [seats_eq_map_standings, List.getElem?_map, getElem?_standings_shut, hne.symm, if_false,
    Option.map_id']

lemma getElem?_seats_shut_self (subscription : Subscription) (hnode : page.nodes[id]? = some node) :
    (page.shut id subscription).seats[id]? = some { node.seat with mounted := false } := by
  rw [seats_eq_map_standings, List.getElem?_map, getElem?_standings_shut, getElem?_standings, hnode,
    Option.map_some, Option.map_some, if_pos rfl, Option.map_some]
  rfl

lemma mounted_shut {subscription : Subscription} {seat : Seat}
    (h : (page.shut id subscription).seats[id]? = some seat) : seat.mounted = false := by
  simp only [seats_eq_map_standings, List.getElem?_map, getElem?_standings_shut, if_true,
    Option.map_map, Option.map_eq_some_iff] at h
  obtain ⟨standing, -, rfl⟩ := h
  rfl

lemma not_live_shut {subscription : Subscription} :
    ¬Live (page.shut id subscription).seats id := by
  intro hlive
  obtain ⟨seat, hseat, hmounted⟩ := hlive.exists_seat
  rw [mounted_shut hseat] at hmounted
  cases hmounted

/-- What a seat of the page that is still mounted was before. -/
lemma getElem?_seats_of_shut {subscription : Subscription} {other : NodeId} {seat : Seat}
    (h : (page.shut id subscription).seats[other]? = some seat) (hmounted : seat.mounted) :
    page.seats[other]? = some seat ∧ other ≠ id := by
  have hne : other ≠ id := by
    rintro rfl
    rw [mounted_shut h] at hmounted
    cases hmounted
  exact ⟨(getElem?_seats_shut_ne hne).symm.trans h, hne⟩

lemma subscription_of_shut {subscription : Subscription} {other : NodeId} {seat : Seat}
    (h : (page.shut id subscription).seats[other]? = some seat) :
    ∃ old, page.seats[other]? = some old ∧ old.subscription = seat.subscription := by
  simp only [seats_eq_map_standings, List.getElem?_map, getElem?_standings_shut, Option.map_map,
    Option.map_eq_some_iff] at h
  obtain ⟨standing, hstanding, rfl⟩ := h
  refine ⟨standing.seat, seats_of_standings hstanding, ?_⟩
  simp only [Function.comp]
  split
  · rfl
  · rfl

lemma signal_shut {subscription : Subscription} (hhas : page.HasSignal subscription.signal)
    (other : SignalRef) :
    (page.shut id subscription).signal other
      = if subscription.signal = other then (page.signal other).cancel subscription.number
        else page.signal other := by
  rw [shut, signal_modifyNode]
  · split
    · next href => subst href; exact signal_modifySignal_self hhas _
    · next href => exact signal_modifySignal_ne href _
  · exact fun _ => rfl

lemma directory_shut {subscription : Subscription} :
    (page.shut id subscription).directory = page.directory :=
  directory_modifySignal page subscription.signal _

lemma queue_shut {subscription : Subscription} : (page.shut id subscription).queue = page.queue := by
  obtain ⟨ref, number⟩ := subscription
  cases ref <;> rfl

lemma length_shut {subscription : Subscription} :
    (page.shut id subscription).nodes.length = page.nodes.length := by
  obtain ⟨ref, number⟩ := subscription
  cases ref <;> simp [Page.shut, Page.cancel, Page.modifySignal]

/-- A node listens to a signal that there is. -/
lemma Sound.hasSignal (h : page.Sound) {seat : Seat} (hseat : page.seats[id]? = some seat) :
    page.HasSignal seat.subscription.signal := by
  cases hsub : seat.subscription.signal with
  | location => trivial
  | tailOf parent =>
      have hlt := (List.getElem?_eq_some_iff.1 hseat).1
      rw [length_seats] at hlt
      exact Nat.lt_trans (h.elder id seat parent hseat hsub) hlt

lemma Sound.signal_shut (h : page.Sound) (hnode : page.nodes[id]? = some node)
    (other : SignalRef) :
    (page.shut id node.subscription).signal other
      = if node.subscription.signal = other
        then (page.signal other).cancel node.subscription.number
        else page.signal other :=
  Page.signal_shut (h.hasSignal (seats_of_nodes hnode)) other

/-- The listeners are those of before, without the node. -/
lemma Sound.mem_nodes_shut (h : page.Sound) (hnode : page.nodes[id]? = some node)
    (hmounted : node.mounted = true) (other : SignalRef) (number : Nat) (called : NodeId) :
    (number, called) ∈ ((page.shut id node.subscription).signal other).nodes ↔
      (number, called) ∈ (page.signal other).nodes ∧ called ≠ id := by
  have hseat : page.seats[id]? = some node.seat := seats_of_nodes hnode
  have hown : ∀ {number}, (number, id) ∈ (page.signal other).nodes →
      node.subscription = ⟨other, number⟩ := by
    intro number hmem
    obtain ⟨seat, hid, -, hsub⟩ := h.heard other number id hmem
    rw [hseat, Option.some.injEq] at hid
    subst hid
    exact hsub
  rw [h.signal_shut hnode]
  split
  · next href =>
    rw [Signal.nodes_cancel, List.mem_filter]
    refine and_congr_right fun hmem => ?_
    have hlistens : (node.subscription.number, id) ∈ (page.signal other).nodes :=
      href ▸ h.listening id node.seat hseat hmounted
    simp only [ne_eq, decide_not, Bool.not_eq_eq_eq_not, Bool.not_true, decide_eq_false_iff_not]
    refine not_congr ⟨fun hnumber => ?_, fun hid => ?_⟩
    · have := (h.orderly other).eq_of_mem (Signal.mem_nodes.1 hmem) (Signal.mem_nodes.1 hlistens)
        hnumber
      simpa using congrArg Prod.snd this
    · subst hid
      exact (congrArg Subscription.number (hown hmem)).symm
  · next href =>
    refine ⟨fun hmem => ⟨hmem, ?_⟩, And.left⟩
    rintro rfl
    exact href (congrArg Subscription.signal (hown hmem))

lemma Sound.shut (h : page.Sound) (hnode : page.nodes[id]? = some node)
    (hmounted : node.mounted = true) (hpending : page.queue.pending = []) :
    (page.shut id node.subscription).Sound where
  orderly := by
    intro other
    rw [h.signal_shut hnode]
    split
    · exact (h.orderly other).cancel _
    · exact h.orderly other
  heard := by
    intro other number called hmem
    obtain ⟨hmem, hne⟩ := (h.mem_nodes_shut hnode hmounted other number called).1 hmem
    obtain ⟨seat, hcalled, hrest⟩ := h.heard other number called hmem
    exact ⟨seat, (getElem?_seats_shut_ne hne).trans hcalled, hrest⟩
  listening := by
    intro other seat hother hotherMounted
    obtain ⟨hother, hne⟩ := getElem?_seats_of_shut hother hotherMounted
    rw [h.mem_nodes_shut hnode hmounted]
    exact ⟨h.listening other seat hother hotherMounted, hne⟩
  elder := by
    intro other seat parent hother hparent
    obtain ⟨old, hold, hsub⟩ := subscription_of_shut hother
    exact h.elder other old parent hold (hsub ▸ hparent)
  inOrder := by
    intro other
    rw [h.signal_shut hnode]
    split
    · rw [Signal.nodes_cancel]
      exact (h.inOrder other).sublist (List.filter_sublist.map _)
    · exact h.inOrder other
  placed := by
    intro standing hstanding
    obtain ⟨other, hother⟩ := List.mem_iff_getElem?.1 hstanding
    rw [getElem?_standings_shut, Option.map_eq_some_iff] at hother
    obtain ⟨old, hold, rfl⟩ := hother
    have hplaced := h.placed old (List.mem_of_getElem? hold)
    split
    · exact hplaced
    · exact hplaced
  inLine := forall_nodes_modifyNode (h.inLine_modifySignal node.subscription.signal _)
    fun _ _ hline => hline
  waiting := by
    rw [queue_shut, hpending]
    exact fun _ hmem => by cases hmem
  apart := by
    rw [directory_shut]
    exact fun entry hentry called hcalled =>
      h.apart entry hentry called ((h.mem_nodes_shut hnode hmounted _ _ _).1 hcalled).1
  given := by
    rw [directory_shut]
    intro entry hentry
    rw [h.signal_shut hnode]
    split
    · exact h.given entry hentry
    · exact h.given entry hentry

lemma Steady.shut (h : Steady kind scope page) (hnode : page.nodes[id]? = some node)
    (hmounted : node.mounted = true) (hpending : page.queue.pending = []) :
    Steady kind scope (page.shut id node.subscription) := by
  refine ⟨h.sound.shut hnode hmounted hpending, h.obeys.of_eq (hooks_modifySignal ..)
    (firstHook_modifySignal ..) (watchers_modifySignal ..) ?_⟩
  intro other number place hmem
  rw [h.sound.signal_shut hnode] at hmem
  split at hmem
  · exact (List.mem_filter.1 hmem).1
  · exact hmem

/-- Only what hangs below the node may be wrong. -/
lemma Right.shut (h : Right excused page) (hpending : page.queue.pending = []) (id : NodeId)
    (subscription : Subscription) :
    Right (fun other => excused other ∨ Below page.seats id other) (page.shut id subscription) := by
  have hurl : (page.shut id subscription).url = page.url := by
    obtain ⟨ref, number⟩ := subscription
    cases ref <;> rfl
  have hroot : (page.shut id subscription).root? = page.root? := by
    obtain ⟨ref, number⟩ := subscription
    cases ref <;> rfl
  have hothers : ∀ other, other ≠ id →
      (page.shut id subscription).seats[other]? = page.seats[other]? :=
    fun other hne => getElem?_seats_shut_ne hne
  intro other standing hstanding hnot
  have hbelow : ¬Below page.seats id other := fun hbelow => hnot (.inr hbelow)
  have hne : id ≠ other := by rintro rfl; exact hbelow .self
  rw [getElem?_standings_shut] at hstanding
  simp only [hne, if_false, Option.map_id'] at hstanding
  obtain ⟨hlive, hcut, halone⟩ := h other standing hstanding fun hexcused => hnot (.inl hexcused)
  have hsame : Live (page.shut id subscription).seats other ↔ Live page.seats other :=
    ⟨.of_loss hothers fun _ => mounted_shut, fun his => his.of_ne hothers hbelow⟩
  refine ⟨fun his => .inl ?_, fun hnot => hcut (mt hsame.2 hnot),
    fun hnot => halone (mt hsame.2 hnot)⟩
  rw [reads_congr hurl hroot]
  refine (hlive (hsame.1 his)).resolve_right ?_
  rintro ⟨top, htop, -⟩
  rw [hpending] at htop
  cases htop

end Shut

end PageRouter.Page
