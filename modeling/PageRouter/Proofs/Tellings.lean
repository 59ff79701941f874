import PageRouter.Proofs.Changes

/-!
# What tellings do

Telling the location and telling a tail call whoever listened when the telling began.  As long as
the forest stays as it is, no node drops out on the way, and each is called once (`leads_tell`).

What the calls do is taken from outside.  `Conducts` says what is known of them: commands move a
page on, a node that is matched while the document is busy waits, one that is matched while it is
free is right afterwards with all nodes in it, and so are the nodes that waited once their turn
has come.
-/

namespace PageRouter.Page

variable {must : Bool} {scope : Scope} {deeper : Deeper} {page mid after : Page} {id : NodeId}

/-! ## Who is called -/

/-- The node is among those that are called. -/
def Calls (rest : List (Nat × Listener)) (id : NodeId) : Prop :=
  ∃ number, (number, Listener.node id) ∈ rest

/-- The node hangs below one that is still to be called. -/
def Due (seats : List Seat) (rest : List (Nat × Listener)) (id : NodeId) : Prop :=
  ∃ called, Calls rest called ∧ Below seats called id

lemma calls_cons_node {number : Nat} {called : NodeId} {rest : List (Nat × Listener)} :
    Calls ((number, .node called) :: rest) id ↔ id = called ∨ Calls rest id := by
  simp only [Calls, List.mem_cons, Prod.mk.injEq, Listener.node.injEq]
  constructor
  · rintro ⟨other, ⟨-, rfl⟩ | hmem⟩
    · exact .inl rfl
    · exact .inr ⟨other, hmem⟩
  · rintro (rfl | ⟨other, hmem⟩)
    · exact ⟨number, .inl ⟨rfl, rfl⟩⟩
    · exact ⟨other, .inr hmem⟩

lemma calls_cons_watcher {number place : Nat} {rest : List (Nat × Listener)} :
    Calls ((number, .watcher place) :: rest) id ↔ Calls rest id := by
  simp [Calls]

lemma not_calls_nil : ¬Calls [] id := by simp [Calls]

lemma not_due_nil {seats : List Seat} : ¬Due seats [] id := by simp [Due, Calls]

lemma due_cons_watcher {seats : List Seat} {number place : Nat} {rest : List (Nat × Listener)} :
    Due seats ((number, .watcher place) :: rest) id ↔ Due seats rest id := by
  simp only [Due, calls_cons_watcher]

lemma due_cons_node {seats : List Seat} {number : Nat} {called : NodeId}
    {rest : List (Nat × Listener)} :
    Due seats ((number, .node called) :: rest) id ↔ Below seats called id ∨ Due seats rest id := by
  simp only [Due, calls_cons_node]
  constructor
  · rintro ⟨_, rfl | hcalls, hbelow⟩
    · exact .inl hbelow
    · exact .inr ⟨_, hcalls, hbelow⟩
  · rintro (hbelow | ⟨other, hcalls, hbelow⟩)
    · exact ⟨called, .inl rfl, hbelow⟩
    · exact ⟨other, .inr hcalls, hbelow⟩

/-- A node is among the listeners to a signal exactly if it is mounted and listens to it. -/
lemma Sound.calls_iff (h : page.Sound) {ref : SignalRef} :
    Calls (page.signal ref).listeners id ↔
      ∃ seat, page.seats[id]? = some seat ∧ seat.mounted ∧ seat.subscription.signal = ref := by
  constructor
  · rintro ⟨number, hmem⟩
    obtain ⟨seat, hseat, hmounted, hsub⟩ := h.heard ref number id (Signal.mem_nodes.2 hmem)
    exact ⟨seat, hseat, hmounted, by rw [hsub]⟩
  · rintro ⟨seat, hseat, hmounted, rfl⟩
    exact ⟨_, Signal.mem_nodes.1 (h.listening id seat hseat hmounted)⟩

/-- **Telling everyone while the forest stays as it is.**  The invariant says what holds while `rest`
is still to be called; a node is called once and is mounted then. -/
lemma leads_tell {ref : SignalRef} {call : Listener → PageM Unit} (h : page.Sound)
    (inv : List (Nat × Listener) → Page → Prop)
    (hforest : ∀ rest now, inv rest now → SameForest page now)
    (hnode : ∀ number id rest now, inv ((number, .node id) :: rest) now → ¬Calls rest id →
      (∃ seat, page.seats[id]? = some seat ∧ seat.mounted ∧ seat.subscription.signal = ref) →
      Leads must (call (.node id)) now fun _ after => inv rest after)
    (hwatcher : ∀ number place rest now, inv ((number, .watcher place) :: rest) now →
      (number, .watcher place) ∈ (page.signal ref).listeners →
      Leads must (call (.watcher place)) now fun _ after => inv rest after)
    (hskip : ∀ number place rest now, inv ((number, .watcher place) :: rest) now → inv rest now)
    (hinv : inv (page.signal ref).listeners page) :
    Leads must (Signal.emit (return (← get).signal ref) call) page fun _ after => inv [] after := by
  -- what is still to be called is the end of the list as it was at the beginning
  have hsuffix : ∀ number listener rest, (number, listener) :: rest <:+ (page.signal ref).listeners →
      rest <:+ (page.signal ref).listeners ∧ (number, listener) ∈ (page.signal ref).listeners :=
    fun _ _ _ hrest => ⟨(List.suffix_cons _ _).trans hrest, hrest.subset (List.mem_cons_self ..)⟩
  refine (leads_emit (fun rest now => rest <:+ (page.signal ref).listeners ∧ inv rest now) ?_ ?_
    ⟨List.suffix_refl _, hinv⟩).mono fun _ _ hafter => hafter.2
  · rintro number listener rest now ⟨hrest, hnow⟩ -
    obtain ⟨htail, hmem⟩ := hsuffix _ _ _ hrest
    cases listener with
    | node id =>
        obtain ⟨seat, hseat, hmounted, hsub⟩ := h.heard ref number id (Signal.mem_nodes.2 hmem)
        refine (hnode number id rest now hnow ?_ ⟨seat, hseat, hmounted, by rw [hsub]⟩).mono
          fun _ _ hafter => ⟨htail, hafter⟩
        rintro ⟨other, hother⟩
        obtain ⟨seat', hseat', -, hsub'⟩ :=
          h.heard ref other id (Signal.mem_nodes.2 (htail.subset hother))
        have hnumber : number = other := by
          rw [hseat, Option.some.injEq] at hseat'
          rw [hseat', hsub'] at hsub
          exact (congrArg Subscription.number hsub).symm
        have hrising := (h.orderly ref).rising.sublist hrest.sublist
        exact absurd ((List.pairwise_cons.1 hrising).1 _ hother) (hnumber ▸ Nat.lt_irrefl _)
    | watcher place =>
        exact (hwatcher number place rest now hnow hmem).mono fun _ _ hafter => ⟨htail, hafter⟩
  · rintro number listener rest now ⟨hrest, hnow⟩ hoff
    obtain ⟨htail, hmem⟩ := hsuffix _ _ _ hrest
    refine ⟨htail, ?_⟩
    cases listener with
    | node id =>
        have hlistens : (number, id) ∈ (now.signal ref).nodes := by
          rw [(hforest _ _ hnow).nodes]
          exact Signal.mem_nodes.2 hmem
        exact absurd (Signal.isSubscribed_of_mem (Signal.mem_nodes.1 hlistens)) hoff
    | watcher place => exact hskip number place rest now hnow

/-! ## What is known of the calls -/

/-- **What matching a node again does** while the document is free: afterwards nobody waits, and the
node and all nodes in it are right. -/
structure Rematched (id : NodeId) (page after : Page) : Prop where
  forest : SameForest page after
  busy : after.queue.busy = page.queue.busy
  pending : after.queue.pending = []
  right : Live page.seats id ∨ page.placeOf id = .child none → ∀ excused, Right excused page →
    Right (fun other => excused other ∧ ¬Below page.seats id other) after
  /-- The visit of the node itself delivers to the node what its parent has told it before. -/
  visits : ∃ visit rest, visit.node = id ∧ after.visits = page.visits ++ visit :: rest ∧
    (∀ other, Publishes other page after (visit :: rest)) ∧
    ∀ parent child seat, page.seats[child]? = some seat → seat.isIn parent →
      Delivers parent child page after (if child = id then rest else visit :: rest)

/-- **What is known of the calls of the next level.** -/
structure Conducts (scope : Scope) (deeper : Deeper) : Prop where
  command : ∀ command, command.roams → command.brings Command.roams → ∀ page,
    Steady Command.roams scope page →
    Keeps false Command.roams scope Moves (deeper (.command command)) page
  /-- While the document is busy, a node waits. -/
  defer : ∀ id seat page, page.seats[id]? = some seat → seat.mounted → seat.isTop →
    Steady Command.roams scope page → page.queue.busy = true →
    Leads false (deeper (.refresh id)) page fun _ after =>
      Steady Command.roams scope after ∧ Held page after ∧ id ∈ after.queue.pending
  /-- While it is free, the node is matched. -/
  refresh : ∀ id seat page, page.seats[id]? = some seat → seat.mounted →
    Steady Command.roams scope page → page.queue.busy = false →
    Leads false (deeper (.refresh id)) page fun _ after =>
      Steady Command.roams scope after ∧ Rematched id page after
  /-- A node that is not mounted is not matched. -/
  skip : ∀ id node page, page.nodes[id]? = some node → node.mounted = false →
    page.queue.busy = false → Leads false (deeper (.refresh id)) page fun _ after => after = page
  /-- Nobody waits once everyone has had a turn. -/
  drain : ∀ page, Steady Command.roams scope page → page.queue.busy = false →
    Leads false (deeper .drain) page fun _ after =>
      Steady Command.roams scope after ∧ Free page after ∧ after.queue.pending = []

/-- A node that listens for the location has no parent to hear from, so its visit is one like any
other. -/
lemma Rematched.free (h : Rematched id page after) {seat : Seat}
    (hseat : page.seats[id]? = some seat) (hmounted : seat.mounted) (htop : seat.isTop) :
    Free page after where
  forest := h.forest
  busy := h.busy
  pending := .inl h.pending
  right := fun excused hright =>
    (h.right (.inl (.top hseat hmounted htop)) excused hright).mono fun _ hexcused => hexcused.1
  visits := by
    obtain ⟨visit, rest, -, hvisits, hpublished, hdelivered⟩ := h.visits
    refine ⟨visit :: rest, hvisits, hpublished, fun parent child seat' hchild hin => ?_⟩
    have hne : child ≠ id := by
      rintro rfl
      rw [hseat, Option.some.injEq] at hchild
      simp only [Seat.isTop, decide_eq_true_eq] at htop
      rw [hchild, hin.2] at htop
      cases htop
    simpa only [hne, if_false] using hdelivered parent child seat' hchild hin

/-! ## Telling the location -/

section Location

variable (h : Conducts scope deeper) (hsteady : Steady Command.roams scope page)
  (event : LocationEvent)

include h hsteady

/-- A listener from outside that is called moves the page on. -/
lemma Conducts.watcher {now : Page} (hnow : Steady Command.roams scope now) {ref : SignalRef}
    {number place : Nat} (hmem : (number, Listener.watcher place) ∈ (page.signal ref).listeners)
    (told : Text → PageEvent) (key : Text) (htold : ∀ name, (told name).visit? = none) :
    Leads false (tellWatcher deeper place told key) now fun _ after =>
      Steady Command.roams scope after ∧ Moves now after :=
  tellWatcher_keeps Lasting.moves (fun command hroams hbrings => h.command command hroams hbrings)
    (hsteady.obeys.listening ref number place hmem) htold hnow

/-- **Telling the location while the document is busy** makes every node wait that listens for it. -/
lemma Conducts.tellLocation_held (hbusy : page.queue.busy = true) :
    Leads false (Signal.emit (return (← get).signal .location) (tellLocation deeper event)) page
      fun _ after => Steady Command.roams scope after ∧ Held page after ∧
        ∀ id seat, page.seats[id]? = some seat → seat.mounted → seat.isTop →
          id ∈ after.queue.pending := by
  refine (leads_tell hsteady.sound (fun rest now => Steady Command.roams scope now ∧ Held page now ∧
    ∀ id seat, page.seats[id]? = some seat → seat.mounted → seat.isTop →
      Calls rest id ∨ id ∈ now.queue.pending) ?_ ?_ ?_ ?_ ?_).mono ?_
  case refine_1 => exact fun _ now hnow => hnow.2.1.forest
  case refine_2 =>
    rintro number id rest now ⟨hnow, hheld, hturn⟩ - ⟨seat, hseat, hmounted, hsub⟩
    simp only [tellLocation, leads_discard]
    refine (h.defer id seat now (by rw [hheld.forest.seats]; exact hseat) hmounted
      (by simpa [Seat.isTop] using hsub) hnow (hheld.busy.trans hbusy)).mono ?_
    rintro _ after ⟨hafter, hheld', hwaits⟩
    refine ⟨hafter, hheld.trans hheld', fun other seat' hseat' hmounted' htop => ?_⟩
    rcases hturn other seat' hseat' hmounted' htop with hcalls | hpending
    · rcases calls_cons_node.1 hcalls with rfl | hcalls
      · exact .inr hwaits
      · exact .inl hcalls
    · exact .inr (hheld'.waits other hpending)
  case refine_3 =>
    rintro number place rest now ⟨hnow, hheld, hturn⟩ hmem
    refine (h.watcher hsteady hnow hmem (.location place · event) event.url fun _ => rfl).mono ?_
    rintro _ after ⟨hafter, hmoves⟩
    have hheld' := hmoves.held (hheld.busy.trans hbusy)
    refine ⟨hafter, hheld.trans hheld', fun id seat hseat hmounted htop => ?_⟩
    exact (hturn id seat hseat hmounted htop).imp calls_cons_watcher.1 (hheld'.waits id)
  case refine_4 =>
    rintro number place rest now ⟨hnow, hheld, hturn⟩
    refine ⟨hnow, hheld, fun id seat hseat hmounted htop => ?_⟩
    exact (hturn id seat hseat hmounted htop).imp_left calls_cons_watcher.1
  case refine_5 =>
    refine ⟨hsteady, .of_same (.refl page), fun id seat hseat hmounted htop => .inl ?_⟩
    exact hsteady.sound.calls_iff.2 ⟨seat, hseat, hmounted, by simpa [Seat.isTop] using htop⟩
  case refine_6 =>
    rintro _ after ⟨hafter, hheld, hturn⟩
    refine ⟨hafter, hheld, fun id seat hseat hmounted htop => ?_⟩
    exact (hturn id seat hseat hmounted htop).resolve_left not_calls_nil

/-- **Telling the location while the document is free** rights everyone who is called, and all nodes
in them. -/
lemma Conducts.tellLocation_free (hfree : page.queue.busy = false) :
    Leads false (Signal.emit (return (← get).signal .location) (tellLocation deeper event)) page
      fun _ after => Steady Command.roams scope after ∧ Free page after ∧ ∀ excused,
        Right (fun id => excused id ∨ Due page.seats (page.signal .location).listeners id) page →
        Right excused after := by
  refine (leads_tell hsteady.sound (fun rest now => Steady Command.roams scope now ∧ Free page now ∧
    ∀ excused : NodeId → Prop,
      Right (fun id => excused id ∨ Due page.seats (page.signal .location).listeners id) page →
      Right (fun id => excused id ∨ Due page.seats rest id) now) ?_ ?_ ?_ ?_ ?_).mono ?_
  case refine_1 => exact fun _ now hnow => hnow.2.1.forest
  case refine_2 =>
    rintro number id rest now ⟨hnow, hmoved, hright⟩ - ⟨seat, hseat, hmounted, hsub⟩
    have htop : seat.isTop := by simpa [Seat.isTop] using hsub
    have hseats := hmoved.forest.seats
    rw [← hseats] at hseat
    simp only [tellLocation, leads_discard]
    refine (h.refresh id seat now hseat hmounted hnow (hmoved.busy.trans hfree)).mono ?_
    rintro _ after ⟨hafter, hrematched⟩
    refine ⟨hafter, hmoved.trans (hrematched.free hseat hmounted htop), fun excused hstart => ?_⟩
    refine (hrematched.right (.inl (.top hseat hmounted htop)) _ (hright excused hstart)).mono ?_
    rintro other ⟨hexcused, hnot⟩
    rw [hseats] at hnot
    refine hexcused.imp_right fun hdue => (due_cons_node.1 hdue).resolve_left hnot
  case refine_3 =>
    rintro number place rest now ⟨hnow, hmoved, hright⟩ hmem
    refine (h.watcher hsteady hnow hmem (.location place · event) event.url fun _ => rfl).mono ?_
    rintro _ after ⟨hafter, hmoves⟩
    have hmoved' := hmoves.free (hmoved.busy.trans hfree)
    refine ⟨hafter, hmoved.trans hmoved', fun excused hstart => ?_⟩
    refine (hmoved'.right _ (hright excused hstart)).mono fun other hexcused => ?_
    exact hexcused.imp_right due_cons_watcher.1
  case refine_4 =>
    rintro number place rest now ⟨hnow, hmoved, hright⟩
    refine ⟨hnow, hmoved, fun excused hstart => (hright excused hstart).mono fun other hexcused => ?_⟩
    exact hexcused.imp_right due_cons_watcher.1
  case refine_5 => exact ⟨hsteady, .of_same (.refl page), fun _ hstart => hstart⟩
  case refine_6 =>
    rintro _ after ⟨hafter, hmoved, hright⟩
    refine ⟨hafter, hmoved, fun excused hstart => (hright excused hstart).mono fun other hexcused => ?_⟩
    exact hexcused.resolve_right not_due_nil

end Location

/-! ## Telling a tail -/

/-- **What visits tell while a tail is told** and `rest` is still to be called: whoever has been
called has heard of the tail. -/
structure Tells (id : NodeId) (tail : Option Tail) (rest : List (Nat × Listener)) (page now : Page)
    (visits : List Visit) : Prop where
  published : ∀ other, Publishes other page now visits
  called : ∀ child seat, page.seats[child]? = some seat → seat.isIn id → ¬Calls rest child →
    Arrives tail id child page now visits
  others : ∀ parent child seat, page.seats[child]? = some seat → seat.isIn parent →
    (parent = id → Calls rest child) → Delivers parent child page now visits

/-- **While a tail is told** and `rest` is still to be called: whoever has been called is right, with
all nodes in it. -/
structure Handing (id : NodeId) (tail : Option Tail) (rest : List (Nat × Listener))
    (page now : Page) : Prop where
  forest : SameForest page now
  busy : now.queue.busy = page.queue.busy
  pending : now.queue.pending = [] ∨ now.queue.pending = page.queue.pending
  right : Live page.seats id ∨ tail = none → ∀ excused : NodeId → Prop,
    Right (fun other => excused other ∨ Due page.seats (page.signal (.tailOf id)).listeners other)
      page →
    Right (fun other => excused other ∨ Due page.seats rest other) now
  visits : ∃ visits, now.visits = page.visits ++ visits ∧ Tells id tail rest page now visits

section Handing

variable {tail : Option Tail} {rest : List (Nat × Listener)} {now : Page}

lemma Handing.start (h : page.Sound) (id : NodeId) (tail : Option Tail) :
    Handing id tail (page.signal (.tailOf id)).listeners page page where
  forest := .refl page
  busy := rfl
  pending := .inr rfl
  right := fun _ _ hright => hright
  visits := by
    refine ⟨[], (List.append_nil _).symm, fun _ => .nil rfl, ?_, fun _ _ _ _ _ _ => .nil rfl⟩
    intro child seat hseat hin hnot
    exact absurd (h.calls_iff.2 ⟨seat, hseat, hin.1, hin.2⟩) hnot

lemma Handing.skip {number place : Nat}
    (h : Handing id tail ((number, .watcher place) :: rest) page now) :
    Handing id tail rest page now where
  forest := h.forest
  busy := h.busy
  pending := h.pending
  right := by simpa only [due_cons_watcher] using h.right
  visits := by
    obtain ⟨visits, hvisits, htells⟩ := h.visits
    refine ⟨visits, hvisits, htells.published, ?_, ?_⟩
    · simpa only [calls_cons_watcher] using htells.called
    · simpa only [calls_cons_watcher] using htells.others

/-- Whatever else happens meanwhile delivers its own tails. -/
lemma Handing.move (h : Handing id tail rest page mid) (hmoved : Free mid now) :
    Handing id tail rest page now where
  forest := h.forest.trans hmoved.forest
  busy := hmoved.busy.trans h.busy
  pending := by
    rcases hmoved.pending with hnil | hsame
    · exact .inl hnil
    · exact h.pending.imp hsame.trans hsame.trans
  right := fun hlive excused hstart => hmoved.right _ (h.right hlive excused hstart)
  visits := by
    obtain ⟨first, hfirst, htells⟩ := h.visits
    obtain ⟨second, hsecond, haccounts⟩ := hmoved.visits
    refine ⟨first ++ second, by rw [hsecond, hfirst, List.append_assoc], ?_, ?_, ?_⟩
    · exact fun other => (htells.published other).append (haccounts.published other)
    · intro child seat hseat hin hnot
      exact (htells.called child seat hseat hin hnot).append
        (haccounts.delivered id child seat (h.forest.seats ▸ hseat) hin)
    · intro parent child seat hseat hin hcalls
      exact (htells.others parent child seat hseat hin hcalls).append
        (haccounts.delivered parent child seat (h.forest.seats ▸ hseat) hin)

/-- **A child is told the tail**: it takes it as its place and is matched there. -/
lemma Handing.call {number : Nat} {called : NodeId} {seat : Seat}
    (h : Handing id tail ((number, .node called) :: rest) page mid) (honce : ¬Calls rest called)
    (hseat : page.seats[called]? = some seat) (hin : seat.isIn id) (hne : called ≠ id)
    (hmatched : Rematched called (mid.withPlace called tail) now) :
    Handing id tail rest page now := by
  have hforest := h.forest.trans (.withPlace mid called tail)
  have hseatMid : mid.seats[called]? = some seat := h.forest.seats ▸ hseat
  refine ⟨hforest.trans hmatched.forest, hmatched.busy.trans h.busy, .inl hmatched.pending, ?_, ?_⟩
  · intro hlive excused hstart
    have hmid : Right _ (mid.withPlace called tail) :=
      (h.right hlive excused hstart).withPlace (.inr (due_cons_node.2 (.inl .self)))
    have hcalled : Live (mid.withPlace called tail).seats called ∨
        (mid.withPlace called tail).placeOf called = .child none := by
      rw [hforest.seats, placeOf_withPlace hseatMid]
      exact hlive.imp (.nested hseat hin) (congrArg _)
    refine (hmatched.right hcalled _ hmid).mono fun other => ?_
    rintro ⟨hexcused, hnot⟩
    rw [hforest.seats] at hnot
    exact hexcused.imp_right fun hdue => (due_cons_node.1 hdue).resolve_left hnot
  · obtain ⟨first, hfirst, htells⟩ := h.visits
    obtain ⟨visit, second, hvisit, hsecond, hpublished, hdelivered⟩ := hmatched.visits
    have hlater : ∀ parent child seat', page.seats[child]? = some seat' → seat'.isIn parent →
        child ≠ called → Delivers parent child mid now (visit :: second) := by
      intro parent child seat' hchild hin' hother
      have := hdelivered parent child seat' (hforest.seats ▸ hchild) hin'
      rwa [if_neg hother, Delivers, placeOf_withPlace_ne hother] at this
    refine ⟨first ++ visit :: second, ?_, ?_, ?_, ?_⟩
    · rw [hsecond, show (mid.withPlace called tail).visits = mid.visits from rfl, hfirst,
        List.append_assoc]
    · intro other
      refine (htells.published other).append ?_
      have := hpublished other
      rwa [Publishes, tailOf_withPlace] at this
    · intro child seat' hchild hin' hnot
      by_cases hcalled : child = called
      · -- the visit of the child that is called takes the tail that is under way
        subst hcalled
        have hbefore := htells.others id child seat' hchild hin' fun _ => calls_cons_node.2 (.inl rfl)
        have hafter := hdelivered id child seat' (hforest.seats ▸ hchild) hin'
        intro underWay
        rw [if_pos rfl, Delivers, placeOf_withPlace hseatMid] at hafter
        rw [List.foldl_append, hbefore, List.foldl_cons, deliver_child hvisit hne, hafter]
      · refine (htells.called child seat' hchild hin' fun hcalls => ?_).append
          (hlater id child seat' hchild hin' hcalled)
        exact (calls_cons_node.1 hcalls).elim hcalled hnot
    · intro parent child seat' hchild hin' hcalls
      have hother : child ≠ called := by
        rintro rfl
        rw [hseat, Option.some.injEq] at hchild
        subst hchild
        have hparent : parent = id := SignalRef.tailOf.inj (hin'.2.symm.trans hin.2)
        exact honce (hcalls hparent)
      exact (htells.others parent child seat' hchild hin' fun hparent =>
        calls_cons_node.2 (.inr (hcalls hparent))).append (hlater parent child seat' hchild hin' hother)

end Handing

/-- **Telling a tail while the document is free.** -/
lemma Conducts.tellTail_free (h : Conducts scope deeper)
    (hsteady : Steady Command.roams scope page) (hfree : page.queue.busy = false) (id : NodeId)
    (tail : Option Tail) :
    Leads false (emitTail deeper id tail) page fun _ after =>
      Steady Command.roams scope after ∧ Handing id tail [] page after := by
  refine leads_tell hsteady.sound (fun rest now => Steady Command.roams scope now ∧
    Handing id tail rest page now) ?_ ?_ ?_ ?_ ⟨hsteady, .start hsteady.sound id tail⟩
  · exact fun _ now hnow => hnow.2.forest
  · rintro number called rest now ⟨hnow, hhanding⟩ honce ⟨seat, hseat, hmounted, hsub⟩
    simp only [tellTail, leads_bind, leads_modify, leads_discard]
    have hseatNow : now.seats[called]? = some seat := hhanding.forest.seats ▸ hseat
    have helder : id < called := hsteady.sound.elder called seat id hseat hsub
    refine (h.refresh called seat (now.withPlace called tail) ?_ hmounted
      (hnow.withPlace hseatNow ⟨hmounted, hsub⟩) (hhanding.busy.trans hfree)).mono ?_
    · rw [(SameForest.withPlace now called tail).seats]; exact hseatNow
    · rintro _ after ⟨hafter, hmatched⟩
      exact ⟨hafter, hhanding.call honce hseat ⟨hmounted, hsub⟩ (Nat.ne_of_gt helder) hmatched⟩
  · rintro number place rest now ⟨hnow, hhanding⟩ hmem
    refine (h.watcher hsteady hnow hmem (.tail place · tail) (tailKey tail) fun _ => rfl).mono ?_
    rintro _ after ⟨hafter, hmoves⟩
    exact ⟨hafter, hhanding.skip.move (hmoves.free (hhanding.busy.trans hfree))⟩
  · rintro number place rest now ⟨hnow, hhanding⟩
    exact ⟨hnow, hhanding.skip⟩

end PageRouter.Page
