import PageRouter.Proofs.Tellings

/-!
# What commands and matchings do

`Conducts` is preserved by one level of `Page.step`, so it holds of `Page.exec` at any depth
(`exec_conducts`).  The four things a page can be asked to do are taken in turn:

* a navigation tells the location, and everyone who listens for it waits or is matched;
* a node that is matched while the document is busy waits;
* a node that is matched while it is free brings its elements in line — which is the one moment at
  which the document is busy —, settles, and tells its tail;
* the nodes that wait are matched one after the other.
-/

namespace PageRouter.Page

variable {scope : Scope} {deeper : Deeper} {page after : Page} {id : NodeId}
  {excused excused' : NodeId → Prop}

/-! ## Navigations -/

lemma Held.of_withHistory {history : History} (h : Held (page.withHistory history) after)
    (hturn : ∀ id seat, page.seats[id]? = some seat → seat.mounted → seat.isTop →
      id ∈ after.queue.pending) : Held page after :=
  ⟨h.standings, h.root, fun ref => (h.nodes ref).trans (by cases ref <;> rfl), h.visits, h.busy,
    h.waits, .inr hturn⟩

/-- Every live node hangs below one that listens for the location, so after a navigation only nodes
that are not live have to be right already. -/
lemma Right.withHistory (h : Right excused page) (hsound : page.Sound)
    (himp : ∀ id, excused id → ¬Live page.seats id → excused' id) (history : History) :
    Right (fun id => excused' id ∨ Due page.seats (page.signal .location).listeners id)
      (page.withHistory history) := by
  intro id standing hid hnot
  have hcut : ¬Live page.seats id := by
    intro hlive
    obtain ⟨top, seat, hseat, hmounted, htop, hbelow⟩ := hlive.exists_top
    refine hnot (.inr ⟨top, hsound.calls_iff.2 ⟨seat, hseat, hmounted, ?_⟩, hbelow⟩)
    simpa [Seat.isTop] using htop
  have hright := h id standing hid fun hexcused => hnot (.inl (himp id hexcused hcut))
  exact ⟨fun hlive => absurd hlive hcut, fun _ => hright.cut hcut, fun _ => hright.alone hcut⟩

/-- **A navigation** moves the page on.  If the document is free, every live node is right
afterwards. -/
lemma Conducts.announce (h : Conducts scope deeper) (hsteady : Steady Command.roams scope page)
    (history : History) (kind : NavigationKind) (source : Option Text) (answer : Answer) :
    Leads false (announce deeper kind source answer) (page.withHistory history) fun _ after =>
      Steady Command.roams scope after ∧ Moves page after ∧
        (page.queue.busy = false → ∀ excused, (∀ id, excused id → Live page.seats id) →
          Right excused page → Right (fun _ => False) after) := by
  have hmoved := hsteady.withHistory history
  simp only [Page.announce, notify, leads_bind, leads_get, leads_pure]
  cases hbusy : page.queue.busy with
  | true =>
      refine (h.tellLocation_held hmoved _ hbusy).mono ?_
      rintro _ after ⟨hafter, hheld, hturn⟩
      refine ⟨hafter, ⟨fun _ => hheld.of_withHistory hturn, fun hfree => ?_⟩, fun hfree => ?_⟩
      · rw [hbusy] at hfree; cases hfree
      · cases hfree
  | false =>
      refine (h.tellLocation_free hmoved _ hbusy).mono ?_
      rintro _ after ⟨hafter, hfree, hright⟩
      refine ⟨hafter, ⟨fun hbusy' => ?_, fun _ => ⟨?_, hfree.busy, hfree.pending, ?_, ?_⟩⟩, ?_⟩
      · rw [hbusy] at hbusy'; cases hbusy'
      · exact ⟨hfree.forest.seats, hfree.forest.root,
          fun ref => (hfree.forest.nodes ref).trans (by cases ref <;> rfl)⟩
      · exact fun excused hstart => hright excused
          (hstart.withHistory hsteady.sound (fun _ hexcused _ => hexcused) history)
      · obtain ⟨visits, hvisits, haccounts⟩ := hfree.visits
        exact ⟨visits, hvisits, haccounts.published, haccounts.delivered⟩
      · exact fun _ excused hlive hstart => hright _
          (hstart.withHistory hsteady.sound (fun id hexcused hcut => hcut (hlive id hexcused)) history)

/-- **A command of a hook or a listener** moves the page on. -/
lemma Conducts.perform (h : Conducts scope deeper) (hsteady : Steady Command.roams scope page)
    {command : Command} (hroams : command.roams) (hbrings : command.brings Command.roams) :
    Keeps false Command.roams scope Moves (perform deeper command) page := by
  rw [Command.roams, Bool.or_eq_true] at hroams
  rcases hroams with hinert | hnavigates
  · refine (perform_inert hsteady hinert hbrings).weaken.mono fun _ after hafter => ?_
    exact ⟨hafter.steady, .of_same hafter.same⟩
  · rcases perform_navigates deeper page hnavigates with
      ⟨answer, -, hrun⟩ | ⟨history, kind, source, answer, -, hrun⟩
    · simp only [Keeps, Leads, hrun]
      exact ⟨hsteady, .of_same (.refl page)⟩
    · rw [Keeps, leads_congr hrun]
      exact (h.announce hsteady history kind source answer).mono fun _ after hafter =>
        ⟨hafter.1, hafter.2.1⟩

/-! ## A node that waits -/

lemma mem_pending_defer (queue : RefreshQueue) (id other : NodeId) :
    other ∈ (queue.defer id).pending ↔ other ∈ queue.pending ∨ other = id := by
  unfold RefreshQueue.defer
  split
  · next hmem => exact ⟨.inl, fun h => h.elim (fun h => h) fun h => h ▸ hmem⟩
  · simp

lemma busy_defer (queue : RefreshQueue) (id : NodeId) : (queue.defer id).busy = queue.busy := by
  unfold RefreshQueue.defer
  split <;> rfl

/-- **While the document is busy**, a node that is to be matched waits. -/
lemma refresh_held {seat : Seat} (hseat : page.seats[id]? = some seat) (hmounted : seat.mounted)
    (htop : seat.isTop) (hsteady : Steady Command.roams scope page)
    (hbusy : page.queue.busy = true) :
    Leads false (refresh deeper id) page fun _ after =>
      Steady Command.roams scope after ∧ Held page after ∧ id ∈ after.queue.pending := by
  simp only [refresh, leads_bind, leads_get, hbusy, if_true, leads_set]
  have hwaits := mem_pending_defer page.queue id
  refine ⟨hsteady.withQueue fun other hother => ?_,
    ⟨rfl, rfl, fun ref => by cases ref <;> rfl, rfl, busy_defer page.queue id, ?_, .inl rfl⟩, ?_⟩
  · rcases (hwaits other).1 hother with hold | rfl
    · exact hsteady.sound.waiting other hold
    · exact ⟨seat, hseat, hmounted, htop⟩
  · exact fun other hother => (hwaits other).2 (.inl hother)
  · exact (hwaits id).2 (.inr rfl)

/-! ## A node that settles -/

/-- The nodes that are called when a tail is told are the children, and only nodes below them may be
wrong once their parent has learned what there is to learn. -/
lemma Right.learned (h : Right excused page) (hsound : page.Sound) {standing : Standing}
    (hstanding : page.standings[id]? = some standing) {outcome : Outcome}
    (hlive : Live page.seats id → outcome = page.reads standing ∨ page.Owes id)
    (hcut : ¬Live page.seats id → outcome = none)
    (halone : ¬Live page.seats id → standing.seat.mounted → standing.place = .child none)
    (cache : ElementCache) :
    Right (fun other => (excused other ∧ ¬Below page.seats id other) ∨
      Due page.seats (page.signal (.tailOf id)).listeners other)
      (page.learned id cache outcome) := by
  have hforest := SameForest.learned page id cache outcome
  intro other standing' hother hnot
  rw [getElem?_standings_learned] at hother
  by_cases hid : id = other
  · subst hid
    rw [hstanding, Option.map_some, if_pos rfl, Option.some.injEq] at hother
    subst hother
    refine ⟨fun his => ?_, hforest.seats ▸ hcut, hforest.seats ▸ halone⟩
    rw [hforest.seats] at his
    exact (hlive his).imp_right fun ⟨top, htop, hbelow⟩ => ⟨top, htop, hforest.seats ▸ hbelow⟩
  · simp only [hid, if_false, Option.map_id'] at hother
    have hright : page.RightAt other standing' := by
      refine h other standing' hother fun hexcused => hnot ?_
      by_cases hbelow : Below page.seats id other
      · obtain rfl | ⟨child, seat, hchild, hin, hbelow⟩ := hbelow.cases_child
        · exact absurd rfl hid
        · exact .inr ⟨child, hsound.calls_iff.2 ⟨seat, hchild, hin.1, hin.2⟩, hbelow⟩
      · exact .inl ⟨hexcused, hbelow⟩
    exact hright.congr hforest.seats hforest.root rfl rfl

/-! ## A node that is matched -/

/-- The visits of a node that settles, tells its tail, and lets those have a turn who waited. -/
lemma Handing.accounts {cache : ElementCache} {outcome : Outcome} {told : Page} {visits : List Visit}
    (hsound : page.Sound) {seat : Seat} (hseat : page.seats[id]? = some seat)
    (hhanding : Handing id outcome.tail [] (page.settled id cache outcome) told)
    (htells : Tells id outcome.tail [] (page.settled id cache outcome) told visits)
    {later : List Visit} (hlater : Accounts told after later) :
    (∀ other, Publishes other page after (⟨id, outcome⟩ :: (visits ++ later))) ∧
    ∀ parent child seat, page.seats[child]? = some seat → seat.isIn parent →
      Delivers parent child page after
        (if child = id then visits ++ later else ⟨id, outcome⟩ :: (visits ++ later)) := by
  have hforest := SameForest.settled page id cache outcome
  refine ⟨fun other => ?_, fun parent child seat' hchild hin => ?_⟩
  · have := (htells.published other).append (hlater.published other)
    rwa [Publishes, tailOf_settled hseat] at this
  · have hchildSettled : (page.settled id cache outcome).seats[child]? = some seat' :=
      hforest.seats ▸ hchild
    have hdelivers :=
      hlater.delivered parent child seat' (hhanding.forest.seats ▸ hchildSettled) hin
    have helder : parent < child := hsound.elder child seat' parent hchild hin.2
    by_cases hparent : parent = id
    · -- the visit puts the tail under way that the children are told
      subst hparent
      have harrives := (htells.called child seat' hchildSettled hin not_calls_nil).append hdelivers
      rw [if_neg (Nat.ne_of_gt helder)]
      intro underWay
      have hput : deliver parent child (underWay, page.placeOf child) ⟨parent, outcome⟩
          = (outcome.tail :: underWay, page.placeOf child) := deliver_parent rfl _ _
      have := harrives underWay
      rwa [List.foldl_cons, hput, ← placeOf_settled child]
    · have hrest : Delivers parent child page after (visits ++ later) := by
        have := (htells.others parent child seat' hchildSettled hin fun h =>
          absurd h hparent).append hdelivers
        rwa [Delivers, placeOf_settled] at this
      split
      · exact hrest
      · next hchild =>
        intro underWay
        rw [List.foldl_cons, deliver_of_ne (Ne.symm hparent) (Ne.symm hchild), hrest]

/-- **A node that is matched** while the document is free. -/
lemma refresh_free (h : Conducts scope deeper) {seat : Seat}
    (hseat : page.seats[id]? = some seat) (hmounted : seat.mounted)
    (hsteady : Steady Command.roams scope page) (hfree : page.queue.busy = false) :
    Leads false (refresh deeper id) page fun _ after =>
      Steady Command.roams scope after ∧ Rematched id page after := by
  obtain ⟨node, hnode, rfl⟩ := exists_node hseat
  have hstanding : page.standings[id]? = some node.standing := standings_of_nodes hnode
  have hplace : page.placeOf id = node.route.place := by simp only [placeOf, hstanding]; rfl
  simp only [Node.seat] at hmounted
  rw [leads_refresh hfree hnode hmounted]
  refine (update_keeps Lasting.moves (fun command hroams hbrings => h.command command hroams hbrings)
    (hsteady.sound.inLine node (List.mem_of_getElem? hnode)) (page.outcomeOf node) _
    hsteady.occupied).mono ?_
  rintro ⟨_, cache⟩ lined ⟨⟨hlined, hmoves⟩, hcache⟩
  have hheld : Held page.occupied lined := hmoves.held rfl
  refine (h.tellTail_free (hlined.settled hcache) rfl id _).mono ?_
  rintro _ told ⟨htold, hhanding⟩
  refine (h.drain told htold hhanding.busy).mono ?_
  rintro _ after ⟨hafter, hdrained, hpending⟩
  have hforest : SameForest page lined := (SameForest.withQueue page _).trans hheld.forest
  have hsettled := SameForest.settled lined id cache (page.outcomeOf node)
  have hstandingLined : lined.standings[id]? = some node.standing := hheld.standings ▸ hstanding
  have hnone : page.placeOf id = .child none → page.outcomeOf node = none := by
    intro hchild
    rw [hplace] at hchild
    rw [outcomeOf, hchild]
    rfl
  refine ⟨hafter, ((hforest.trans hsettled).trans hhanding.forest).trans hdrained.forest,
    (hdrained.busy.trans hhanding.busy).trans hfree.symm, hpending, ?_, ?_⟩
  · intro hlive excused hstart
    have hoccupied : Right excused page.occupied := hstart.congr rfl rfl rfl rfl
    have hread : Live lined.seats id →
        page.outcomeOf node = lined.reads node.standing ∨ lined.Owes id := by
      intro his
      -- if a hook has changed the location, the node hangs below one that waits
      rcases hheld.turn with hurl | hall
      · exact .inl (reads_congr hurl hheld.root node.standing).symm
      · rw [hforest.seats] at his
        obtain ⟨top, seat, htop, htopMounted, hisTop, hbelow⟩ := his.exists_top
        exact .inr ⟨top, hall top seat htop htopMounted hisTop, hforest.seats ▸ hbelow⟩
    have hcut : ¬Live lined.seats id → page.placeOf id = .child none := by
      intro hnot
      rw [hforest.seats] at hnot
      exact hlive.resolve_left hnot
    refine hdrained.right _ ((hhanding.right ?_ _ ?_).mono fun other hexcused =>
      hexcused.resolve_right not_due_nil)
    · rw [hsettled.seats, hforest.seats]
      exact hlive.imp_right fun hchild => by rw [hnone hchild]; rfl
    · have hlearned := (hoccupied.of_held hheld).learned hlined.sound hstandingLined hread
        (fun hnot => hnone (hcut hnot)) (fun hnot _ => hplace.symm.trans (hcut hnot)) cache
      rw [hsettled.seats, signal_settled, ← hforest.seats]
      exact hlearned.congr rfl rfl rfl rfl
  · obtain ⟨first, hfirst, htells⟩ := hhanding.visits
    obtain ⟨second, hsecond, haccounts⟩ := hdrained.visits
    have hvisits : (lined.settled id cache (page.outcomeOf node)).visits
        = page.visits ++ [⟨id, page.outcomeOf node⟩] := by
      rw [visits_settled, hheld.visits]
      rfl
    have hvisited := hhanding.accounts hlined.sound (hforest.seats ▸ hseat) htells haccounts
    refine ⟨⟨id, page.outcomeOf node⟩, first ++ second, rfl, ?_, fun other => ?_, ?_⟩
    · rw [hsecond, hfirst, hvisits]
      simp only [List.append_assoc, List.cons_append, List.nil_append]
    · have := hvisited.1 other
      rwa [Publishes, tailOf_congr hheld.standings] at this
    · intro parent child seat hchild hin
      have := hvisited.2 parent child seat (hforest.seats ▸ hchild) hin
      rwa [Delivers, placeOf_congr hheld.standings] at this

/-! ## Nodes that waited -/

/-- The page after the first node that waits has been called. -/
def popped (page : Page) (rest : List NodeId) : Page :=
  { page with queue := { page.queue with pending := rest } }

/-- Who hung below the node that is called is not owed anything else for it to wait. -/
lemma Right.popped (h : Right excused page) {rest : List NodeId}
    (hpending : page.queue.pending = id :: rest) :
    Right (fun other => excused other ∨ Below page.seats id other) (page.popped rest) := by
  intro other standing hother hnot
  obtain ⟨hlive, hcut, halone⟩ := h other standing hother fun hexcused => hnot (.inl hexcused)
  refine ⟨fun his => (hlive his).imp_right ?_, hcut, halone⟩
  rintro ⟨top, htop, hbelow⟩
  rw [hpending, List.mem_cons] at htop
  rcases htop with rfl | htop
  · exact absurd (.inr hbelow) hnot
  · exact ⟨top, htop, hbelow⟩

/-- **The nodes that wait** are matched, and none waits afterwards. -/
lemma drain_free (h : Conducts scope deeper) (hsteady : Steady Command.roams scope page)
    (hfree : page.queue.busy = false) :
    Leads false (drain deeper) page fun _ after =>
      Steady Command.roams scope after ∧ Free page after ∧ after.queue.pending = [] := by
  simp only [drain, leads_bind, leads_get]
  split
  · next hpending => exact ⟨hsteady, .of_same (.refl page), hpending⟩
  · next id rest hpending =>
    have hwaits : ∀ other ∈ id :: rest, ∃ seat, page.seats[other]? = some seat ∧ seat.mounted ∧
        seat.isTop := hpending ▸ hsteady.sound.waiting
    obtain ⟨seat, hseat, hmounted, htop⟩ := hwaits id (List.mem_cons_self ..)
    have hpopped : Steady Command.roams scope (page.popped rest) :=
      hsteady.withQueue fun other hother => hwaits other (List.mem_cons_of_mem _ hother)
    simp only [leads_bind, leads_set, leads_discard]
    refine (h.refresh id seat (page.popped rest) hseat hmounted hpopped hfree).mono ?_
    rintro _ mid ⟨hmid, hmatched⟩
    have hfreed := hmatched.free hseat hmounted htop
    refine (h.drain mid hmid (hmatched.busy.trans hfree)).mono ?_
    rintro _ after ⟨hafter, hdrained, hnil⟩
    have hmoved := hfreed.trans hdrained
    refine ⟨hafter, ⟨?_, hmoved.busy, .inl hnil, fun excused hstart => ?_, ?_⟩, hnil⟩
    · exact (SameForest.withQueue page _).trans hmoved.forest
    · refine hdrained.right _ ((hmatched.right (.inl (.top hseat hmounted htop)) _
        (hstart.popped hpending)).mono fun other hexcused => ?_)
      exact hexcused.1.resolve_right hexcused.2
    · obtain ⟨visits, hvisits, haccounts⟩ := hmoved.visits
      exact ⟨visits, hvisits, haccounts.published, haccounts.delivered⟩

/-! ## Any depth -/

/-- **One level more** does what the level below does. -/
theorem Conducts.step (h : Conducts scope deeper) : Conducts scope (step deeper) where
  command := fun _ hroams hbrings _ hsteady => h.perform hsteady hroams hbrings
  defer := by
    intro id seat page hseat hmounted htop hsteady hbusy
    simp only [Page.step, leads_bind, leads_pure]
    exact refresh_held hseat hmounted htop hsteady hbusy
  refresh := by
    intro id seat page hseat hmounted hsteady hfree
    simp only [Page.step, leads_bind, leads_pure]
    exact refresh_free h hseat hmounted hsteady hfree
  skip := by
    intro id node page hnode hunmounted hfree
    simp only [Page.step, leads_bind, leads_pure, Page.refresh, leads_get, hfree, hnode, hunmounted,
      Bool.false_eq_true, if_false]
  drain := by
    intro page hsteady hfree
    simp only [Page.step, leads_bind, leads_pure]
    exact drain_free h hsteady hfree

/-- **Calls to any depth** do what is known of calls, if they end. -/
theorem exec_conducts (scope : Scope) (depth : Nat) : Conducts scope (exec depth) := by
  induction depth with
  | zero =>
      have hfails : ∀ call page, exec 0 call page = none := fun _ _ => rfl
      refine ⟨?_, ?_, ?_, ?_, ?_⟩
      all_goals intros; simp only [Keeps, Leads, hfails]
  | succ depth ih => exact ih.step

end PageRouter.Page
