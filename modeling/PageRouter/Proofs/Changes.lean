import PageRouter.Proofs.Upkeep

/-!
# Small changes of a page

While a page matches its nodes it makes few kinds of changes: a location is visited, the document
becomes busy or free, a node gets a place or learns an outcome, a node that waits is called.  None
of them touches the forest, and each keeps a page steady.
-/

namespace PageRouter.Page

variable {kind : Command → Bool} {scope : Scope} {page : Page} {id : NodeId}

/-! ## The history and the queue -/

lemma Steady.withHistory (h : Steady kind scope page) (history : History) :
    Steady kind scope (page.withHistory history) :=
  ⟨h.sound.of_queue rfl rfl rfl rfl h.sound.waiting,
    h.obeys.of_eq rfl rfl rfl fun ref _ _ hmem => by cases ref <;> exact hmem⟩

lemma Steady.withQueue (h : Steady kind scope page) {queue : RefreshQueue}
    (hwaiting : ∀ id ∈ queue.pending, ∃ seat, page.seats[id]? = some seat ∧ seat.mounted ∧
      seat.isTop) : Steady kind scope { page with queue := queue } :=
  ⟨h.sound.of_queue rfl rfl rfl rfl hwaiting,
    h.obeys.of_eq rfl rfl rfl fun ref _ _ hmem => by cases ref <;> exact hmem⟩

/-- The page with its document busy. -/
def occupied (page : Page) : Page := { page with queue := { page.queue with busy := true } }

lemma Steady.occupied (h : Steady kind scope page) : Steady kind scope page.occupied :=
  h.withQueue h.sound.waiting

lemma SameForest.withQueue (page : Page) (queue : RefreshQueue) :
    SameForest page { page with queue := queue } :=
  ⟨rfl, rfl, fun ref => by cases ref <;> rfl⟩

/-! ## Places -/

/-- The page with a node put in a place below its parent. -/
def withPlace (page : Page) (id : NodeId) (tail : Option Tail) : Page :=
  page.modifyNode id fun node => { node with route := { node.route with place := .child tail } }

section Place

variable {tail : Option Tail}

lemma SameForest.withPlace (page : Page) (id : NodeId) (tail : Option Tail) :
    SameForest page (page.withPlace id tail) := by
  refine SameForest.modifyNode ?_ ?_ page id
  · exact fun _ => rfl
  · exact fun _ => rfl

lemma getElem?_standings_withPlace (page : Page) (id other : NodeId) (tail : Option Tail) :
    (page.withPlace id tail).standings[other]? = page.standings[other]?.map fun standing =>
      if id = other then { standing with place := .child tail } else standing := by
  simp only [getElem?_standings, withPlace, nodes_modifyNode, List.getElem?_modify]
  cases page.nodes[other]? with
  | none => rfl
  | some node => by_cases hid : id = other <;> simp [hid, Node.standing, Node.seat]

lemma placeOf_withPlace_ne {other : NodeId} (hne : other ≠ id) :
    (page.withPlace id tail).placeOf other = page.placeOf other := by
  simp only [placeOf, getElem?_standings_withPlace, hne.symm, if_false, Option.map_id']

lemma placeOf_withPlace {seat : Seat} (hseat : page.seats[id]? = some seat) :
    (page.withPlace id tail).placeOf id = .child tail := by
  obtain ⟨standing, hstanding, -⟩ := exists_standing hseat
  rw [placeOf, getElem?_standings_withPlace, hstanding, Option.map_some, if_pos rfl]

lemma tailOf_withPlace (page : Page) (id other : NodeId) (tail : Option Tail) :
    (page.withPlace id tail).tailOf other = page.tailOf other := by
  simp only [tailOf, getElem?_standings_withPlace]
  cases page.standings[other]? with
  | none => rfl
  | some standing => by_cases hid : id = other <;> simp [hid]

/-- Only the node itself may be wrong in its new place. -/
lemma Right.withPlace {excused : NodeId → Prop} (h : Right excused page) (hid : excused id) :
    Right excused (page.withPlace id tail) := by
  intro other standing hother hnot
  have hne : id ≠ other := by rintro rfl; exact hnot hid
  rw [getElem?_standings_withPlace] at hother
  simp only [hne, if_false, Option.map_id'] at hother
  exact (h other standing hother hnot).congr (SameForest.withPlace page id tail).seats rfl rfl rfl

/-- A place below a parent is for nodes that listen for a tail. -/
lemma Steady.withPlace_of_signal (h : Steady kind scope page) {seat : Seat}
    (hseat : page.seats[id]? = some seat) {parent : NodeId}
    (hsignal : seat.subscription.signal = .tailOf parent) :
    Steady kind scope (page.withPlace id tail) where
  sound := by
    refine h.sound.modifyNode ?_ ?_ (fun node hnode => ?_) ?_
    case refine_1 | refine_2 => exact fun _ => rfl
    case refine_4 => exact fun _ _ hinLine => hinLine
    have hplaced := h.sound.placed node.standing
      (List.mem_map_of_mem (List.mem_of_getElem? hnode))
    rw [seats_of_nodes hnode, Option.some.injEq] at hseat
    have hnot : node.route.place ≠ .root := by
      intro hroot
      have htop := hplaced.1 hroot
      simp only [Node.standing, hseat, Seat.isTop, hsignal, decide_eq_true_eq] at htop
      cases htop
    exact iff_of_false (by simp) hnot
  obeys := by
    refine h.obeys.of_eq rfl rfl rfl fun ref _ _ hmem => ?_
    rw [Page.withPlace, signal_modifyNode] at hmem
    · exact hmem
    · exact fun _ => rfl

lemma Steady.withPlace (h : Steady kind scope page) {seat : Seat}
    (hseat : page.seats[id]? = some seat) {parent : NodeId} (hin : seat.isIn parent) :
    Steady kind scope (page.withPlace id tail) :=
  h.withPlace_of_signal hseat hin.2

end Place

/-! ## Outcomes -/

/-- The page once a node has learned an outcome and its elements are in line with it. -/
def learned (page : Page) (id : NodeId) (cache : ElementCache) (outcome : Outcome) : Page :=
  page.modifyNode id fun node => { node with cache := cache, lastMatch := outcome }

/-- The page once a node has learned an outcome by a visit: the document is free again. -/
def settled (page : Page) (id : NodeId) (cache : ElementCache) (outcome : Outcome) : Page :=
  { Page.learned { page with queue := { page.queue with busy := false } } id cache outcome with
    events := .refreshed ⟨id, outcome⟩ :: page.events }

/-- **What the turn of a node amounts to**: its elements are brought in line and it has learned what
there is; then it tells its tail, and those that had to wait get their turn. -/
lemma leads_refresh {must : Bool} {deeper : Deeper} {node : Node} {post : Unit → Page → Prop}
    (hfree : page.queue.busy = false) (hnode : page.nodes[id]? = some node) (hmounted : node.mounted) :
    Leads must (refresh deeper id) page post ↔
      Leads must (node.cache.update (host deeper) (page.outcomeOf node) (parentTail node.route.place))
        page.occupied fun result lined =>
          Leads must (emitTail deeper id (page.outcomeOf node).tail)
            (lined.settled id result.2 (page.outcomeOf node)) fun _ told =>
              Leads must (deeper .drain) told fun _ after => post ⟨⟩ after := by
  simp only [refresh, leads_bind, leads_get, hfree, hnode, hmounted, if_true, setBusy, leads_modify,
    leads_note, leads_discard, Bool.false_eq_true, if_false]
  rfl

lemma leads_exec_refresh {must : Bool} {depth : Nat} {post : Answer → Page → Prop} :
    Leads must (exec (depth + 1) (.refresh id)) page post ↔
      Leads must (refresh (exec depth) id) page fun _ after => post .nothing after := by
  simp only [exec, step, leads_bind, leads_pure]

/-- Nobody waits, and nobody gets a turn. -/
lemma leads_drain_idle {must : Bool} {depth : Nat} {post : Answer → Page → Prop}
    (hpending : page.queue.pending = []) :
    Leads must (exec (depth + 1) .drain) page post ↔ post .nothing page := by
  simp only [exec, step, drain, leads_bind, leads_get, hpending, leads_pure]

section Outcome

variable {cache : ElementCache} {outcome : Outcome}

lemma getElem?_standings_learned (page : Page) (id other : NodeId) (cache : ElementCache)
    (outcome : Outcome) :
    (page.learned id cache outcome).standings[other]? = page.standings[other]?.map fun standing =>
      if id = other then { standing with lastMatch := outcome } else standing := by
  simp only [getElem?_standings, learned, nodes_modifyNode, List.getElem?_modify]
  cases page.nodes[other]? with
  | none => rfl
  | some node => by_cases hid : id = other <;> simp [hid, Node.standing, Node.seat]

lemma signal_learned (page : Page) (id : NodeId) (cache : ElementCache) (outcome : Outcome)
    (ref : SignalRef) : (page.learned id cache outcome).signal ref = page.signal ref := by
  rw [learned, signal_modifyNode]
  exact fun _ => rfl

lemma SameForest.learned (page : Page) (id : NodeId) (cache : ElementCache) (outcome : Outcome) :
    SameForest page (page.learned id cache outcome) := by
  refine SameForest.modifyNode ?_ ?_ page id
  · exact fun _ => rfl
  · exact fun _ => rfl

lemma placeOf_learned (other : NodeId) :
    (page.learned id cache outcome).placeOf other = page.placeOf other := by
  simp only [placeOf, getElem?_standings_learned]
  cases page.standings[other]? with
  | none => rfl
  | some standing => by_cases hid : id = other <;> simp [hid]

/-- What a node publishes is told as if by a visit. -/
lemma tailOf_learned {seat : Seat} (hseat : page.seats[id]? = some seat) (other : NodeId) :
    (page.learned id cache outcome).tailOf other = publish other (page.tailOf other) ⟨id, outcome⟩ := by
  simp only [tailOf, getElem?_standings_learned, publish]
  by_cases hid : id = other
  · subst hid
    obtain ⟨standing, hstanding, -⟩ := exists_standing hseat
    simp [hstanding]
  · cases page.standings[other]? <;> simp [hid]

lemma Steady.learned (h : Steady kind scope page) (hcache : cache.InLine outcome) :
    Steady kind scope (page.learned id cache outcome) where
  sound := by
    refine h.sound.modifyNode ?_ ?_ ?_ ?_
    · exact fun _ => rfl
    · exact fun _ => rfl
    · exact fun _ _ => Iff.rfl
    · exact fun _ _ _ => hcache
  obeys := h.obeys.of_eq rfl rfl rfl fun ref _ _ hmem => by rwa [signal_learned] at hmem

/-- What settles differs from what is learned in the queue and the record alone. -/
lemma SameForest.settled (page : Page) (id : NodeId) (cache : ElementCache) (outcome : Outcome) :
    SameForest page (page.settled id cache outcome) :=
  (SameForest.learned page id cache outcome).trans ⟨rfl, rfl, fun ref => by cases ref <;> rfl⟩

lemma Steady.settled (h : Steady kind scope page) (hcache : cache.InLine outcome) :
    Steady kind scope (page.settled id cache outcome) := by
  have hlearned : Steady kind scope (page.learned id cache outcome) := h.learned hcache
  exact ⟨hlearned.sound.of_queue rfl rfl rfl rfl hlearned.sound.waiting,
    hlearned.obeys.of_eq rfl rfl rfl fun ref _ _ hmem => by cases ref <;> exact hmem⟩

lemma signal_settled (page : Page) (id : NodeId) (cache : ElementCache) (outcome : Outcome)
    (ref : SignalRef) : (page.settled id cache outcome).signal ref = page.signal ref := by
  cases ref with
  | location => rfl
  | tailOf other => exact signal_learned page id cache outcome (.tailOf other)

lemma visits_settled (page : Page) (id : NodeId) (cache : ElementCache) (outcome : Outcome) :
    (page.settled id cache outcome).visits = page.visits ++ [⟨id, outcome⟩] :=
  visits_refreshed ⟨id, outcome⟩ page

lemma placeOf_settled (other : NodeId) :
    (page.settled id cache outcome).placeOf other = page.placeOf other := placeOf_learned other

lemma tailOf_settled {seat : Seat} (hseat : page.seats[id]? = some seat) (other : NodeId) :
    (page.settled id cache outcome).tailOf other
      = publish other (page.tailOf other) ⟨id, outcome⟩ := tailOf_learned hseat other

end Outcome

end PageRouter.Page
