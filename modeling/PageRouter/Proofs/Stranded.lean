import PageRouter.Proofs.Undisturbed

/-!
# Nodes that are cut off

A node that has been unmounted, or is mounted in one that is cut off, never hears of a location again: the
node around it has no tail to tell, whatever commands, hooks and listeners do later.  `Page.Stranded` is
the invariant; each of the nodes has no match, shows nothing, and has its place without a tail as long as
it is mounted.  So nothing wakes it (`Stranded.plays`).
-/

namespace PageRouter

open Page

/-- **A node that has nothing to learn from**: if it is mounted, then in one of the others, and in a place
without a tail. -/
structure Face.Mute (cut : NodeId → Prop) (face : Face) : Prop where
  outcome : face.outcome = none
  idle : face.cache.active = false
  alone : face.mounted → ∃ parent, cut parent ∧ face.subscription.signal = .tailOf parent ∧
    face.place = .child none

namespace Page

variable {may : Command → Bool} {cut : NodeId → Prop} {start : List Visit} {page after : Page}
  {affairs later : Affairs} {id : NodeId}

/-- **Some nodes are cut off** ever since some visits had been made, and whatever is under way for them
comes to nothing. -/
structure Stranded (cut : NodeId → Prop) (start : List Visit) (page : Page) (affairs : Affairs) :
    Prop where
  mute : ∀ id, cut id → ∃ face, page.faces[id]? = some face ∧ face.Mute cut
  turns : ∀ turn ∈ affairs.turns, cut turn.node → turn.outcome = none
  telling : ∀ told ∈ affairs.telling, cut told.1 → told.2 = none
  visits : ∃ made, page.visits = start ++ made ∧ ∀ visit ∈ made, cut visit.node → visit.outcome = none

/-- Nothing of this changes. -/
lemma Stranded.of_eq (h : Stranded cut start page affairs) (hfaces : after.faces = page.faces)
    (hvisits : after.visits = page.visits) (hturns : later.turns = affairs.turns)
    (htelling : later.telling = affairs.telling) : Stranded cut start after later where
  mute := by rw [hfaces]; exact h.mute
  turns := by rw [hturns]; exact h.turns
  telling := by rw [htelling]; exact h.telling
  visits := by rw [hvisits]; exact h.visits

/-- **One face changes**, and is mute if it was. -/
lemma Stranded.modify (h : Stranded cut start page affairs) {change : Face → Face}
    (hfaces : after.faces = page.faces.modify id change) (hvisits : after.visits = page.visits)
    (hchange : ∀ face, cut id → page.faces[id]? = some face → face.Mute cut → (change face).Mute cut) :
    Stranded cut start after affairs where
  mute := by
    intro other hcut
    obtain ⟨face, hface, hmute⟩ := h.mute other hcut
    refine ⟨if id = other then change face else face, ?_, ?_⟩
    · rw [hfaces, List.getElem?_modify, hface]
      rfl
    · split
      · next hid =>
        subst hid
        exact hchange face hcut hface hmute
      · exact hmute
  turns := h.turns
  telling := h.telling
  visits := by rw [hvisits]; exact h.visits

lemma visits_planted (page : Page) (route : Route) (pattern : Pattern) (tag : Text)
    (parent : Option (NodeId × Node)) (registry : Registry) :
    (page.planted route pattern tag parent registry).visits = page.visits := by
  cases parent <;> rfl

lemma visits_shut (page : Page) (id : NodeId) (subscription : Subscription) :
    (page.shut id subscription).visits = page.visits := by
  obtain ⟨ref, number⟩ := subscription
  cases ref <;> rfl

/-- A new node is none of them. -/
lemma Stranded.planted {route : Route} {pattern : Pattern} {tag : Text}
    {parent : Option (NodeId × Node)} {registry : Registry} (h : Stranded cut start page affairs)
    (hturns : later.turns = affairs.turns) (htelling : later.telling = affairs.telling) :
    Stranded cut start (page.planted route pattern tag parent registry) later where
  mute := by
    intro id hcut
    obtain ⟨face, hface, hmute⟩ := h.mute id hcut
    have hfaces : (page.planted route pattern tag parent registry).faces
        = page.faces ++ [(page.newcomer route pattern tag parent).face] :=
      view_planted Node.face (fun _ _ => rfl) page route pattern tag parent registry
    refine ⟨face, ?_, hmute⟩
    rw [hfaces, List.getElem?_append_left (List.getElem?_eq_some_iff.1 hface).1, hface]
  turns := by rw [hturns]; exact h.turns
  telling := by rw [htelling]; exact h.telling
  visits := by rw [visits_planted]; exact h.visits

/-- **A node that is told a tail** by one of them is told that there is none. -/
lemma Stranded.told (h : Stranded cut start page affairs) {parent : NodeId} {tail : Option Tail}
    {seat : Seat} (hseat : page.seats[id]? = some seat)
    (hsignal : seat.subscription.signal = .tailOf parent) (htold : (parent, tail) ∈ affairs.telling) :
    Stranded cut start (page.withPlace id tail) affairs := by
  obtain ⟨node, hnode, rfl⟩ := exists_node hseat
  refine h.modify (faces_withPlace page id tail) rfl fun face hcut hface hmute =>
    ⟨hmute.outcome, hmute.idle, fun hmounted => ?_⟩
  rw [getElem?_faces hnode, Option.some.injEq] at hface
  subst hface
  obtain ⟨around, haround, hlistens, -⟩ := hmute.alone hmounted
  obtain rfl : parent = around := SignalRef.tailOf.inj (hsignal.symm.trans hlistens)
  have hnothing : tail = none := h.telling _ htold haround
  exact ⟨parent, haround, hlistens, congrArg _ hnothing⟩

/-- **A node whose turn begins** learns nothing. -/
lemma Stranded.begun (h : Stranded cut start page affairs) {node : Node}
    (hnode : page.nodes[id]? = some node) (hmounted : node.mounted)
    (hturns : later.turns = page.turn id node :: affairs.turns)
    (htelling : later.telling = affairs.telling) : Stranded cut start page.occupied later where
  mute := h.mute
  turns := by
    rw [hturns]
    intro turn hturn hcut
    rcases List.mem_cons.1 hturn with rfl | hold
    · obtain ⟨face, hface, hmute⟩ := h.mute id hcut
      rw [getElem?_faces hnode, Option.some.injEq] at hface
      subst hface
      obtain ⟨_, -, -, hplace⟩ := hmute.alone hmounted
      have halone : node.route.place = .child none := hplace
      show node.pattern.matchUnder node.route.place page.url page.root = none
      rw [halone]
      rfl
    · exact h.turns turn hold hcut
  telling := by rw [htelling]; exact h.telling
  visits := h.visits

/-- **A node whose turn is over** shows nothing, and tells that there is no tail. -/
lemma Stranded.settled {turn : Turn} {cache : ElementCache} (h : Stranded cut start page affairs)
    (hturn : turn ∈ affairs.turns) (hyields : turn.Yields cache)
    (hturns : ∀ other ∈ later.turns, other ∈ affairs.turns)
    (htelling : later.telling = (turn.node, turn.outcome.tail) :: affairs.telling) :
    Stranded cut start (page.settled turn.node cache turn.outcome) later := by
  have hnothing := h.turns turn hturn
  have hmuted : Stranded cut start (page.learned turn.node cache turn.outcome) affairs := by
    refine h.modify (faces_learned page turn.node cache turn.outcome) rfl fun face hcut _ hmute =>
      ⟨hnothing hcut, ?_, hmute.alone⟩
    show cache.active = false
    rw [hyields.displays.active, hnothing hcut]
    rfl
  obtain ⟨made, hmade, hsilent⟩ := h.visits
  refine ⟨hmuted.mute, fun other hother => h.turns other (hturns other hother), ?_,
    made ++ [turn.visit], ?_, fun visit hvisit hcut => ?_⟩
  · rw [htelling]
    intro told htold hcut
    rcases List.mem_cons.1 htold with rfl | hold
    · rw [show turn.outcome = none from hnothing hcut]
      rfl
    · exact h.telling told hold hcut
  · rw [visits_settled, hmade, List.append_assoc]
    rfl
  · rcases List.mem_append.1 hvisit with hold | hnew
    · exact hsilent visit hold hcut
    · obtain rfl := List.mem_singleton.1 hnew
      exact hnothing hcut

/-- **Each step** leaves the nodes cut off. -/
theorem Stranded.step {s s' : Page × Affairs} (hstep : Step may s s')
    (h : Stranded cut start s.1 s.2) : Stranded cut start s'.1 s'.2 := by
  cases hstep with
  | slight affairs hslight =>
      exact h.of_eq (congrArg (List.map Node.face) hslight.nodes) hslight.visits rfl rfl
  | @hosts page affairs event change => exact h.of_eq rfl (visits_note rfl page) rfl rfl
  | plants => exact h.planted rfl rfl
  | @shuts page affairs id node =>
      have hshut : Stranded cut start (page.shut id node.subscription) _ :=
        h.modify (faces_shut page id node.subscription) (visits_shut ..) fun face _ _ hmute =>
          ⟨hmute.outcome, hmute.idle, fun hmounted => by cases hmounted⟩
      exact hshut.of_eq rfl rfl rfl rfl
  | @tears page affairs id node cache route hnode hroute hcache =>
      have htorn : Stranded cut start (page.torn id cache (page.registry.remove route).2) _ :=
        h.modify (faces_learned page id cache none) rfl fun face _ _ hmute =>
          ⟨rfl, hcache.active, hmute.alone⟩
      refine ⟨htorn.mute, htorn.turns, fun told htold hcut => ?_, htorn.visits⟩
      rcases List.mem_cons.1 htold with rfl | hold
      · rfl
      · exact h.telling told hold hcut
  | resizes page affairs id count =>
      exact h.modify (faces_resized page id count) rfl fun face _ _ hmute =>
        ⟨hmute.outcome, hmute.idle, hmute.alone⟩
  | @watches page affairs name ref reactions =>
      have hlistens := relistened_watched page name ref reactions
      exact h.of_eq (faces_watched ..) (visits_congr hlistens.events) rfl rfl
  | unwatches page affairs name =>
      have hlistens := relistened_unwatched page name
      exact h.of_eq (faces_unwatched page name) (visits_congr hlistens.events) rfl rfl
  | tells hseat hsignal htold => exact (h.told hseat hsignal htold).of_eq rfl rfl rfl rfl
  | hushes page affairs told =>
      exact ⟨h.mute, h.turns, fun other hother => h.telling other (List.mem_cons_of_mem told hother),
        h.visits⟩
  | begins affairs hfree hnode hmounted =>
      exact h.begun hnode hmounted rfl rfl
  | settles page affairs hyields =>
      exact h.settled (List.mem_cons_self ..) hyields (fun _ => List.mem_cons_of_mem _) rfl
  | _ => exact h.of_eq rfl rfl rfl rfl

/-- **Nothing wakes the nodes**, whatever commands come and whatever hooks and listeners do. -/
theorem Stranded.plays {commands : List Command} (h : Stranded cut start page .none)
    (hled : Led (fun _ => true) page) : Stranded cut start (page.plays commands) .none := by
  induction commands generalizing page with
  | nil => exact h
  | cons command rest ih =>
      refine ih ?_ (hled.play rfl (Command.brings_all command))
      cases hrun : page.run command with
      | none => rw [Page.play, hrun]; exact h
      | some result =>
          obtain ⟨answer, after⟩ := result
          rw [Page.play, hrun]
          obtain ⟨hcourse, -⟩ := run_goes hled.sane hled.queue_eq rfl (Command.brings_all command) hrun
          exact hcourse.invariant (Stranded cut start) (fun _ _ => Stranded.step) h

/-- **At rest all nodes that are not live are cut off.** -/
lemma AtRest.stranded {late : Bool} (h : page.AtRest late) :
    Stranded (fun id => id < page.nodes.length ∧ ¬Live page.seats id) page.visits page .none where
  mute := by
    rintro id ⟨hlt, hcut⟩
    obtain ⟨node, hnode⟩ : ∃ node, page.nodes[id]? = some node := ⟨_, List.getElem?_eq_getElem hlt⟩
    have hseat : page.seats[id]? = some node.seat := seats_of_nodes hnode
    have hright := h.right id node.standing (standings_of_nodes hnode) fun hstale => hcut hstale.live
    have hnone : node.lastMatch = none := h.lastMatch_of_cut hcut (standings_of_nodes hnode)
    have hline := h.steady.sound.inLine node (List.mem_of_getElem? hnode)
    refine ⟨node.face, getElem?_faces hnode, hnone, ?_, fun hmounted => ?_⟩
    · show node.cache.active = false
      rw [hline.active, hnone]
      rfl
    · cases hsignal : node.subscription.signal with
      | location => exact absurd (.top hseat hmounted (decide_eq_true hsignal)) hcut
      | tailOf parent =>
          have hparent : parent < id := h.steady.sound.elder id node.seat parent hseat hsignal
          refine ⟨parent, ⟨Nat.lt_trans hparent hlt, fun hlive => hcut ?_⟩, hsignal, ?_⟩
          · exact .nested hseat ⟨hmounted, hsignal⟩ hlive
          · exact hright.alone hcut hmounted
  turns := fun _ hturn => by cases hturn
  telling := fun _ htold => by cases htold
  visits := ⟨[], (List.append_nil _).symm, fun _ hvisit => by cases hvisit⟩

end Page

end PageRouter
