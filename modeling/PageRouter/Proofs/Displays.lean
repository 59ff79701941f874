import PageRouter.Proofs.CacheRuns
import PageRouter.Proofs.Courses

/-!
# What elements show

Between two commands the active element of each mounted node shows what the node has learned, next to
the tail that the node is matched from, and there is one exactly if the node has a match
(`Led.displays`).  In between this may fail for a node, but then the node is about to be matched, waits
for it, or has its turn (`Shown`); whoever gets a new place is about to be matched from there.
-/

namespace PageRouter

open Page

/-! ## Faces -/

/-- What a node shows, and what it shows it for. -/
structure Face where
  subscription : Subscription
  mounted : Bool
  place : ParentLink
  cache : ElementCache
  outcome : Outcome

def Node.face (node : Node) : Face :=
  ⟨node.subscription, node.mounted, node.route.place, node.cache, node.lastMatch⟩

/-- The elements of a node show what it has learned. -/
def Face.IsTrue (face : Face) : Prop := face.cache.Displays face.outcome (parentTail face.place)

namespace ElementCache

variable {cache : ElementCache} {outcome : Outcome} {parent : Option Tail}

lemma Displays.setCapacity (h : cache.Displays outcome parent) (count : Nat) :
    (cache.setCapacity count).Displays outcome parent where
  active := h.active
  shown := by rw [activeElement_setCapacity]; exact h.shown
  room := Nat.le_max_left ..

/-- Where no element is active there is nothing to show. -/
lemma InLine.displays_none (h : cache.InLine none) (parent : Option Tail) :
    cache.Displays none parent where
  active := h.active
  shown := by
    have hnone : cache.activeElement = none := Option.map_eq_none_iff.1 h.shown
    rw [hnone]
    rfl
  room := h.room

end ElementCache

namespace Page

variable {page after : Page} {affairs later : Affairs} {id : NodeId}

def faces (page : Page) : List Face := page.nodes.map Node.face

lemma getElem?_faces {node : Node} (h : page.nodes[id]? = some node) :
    page.faces[id]? = some node.face := by
  rw [faces, List.getElem?_map, h, Option.map_some]

lemma exists_faced {face : Face} (h : page.faces[id]? = some face) :
    ∃ node, page.nodes[id]? = some node ∧ node.face = face := by
  rwa [faces, List.getElem?_map, Option.map_eq_some_iff] at h

lemma faces_learned (page : Page) (id : NodeId) (cache : ElementCache) (outcome : Outcome) :
    (page.learned id cache outcome).faces
      = page.faces.modify id fun face => { face with cache := cache, outcome := outcome } := by
  refine view_modifyNode Node.face ?_ page id
  exact fun _ => rfl

lemma faces_withPlace (page : Page) (id : NodeId) (tail : Option Tail) :
    (page.withPlace id tail).faces
      = page.faces.modify id fun face => { face with place := .child tail } := by
  refine view_modifyNode Node.face ?_ page id
  exact fun _ => rfl

lemma faces_resized (page : Page) (id : NodeId) (count : Nat) :
    (page.modifyNode id fun node => { node with
      route := node.route.withCacheCount count, cache := node.cache.setCapacity count }).faces
      = page.faces.modify id fun face => { face with cache := face.cache.setCapacity count } := by
  refine view_modifyNode Node.face ?_ page id
  exact fun _ => rfl

lemma faces_shut (page : Page) (id : NodeId) (subscription : Subscription) :
    (page.shut id subscription).faces
      = page.faces.modify id fun face => { face with mounted := false } :=
  view_shut Node.face (fun _ _ => rfl) (fun _ => rfl) page id subscription

lemma faces_unwatched (page : Page) (name : Text) : (page.unwatched name).faces = page.faces :=
  view_unwatched Node.face (fun _ _ => rfl) page name

lemma faces_watched (page : Page) (name : Text) (ref : SignalRef) (reactions : List Watch) :
    (page.watched name ref reactions).faces = page.faces :=
  view_watched Node.face (fun _ _ => rfl) page name ref reactions

/-! ## Whoever does not show the right thing -/

/-- The node is about to be matched. -/
def Awaits (page : Page) (affairs : Affairs) (id : NodeId) : Prop :=
  id ∈ page.queue.pending ∨ id ∈ affairs.summoned

/-- **Each mounted node shows what it has learned**, is about to be matched, or has its turn. -/
structure Shown (page : Page) (affairs : Affairs) : Prop where
  shown : ∀ (id : NodeId) (face : Face), page.faces[id]? = some face → face.mounted →
    Awaits page affairs id ∨ (∃ turn ∈ affairs.turns, turn.node = id) ∨ face.IsTrue
  /-- A node that gets a new place during its turn is about to be matched again. -/
  placed : ∀ turn ∈ affairs.turns, ∃ face, page.faces[turn.node]? = some face ∧
    (face.mounted → Awaits page affairs turn.node ∨ face.place = turn.place)
  /-- There is one turn at a time, and the document is busy meanwhile. -/
  busy : affairs.turns = [] ∨ page.queue.busy = true ∧ ∃ turn, affairs.turns = [turn]

/-- No face changes, and whoever was about to be matched still is. -/
lemma Shown.of_faces (h : Shown page affairs) (hfaces : after.faces = page.faces)
    (hturns : later.turns = affairs.turns) (hbusy : after.queue.busy = page.queue.busy)
    (hawaits : ∀ id, Awaits page affairs id → Awaits after later id) : Shown after later where
  shown := by
    rw [hfaces, hturns]
    exact fun id face hface hmounted => (h.shown id face hface hmounted).imp_left (hawaits id)
  placed := by
    rw [hfaces, hturns]
    intro turn hturn
    obtain ⟨face, hface, hplaced⟩ := h.placed turn hturn
    exact ⟨face, hface, fun hmounted => (hplaced hmounted).imp_left (hawaits turn.node)⟩
  busy := by
    rw [hturns, hbusy]
    exact h.busy

lemma Shown.of_eq (h : Shown page affairs) (hfaces : after.faces = page.faces)
    (hqueue : after.queue = page.queue) (hturns : later.turns = affairs.turns)
    (hsummoned : later.summoned = affairs.summoned) : Shown after later :=
  h.of_faces hfaces hturns (by rw [hqueue]) fun id hawaits => by
    rw [Awaits, hqueue, hsummoned]
    exact hawaits

/-- **One face changes**: what it shows stays true, and so does its place unless the node is about to be
matched. -/
lemma Shown.modify (h : Shown page affairs) {change : Face → Face}
    (hfaces : after.faces = page.faces.modify id change) (hqueue : after.queue = page.queue)
    (hturns : later.turns = affairs.turns)
    (hsummoned : ∀ other ∈ affairs.summoned, other ∈ later.summoned)
    (hchange : id ∈ later.summoned ∨ ∀ face : Face, (change face).mounted → face.mounted ∧
      (change face).place = face.place ∧ (face.IsTrue → (change face).IsTrue)) :
    Shown after later := by
  have hawaits : ∀ other, Awaits page affairs other → Awaits after later other := by
    intro other hother
    rw [Awaits, hqueue]
    exact hother.imp_right (hsummoned other)
  refine ⟨fun other face hface hmounted => ?_, fun turn hturn => ?_, by rw [hturns, hqueue]; exact h.busy⟩
  · rw [hfaces] at hface
    rw [hturns]
    obtain ⟨old, hold, rfl⟩ := exists_of_modify hface
    split at hmounted
    · next hid =>
      subst hid
      rw [if_pos rfl]
      rcases hchange with hcalled | hchange
      · exact .inl (.inr hcalled)
      · obtain ⟨hbefore, -, htrue⟩ := hchange old hmounted
        exact (h.shown id old hold hbefore).imp (hawaits id) (Or.imp_right htrue)
    · next hid =>
      rw [if_neg hid]
      exact (h.shown other old hold hmounted).imp_left (hawaits other)
  · rw [hturns] at hturn
    rw [hfaces]
    obtain ⟨old, hold, hplaced⟩ := h.placed turn hturn
    refine ⟨if id = turn.node then change old else old, ?_, fun hmounted => ?_⟩
    · rw [List.getElem?_modify, hold]
      rfl
    · split at hmounted
      · next hid =>
        rw [if_pos hid]
        rcases hchange with hcalled | hchange
        · exact .inl (.inr (hid ▸ hcalled))
        · obtain ⟨hbefore, hplace, -⟩ := hchange old hmounted
          exact (hplaced hbefore).imp (hawaits turn.node) hplace.trans
      · next hid =>
        rw [if_neg hid]
        exact (hplaced hmounted).imp_left (hawaits turn.node)

/-- **A node that is planted** has no match and shows nothing. -/
lemma Shown.planted {route : Route} {pattern : Pattern} {tag : Text}
    {parent : Option (NodeId × Node)} {registry : Registry} (h : Shown page affairs)
    (hturns : later.turns = affairs.turns) (hsummoned : later.summoned = affairs.summoned) :
    Shown (page.planted route pattern tag parent registry) later := by
  have hqueue : (page.planted route pattern tag parent registry).queue = page.queue := queue_grown
  have hfaces : (page.planted route pattern tag parent registry).faces
      = page.faces ++ [(page.newcomer route pattern tag parent).face] :=
    view_planted Node.face (fun _ _ => rfl) page route pattern tag parent registry
  have hawaits : ∀ other, Awaits page affairs other →
      Awaits (page.planted route pattern tag parent registry) later other := by
    intro other hother
    rwa [Awaits, hqueue, hsummoned]
  have hnew : (page.newcomer route pattern tag parent).face.IsTrue :=
    ElementCache.InLine.displays_none (.new _ _ _) _
  refine ⟨fun id face hface hmounted => ?_, fun turn hturn => ?_, by rw [hturns, hqueue]; exact h.busy⟩
  · rw [hfaces] at hface
    rw [hturns]
    rcases Nat.lt_or_ge id page.faces.length with hlt | hge
    · rw [List.getElem?_append_left hlt] at hface
      exact (h.shown id face hface hmounted).imp_left (hawaits id)
    · rw [List.getElem?_append_right hge, List.getElem?_singleton] at hface
      split at hface
      · cases hface
        exact .inr (.inr hnew)
      · cases hface
  · rw [hturns] at hturn
    obtain ⟨old, hold, hplaced⟩ := h.placed turn hturn
    refine ⟨old, ?_, fun hmounted => (hplaced hmounted).imp_left (hawaits turn.node)⟩
    rw [hfaces, List.getElem?_append_left (List.getElem?_eq_some_iff.1 hold).1, hold]

/-- A node that is not mounted need not be matched. -/
lemma Shown.skipped (h : Shown page { affairs with summoned := id :: affairs.summoned })
    (hgone : ∀ node, page.nodes[id]? = some node → node.mounted = false) : Shown page affairs := by
  have hother : ∀ {other face}, page.faces[other]? = some face → face.mounted →
      Awaits page { affairs with summoned := id :: affairs.summoned } other →
      Awaits page affairs other := by
    intro other face hface hmounted hawaits
    refine hawaits.imp_right fun hsummoned => (List.mem_cons.1 hsummoned).resolve_left ?_
    rintro rfl
    obtain ⟨node, hnode, rfl⟩ := exists_faced hface
    rw [show node.face.mounted = node.mounted from rfl, hgone node hnode] at hmounted
    cases hmounted
  refine ⟨fun other face hface hmounted => ?_, fun turn hturn => ?_, h.busy⟩
  · exact (h.shown other face hface hmounted).imp_left (hother hface hmounted)
  · obtain ⟨face, hface, hplaced⟩ := h.placed turn hturn
    exact ⟨face, hface, fun hmounted => (hplaced hmounted).imp_left (hother hface hmounted)⟩

/-- **A node whose turn begins** need not be called for it again. -/
lemma Shown.begun (h : Shown page { affairs with summoned := id :: affairs.summoned })
    (hfree : page.queue.busy = false) {node : Node} (hnode : page.nodes[id]? = some node) :
    Shown page.occupied { affairs with turns := page.turn id node :: affairs.turns } := by
  have hturns : affairs.turns = [] := h.busy.resolve_right fun ⟨hbusy, _⟩ => by
    rw [hfree] at hbusy
    cases hbusy
  have hturn : page.turn id node ∈ page.turn id node :: affairs.turns := List.mem_cons_self ..
  refine ⟨fun other face hface hmounted => ?_, fun turn hturn => ?_, .inr ⟨rfl, page.turn id node, ?_⟩⟩
  · rcases h.shown other face hface hmounted with hawaits | ⟨turn, hmem, -⟩ | htrue
    · rcases hawaits with hpending | hsummoned
      · exact .inl (.inl hpending)
      · rcases List.mem_cons.1 hsummoned with rfl | hsummoned
        · exact .inr (.inl ⟨_, hturn, rfl⟩)
        · exact .inl (.inr hsummoned)
    · rw [hturns] at hmem
      cases hmem
    · exact .inr (.inr htrue)
  · rw [hturns, List.mem_singleton] at hturn
    subst hturn
    exact ⟨node.face, getElem?_faces hnode, fun _ => .inr rfl⟩
  · exact congrArg _ hturns

/-- **A node whose turn is over** shows what it has learned, unless it has got a new place. -/
lemma Shown.settled {turn : Turn} {cache : ElementCache}
    (h : Shown page { affairs with turns := turn :: affairs.turns }) (hyields : turn.Yields cache)
    (hafter : later.turns = affairs.turns) (hsummoned : later.summoned = affairs.summoned) :
    Shown (page.settled turn.node cache turn.outcome) later := by
  have hturns : later.turns = [] := by
    rw [hafter]
    rcases h.busy with hnone | ⟨-, other, hone⟩
    · cases hnone
    · exact (List.cons.inj hone).2
  have hawaits : ∀ other, Awaits page { affairs with turns := turn :: affairs.turns } other →
      Awaits (page.settled turn.node cache turn.outcome) later other := by
    intro other hother
    rw [Awaits, hsummoned]
    exact hother
  have hfaces : (page.settled turn.node cache turn.outcome).faces = page.faces.modify turn.node
      fun face => { face with cache := cache, outcome := turn.outcome } :=
    faces_learned { page with queue := { page.queue with busy := false } } turn.node cache turn.outcome
  refine ⟨fun other face hface hmounted => ?_, fun other hother => ?_, .inl hturns⟩
  · obtain ⟨old, hold, rfl⟩ := exists_of_modify (hfaces ▸ hface)
    split at hmounted
    · next hid =>
      subst hid
      obtain ⟨held, hheld, hplaced⟩ := h.placed turn (List.mem_cons_self ..)
      rw [hold, Option.some.injEq] at hheld
      subst hheld
      rw [if_pos rfl]
      refine (hplaced hmounted).imp (hawaits _) fun hplace => .inr ?_
      have hdisplays := hyields.displays
      rwa [← hplace] at hdisplays
    · next hid =>
      rw [if_neg hid]
      refine (h.shown other old hold hmounted).imp (hawaits other) fun hshown => .inr ?_
      refine hshown.resolve_left fun ⟨held, hmem, hnode⟩ => ?_
      rw [← hafter, hturns] at hmem
      obtain rfl := List.mem_singleton.1 hmem
      exact hid hnode
  · rw [hturns] at hother
    cases hother

/-- **Each step** leaves each mounted node such that it shows what it has learned or is about to. -/
theorem Shown.step {may : Command → Bool} {s s' : Page × Affairs} (hstep : Step may s s')
    (h : Shown s.1 s.2) : Shown s'.1 s'.2 := by
  cases hstep with
  | slight affairs hslight =>
      exact h.of_eq (congrArg (List.map Node.face) hslight.nodes) hslight.queue rfl rfl
  | plants => exact h.planted rfl rfl
  | @shuts page affairs id node =>
      refine h.modify (faces_shut page id node.subscription) queue_shut rfl (fun _ hother => hother)
        (.inr fun face hmounted => ?_)
      cases hmounted
  | @tears page affairs id node cache route hnode hroute hcache =>
      refine h.modify (faces_learned page id cache none) rfl rfl (fun _ hother => hother)
        (.inr fun face hmounted => ⟨hmounted, rfl, fun _ => ?_⟩)
      exact hcache.displays_none _
  | resizes page affairs id count =>
      refine h.modify (faces_resized page id count) rfl rfl (fun _ hother => hother)
        (.inr fun face hmounted => ⟨hmounted, rfl, fun htrue => ?_⟩)
      exact htrue.setCapacity count
  | watches => exact h.of_eq (faces_watched ..) (relistened_watched ..).queue rfl rfl
  | unwatches page affairs name =>
      exact h.of_eq (faces_unwatched page name) (relistened_unwatched page name).queue rfl rfl
  | summons page affairs id =>
      exact h.of_faces rfl rfl rfl fun other hother => hother.imp_right (List.mem_cons_of_mem id)
  | @tells page affairs child parent tail =>
      exact h.modify (faces_withPlace page child tail) rfl rfl
        (fun _ hother => List.mem_cons_of_mem child hother) (.inl (List.mem_cons_self ..))
  | defers affairs id hbusy =>
      refine h.of_faces rfl rfl (busy_defer _ id) fun other hother => ?_
      rw [Awaits, mem_pending_defer]
      rcases hother with hpending | hsummoned
      · exact .inl (.inl hpending)
      · exact (List.mem_cons.1 hsummoned).imp .inr fun hsummoned => hsummoned
  | skips affairs hfree hgone => exact h.skipped hgone
  | begins affairs hfree hnode hmounted => exact h.begun hfree hnode
  | settles page affairs hyields => exact h.settled hyields rfl rfl
  | @calls page affairs id rest hfree hpending =>
      refine h.of_faces rfl rfl rfl fun other hother => ?_
      rcases hother with hwaits | hsummoned
      · rw [hpending] at hwaits
        rcases List.mem_cons.1 hwaits with rfl | hrest
        · exact .inr (List.mem_cons_self ..)
        · exact .inl hrest
      · exact .inr (List.mem_cons_of_mem id hsummoned)
  | _ => exact h.of_eq rfl rfl rfl rfl

/-! ## Between two commands -/

/-- If nobody is about to be matched, all mounted nodes show what they have learned. -/
lemma Shown.displays (h : Shown page .none) (hqueue : page.queue = ⟨false, []⟩) {node : Node}
    (hnode : page.nodes[id]? = some node) (hmounted : node.mounted) :
    node.cache.Displays node.lastMatch (parentTail node.route.place) := by
  rcases h.shown id node.face (getElem?_faces hnode) hmounted with hawaits | ⟨turn, hturn, -⟩ | htrue
  · rcases hawaits with hpending | hsummoned
    · rw [hqueue] at hpending
      cases hpending
    · cases hsummoned
  · cases hturn
  · exact htrue

theorem Led.shown {may : Command → Bool} (h : Led may page) : Shown page .none := by
  refine h.invariant Shown (fun history => ?_) fun _ _ => Shown.step
  refine ⟨fun id face hface => ?_, fun turn hturn => ?_, .inl rfl⟩
  · cases hface
  · cases hturn

/-- **The elements of each mounted node show what it has learned.** -/
theorem Led.displays {may : Command → Bool} (h : Led may page) {node : Node}
    (hnode : page.nodes[id]? = some node) (hmounted : node.mounted) :
    node.cache.Displays node.lastMatch (parentTail node.route.place) :=
  h.shown.displays h.queue_eq hnode hmounted

end Page

end PageRouter
