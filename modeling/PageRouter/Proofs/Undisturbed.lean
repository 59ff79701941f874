import PageRouter.Proofs.Destinations
import PageRouter.Proofs.Displays
import PageRouter.Proofs.Nested
import PageRouter.Proofs.Requeries

/-!
# Navigations that only change the query

A visit is **gentle** if it leaves the element of the node where it is and tells the nodes in it nothing
new (`Page.Gentle`).  Where all visits of a computation are gentle the document hears of nothing, and
every mounted node keeps its place and its elements (`Course.undisturbed`).

Navigations leave the forest in step with the location (`navigation_aligns`).  From two locations with
the same path, patterns without `?` learn the same but for the query.  So a navigation from one to the
other is such a computation: no element is made, put in, activated, deactivated or taken out, and of
matches and active elements only the query changes (`query_change_keeps_elements`).  All this is so if
nobody interferes; a listener that sets the root does (`query_change_uproots`).
-/

namespace PageRouter

open Page

/-! ## What stays of a cache -/

/-- What an element has for good. -/
structure Make where
  serial : Nat
  tag : Text
  params : RouteParams

def Element.make (element : Element) : Make := ⟨element.serial, element.tag, element.params⟩

namespace ElementCache

variable {cache mid after : ElementCache} {outcome : Outcome} {parent : Option Tail}

/-- **The active element stays the active one**, the others stay as they are or are forgotten. -/
structure Keeps (cache after : ElementCache) : Prop where
  active : after.active = cache.active
  first : after.elements.head?.map Element.make = cache.elements.head?.map Element.make
  others : after.elements.tail <+: cache.elements.tail
  idle : cache.active = false → after.elements <+: cache.elements

lemma Keeps.refl (cache : ElementCache) : cache.Keeps cache :=
  ⟨rfl, rfl, List.prefix_rfl, fun _ => List.prefix_rfl⟩

lemma Keeps.trans (h : cache.Keeps mid) (h' : mid.Keeps after) : cache.Keeps after :=
  ⟨h'.active.trans h.active, h'.first.trans h.first, h'.others.trans h.others,
    fun hidle => (h'.idle (h.active.trans hidle)).trans (h.idle hidle)⟩

lemma Keeps.activeElement (h : cache.Keeps after) :
    after.activeElement.map Element.make = cache.activeElement.map Element.make := by
  rw [ElementCache.activeElement, ElementCache.activeElement, h.active]
  split
  · exact h.first
  · rfl

lemma keeps_setCapacity (cache : ElementCache) (count : Nat) : cache.Keeps (cache.setCapacity count) := by
  obtain ⟨more, hmore⟩ : ∃ more, clampCacheCount count = more + 1 :=
    ⟨_, (Nat.sub_add_cancel (Nat.le_max_left leastCacheCount count)).symm⟩
  refine ⟨rfl, ?_, ?_, fun _ => List.take_prefix ..⟩
  · simp [setCapacity, hmore, List.head?_take]
  · cases helements : cache.elements with
    | nil => simp [setCapacity, helements]
    | cons element others => simp [setCapacity, helements, hmore, List.take_prefix]

/-- An element that stays only gets fresh properties. -/
lemma keeps_freshened (h : cache.stays outcome) (parent : Option Tail) :
    cache.Keeps (cache.freshened outcome parent) := by
  cases outcome with
  | none => exact .refl cache
  | some found =>
      have hactive : cache.active = true := by
        by_contra hidle
        simp [stays, shows, ElementCache.activeElement, hidle] at h
      cases helements : cache.elements with
      | nil => simp [stays, shows, ElementCache.activeElement, helements] at h
      | cons element others =>
          refine ⟨?_, ?_, ?_, fun hidle => ?_⟩
          · simp [freshened, refreshFirst, helements]
          · simp [freshened, refreshFirst, helements, Element.refreshed, Element.make]
          · simp [freshened, refreshFirst, helements]
          · rw [hactive] at hidle
            cases hidle

/-- Whether an element stays is a matter of whether it is active and what it was made for. -/
lemma Keeps.stays (h : cache.Keeps after) (outcome : Outcome) :
    after.stays outcome = cache.stays outcome := by
  cases outcome with
  | none => rw [ElementCache.stays, ElementCache.stays, h.active]
  | some found =>
      have hactive := h.activeElement
      rw [ElementCache.stays, ElementCache.stays, shows, shows]
      cases hafter : after.activeElement with
      | none =>
          rw [hafter, Option.map_none, eq_comm, Option.map_eq_none_iff] at hactive
          rw [hactive]
      | some element =>
          rw [hafter, Option.map_some, eq_comm, Option.map_eq_some_iff] at hactive
          obtain ⟨old, hold, hmake⟩ := hactive
          have hparams : old.params = element.params := congrArg Make.params hmake
          rw [hold]
          simp only [hparams]

/-- An element that is in line with a match stays if only the query changes. -/
lemma InLine.stays_withQuery (h : cache.InLine outcome) (query : Option Text) :
    cache.stays (outcome.withQuery query) := by
  cases outcome with
  | none => simp [Outcome.withQuery, ElementCache.stays, h.active]
  | some found =>
      have hshown := h.shown
      rw [Option.map_some, Option.map_eq_some_iff] at hshown
      obtain ⟨element, helement, hparams⟩ := hshown
      simp [Outcome.withQuery, ElementCache.stays, shows, helement, hparams, Match.withQuery]

end ElementCache

/-! ## Gentle visits -/

/-- **What stays of a node**: if it is mounted, its place and its elements. -/
structure Face.Stays (face after : Face) : Prop where
  subscription : after.subscription = face.subscription
  mounted : after.mounted = face.mounted
  kept : face.mounted → after.place = face.place ∧ face.cache.Keeps after.cache

lemma Face.Stays.refl (face : Face) : face.Stays face := ⟨rfl, rfl, fun _ => ⟨rfl, .refl _⟩⟩

/-- A turn ends with a visit. -/
def Turn.visit (turn : Turn) : Visit := ⟨turn.node, turn.outcome⟩

namespace Page

variable {page now after : Page} {affairs later : Affairs} {id : NodeId} {fresh : List Visit}

/-- **A visit that disturbs nobody**: the element of the node stays where it is, and the nodes in it are
matched from its tail already. -/
structure Gentle (page : Page) (visit : Visit) : Prop where
  stays : ∀ face, page.faces[visit.node]? = some face → face.mounted → face.cache.stays visit.outcome
  inner : ∀ (child : NodeId) (face : Face), page.faces[child]? = some face → face.mounted →
    face.subscription.signal = .tailOf visit.node → face.place = .child (Outcome.tail visit.outcome)

/-- **Nothing has been disturbed** since a page: the document has heard of nothing, and each mounted node
has its place and its elements.  What is under way comes from visits that are made by the end. -/
structure Undisturbed (page : Page) (fresh : List Visit) (now : Page) (affairs : Affairs) : Prop where
  /-- No node has lost its name. -/
  loose : affairs.loose = []
  /-- No node is on its way out. -/
  leaving : affairs.leaving = []
  host : now.hostEvents = page.hostEvents
  made : now.document.made = page.document.made
  attached : now.document.attached = page.document.attached
  length : now.faces.length = page.faces.length
  faces : ∀ (id : NodeId) (face : Face), page.faces[id]? = some face →
    ∃ present, now.faces[id]? = some present ∧ face.Stays present
  turns : ∀ turn ∈ affairs.turns, turn.visit ∈ fresh ∧
    ∃ face, page.faces[turn.node]? = some face ∧ face.mounted ∧ face.cache.Keeps turn.cache
  telling : ∀ told ∈ affairs.telling, ∃ visit ∈ fresh, told = (visit.node, Outcome.tail visit.outcome)

lemma hostEvents_congr (h : after.events = page.events) : after.hostEvents = page.hostEvents := by
  rw [hostEvents, h, hostEvents]

lemma visits_congr (h : after.events = page.events) : after.visits = page.visits := by
  rw [visits, h, visits]

lemma Undisturbed.refl (page : Page) (fresh : List Visit) : Undisturbed page fresh page .none where
  loose := rfl
  leaving := rfl
  host := rfl
  made := rfl
  attached := rfl
  length := rfl
  faces := fun _ face hface => ⟨face, hface, .refl face⟩
  turns := fun _ hturn => by cases hturn
  telling := fun _ htold => by cases htold

/-- Neither faces nor the document change. -/
lemma Undisturbed.of_eq (h : Undisturbed page fresh now affairs) (hfaces : after.faces = now.faces)
    (hhost : after.hostEvents = now.hostEvents) (hmade : after.document.made = now.document.made)
    (hattached : after.document.attached = now.document.attached) (hloose : later.loose = affairs.loose)
    (hleaving : later.leaving = affairs.leaving) (hturns : later.turns = affairs.turns)
    (htelling : later.telling = affairs.telling) : Undisturbed page fresh after later := by
  refine ⟨hloose.trans h.loose, hleaving.trans h.leaving, hhost.trans h.host, hmade.trans h.made,
    hattached.trans h.attached, ?_, ?_, ?_, ?_⟩
  · rw [hfaces]; exact h.length
  · rw [hfaces]; exact h.faces
  · rw [hturns]; exact h.turns
  · rw [htelling]; exact h.telling

/-- **One face changes** in such a way that it stays. -/
lemma Undisturbed.modify (h : Undisturbed page fresh now affairs) {change : Face → Face}
    (hfaces : after.faces = now.faces.modify id change) (hhost : after.hostEvents = now.hostEvents)
    (hdocument : after.document = now.document)
    (hchange : ∀ face present, page.faces[id]? = some face → now.faces[id]? = some present →
      face.Stays present → face.Stays (change present)) :
    Undisturbed page fresh after affairs := by
  refine ⟨h.loose, h.leaving, hhost.trans h.host, ?_, ?_, ?_, fun other face hface => ?_, h.turns,
    h.telling⟩
  · rw [hdocument]; exact h.made
  · rw [hdocument]; exact h.attached
  · rw [hfaces, List.length_modify]; exact h.length
  · obtain ⟨present, hpresent, hstays⟩ := h.faces other face hface
    refine ⟨if id = other then change present else present, ?_, ?_⟩
    · rw [hfaces, List.getElem?_modify, hpresent]
      rfl
    · split
      · next hid =>
        subst hid
        exact hchange face present hface hpresent hstays
      · exact hstays

/-- Whoever is there now was there before. -/
lemma Undisturbed.exists_face (h : Undisturbed page fresh now affairs) {present : Face}
    (hpresent : now.faces[id]? = some present) :
    ∃ face, page.faces[id]? = some face ∧ face.Stays present := by
  have hlt : id < page.faces.length := h.length ▸ (List.getElem?_eq_some_iff.1 hpresent).1
  have hface := List.getElem?_eq_getElem hlt
  obtain ⟨other, hother, hstays⟩ := h.faces id _ hface
  rw [hpresent, Option.some.injEq] at hother
  exact ⟨_, hface, hother ▸ hstays⟩

/-- A turn that ends with a gentle visit leaves the element where it is. -/
lemma Undisturbed.stays (h : Undisturbed page fresh now affairs)
    (hgentle : ∀ visit ∈ fresh, page.Gentle visit) {turn : Turn} (hturn : turn ∈ affairs.turns) :
    turn.cache.stays turn.outcome := by
  obtain ⟨hvisit, face, hface, hmounted, hkeeps⟩ := h.turns turn hturn
  rw [hkeeps.stays]
  exact (hgentle turn.visit hvisit).stays face hface hmounted

/-- So the document is not asked for anything. -/
lemma Undisturbed.not_hosts (h : Undisturbed page fresh now affairs)
    (hgentle : ∀ visit ∈ fresh, page.Gentle visit) : ¬affairs.Hosts := by
  rintro (hleaving | ⟨turn, hturn, hleaves⟩)
  · exact hleaving h.leaving
  · rw [h.stays hgentle hturn] at hleaves
    cases hleaves

/-- **A node that is told a tail** knows it already. -/
lemma Undisturbed.told (h : Undisturbed page fresh now affairs)
    (hgentle : ∀ visit ∈ fresh, page.Gentle visit) {parent : NodeId} {tail : Option Tail} {seat : Seat}
    (hseat : now.seats[id]? = some seat) (hsignal : seat.subscription.signal = .tailOf parent)
    (htold : (parent, tail) ∈ affairs.telling) :
    Undisturbed page fresh (now.withPlace id tail) affairs := by
  obtain ⟨visit, hvisit, hsame⟩ := h.telling _ htold
  obtain ⟨rfl, rfl⟩ := Prod.mk.inj hsame
  obtain ⟨node, hnode, rfl⟩ := exists_node hseat
  refine h.modify (faces_withPlace now id _) rfl rfl fun face present hface hpresent hstays =>
    ⟨hstays.subscription, hstays.mounted, fun hmounted => ?_⟩
  rw [getElem?_faces hnode, Option.some.injEq] at hpresent
  subst hpresent
  have hinner : face.subscription.signal = .tailOf visit.node := by
    rw [← hstays.subscription]
    exact hsignal
  exact ⟨((hgentle visit hvisit).inner id face hface hmounted hinner).symm, (hstays.kept hmounted).2⟩

/-- **A node whose turn begins** has its elements, and the turn ends with a visit that is known. -/
lemma Undisturbed.begun {node : Node}
    (h : Undisturbed page fresh now { affairs with summoned := id :: affairs.summoned })
    (hnode : now.nodes[id]? = some node) (hmounted : node.mounted)
    (hfresh : (now.turn id node).visit ∈ fresh) :
    Undisturbed page fresh now.occupied { affairs with turns := now.turn id node :: affairs.turns } := by
  obtain ⟨face, hface, hstays⟩ := h.exists_face (getElem?_faces hnode)
  have hbefore : face.mounted := hstays.mounted.symm.trans hmounted
  refine ⟨h.loose, h.leaving, h.host, h.made, h.attached, h.length, h.faces, fun turn hturn => ?_,
    h.telling⟩
  rcases List.mem_cons.1 hturn with rfl | hold
  · exact ⟨hfresh, face, hface, hbefore, (hstays.kept hbefore).2⟩
  · exact h.turns turn hold

/-- **A node whose turn is over** has its elements, with fresh properties. -/
lemma Undisturbed.settled {turn : Turn} {cache : ElementCache}
    (h : Undisturbed page fresh now { affairs with turns := turn :: affairs.turns })
    (hgentle : ∀ visit ∈ fresh, page.Gentle visit) (hyields : turn.Yields cache) :
    Undisturbed page fresh (now.settled turn.node cache turn.outcome)
      { affairs with telling := (turn.node, turn.outcome.tail) :: affairs.telling } := by
  obtain ⟨hvisit, held, hheld, hmounted, hkeeps⟩ := h.turns turn (List.mem_cons_self ..)
  have hstays := h.stays hgentle (List.mem_cons_self ..)
  have hcache := hyields.kept hstays
  have hfaces := faces_learned { now with queue := { now.queue with busy := false } } turn.node cache
    turn.outcome
  have hsettled : Undisturbed page fresh (now.settled turn.node cache turn.outcome)
      { affairs with turns := turn :: affairs.turns } := by
    refine h.modify hfaces (by simp [hostEvents, Page.settled, PageEvent.host?]) rfl
      fun face present hface _ hsofar => ⟨hsofar.subscription, hsofar.mounted, fun hmounted => ?_⟩
    rw [hheld, Option.some.injEq] at hface
    subst hface
    refine ⟨(hsofar.kept hmounted).1, ?_⟩
    show held.cache.Keeps cache
    rw [hcache]
    exact hkeeps.trans (ElementCache.keeps_freshened hstays _)
  refine ⟨hsettled.loose, hsettled.leaving, hsettled.host, hsettled.made, hsettled.attached,
    hsettled.length, hsettled.faces, fun other hother => ?_, fun told htold => ?_⟩
  · exact hsettled.turns other (List.mem_cons_of_mem turn hother)
  · rcases List.mem_cons.1 htold with rfl | hold
    · exact ⟨turn.visit, hvisit, rfl⟩
    · exact hsettled.telling told hold

/-- **Each step** leaves everything undisturbed, if a turn that it begins ends with a gentle visit. -/
theorem Undisturbed.step {s s' : Page × Affairs} (hstep : Step Command.isInert s s')
    (hgentle : ∀ visit ∈ fresh, page.Gentle visit) (hfresh : ∀ turn ∈ s'.2.turns, turn.visit ∈ fresh)
    (h : Undisturbed page fresh s.1 s.2) : Undisturbed page fresh s'.1 s'.2 := by
  cases hstep with
  | slight affairs hslight =>
      exact h.of_eq (congrArg (List.map Node.face) hslight.nodes) hslight.host hslight.made
        hslight.attached rfl rfl rfl rfl
  | hosts event change hhosts => exact absurd hhosts (h.not_hosts hgentle)
  | plants affairs hmay =>
      obtain ⟨_, _, _, hmay⟩ := hmay
      cases hmay
  | names => cases h.loose
  | unnames page affairs name hmay =>
      rcases hmay with hmay | hmay
      · cases hmay
      · cases hmay
  | shuts => cases h.loose
  | tears => cases h.leaving
  | lets => cases h.loose
  | resizes now affairs id count =>
      refine h.modify (faces_resized now id count) rfl rfl fun face present _ _ hstays =>
        ⟨hstays.subscription, hstays.mounted, fun hmounted => ?_⟩
      obtain ⟨hplace, hkeeps⟩ := hstays.kept hmounted
      exact ⟨hplace, hkeeps.trans (ElementCache.keeps_setCapacity _ count)⟩
  | @watches now affairs name ref reactions =>
      have hlistens := relistened_watched now name ref reactions
      exact h.of_eq (faces_watched ..) (hostEvents_congr hlistens.events)
        (congrArg Document.made hlistens.document) (congrArg Document.attached hlistens.document)
        rfl rfl rfl rfl
  | unwatches now affairs name =>
      have hlistens := relistened_unwatched now name
      exact h.of_eq (faces_unwatched now name) (hostEvents_congr hlistens.events)
        (congrArg Document.made hlistens.document) (congrArg Document.attached hlistens.document)
        rfl rfl rfl rfl
  | tells hseat hsignal htold =>
      exact (h.told hgentle hseat hsignal htold).of_eq rfl rfl rfl rfl rfl rfl rfl rfl
  | hushes now affairs told =>
      exact ⟨h.loose, h.leaving, h.host, h.made, h.attached, h.length, h.faces, h.turns,
        fun other hother => h.telling other (List.mem_cons_of_mem told hother)⟩
  | begins affairs hfree hnode hmounted =>
      exact h.begun hnode hmounted (hfresh _ (List.mem_cons_self ..))
  | settles now affairs hyields => exact h.settled hgentle hyields
  | _ => exact h.of_eq rfl rfl rfl rfl rfl rfl rfl rfl

end Page

/-! ## Whole courses -/

/-- Visits are only added, and a turn goes on or ends with its visit. -/
lemma Step.visits {may : Command → Bool} {s s' : Page × Affairs} (h : Step may s s') :
    ∃ made, s'.1.visits = s.1.visits ++ made ∧
      ∀ turn ∈ s.2.turns, turn ∈ s'.2.turns ∨ turn.visit ∈ made := by
  have hsame : s'.1.visits = s.1.visits → (∀ turn ∈ s.2.turns, turn ∈ s'.2.turns) →
      ∃ made, s'.1.visits = s.1.visits ++ made ∧
        ∀ turn ∈ s.2.turns, turn ∈ s'.2.turns ∨ turn.visit ∈ made :=
    fun hvisits hturns =>
      ⟨[], by rw [hvisits, List.append_nil], fun turn hturn => .inl (hturns turn hturn)⟩
  cases h with
  | slight affairs hslight => exact hsame hslight.visits fun _ hturn => hturn
  | @hosts page affairs event change => exact hsame (visits_note rfl page) fun _ hturn => hturn
  | @plants page affairs route registered pattern tag parent =>
      exact hsame (by cases parent <;> rfl) fun _ hturn => hturn
  | @shuts page affairs id node =>
      generalize node.subscription = subscription at hsame ⊢
      obtain ⟨ref, number⟩ := subscription
      exact hsame (by cases ref <;> rfl) fun _ hturn => hturn
  | watches => exact hsame (visits_congr (relistened_watched ..).events) fun _ hturn => hturn
  | unwatches page affairs name =>
      exact hsame (visits_congr (relistened_unwatched page name).events) fun _ hturn => hturn
  | begins => exact hsame rfl fun _ hturn => List.mem_cons_of_mem _ hturn
  | @settles page affairs turn cache =>
      refine ⟨[turn.visit], visits_settled .., fun other hother => ?_⟩
      rcases List.mem_cons.1 hother with rfl | hold
      · exact .inr (List.mem_singleton.2 rfl)
      · exact .inl hold
  | _ => exact hsame rfl fun _ hturn => hturn

/-- **Every turn ends with its visit**, if none is left in the end. -/
lemma Course.settles {may : Command → Bool} {s s' : Page × Affairs} (h : Course may s s')
    (hturns : s'.2.turns = []) :
    ∃ made, s'.1.visits = s.1.visits ++ made ∧ ∀ turn ∈ s.2.turns, turn.visit ∈ made := by
  induction h using Relation.ReflTransGen.head_induction_on with
  | refl => exact ⟨[], (List.append_nil _).symm, by rw [hturns]; exact fun _ hturn => by cases hturn⟩
  | head hstep _ ih =>
      obtain ⟨first, hfirst, hgoes⟩ := hstep.visits
      obtain ⟨rest, hrest, hends⟩ := ih
      refine ⟨first ++ rest, by rw [hrest, hfirst, List.append_assoc], fun turn hturn => ?_⟩
      rcases hgoes turn hturn with hlater | hdone
      · exact List.mem_append_right _ (hends turn hlater)
      · exact List.mem_append_left _ hdone

/-- **If all visits of a course are gentle, nothing is disturbed.** -/
theorem Course.undisturbed {page : Page} {fresh : List Visit} {s s' : Page × Affairs}
    (h : Course Command.isInert s s') (hturns : s'.2.turns = [])
    (hvisits : s'.1.visits = page.visits ++ fresh) (hgentle : ∀ visit ∈ fresh, page.Gentle visit)
    (hbefore : page.visits <+: s.1.visits) (hstart : Undisturbed page fresh s.1 s.2) :
    Undisturbed page fresh s'.1 s'.2 := by
  induction h using Relation.ReflTransGen.head_induction_on with
  | refl => exact hstart
  | head hstep hrest ih =>
      obtain ⟨first, hfirst, -⟩ := hstep.visits
      obtain ⟨made, hmade, hends⟩ := Course.settles hrest hturns
      obtain ⟨earlier, hearlier⟩ := hbefore
      have hfresh : fresh = earlier ++ first ++ made := by
        rw [hmade, hfirst, ← hearlier, List.append_assoc, List.append_assoc] at hvisits
        rw [← List.append_cancel_left hvisits, List.append_assoc]
      refine ih ⟨earlier ++ first, by rw [hfirst, ← hearlier, List.append_assoc]⟩
        (hstart.step hstep hgentle fun turn hturn => ?_)
      rw [hfresh]
      exact List.mem_append_right _ (hends turn hturn)

/-! ## Another query -/

/-- The fields of a query, if there is one. -/
def fieldsOf (query : Option Text) : Query :=
  match query with
  | some query => Query.parse query
  | none => []

/-- An element with another query. -/
def Element.withQuery (element : Element) (query : Option Text) : Element :=
  { element with query := fieldsOf query }

/-- **Only the query of a node has changed**: its match and its active element are what they were but
for the query.  Kept elements are kept, as far as there is still room for them. -/
structure Node.Requeried (node now : Node) (query : Option Text) : Prop where
  seat : now.seat = node.seat
  place : now.route.place = node.route.place
  learned : now.lastMatch = Outcome.withQuery node.lastMatch query
  active : now.cache.activeElement = node.cache.activeElement.map (·.withQuery query)
  others : now.cache.elements.tail <+: node.cache.elements.tail
  idle : node.cache.active = false → now.cache.elements <+: node.cache.elements

/-- If elements stay, show what is learned, and learn only another query, then nothing else of them
changes. -/
lemma ElementCache.Keeps.activeElement_eq {cache after : ElementCache} {outcome : Outcome}
    {parent : Option Tail} {query : Option Text} (h : cache.Keeps after)
    (hbefore : cache.Displays outcome parent)
    (hafter : after.Displays (outcome.withQuery query) parent) :
    after.activeElement = cache.activeElement.map (·.withQuery query) := by
  have hmake := h.activeElement
  have hshown := hbefore.shown
  have hshows := hafter.shown
  cases hold : cache.activeElement with
  | none =>
      rw [hold, Option.map_none, Option.map_eq_none_iff] at hmake
      rw [hmake, Option.map_none]
  | some element =>
      rw [hold, Option.map_some, Option.map_eq_some_iff] at hmake
      obtain ⟨now, hnow, hmade⟩ := hmake
      rw [hold, Option.map_some, eq_comm, Option.map_eq_some_iff] at hshown
      obtain ⟨found, rfl, hproperties⟩ := hshown
      rw [hnow, Option.map_some, Outcome.withQuery, Option.map_some, Option.map_some,
        Option.some.injEq] at hshows
      rw [hnow, Option.map_some, Option.some.injEq]
      obtain ⟨serial, tag, params, read, splats, around⟩ := now
      obtain ⟨serial', tag', params', read', splats', around'⟩ := element
      cases hmade
      cases hproperties
      cases hshows
      rfl

namespace Page

variable {page after : Page} {id : NodeId}

/-- **The forest is in step with the location**: each mounted node has learned what it is expected to
learn, and a nested one is matched from the tail that the node around it is expected to have. -/
structure Aligned (page : Page) : Prop where
  learned : page.InStep
  placed : ∀ (id : NodeId) (node : Node) (parent : NodeId), page.nodes[id]? = some node →
    node.mounted → node.subscription.signal = .tailOf parent →
    node.route.place = .child (Outcome.tail (page.expected parent))

lemma brings_of_navigates {kind : Command → Bool} {command : Command} (h : command.navigates) :
    command.brings kind := by
  cases command with
  | watchLocation | watchTail | setHooks => cases h
  | _ => rfl

/-- **A quiet navigation puts the forest in step** with the location, if it is not refused. -/
theorem navigation_aligns (h : Session true page) (hquiet : page.Quiet) {command : Command}
    (hnavigates : command.navigates) {answer : Answer} (haccepted : answer.isRefusal = false)
    (hrun : page.run command = some (answer, after)) : after.Aligned := by
  have hrest := h.atRest
  have hbrings : command.brings Command.roams := brings_of_navigates hnavigates
  obtain ⟨result, final, hfinal, hends⟩ := hquiet.tours hrest.steady hrest.queue_eq hnavigates
  rw [hrun, Option.some.injEq, Prod.mk.injEq] at hfinal
  obtain ⟨rfl, rfl⟩ := hfinal
  obtain ⟨-, history, -, htoured⟩ := hends.resolve_left fun ⟨hrefusal, _⟩ => by
    rw [haccepted] at hrefusal
    cases hrefusal
  have hrising : Rising page.seats := hrest.steady.sound.elder
  have hseats : after.seats = page.seats := htoured.forest.seats
  have hstep : after.InStep := hrest.inStep htoured
  refine ⟨hstep, fun id node parent hnode hmounted hsignal => ?_⟩
  by_cases hlive : Live after.seats parent
  · obtain ⟨seat, hseat, haroundMounted⟩ := hlive.exists_seat
    obtain ⟨around, haround, rfl⟩ := exists_node hseat
    rw [← hstep parent around haround haroundMounted]
    -- the node around it has its turn once, and leaves the nodes in it in sync
    rw [hseats, ← mem_preorder hrising] at hlive
    obtain ⟨before, later, hsplit⟩ := List.append_of_mem hlive
    have hnodup : (before ++ parent :: later).Nodup := hsplit ▸ nodup_preorder hrising
    obtain ⟨hbefore, hlater⟩ : parent ∉ before ∧ parent ∉ later := by
      simpa [not_or] using (List.nodup_cons.1 (List.nodup_middle.1 hnodup)).1
    have hothers : ∀ {ids : List NodeId}, parent ∉ ids →
        ∀ visit ∈ ids.map fun id => (⟨id, (page.withHistory history).expected id⟩ : Visit),
          visit.node ≠ parent := by
      intro ids hnot visit hvisit
      obtain ⟨id, hid, rfl⟩ := List.mem_map.1 hvisit
      exact fun hsame => hnot (hsame ▸ hid)
    have hvisits := htoured.visits
    rw [hsplit, List.map_append, List.map_cons] at hvisits
    exact inSync_of_matched_once h hbrings hrun haround hnode haroundMounted hmounted hsignal hvisits
      (hothers hbefore) rfl (hothers hlater)
  · have hnot : ¬Live after.seats id := fun hlives =>
      hlive (hlives.around (seats_of_nodes hnode) ⟨hmounted, hsignal⟩)
    have hright := (h.run_rests hbrings (.inl rfl) hrun).1.right id node.standing
      (standings_of_nodes hnode) fun hstale => hnot hstale.live
    have hplace : node.route.place = .child none := hright.alone hnot hmounted
    rw [hplace, expected_of_not_live (hseats ▸ hrising) hlive]
    rfl

lemma eq_pathPart_append (url : Text) : url = pathPart url ++ searchOf (queryPart url) := by
  rw [← searchPart_eq_searchOf, pathPart_append_searchPart]

/-- **What is expected of the nodes** depends on the query only in the query. -/
lemma expected_requery (hrising : Rising page.seats) (hroot : '?' ∉ page.root)
    (hplain : ∀ node ∈ page.nodes, node.mounted → '?' ∉ node.pattern.text)
    (hseats : after.seats = page.seats) (hsame : after.root = page.root)
    (hpath : pathPart after.url = pathPart page.url) (id : NodeId) :
    after.expected id = Outcome.withQuery (page.expected id) (queryPart after.url) := by
  have hseatsPlain : ∀ seat ∈ page.seats, seat.mounted → '?' ∉ seat.pattern.text := by
    intro seat hseat
    obtain ⟨node, hnode, rfl⟩ := List.mem_map.1 hseat
    exact hplain node hnode
  rw [expected, expected, hseats, hsame, eq_pathPart_append after.url, eq_pathPart_append page.url, hpath]
  have hrequery := topDown_requery hrising hseatsPlain hroot (not_mem_pathPart page.url)
    (queryPart page.url) (queryPart after.url) id
  rw [queryPart_append (not_mem_pathPart page.url)]
  exact hrequery

/-- **Each visit of a forest in step is gentle** if it brings only another query. -/
lemma Aligned.gentle (h : page.Aligned) (hsound : page.Sound) {query : Option Text} {visit : Visit}
    (hvisit : visit.outcome = Outcome.withQuery (page.expected visit.node) query) :
    page.Gentle visit := by
  refine ⟨fun face hface hmounted => ?_, fun child face hface hmounted hsignal => ?_⟩
  · obtain ⟨node, hnode, rfl⟩ := exists_faced hface
    rw [hvisit, ← h.learned visit.node node hnode hmounted]
    exact (hsound.inLine node (List.mem_of_getElem? hnode)).stays_withQuery query
  · obtain ⟨node, hnode, rfl⟩ := exists_faced hface
    rw [hvisit, Outcome.tail_withQuery]
    exact h.placed child node visit.node hnode hmounted hsignal

/-- A quiet navigation takes its course with nothing but commands that matching does not look at. -/
lemma Quiet.course {may : Command → Bool} (h : page.Quiet) (hled : Led may page) {command : Command}
    (hnavigates : command.navigates) {answer : Answer}
    (hrun : page.run command = some (answer, after)) :
    Course Command.isInert (page, .none) (after, .none) := by
  have hsane : Sane Command.isInert page.present page := by
    rw [Sane, hled.idle_eq]
    exact h.steady hled.steady
  obtain ⟨depth, hperform⟩ := run_eq_some hrun
  exact ((navigation_goes (exec_serves Command.isInert page.present depth) hnavigates hsane).of_eq
    hperform).course

/-- **A tour that brings another query disturbs nobody** in a forest in step. -/
lemma Aligned.undisturbed (h : page.Aligned) (hsound : page.Sound)
    (hcourse : Course Command.isInert (page, .none) (after, .none)) {history : History}
    (htoured : Toured (preorder page.seats) (page.withHistory history) after) {query : Option Text}
    (hlearns : ∀ id, after.expected id = Outcome.withQuery (page.expected id) query) :
    Undisturbed page ((preorder page.seats).map fun id => ⟨id, after.expected id⟩) after .none := by
  have hvisits : after.visits = page.visits ++
      (preorder page.seats).map fun id => ⟨id, after.expected id⟩ := by
    rw [htoured.forest.expected htoured.history]
    exact htoured.visits
  refine hcourse.undisturbed rfl hvisits (fun visit hvisit => ?_) List.prefix_rfl (.refl page _)
  obtain ⟨id, -, rfl⟩ := List.mem_map.1 hvisit
  exact h.gentle hsound (hlearns id)

/-- Undisturbed nodes that learn only another query, and show what they learn, have only another query
afterwards. -/
lemma Undisturbed.requeried {fresh : List Visit} (h : Undisturbed page fresh after .none)
    (hseats : after.seats = page.seats) (hbefore : ∀ (id : NodeId) (node : Node),
      page.nodes[id]? = some node → node.mounted →
      node.cache.Displays node.lastMatch (parentTail node.route.place))
    (hafter : ∀ (id : NodeId) (node : Node), after.nodes[id]? = some node → node.mounted →
      node.cache.Displays node.lastMatch (parentTail node.route.place))
    {query : Option Text} (hlearned : ∀ (id : NodeId) (node now : Node), page.nodes[id]? = some node →
      node.mounted → after.nodes[id]? = some now → now.mounted →
      now.lastMatch = Outcome.withQuery node.lastMatch query)
    {node : Node} (hnode : page.nodes[id]? = some node) (hmounted : node.mounted) :
    ∃ now, after.nodes[id]? = some now ∧ node.Requeried now query := by
  obtain ⟨face, hface, hstays⟩ := h.faces id node.face (getElem?_faces hnode)
  obtain ⟨now, hnow, rfl⟩ := exists_faced hface
  obtain ⟨hplace, hkeeps⟩ := hstays.kept hmounted
  have hnowMounted : now.mounted := hstays.mounted.trans hmounted
  have hlater := hlearned id node now hnode hmounted hnow hnowMounted
  have hshows := hafter id now hnow hnowMounted
  rw [hlater, show now.route.place = node.route.place from hplace] at hshows
  have hseat : some now.seat = some node.seat := by
    rw [← seats_of_nodes hnow, hseats, seats_of_nodes hnode]
  exact ⟨now, hnow, Option.some.inj hseat, hplace, hlater,
    hkeeps.activeElement_eq (hbefore id node hnode hmounted) hshows, hkeeps.others, hkeeps.idle⟩

/-- A location that is pushed, or put in the place of the current one, is where a quiet navigation
ends. -/
lemma Quiet.arrives {may : Command → Bool} (h : page.Quiet) (hled : Led may page) {command : Command}
    {url : Text} {source : Option Text}
    (hcommand : command = .push url source ∨ command = .replace url source) {answer : Answer}
    (hrun : page.run command = some (answer, after)) : after.url = url := by
  obtain ⟨depth, hlength, hdeep⟩ := page.run_eq_perform command
  rw [hdeep] at hrun
  have hends : ∀ replaces change, perform (exec (depth + 1)) command page =
      announce (exec (depth + 1)) change source .nothing
        (page.withHistory (page.history.arrive replaces url)) → after.url = url := by
    intro replaces change hperform
    obtain ⟨final, hannounce, -, htoured⟩ := h.announces hled.steady hled.queue_eq hlength
      (page.history.arrive replaces url) change source .nothing
    rw [hperform, hannounce, Option.some.injEq, Prod.mk.injEq] at hrun
    rw [← hrun.2, Page.url, htoured.history]
    exact page.history.location_arrive replaces url
  rcases hcommand with rfl | rfl
  · exact hends false .pushState rfl
  · exact hends true .replaceState rfl

/-- **A query change never swaps elements.**  If the forest is in step with the location, no pattern and
no root has a `?` in it and nobody interferes, then every navigation ends, and one that leads to a
location with the same path makes no element, puts none in, takes none out, and makes none active or
inactive.  Every mounted node stays what and where it is, and of its match and its active element only
the query changes. -/
theorem query_change_keeps_elements (h : page.Reached) (hquiet : page.Quiet) (hstep : page.Aligned)
    (hroot : '?' ∉ page.root) (hplain : ∀ node ∈ page.nodes, node.mounted → '?' ∉ node.pattern.text)
    {command : Command} (hnavigates : command.navigates) :
    ∃ answer after, page.run command = some (answer, after) ∧
      (∀ url source, command = .push url source ∨ command = .replace url source → after.url = url) ∧
      (pathPart after.url = pathPart page.url →
        after.hostEvents = page.hostEvents ∧ after.document.made = page.document.made ∧
        after.document.attached = page.document.attached ∧ after.nodes.length = page.nodes.length ∧
        ∀ (id : NodeId) (node : Node), page.nodes[id]? = some node → node.mounted →
          ∃ now, after.nodes[id]? = some now ∧ node.Requeried now (queryPart after.url)) := by
  have hled := h.led
  have hsound : page.Sound := hled.sound
  have hrequeried : ∀ {after : Page}, after.seats = page.seats → after.root = page.root →
      pathPart after.url = pathPart page.url → ∀ id,
        after.expected id = Outcome.withQuery (page.expected id) (queryPart after.url) :=
    fun hseats hsame hpath => expected_requery hsound.elder hroot hplain hseats hsame hpath
  have hbefore := fun (id : NodeId) (node : Node) (hnode : page.nodes[id]? = some node) =>
    hled.displays hnode
  obtain ⟨answer, after, hrun, ⟨-, rfl⟩ | ⟨-, history, -, htoured⟩⟩ :=
    hquiet.tours hled.steady hled.queue_eq hnavigates
  · -- whoever is in step learns its own query again
    refine ⟨answer, after, hrun, fun _ _ hcommand => hquiet.arrives hled hcommand hrun,
      fun _ => ⟨rfl, rfl, rfl, rfl, fun id node hnode hmounted => ?_⟩⟩
    refine (Undisturbed.refl after []).requeried rfl hbefore hbefore ?_ hnode hmounted
    intro id node now hnode hmounted hnow _
    rw [hnode, Option.some.injEq] at hnow
    subst hnow
    rw [hstep.learned id node hnode hmounted]
    exact hrequeried rfl rfl rfl id
  · have hseats : after.seats = page.seats := htoured.forest.seats
    have hsame : after.root = page.root := congrArg (·.getD ['/']) htoured.forest.root
    refine ⟨answer, after, hrun, fun _ _ hcommand => hquiet.arrives hled hcommand hrun,
      fun hpath => ?_⟩
    have hlearns := hrequeried hseats hsame hpath
    have hcourse := hquiet.course hled hnavigates hrun
    have hundisturbed := hstep.undisturbed hsound hcourse htoured hlearns
    have hstepAfter : after.InStep := htoured.inStep hsound.elder fun id node hnode hmounted hnot => by
      rw [hstep.learned id node hnode hmounted, expected_of_not_live hsound.elder hnot]
    have hshown : Shown after .none :=
      hcourse.invariant Shown (fun _ _ => Shown.step) hled.shown
    have hqueue : after.queue = ⟨false, []⟩ := htoured.queue.trans hled.queue_eq
    refine ⟨hundisturbed.host, hundisturbed.made, hundisturbed.attached, ?_, fun id node =>
      hundisturbed.requeried hseats hbefore (fun id node hnode => hshown.displays hqueue hnode) ?_⟩
    · rw [← length_seats, ← length_seats, hseats]
    · intro id node now hnode hmounted hnow hnowMounted
      rw [hstepAfter id now hnow hnowMounted, hlearns, hstep.learned id node hnode hmounted]

/-- The page with the routes and the hook, at a location where they have elements. -/
def walked : Page := grove.play (.push "/p/one/two".toList none)

/-- The routes keep their elements when a query comes, and the innermost one is told of it. -/
theorem query_change_keeps_elements_walked : ∃ answer after now,
    walked.run (.push "/p/one/two?page=2".toList none) = some (answer, after) ∧
    after.hostEvents = walked.hostEvents ∧ after.nodes[3]? = some now ∧
    now.cache.activeElement.map (·.query) = some [("page".toList, "2".toList)] := by
  have hsession : Session true grove := (Session.start _).plays (by decide +kernel)
  have hreached : walked.Reached := hsession.reached.play _
  have hgrove : grove.Quiet := .of_scripts (by decide +kernel) (by decide +kernel)
  have hquiet : walked.Quiet := .of_scripts (by decide +kernel) (by decide +kernel)
  have halign : walked.Aligned := by
    have haccepts : (grove.run (.push "/p/one/two".toList none)).map (·.1.isRefusal) = some false := by
      decide +kernel
    obtain ⟨⟨answer, after⟩, hrun, haccepted⟩ := Option.map_eq_some_iff.1 haccepts
    have hafter : walked = after := by
      rw [walked, Page.play, hrun]
      rfl
    rw [hafter]
    exact navigation_aligns hsession hgrove rfl haccepted hrun
  have hplain : walked.nodes.all fun node => '?' ∉ node.pattern.text := by decide +kernel
  have hshown : walked.nodes[3]?.map (fun node => (node.mounted, node.cache.activeElement.isSome))
      = some (true, true) := by decide +kernel
  obtain ⟨node, hnode, hboth⟩ := Option.map_eq_some_iff.1 hshown
  obtain ⟨hmounted, hactive⟩ := Prod.mk.inj hboth
  obtain ⟨element, helement⟩ := Option.isSome_iff_exists.1 hactive
  obtain ⟨answer, after, hrun, harrives, hkeeps⟩ := query_change_keeps_elements hreached hquiet halign
    (by decide +kernel) (fun node hnode _ => of_decide_eq_true (List.all_eq_true.1 hplain node hnode))
    (rfl : (Command.push "/p/one/two?page=2".toList none).navigates = true)
  have hurl : after.url = "/p/one/two?page=2".toList := harrives _ none (.inl rfl)
  have hpath : pathPart after.url = pathPart walked.url := by
    rw [hurl]
    decide +kernel
  obtain ⟨hhost, -, -, -, hnodes⟩ := hkeeps hpath
  obtain ⟨now, hnow, hrequeried⟩ := hnodes 3 node hnode hmounted
  refine ⟨answer, after, now, hrun, hhost, hnow, ?_⟩
  have hfields : fieldsOf (queryPart "/p/one/two?page=2".toList) = [("page".toList, "2".toList)] := by
    decide +kernel
  rw [hrequeried.active, helement, hurl, ← hfields]
  rfl

/-- Where no route is in another one, it is enough that each has learned what it is expected to learn. -/
lemma Aligned.of_flat (hflat : page.nodes.all (·.subscription.signal = .location))
    (hlearned : page.nodes.map (·.lastMatch) = (List.range page.nodes.length).map page.expected) :
    page.Aligned where
  learned := by
    intro id node hnode _
    have hid : id < page.nodes.length := (List.getElem?_eq_some_iff.1 hnode).1
    have hsame : (page.nodes.map (·.lastMatch))[id]? =
        ((List.range page.nodes.length).map page.expected)[id]? := congrArg (·[id]?) hlearned
    rw [List.getElem?_map, hnode, List.getElem?_map, List.getElem?_range hid] at hsame
    exact Option.some.inj hsame
  placed := by
    intro id node parent hnode _ hsignal
    have htop := of_decide_eq_true (List.all_eq_true.1 hflat node (List.mem_of_getElem? hnode))
    cases htop.symm.trans hsignal

lemma uprooted_aligned : uprooted.Aligned := .of_flat (by decide +kernel) (by decide +kernel)

/-- **It is not enough that nobody navigates**: a listener that sets the root when it hears of another
query takes the match and the element from the route that is visited after it. -/
theorem query_change_uproots : ∃ answer after,
    uprooted.Reached ∧ uprooted.Heeds (fun command => !command.navigates) ∧ uprooted.Aligned ∧
    '?' ∉ uprooted.root ∧ (∀ node ∈ uprooted.nodes, '?' ∉ node.pattern.text) ∧
    uprooted.run (.push "/a?x=1".toList none) = some (answer, after) ∧ '?' ∉ after.root ∧
    pathPart after.url = pathPart uprooted.url ∧ after.hostEvents ≠ uprooted.hostEvents ∧
    (uprooted.nodes[1]?.map fun node => (node.lastMatch.isSome, node.cache.activeElement.isSome))
      = some (true, true) ∧
    (after.nodes[1]?.map fun node => (node.lastMatch.isSome, node.cache.activeElement.isSome))
      = some (false, false) := by
  have hends : (uprooted.run (.push "/a?x=1".toList none)).any fun result =>
      '?' ∉ result.2.root ∧ pathPart result.2.url = pathPart uprooted.url ∧
        result.2.hostEvents ≠ uprooted.hostEvents ∧
        (result.2.nodes[1]?.map fun node =>
          (node.lastMatch.isSome, node.cache.activeElement.isSome)) = some (false, false) := by
    decide +kernel
  obtain ⟨⟨answer, after⟩, hrun, hafter⟩ := (Option.any_eq_true _ _).1 hends
  obtain ⟨hroot, hpath, hhost, hgone⟩ := of_decide_eq_true hafter
  exact ⟨answer, after, interrupted_reached _, .of_scripts (by decide +kernel) (by decide +kernel),
    uprooted_aligned, by decide +kernel, by decide +kernel, hrun, hroot, hpath, hhost,
    by decide +kernel, hgone⟩

end Page

end PageRouter
