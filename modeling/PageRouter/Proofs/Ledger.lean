import PageRouter.Proofs.Courses

/-!
# The registry and the mounted routes

As long as nobody touches the registry but by mounting and unmounting, and nobody brings in a route
that has an id already, the registry is exactly the list of the mounted nodes: one entry for each, with
its route's id and its pattern, in the order in which the nodes were mounted
(`registry_lists_mounted`).  And whatever commands there are, a signal has exactly one listener for
each mounted node that has subscribed to it, next to the listeners from outside.

Both hold between two commands, whatever hooks and listeners do meanwhile.  What carries them through
is that each id is in one place only — in the registry, with a stored route or in the hands of a
computation (`Ledger.ids`) — and that each name and each computation has a node of its own (`Bears`).
-/

namespace PageRouter

open Page

/-- The command changes the registry only by mounting and unmounting, and brings no route that has an
id already. -/
def Command.tends : Command → Bool
  | .register _ | .unregister _ => false
  | .mount _ _ (.fresh route) => route.id.isNone
  | .store _ route => route.id.isNone
  | _ => true

/-! ## Tabs -/

/-- What the registry knows of a node, and whether it is mounted. -/
structure Tab where
  mounted : Bool
  id : Option RouteId
  pattern : Pattern

def Node.tab (node : Node) : Tab := ⟨node.mounted, node.route.id, node.pattern⟩

/-- The entry of a node in the registry. -/
def Tab.entry? (tab : Tab) : Option RegisteredRoute := tab.id.map (⟨·, tab.pattern⟩)

/-- The tab of a node that is no longer mounted. -/
def Tab.closed (tab : Tab) : Tab := { tab with mounted := false }

/-- The entry of a node, if it is mounted or on its way out. -/
def posted (tabs : List Tab) (leaving : List NodeId) (id : NodeId) : Option RegisteredRoute :=
  tabs[id]?.bind fun tab => if tab.mounted || id ∈ leaving then tab.entry? else none

/-- **The entries of all nodes** that are mounted or on their way out. -/
def posts (tabs : List Tab) (leaving : List NodeId) : List RegisteredRoute :=
  (List.range tabs.length).filterMap (posted tabs leaving)

section Tabs

variable {tabs : List Tab} {leaving : List NodeId} {id : NodeId} {tab : Tab}

/-- A new node is listed last. -/
lemma posts_concat (tabs : List Tab) (leaving : List NodeId) (tab : Tab) :
    posts (tabs ++ [tab]) leaving = posts tabs leaving ++
      (if tab.mounted || tabs.length ∈ leaving then tab.entry? else none).toList := by
  have hold : ∀ id ∈ List.range tabs.length,
      posted (tabs ++ [tab]) leaving id = posted tabs leaving id := by
    intro id hid
    rw [posted, List.getElem?_append_left (List.mem_range.1 hid), posted]
  have hnew : posted (tabs ++ [tab]) leaving tabs.length
      = if tab.mounted || tabs.length ∈ leaving then tab.entry? else none := by
    rw [posted, List.getElem?_concat_length, Option.bind_some]
  rw [posts, List.length_append, List.length_singleton, List.range_succ, List.filterMap_append,
    List.filterMap_congr hold, ← posts, ← hnew]
  cases hposted : posted (tabs ++ [tab]) leaving tabs.length <;> simp [hposted]

/-- If nobody is on their way out, the entries are those of the mounted nodes. -/
lemma posts_nil (tabs : List Tab) : posts tabs [] = (tabs.filter (·.mounted)).filterMap Tab.entry? := by
  induction tabs using List.reverseRecOn with
  | nil => rfl
  | append_singleton tabs tab ih =>
      rw [posts_concat, ih, List.filter_append, List.filterMap_append]
      cases hmounted : tab.mounted with
      | false => simp [hmounted]
      | true => cases hentry : tab.entry? <;> simp [hmounted, hentry]

/-- A node that is on its way out is still listed. -/
lemma posts_closed (htab : tabs[id]? = some tab) (hmounted : tab.mounted) :
    posts (tabs.modify id Tab.closed) (id :: leaving) = posts tabs leaving := by
  rw [posts, List.length_modify, posts]
  refine List.filterMap_congr fun other _ => ?_
  by_cases hid : id = other
  · subst hid
    simp [posted, htab, hmounted, Tab.closed, Tab.entry?]
  · have hne : other ≠ id := fun h => hid h.symm
    simp [posted, hid, hne]

/-- Entries with one id are one node's. -/
lemma posted_injective (hnodup : ((posts tabs leaving).map (·.id)).Nodup) {other : NodeId}
    {entry entry' : RegisteredRoute} (hid : posted tabs leaving id = some entry)
    (hother : posted tabs leaving other = some entry') (hsame : entry.id = entry'.id) : id = other := by
  have hlt : ∀ {id entry}, posted tabs leaving id = some entry → id ∈ List.range tabs.length := by
    intro id entry hposted
    obtain ⟨tab, htab, -⟩ := Option.bind_eq_some_iff.1 hposted
    exact List.mem_range.2 (List.getElem?_eq_some_iff.1 htab).1
  by_contra hne
  rw [List.Nodup, List.pairwise_map, posts, List.pairwise_filterMap] at hnodup
  have hsymm : Std.Symm fun a b : NodeId => ∀ x, posted tabs leaving a = some x →
      ∀ y, posted tabs leaving b = some y → x.id ≠ y.id :=
    ⟨fun _ _ hab y hy x hx => (hab x hx y hy).symm⟩
  exact hnodup.forall (hlt hid) (hlt hother) hne entry hid entry' hother hsame

/-- Once a node has left, its entry is gone, and no other one. -/
lemma posts_left (hnodup : ((posts tabs (id :: leaving)).map (·.id)).Nodup) {routeId : RouteId}
    (htab : tabs[id]? = some tab) (hgone : tab.mounted = false) (hleft : id ∉ leaving)
    (hrouteId : tab.id = some routeId) :
    (posts tabs (id :: leaving)).filter (·.id ≠ routeId) = posts tabs leaving := by
  have hposted : posted tabs (id :: leaving) id = some ⟨routeId, tab.pattern⟩ := by
    simp [posted, htab, Tab.entry?, hrouteId]
  rw [posts, List.filter_filterMap, posts]
  refine List.filterMap_congr fun other _ => ?_
  by_cases hid : id = other
  · subst hid
    rw [hposted]
    simp [posted, htab, hgone, hleft]
  · have hsame : posted tabs (id :: leaving) other = posted tabs leaving other := by
      have hne : other ≠ id := fun h => hid h.symm
      simp [posted, hne]
    rw [← hsame]
    cases hother : posted tabs (id :: leaving) other with
    | none => rfl
    | some entry =>
        have hne : entry.id ≠ routeId := fun hsame =>
          hid (posted_injective hnodup hposted hother hsame.symm)
        simp [hne]

end Tabs

/-! ## Ids -/

namespace Page

def tabs (page : Page) : List Tab := page.nodes.map Node.tab

end Page

/-- What is given up with a name is no longer among the rest. -/
lemma subperm_of_forget {α β : Type} (f : α → Option β) (name : Text) (names : List (Text × α)) :
    List.Subperm (((lookup? name names).bind f).toList ++ (forget name names).filterMap (f ·.2))
      (names.filterMap (f ·.2)) := by
  induction names with
  | nil => exact List.Subperm.refl _
  | cons entry rest ih =>
      obtain ⟨other, value⟩ := entry
      have hcons : ∀ rest : List (Text × α), ((other, value) :: rest).filterMap (f ·.2)
          = (f value).toList ++ rest.filterMap (f ·.2) := by
        intro rest
        cases hvalue : f value <;> simp [hvalue]
      rw [hcons]
      by_cases hname : other = name
      · subst hname
        have hforget : forget other ((other, value) :: rest) = forget other rest := by
          simp [forget]
        have hlookup : lookup? other ((other, value) :: rest) = some value := by
          simp [lookup?]
        have hrest : List.Sublist ((forget other rest).filterMap (f ·.2)) (rest.filterMap (f ·.2)) :=
          List.filter_sublist.filterMap _
        rw [hforget, hlookup]
        exact (hrest.append_left _).subperm
      · have hforget : forget name ((other, value) :: rest) = (other, value) :: forget name rest := by
          simp [forget, hname]
        have hlookup : lookup? name ((other, value) :: rest) = lookup? name rest := by
          simp [lookup?, hname]
        rw [hforget, hlookup, hcons]
        refine List.Subperm.trans (List.Perm.subperm ?_)
          ((List.subperm_append_left (f value).toList).2 ih)
        rw [← List.append_assoc, ← List.append_assoc]
        exact List.perm_append_comm.append_right _

/-- The ids of stored routes. -/
def storedIds (stored : List (Text × Route)) : List RouteId := stored.filterMap (·.2.id)

/-- A route that is put into the store brings its id along. -/
lemma storedIds_bind (name : Text) (route : Route) (stored : List (Text × Route)) :
    List.Subperm (storedIds (Page.bind name route stored)) (route.id.toList ++ storedIds stored) := by
  have hids : storedIds (Page.bind name route stored)
      = storedIds (forget name stored) ++ route.id.toList := by
    rw [storedIds, Page.bind, List.filterMap_append]
    cases hid : route.id <;> simp [storedIds, hid]
  have hrest : List.Sublist (storedIds (forget name stored)) (storedIds stored) :=
    List.filter_sublist.filterMap _
  rw [hids]
  exact List.perm_append_comm.subperm.trans (hrest.append_left _).subperm

namespace Page

variable {page after : Page} {affairs later : Affairs} {id : NodeId}

lemma tabs_modifyNode {change : Node → Node} (h : ∀ node, (change node).tab = node.tab)
    (page : Page) (id : NodeId) : (page.modifyNode id change).tabs = page.tabs :=
  map_modifyNode change Node.tab h page id

lemma tabs_learned (page : Page) (id : NodeId) (cache : ElementCache) (outcome : Outcome) :
    (page.learned id cache outcome).tabs = page.tabs := by
  refine tabs_modifyNode ?_ page id
  exact fun _ => rfl

lemma tabs_unwatched (page : Page) (name : Text) : (page.unwatched name).tabs = page.tabs :=
  view_unwatched Node.tab (fun _ _ => rfl) page name

lemma tabs_watched (page : Page) (name : Text) (ref : SignalRef) (reactions : List Watch) :
    (page.watched name ref reactions).tabs = page.tabs :=
  view_watched Node.tab (fun _ _ => rfl) page name ref reactions

lemma tabs_planted (page : Page) (route : Route) (pattern : Pattern) (tag : Text)
    (parent : Option (NodeId × Node)) (registry : Registry) :
    (page.planted route pattern tag parent registry).tabs
      = page.tabs ++ [⟨true, route.id, pattern⟩] :=
  view_planted Node.tab (fun _ _ => rfl) page route pattern tag parent registry

lemma tabs_shut (page : Page) (id : NodeId) (subscription : Subscription) :
    (page.shut id subscription).tabs = page.tabs.modify id Tab.closed :=
  view_shut Node.tab (fun _ _ => rfl) (fun _ => rfl) page id subscription

/-! ## Names -/

/-- What is given up with a name that nothing else has is all that the rest lacks. -/
lemma perm_of_forget {α : Type} (name : Text) {names : List (Text × α)}
    (h : (names.map (·.1)).Nodup) :
    ((lookup? name names).toList ++ (forget name names).map (·.2)).Perm (names.map (·.2)) := by
  induction names with
  | nil => exact List.Perm.refl _
  | cons entry rest ih =>
      obtain ⟨other, value⟩ := entry
      obtain ⟨hother, hrest⟩ := List.nodup_cons.1 h
      by_cases hname : other = name
      · subst hname
        have hforget : forget other ((other, value) :: rest) = rest := by
          have hkept : forget other rest = rest := by
            refine List.filter_eq_self.2 fun entry hentry => decide_eq_true fun hsame => hother ?_
            exact List.mem_map.2 ⟨entry, hentry, hsame⟩
          rw [← hkept]
          simp [forget]
        have hlookup : lookup? other ((other, value) :: rest) = some value := by
          simp [lookup?]
        rw [hforget, hlookup]
        rfl
      · have hforget : forget name ((other, value) :: rest) = (other, value) :: forget name rest := by
          simp [forget, hname]
        have hlookup : lookup? name ((other, value) :: rest) = lookup? name rest := by
          simp [lookup?, hname]
        rw [hforget, hlookup]
        exact List.perm_middle.trans ((ih hrest).cons value)

/-- The nodes that have a name or are in the hands of a computation. -/
def bearers (page : Page) (affairs : Affairs) : List NodeId :=
  page.directory.mounted.map (·.2) ++ affairs.loose

lemma tabs_of_nodes {node : Node} (h : page.nodes[id]? = some node) :
    page.tabs[id]? = some node.tab := by
  rw [tabs, List.getElem?_map, h, Option.map_some]

lemma lt_of_tabs {tab : Tab} (h : page.tabs[id]? = some tab) : id < page.nodes.length := by
  have hlt := (List.getElem?_eq_some_iff.1 h).1
  rwa [tabs, List.length_map] at hlt

/-- The node is mounted. -/
def IsMounted (page : Page) (id : NodeId) : Prop := ∃ tab, page.tabs[id]? = some tab ∧ tab.mounted

lemma isMounted_iff {node : Node} (h : page.nodes[id]? = some node) :
    page.IsMounted id ↔ node.mounted := by
  rw [IsMounted, tabs_of_nodes h]
  simp [Node.tab]

lemma isMounted_planted {route : Route} {pattern : Pattern} {tag : Text}
    {parent : Option (NodeId × Node)} {registry : Registry} :
    (page.planted route pattern tag parent registry).IsMounted id ↔
      id = page.nodes.length ∨ page.IsMounted id := by
  have hlength : page.nodes.length = page.tabs.length := (List.length_map ..).symm
  rw [IsMounted, tabs_planted, hlength, IsMounted]
  rcases Nat.lt_or_ge id page.tabs.length with hlt | hge
  · rw [List.getElem?_append_left hlt, or_iff_right (Nat.ne_of_lt hlt)]
  · rw [List.getElem?_append_right hge, List.getElem?_eq_none hge, List.getElem?_singleton]
    rcases hge.eq_or_lt with rfl | hgt
    · simp
    · have hne : id ≠ page.tabs.length := Nat.ne_of_gt hgt
      simp [hne, Nat.sub_eq_zero_iff_le, Nat.not_le_of_lt hgt]

lemma isMounted_shut {subscription : Subscription} {other : NodeId} :
    (page.shut id subscription).IsMounted other ↔ other ≠ id ∧ page.IsMounted other := by
  rw [IsMounted, tabs_shut, List.getElem?_modify, IsMounted]
  by_cases hid : id = other
  · subst hid
    cases page.tabs[id]? <;> simp [Tab.closed]
  · have hne : other ≠ id := fun heq => hid heq.symm
    simp [hid, hne]

/-- **Each name and each computation has a mounted node of its own**, and there are no others. -/
structure Bears (page : Page) (affairs : Affairs) : Prop where
  /-- Each name stands once. -/
  names : (page.directory.mounted.map (·.1)).Nodup
  nodup : (page.bearers affairs).Nodup
  mounted : ∀ id, id ∈ page.bearers affairs ↔ page.IsMounted id

/-- Nodes go from hand to hand. -/
lemma Bears.of_perm (h : Bears page affairs) (hnames : (after.directory.mounted.map (·.1)).Nodup)
    (hbearers : (after.bearers later).Perm (page.bearers affairs)) (htabs : after.tabs = page.tabs) :
    Bears after later where
  names := hnames
  nodup := hbearers.nodup_iff.2 h.nodup
  mounted := fun id => by rw [hbearers.mem_iff, h.mounted, IsMounted, ← htabs]; rfl

/-- Nothing changes of names and nodes. -/
lemma Bears.of_eq (h : Bears page affairs) (hnames : after.directory.mounted = page.directory.mounted)
    (hloose : later.loose = affairs.loose) (htabs : after.tabs = page.tabs) : Bears after later :=
  h.of_perm (hnames ▸ h.names) (by rw [bearers, hnames, hloose, bearers]) htabs

/-- **The node that a name means** is loose once the name is given up. -/
lemma Bears.forget (h : Bears page affairs) (name : Text) :
    ((Page.forget name page.directory.mounted).map (·.2) ++ (page.bearer name ++ affairs.loose)).Perm
      (page.bearers affairs) := by
  have hbearer : page.bearer name = (lookup? name page.directory.mounted).toList := by
    rw [bearer, mounted?]
    cases hlookup : lookup? name page.directory.mounted with
    | none => rfl
    | some id =>
        have hnamed : id ∈ page.directory.mounted.map (·.2) :=
          (perm_of_forget name h.names).subset (by simp [hlookup])
        obtain ⟨tab, htab, -⟩ := (h.mounted id).1 (List.mem_append_left _ hnamed)
        have hlt := lt_of_tabs htab
        simp [hlt]
  rw [hbearer, ← List.append_assoc]
  exact (List.perm_append_comm.trans (perm_of_forget name h.names)).append_right _

/-- Whoever is mounted when a new node comes still is. -/
lemma getElem?_tabs_append {tab new : Tab} (h : page.tabs[id]? = some tab) :
    (page.tabs ++ [new])[id]? = some tab := by
  rw [List.getElem?_append_left (List.getElem?_eq_some_iff.1 h).1, h]

/-- **A node that is planted** has no name yet. -/
lemma Bears.planted {route : Route} {pattern : Pattern} {tag : Text} {parent : Option (NodeId × Node)}
    {registry : Registry} (h : Bears page affairs)
    (hloose : later.loose = page.nodes.length :: affairs.loose) :
    Bears (page.planted route pattern tag parent registry) later := by
  have hnames : (page.planted route pattern tag parent registry).directory = page.directory :=
    directory_grown
  have hperm : ((page.planted route pattern tag parent registry).bearers later).Perm
      (page.nodes.length :: page.bearers affairs) := by
    rw [bearers, hnames, hloose]
    exact List.perm_middle
  have hnew : page.nodes.length ∉ page.bearers affairs := fun hold => by
    obtain ⟨tab, htab, -⟩ := (h.mounted _).1 hold
    exact Nat.lt_irrefl _ (lt_of_tabs htab)
  refine ⟨hnames ▸ h.names, hperm.nodup_iff.2 (List.nodup_cons.2 ⟨hnew, h.nodup⟩), fun id => ?_⟩
  rw [hperm.mem_iff, List.mem_cons, isMounted_planted]
  exact or_congr_right (h.mounted id)

/-- **A node that gets a name** takes it from the one that had it. -/
lemma Bears.named {name : Text} (h : Bears page affairs) (hbefore : affairs.loose = id :: later.loose) :
    Bears (page.withNames (Page.bind name id page.directory.mounted))
      { later with loose := page.bearer name ++ later.loose } := by
  refine h.of_perm ?_ ?_ rfl
  · have hkept : List.Sublist ((Page.forget name page.directory.mounted).map (·.1))
        (page.directory.mounted.map (·.1)) := List.filter_sublist.map _
    have hnew : name ∉ (Page.forget name page.directory.mounted).map (·.1) := by
      simp [Page.forget]
    simp only [withNames, Page.bind, List.map_append, List.map_cons, List.map_nil]
    exact (List.perm_append_singleton ..).nodup_iff.2
      (List.nodup_cons.2 ⟨hnew, h.names.sublist hkept⟩)
  · have hbound : (page.withNames (Page.bind name id page.directory.mounted)).bearers
        { later with loose := page.bearer name ++ later.loose }
          = (Page.forget name page.directory.mounted).map (·.2) ++
            id :: (page.bearer name ++ later.loose) := by
      simp [bearers, withNames, Page.bind]
    have hforget := h.forget name
    rw [hbefore] at hforget
    rw [hbound]
    exact (List.perm_middle.symm.append_left _).trans hforget

/-- **A node that is shut** is in nobody's hands any more. -/
lemma Bears.shut {subscription : Subscription} (h : Bears page affairs)
    (hloose : affairs.loose = id :: later.loose) : Bears (page.shut id subscription) later := by
  have hnames : (page.shut id subscription).directory = page.directory := directory_shut
  have hbearers : (page.shut id subscription).bearers later = page.bearers later := by
    rw [bearers, hnames, bearers]
  have hperm : (page.bearers affairs).Perm (id :: page.bearers later) := by
    rw [bearers, hloose]
    exact List.perm_middle
  obtain ⟨hgone, hrest⟩ := List.nodup_cons.1 (hperm.nodup_iff.1 h.nodup)
  refine ⟨hnames ▸ h.names, hbearers ▸ hrest, fun other => ?_⟩
  rw [hbearers, isMounted_shut, ← h.mounted other, hperm.mem_iff, List.mem_cons]
  constructor
  · exact fun hmem => ⟨fun heq => hgone (heq ▸ hmem), .inr hmem⟩
  · rintro ⟨hne, hmem⟩
    exact hmem.resolve_left hne

/-- **Each step** leaves each name and each computation a mounted node of its own. -/
theorem Bears.step {may : Command → Bool} {s s' : Page × Affairs} (hstep : Step may s s')
    (h : Bears s.1 s.2) : Bears s'.1 s'.2 := by
  cases hstep with
  | slight affairs hslight =>
      exact h.of_eq (congrArg Directory.mounted hslight.directory) rfl
        (congrArg (List.map Node.tab) hslight.nodes)
  | plants => exact h.planted rfl
  | names => exact h.named rfl
  | unnames page affairs name hmay =>
      exact h.of_perm (h.names.sublist (List.filter_sublist.map _)) (h.forget name) rfl
  | shuts => exact h.shut rfl
  | tears => exact h.of_eq rfl rfl (tabs_learned ..)
  | @lets page affairs id node hnode hgone =>
      -- who is in the hands of a computation is mounted
      have hmounted := (h.mounted id).1 (List.mem_append_right _ (List.mem_cons_self ..))
      rw [isMounted_iff hnode, hgone] at hmounted
      cases hmounted
  | resizes page affairs id count =>
      refine h.of_eq rfl rfl (tabs_modifyNode ?_ page id)
      exact fun _ => rfl
  | watches => exact h.of_eq (relistened_watched ..).mounted rfl (tabs_watched ..)
  | unwatches page affairs name =>
      exact h.of_eq (relistened_unwatched page name).mounted rfl (tabs_unwatched page name)
  | @tells page affairs child =>
      refine h.of_eq rfl rfl (tabs_modifyNode ?_ page child)
      exact fun _ => rfl
  | @settles page affairs turn cache =>
      exact h.of_eq rfl rfl (tabs_learned { page with queue := { page.queue with busy := false } }
        turn.node cache turn.outcome)
  | _ => exact h.of_eq rfl rfl rfl

/-! ## The ledger -/

/-- All ids that there are: in the registry, with stored routes and in the hands of computations. -/
def idsHeld (page : Page) (affairs : Affairs) : List RouteId :=
  page.registry.ids ++ (storedIds page.directory.stored ++ affairs.hand)

/-- **The registry lists the nodes** that are mounted or on their way out, and each id is in one place
only. -/
structure Ledger (page : Page) (affairs : Affairs) : Prop where
  entries : page.registry.entries = posts page.tabs affairs.leaving
  /-- Each id is in one place. -/
  ids : (page.idsHeld affairs).Nodup
  /-- Ids that will be given out are new. -/
  fresh : ∀ id ∈ page.idsHeld affairs, id.sequence < page.registry.nextSequence
  /-- Whoever is mounted or on the way out has been registered. -/
  known : ∀ (id : NodeId) (tab : Tab), page.tabs[id]? = some tab →
    tab.mounted ∨ id ∈ affairs.leaving → tab.id.isSome
  left : affairs.leaving.Nodup
  gone : ∀ id ∈ affairs.leaving, ∃ tab, page.tabs[id]? = some tab ∧ tab.mounted = false

/-- Routes go from hand to hand. -/
lemma Ledger.of_subperm (h : Ledger page affairs) (hregistry : after.registry = page.registry)
    (htabs : after.tabs = page.tabs) (hleaving : later.leaving = affairs.leaving)
    (hheld : (storedIds after.directory.stored ++ later.hand).Subperm
      (storedIds page.directory.stored ++ affairs.hand)) : Ledger after later := by
  have hids : (after.idsHeld later).Subperm (page.idsHeld affairs) := by
    rw [idsHeld, hregistry, idsHeld]
    exact (List.subperm_append_left _).2 hheld
  refine ⟨by rw [hregistry, htabs, hleaving]; exact h.entries, ?_, ?_,
    by rw [htabs, hleaving]; exact h.known, hleaving ▸ h.left, by rw [htabs, hleaving]; exact h.gone⟩
  · obtain ⟨kept, hperm, hsub⟩ := hids
    exact hperm.nodup_iff.1 (h.ids.sublist hsub)
  · rw [hregistry]
    exact fun id hid => h.fresh id (hids.subset hid)

/-- Nothing changes that the ledger looks at. -/
lemma Ledger.of_eq (h : Ledger page affairs) (hregistry : after.registry = page.registry)
    (htabs : after.tabs = page.tabs) (hleaving : later.leaving = affairs.leaving)
    (hstored : after.directory.stored = page.directory.stored) (hhand : later.hand = affairs.hand) :
    Ledger after later :=
  h.of_subperm hregistry htabs hleaving (by rw [hstored, hhand])

/-- An entry with a new id comes last. -/
lemma put_of_not_mem {entry : RegisteredRoute} {entries : List RegisteredRoute}
    (h : entry.id ∉ entries.map (·.id)) : Registry.put entry entries = entries ++ [entry] := by
  induction entries with
  | nil => rfl
  | cons other rest ih =>
      rw [List.map_cons, List.mem_cons, not_or] at h
      rw [Registry.put, if_neg fun hsame => h.1 hsame.symm, ih h.2]
      rfl

/-- **A route that is registered** has an id that nobody has. -/
lemma Ledger.issue {route : Route}
    (h : Ledger page { affairs with hand := route.id.toList ++ affairs.hand }) (pattern : Pattern) :
    let issued := page.registry.issue route pattern
    (issued.1 :: page.idsHeld affairs).Nodup ∧
      ∀ id ∈ issued.1 :: page.idsHeld affairs, id.sequence < issued.2.nextSequence := by
  have hids := h.ids
  have hfresh := h.fresh
  cases hid : route.id with
  | some id =>
      have hperm : (page.idsHeld { affairs with hand := route.id.toList ++ affairs.hand }).Perm
          (id :: page.idsHeld affairs) := by
        rw [hid]
        exact (List.perm_middle.append_left _).trans List.perm_middle
      simp only [Registry.issue, hid]
      exact ⟨hperm.nodup_iff.1 hids, fun other hother => hfresh other (hperm.mem_iff.2 hother)⟩
  | none =>
      have hheld : page.idsHeld { affairs with hand := route.id.toList ++ affairs.hand }
          = page.idsHeld affairs := by
        rw [hid]
        rfl
      rw [hheld] at hids hfresh
      simp only [Registry.issue, hid]
      refine ⟨List.nodup_cons.2 ⟨fun hold => Nat.lt_irrefl _ (hfresh _ hold), hids⟩, ?_⟩
      intro other hother
      rcases List.mem_cons.1 hother with rfl | hold
      · exact Nat.lt_succ_self _
      · exact Nat.lt_succ_of_lt (hfresh other hold)

/-- **A node that is planted** is listed last. -/
lemma Ledger.planted {route registered : Route} {pattern : Pattern} {tag : Text}
    {parent : Option (NodeId × Node)} {routeId : RouteId} {registry : Registry}
    (h : Ledger page { affairs with hand := route.id.toList ++ affairs.hand })
    (hcompiled : route.compiled = .ok pattern)
    (hadd : page.registry.add { route with place := placeBelow (parent.map (·.2)) }
      = .ok (routeId, registered, registry)) :
    Ledger (page.planted registered pattern tag parent registry)
      { affairs with loose := page.nodes.length :: affairs.loose } := by
  obtain ⟨hnodup, hfresh⟩ := h.issue pattern
  have hcompiled' : ({ route with place := placeBelow (parent.map (·.2)) } : Route).compiled
      = .ok pattern := hcompiled
  obtain ⟨hrouteId, hregistered, hregistry⟩ := add_eq_ok hcompiled' hadd
  rw [show (page.registry.issue route pattern).1 = routeId from hrouteId.symm] at hnodup hfresh
  have hnew : routeId ∉ page.registry.entries.map (·.id) := fun hold =>
    (List.nodup_cons.1 hnodup).1 (List.mem_append_left _ hold)
  have hentries : registry.entries = page.registry.entries ++ [⟨routeId, pattern⟩] := by
    rw [hregistry]
    exact put_of_not_mem hnew
  have hheld : ((page.planted registered pattern tag parent registry).idsHeld
      { affairs with loose := page.nodes.length :: affairs.loose }).Perm
        (routeId :: page.idsHeld affairs) := by
    have hids : registry.ids = page.registry.ids ++ [routeId] := by
      rw [Registry.ids, hentries, List.map_append]
      rfl
    have hstored : storedIds (page.planted registered pattern tag parent registry).directory.stored
        = storedIds page.directory.stored :=
      congrArg (fun directory : Directory => storedIds directory.stored) directory_grown
    have hall : (page.planted registered pattern tag parent registry).idsHeld
        { affairs with loose := page.nodes.length :: affairs.loose }
          = page.registry.ids ++ routeId :: (storedIds page.directory.stored ++ affairs.hand) := by
      rw [idsHeld, hstored, show (page.planted registered pattern tag parent registry).registry.ids
        = page.registry.ids ++ [routeId] from hids, List.append_assoc]
      rfl
    rw [hall]
    exact List.perm_middle
  have htabs := tabs_planted page registered pattern tag parent registry
  have hlength : page.tabs.length = page.nodes.length := List.length_map ..
  refine ⟨?_, hheld.nodup_iff.2 hnodup, fun id hid => ?_, fun id tab htab hin => ?_, h.left,
    fun id hid => ?_⟩
  · rw [htabs, posts_concat, hregistered]
    exact hentries.trans (congrArg (· ++ _) h.entries)
  · exact hregistry ▸ hfresh id (hheld.mem_iff.1 hid)
  · rw [htabs] at htab
    rcases Nat.lt_or_ge id page.tabs.length with hlt | hge
    · rw [List.getElem?_append_left hlt] at htab
      exact h.known id tab htab hin
    · rw [List.getElem?_append_right hge, List.getElem?_singleton] at htab
      split at htab
      · cases htab
        exact hregistered ▸ rfl
      · cases htab
  · obtain ⟨tab, htab, hgone⟩ := h.gone id hid
    exact ⟨tab, htabs ▸ getElem?_tabs_append htab, hgone⟩

/-- **A node that is unmounted** is still listed. -/
lemma Ledger.shut {node : Node} (h : Ledger page affairs) (hnode : page.nodes[id]? = some node)
    (hmounted : node.mounted) :
    Ledger (page.shut id node.subscription) { affairs with leaving := id :: affairs.leaving } := by
  have htab : page.tabs[id]? = some node.tab := tabs_of_nodes hnode
  have hregistry : (page.shut id node.subscription).registry = page.registry := by
    obtain ⟨ref, number⟩ := node.subscription
    cases ref <;> rfl
  have htabs := tabs_shut page id node.subscription
  have hstays : id ∉ affairs.leaving := by
    intro hleaving
    obtain ⟨tab, htab', hgone⟩ := h.gone id hleaving
    rw [htab, Option.some.injEq] at htab'
    subst htab'
    rw [show node.tab.mounted = node.mounted from rfl, hmounted] at hgone
    cases hgone
  have hheld : (page.shut id node.subscription).idsHeld
      { affairs with leaving := id :: affairs.leaving } = page.idsHeld affairs := by
    rw [idsHeld, hregistry, directory_shut]
    rfl
  refine ⟨?_, hheld ▸ h.ids, ?_, fun other tab hother hin => ?_, List.nodup_cons.2 ⟨hstays, h.left⟩,
    fun other hother => ?_⟩
  · rw [hregistry, htabs, h.entries]
    exact (posts_closed htab hmounted).symm
  · rw [hheld, hregistry]
    exact h.fresh
  · obtain ⟨old, hold, rfl⟩ := exists_of_modify (htabs ▸ hother)
    by_cases hid : id = other
    · subst hid
      rw [htab, Option.some.injEq] at hold
      subst hold
      rw [if_pos rfl]
      exact h.known id node.tab htab (.inl hmounted)
    · rw [if_neg hid] at hin ⊢
      refine h.known other old hold (hin.imp_right fun hmem => ?_)
      exact (List.mem_cons.1 hmem).resolve_left fun heq => hid heq.symm
  · rw [htabs]
    rcases List.mem_cons.1 hother with rfl | hmem
    · exact ⟨node.tab.closed, by simp [htab], rfl⟩
    · obtain ⟨tab, htab', hgone⟩ := h.gone other hmem
      have hne : id ≠ other := fun heq => hstays (heq ▸ hmem)
      exact ⟨tab, by simp [htab', hne], hgone⟩

/-- **A route that is taken out** of the registry takes its id along. -/
lemma ids_remove {registry : Registry} {route : Route} {routeId : RouteId}
    (hnodup : registry.ids.Nodup) (hmem : routeId ∈ registry.ids) (hid : route.id = some routeId) :
    registry.ids.Perm (routeId :: (registry.remove route).2.ids) := by
  have hrest : (registry.remove route).2.ids = registry.ids.erase routeId := by
    simp only [Registry.remove, hid]
    rw [hnodup.erase_eq_filter, Registry.ids, Registry.ids, List.filter_map]
    refine congrArg (List.map _) (List.filter_congr fun entry _ => ?_)
    by_cases hsame : entry.id = routeId <;> simp [hsame]
  rw [hrest]
  exact List.perm_cons_erase hmem

/-- **A node that has been torn down** is no longer listed, and its id goes with its route. -/
lemma Ledger.torn {node : Node} {route : Route} {cache : ElementCache}
    (h : Ledger page { affairs with leaving := id :: affairs.leaving })
    (hnode : page.nodes[id]? = some node) (hroute : route.id = node.route.id) :
    Ledger (page.torn id cache (page.registry.remove route).2)
      { affairs with
        hand := node.route.id.toList ++ affairs.hand
        telling := (id, none) :: affairs.telling } := by
  have htab : page.tabs[id]? = some node.tab := tabs_of_nodes hnode
  have htabs : (page.torn id cache (page.registry.remove route).2).tabs = page.tabs :=
    tabs_learned page id cache none
  obtain ⟨hleft, hleaving⟩ := List.nodup_cons.1 h.left
  obtain ⟨routeId, hrouteId⟩ := Option.isSome_iff_exists.1
    (h.known id node.tab htab (.inr (List.mem_cons_self ..)))
  have hgone : node.tab.mounted = false := by
    obtain ⟨tab, htab', hgone⟩ := h.gone id (List.mem_cons_self ..)
    rw [htab, Option.some.injEq] at htab'
    exact htab' ▸ hgone
  have hid : route.id = some routeId := hroute.trans hrouteId
  have hnodup : page.registry.ids.Nodup := (List.nodup_append.1 h.ids).1
  have hmem : routeId ∈ page.registry.ids := by
    have hposted : ⟨routeId, node.pattern⟩ ∈ page.registry.entries := by
      rw [h.entries]
      refine List.mem_filterMap.2 ⟨id, List.mem_range.2 (List.getElem?_eq_some_iff.1 htab).1, ?_⟩
      simp only [posted, htab, Option.bind_some, Tab.entry?, hrouteId, Option.map_some,
        List.mem_cons_self, decide_true, Bool.or_true, if_true]
      rfl
    exact List.mem_map_of_mem hposted
  have hheld : (page.idsHeld { affairs with leaving := id :: affairs.leaving }).Perm
      ((page.torn id cache (page.registry.remove route).2).idsHeld { affairs with
        hand := node.route.id.toList ++ affairs.hand
        telling := (id, none) :: affairs.telling }) := by
    have hperm := (ids_remove hnodup hmem hid).append_right
      (storedIds page.directory.stored ++ affairs.hand)
    refine hperm.trans ?_
    rw [show node.route.id = some routeId from hrouteId]
    exact List.perm_middle.symm.trans (List.perm_middle.symm.append_left _)
  refine ⟨?_, hheld.nodup_iff.1 h.ids, fun other hother => ?_, fun other tab hother hin => ?_, hleaving,
    fun other hother => ?_⟩
  · have hposts := h.entries
    have hentries : (page.torn id cache (page.registry.remove route).2).registry.entries
        = page.registry.entries.filter (·.id ≠ routeId) := by
      show (page.registry.remove route).2.entries = _
      simp only [Registry.remove, hid]
    rw [hentries, htabs]
    rw [Registry.ids, hposts] at hnodup
    rw [hposts]
    exact posts_left hnodup htab hgone hleft hrouteId
  · have hsequence : (page.registry.remove route).2.nextSequence = page.registry.nextSequence := by
      simp only [Registry.remove, hid]
    show other.sequence < (page.registry.remove route).2.nextSequence
    rw [hsequence]
    exact h.fresh other (hheld.mem_iff.2 hother)
  · rw [htabs] at hother
    exact h.known other tab hother (hin.imp_right (List.mem_cons_of_mem id))
  · rw [htabs]
    exact h.gone other (List.mem_cons_of_mem id hother)

/-- **Each step** keeps the ledger, as long as the registry is changed only by mounting and unmounting
and no id is brought in. -/
theorem Ledger.step {s s' : Page × Affairs} (hstep : Step Command.tends s s') (hbears : Bears s.1 s.2)
    (h : Ledger s.1 s.2) : Ledger s'.1 s'.2 := by
  cases hstep with
  | slight affairs hslight =>
      exact h.of_eq hslight.registry (congrArg (List.map Node.tab) hslight.nodes) rfl
        (congrArg Directory.stored hslight.directory) rfl
  | takes page affairs name =>
      refine h.of_subperm rfl rfl rfl ?_
      have hforget := subperm_of_forget Route.id name page.directory.stored
      have hswap : List.Subperm (storedIds (Page.forget name page.directory.stored) ++
          ((page.stored? name).bind (·.id)).toList) (storedIds page.directory.stored) :=
        List.perm_append_comm.subperm.trans hforget
      have hall := (List.subperm_append_right affairs.hand).2 hswap
      rw [List.append_assoc] at hall
      exact hall
  | @brings page affairs route hmay =>
      have hid : route.id = none := by
        rcases hmay with ⟨_, _, hmay⟩ | ⟨_, hmay⟩
        · exact Option.isNone_iff_eq_none.1 hmay
        · exact Option.isNone_iff_eq_none.1 hmay
      exact h.of_eq rfl rfl rfl rfl (by rw [hid]; rfl)
  | drops page affairs ids =>
      exact h.of_subperm rfl rfl rfl
        ((List.sublist_append_right ids affairs.hand).append_left _).subperm
  | stores page affairs name route =>
      refine h.of_subperm rfl rfl rfl ?_
      have hbind := (List.subperm_append_right affairs.hand).2
        (storedIds_bind name route page.directory.stored)
      refine hbind.trans (List.Perm.subperm ?_)
      rw [List.append_assoc]
      exact List.perm_append_comm_assoc ..
  | records page affairs registry stored hmay =>
      rcases hmay with ⟨_, hmay⟩ | ⟨_, hmay⟩
      · cases hmay
      · cases hmay
  | plants affairs hmay hparent hcompiled htag hadd => exact h.planted hcompiled hadd
  | @shuts page affairs id node hnode hmounted =>
      exact (h.shut hnode hmounted).of_eq rfl rfl rfl rfl rfl
  | tears affairs hnode hroute hcache => exact h.torn hnode hroute
  | @lets page affairs id node hnode hgone =>
      have hmounted := (hbears.mounted id).1 (List.mem_append_right _ (List.mem_cons_self ..))
      rw [isMounted_iff hnode, hgone] at hmounted
      cases hmounted
  | resizes page affairs id count =>
      refine h.of_eq rfl (tabs_modifyNode ?_ page id) rfl rfl rfl
      exact fun _ => rfl
  | @watches page affairs name ref reactions =>
      have hlistens := relistened_watched page name ref reactions
      exact h.of_eq hlistens.registry (tabs_watched ..) rfl hlistens.stored rfl
  | unwatches page affairs name =>
      have hlistens := relistened_unwatched page name
      exact h.of_eq hlistens.registry (tabs_unwatched ..) rfl hlistens.stored rfl
  | @tells page affairs child =>
      refine h.of_eq rfl (tabs_modifyNode ?_ page child) rfl rfl rfl
      exact fun _ => rfl
  | @settles page affairs turn cache =>
      exact h.of_eq rfl (tabs_learned { page with queue := { page.queue with busy := false } } turn.node
        cache turn.outcome) rfl rfl rfl
  | _ => exact h.of_eq rfl rfl rfl rfl rfl

/-! ## Between two commands -/

variable {may : Command → Bool}

/-- Between two commands each name has a mounted node of its own, and there are no others. -/
theorem Led.bears (h : Led may page) : Bears page .none := by
  refine h.invariant Bears (fun history => ?_) fun _ _ => Bears.step
  refine ⟨List.nodup_nil, List.nodup_nil, fun id => ⟨fun hid => ?_, fun ⟨tab, htab, _⟩ => ?_⟩⟩
  · cases hid
  · cases htab

/-- Between two commands the ledger is right. -/
theorem Led.ledger (h : Led Command.tends page) : Ledger page .none := by
  refine (h.invariant (fun page affairs => Bears page affairs ∧ Ledger page affairs)
    (fun history => ⟨Led.bears (.start history : Led Command.tends _), ?_⟩) ?_).2
  · refine ⟨rfl, List.nodup_nil, fun id hid => ?_, fun id tab htab => ?_, List.nodup_nil,
      fun id hid => ?_⟩
    · cases hid
    · cases htab
    · cases hid
  · exact fun s s' hstep hboth => ⟨hboth.1.step hstep, hboth.2.step hstep hboth.1⟩

/-- If the mounted nodes have ids, the entries are those of all of them. -/
lemma Ledger.listed (h : Ledger page .none) :
    page.registry.entries.map (fun entry => (some entry.id, entry.pattern))
      = (page.nodes.filter (·.mounted)).map fun node => (node.route.id, node.pattern) := by
  have hentry : ∀ tab ∈ page.tabs.filter (·.mounted),
      tab.entry?.map (fun entry => (some entry.id, entry.pattern)) = some (tab.id, tab.pattern) := by
    intro tab htab
    obtain ⟨hmem, hmounted⟩ := List.mem_filter.1 htab
    obtain ⟨id, hid⟩ := List.mem_iff_getElem?.1 hmem
    obtain ⟨routeId, hrouteId⟩ := Option.isSome_iff_exists.1 (h.known id tab hid (.inl hmounted))
    rw [Tab.entry?, hrouteId]
    rfl
  have hposts : page.registry.entries = posts page.tabs [] := h.entries
  rw [hposts, posts_nil, List.map_filterMap, List.filterMap_congr hentry, List.filterMap_eq_map', tabs,
    List.filter_map, List.map_map]
  rfl

/-- **The registry and the listeners tally with the mounted routes.** -/
structure Tallies (page : Page) : Prop where
  /-- Each name has a node of its own. -/
  apart : (page.directory.mounted.map (·.2)).Nodup
  /-- The nodes that have a name are those that are mounted. -/
  named : ∀ id, id ∈ page.directory.mounted.map (·.2) ↔
    ∃ node, page.nodes[id]? = some node ∧ node.mounted
  /-- No two entries have one id. -/
  once : page.registry.ids.Nodup
  /-- There is one entry for each mounted node, with the id of its route and its pattern. -/
  entries : page.registry.entries.map (fun entry => (some entry.id, entry.pattern))
    = (page.nodes.filter (·.mounted)).map fun node => (node.route.id, node.pattern)
  /-- The pattern of a node is that of its route. -/
  patterns : ∀ node ∈ page.nodes, node.route.pattern = some node.pattern.text
  /-- The nodes that listen for the location are those that are matched from the root. -/
  tops : ∀ node ∈ page.nodes, node.subscription.signal = .location ↔ node.route.place = .root
  /-- Each mounted node that has subscribed to a signal listens to it once, and no other node does. -/
  listeners : ∀ ref, (page.signal ref).nodes.map (·.2) = listenersTo page.seats ref

/-- **The registry and the listeners follow the mounted routes**, whatever is mounted, unmounted,
dropped and mounted again, by whomever and in whatever order: an entry for each mounted route, a
listener of the location for each one at the top, and a listener of a route's tail for each one mounted
in it. -/
theorem registry_lists_mounted (h : Led Command.tends page) : page.Tallies where
  apart := by
    have hnodup := h.bears.nodup
    rwa [bearers, Affairs.none, List.append_nil] at hnodup
  named := by
    intro id
    have hmounted := h.bears.mounted id
    rw [bearers, Affairs.none, List.append_nil] at hmounted
    rw [hmounted, IsMounted, tabs, List.getElem?_map]
    simp only [Option.map_eq_some_iff]
    exact ⟨fun ⟨_, ⟨node, hnode, rfl⟩, hmounted⟩ => ⟨node, hnode, hmounted⟩,
      fun ⟨node, hnode, hmounted⟩ => ⟨_, ⟨node, hnode, rfl⟩, hmounted⟩⟩
  once := (List.nodup_append.1 h.ledger.ids).1
  entries := h.ledger.listed
  patterns := fun node hnode =>
    (h.reached.built.fits node.fixture (List.mem_map_of_mem hnode)).text
  tops := fun node hnode => by
    have hplaced := h.sound.placed node.standing (List.mem_map_of_mem hnode)
    exact (hplaced.trans decide_eq_true_iff).symm
  listeners := fun ref => (callees_eq_nodes _).symm.trans (h.sound.callees_eq ref)

/-- A page on which a listener mounts a route, a child outlives the route around it and is mounted again
at the top, and a route that shows no element cannot be mounted. -/
def refitted : Page :=
  let shown (pattern : String) : Route :=
    { Route.new with pattern := some pattern.toList, element := some "x-box".toList }
  Page.plays (.start (.start History.localOrigin "/a/b".toList true))
    [.watchLocation "w".toList [⟨none, 1, [.mount "late".toList none (.fresh (shown "/late"))]⟩],
      .mount "p".toList none (.fresh (shown "/a")),
      .mount "c".toList (some "p".toList) (.fresh (shown "/b")),
      .store "s".toList { Route.new with pattern := some "/s".toList },
      .mount "s".toList (some "c".toList) (.stored "s".toList),
      .push "/b".toList none,
      .drop "p".toList,
      .unmount "c".toList,
      .mount "c".toList none (.stored "c".toList)]

/-- In the end there are the route that the listener has mounted and the child, with the id that it had
before. -/
theorem registry_lists_mounted_refitted :
    refitted.Tallies ∧ refitted.registry.ids.map (·.sequence) = [3, 2] ∧
      (refitted.nodes.map fun node => (node.mounted, node.route.id.map (·.sequence)))
        = [(false, some 1), (false, some 2), (true, some 3), (true, some 2)] := by
  refine ⟨registry_lists_mounted ?_, by decide +kernel, by decide +kernel⟩
  exact (Led.start _).plays fun command hcommand => by
    revert command
    decide

end Page

end PageRouter
