import PageRouter.Proofs.Undisturbed

/-!
# Bystanders

Hooks and listeners that neither navigate nor mount anything can still change how many elements a node
keeps, and they can register stored routes or take them out of the registry.  Whatever else they do has
no part in what a page shows.

What becomes of elements is told in `Round`s: a round is one visit of a node, with all that the document
was told of its elements (`ElementCache.Brought`).  `Page.Recounted` says that some rounds account for
all that became of the caches, and for all that the document was told.  Bystanders make no rounds, and
they only do what commands of their kind may do (`Course.recounted`).
-/

namespace PageRouter

open Page

/-! ## Bystanders -/

namespace Command

/-- Routes may be registered by hand, or taken out of the registry. -/
def Records (kind : Command → Bool) : Prop :=
  (∃ name, kind (.register name)) ∨ ∃ name, kind (.unregister name)

/-- Commands that only keep elements in the document or let them go. -/
def isVeto : Command → Bool
  | .veto _ => true
  | _ => false

lemma isInert_of_isVeto (command : Command) (h : command.isVeto) : command.isInert := by
  cases command with
  | veto => rfl
  | _ => cases h

end Command

namespace Page

variable {kind : Command → Bool} {scope : Scope} {page mid after : Page} {id : NodeId}

/-- The number of elements that a node keeps may become this one. -/
def Sizes (page : Page) (kind : Command → Bool) (id : NodeId) (count : Nat) : Prop :=
  ∃ name, lookup? name page.directory.mounted = some id ∧ kind (.setCacheCount name count)

lemma sizes_congr (h : after.directory.mounted = page.directory.mounted) :
    after.Sizes kind = page.Sizes kind := by
  funext id count
  rw [Sizes, h, Sizes]

/-- Those in force and those who listen are among those that are meant. -/
lemma Steady.heeds (h : Steady kind scope page) : page.Heeds kind where
  hooks := fun index hook hfrom => h.obeys.hooks index hook (Nat.le_trans h.obeys.inForce hfrom)
  listeners := fun ref number place watcher hmem =>
    h.obeys.watchers place watcher (h.obeys.listening ref number place hmem)

/-- What gives only commands of a kind gives only commands of a wider one. -/
lemma Steady.mono {wider : Command → Bool} (h : Steady kind scope page)
    (hwider : ∀ command, kind command → wider command) : Steady wider scope page where
  sound := h.sound
  obeys := { h.obeys with
    hooks := fun index hook hfrom hhook => (h.obeys.hooks index hook hfrom hhook).mono hwider
    watchers := fun place watcher hmeant hplace reaction hreaction =>
      (h.obeys.watchers place watcher hmeant hplace reaction hreaction).mono hwider }

/-- Nobody waits on the page that sanity is about. -/
lemma Steady.sane (h : Steady kind scope page) : Sane kind scope page := by
  refine ⟨h.sound.of_queue rfl rfl rfl rfl ?_, obeys_idle.2 h.obeys⟩
  intro id hid
  cases hid

end Page

/-! ## Rounds -/

/-- **A visit, with what the document was told of it.** -/
structure Round where
  node : NodeId
  outcome : Outcome
  told : List HostEvent

def Round.visit (round : Round) : Visit := ⟨round.node, round.outcome⟩

namespace ElementCache

variable {cache mid after : ElementCache} {outcome : Outcome} {told : List HostEvent}

/-- **What the document is told when nothing is to be active any more.** -/
inductive Hides (cache : ElementCache) : List HostEvent → Prop
  | idle : cache.activeElement = none → Hides cache []
  /-- The document keeps the element. -/
  | kept {element : Element} : cache.activeElement = some element →
      Hides cache [.deactivating element.serial]
  | removed {element : Element} : cache.activeElement = some element →
      Hides cache [.deactivating element.serial, .removed element.serial]

/-- **Where the element for a match comes from**, and what the document is told of it. -/
inductive Finds (cache : ElementCache) (found : Match) (parent : Option Tail) :
    Element → List HostEvent → Prop
  | kept {element : Element} : (takeOut found.params cache.elements).1 = some element →
      Finds cache found parent (element.refreshed found parent) []
  | made (serial : Nat) : (takeOut found.params cache.elements).1 = none →
      Finds cache found parent
        ⟨serial, cache.tag, found.params, found.queryParams, found.splats, parent⟩
        [.created cache.tag serial]

/-- **What becomes of a cache that is brought in line with an outcome**, and what the document is told
of it. -/
inductive Brought (cache : ElementCache) (parent : Option Tail) :
    Outcome → List HostEvent → ElementCache → Prop
  | stays {outcome : Outcome} : cache.stays outcome →
      Brought cache parent outcome [] (cache.freshened outcome parent)
  | hides {told : List HostEvent} : cache.stays none = false → cache.Hides told →
      Brought cache parent none told { cache with active := false }
  | shows {found : Match} {gone made : List HostEvent} {element : Element} :
      cache.stays (some found) = false → cache.Hides gone →
      cache.Finds found parent element made →
      Brought cache parent (some found)
        (gone ++ (made ++ [.appended cache.appendTo element.serial, .activated element.serial]))
        { cache with
          elements := (element :: (takeOut found.params cache.elements).2).take cache.capacity
          active := true }

/-- **What becomes of the cache of a node in some rounds of the node**, if its capacity may become any of
some numbers in between. -/
inductive Evolves (sizes : Nat → Prop) : List Round → ElementCache → ElementCache → Prop
  | refl (cache : ElementCache) : Evolves sizes [] cache cache
  | resized {rounds : List Round} {cache mid : ElementCache} {count : Nat} :
      Evolves sizes rounds cache mid → sizes count → Evolves sizes rounds cache (mid.setCapacity count)
  | brought {rounds : List Round} {cache mid after : ElementCache} {round : Round}
      {parent : Option Tail} : Evolves sizes rounds cache mid →
      mid.Brought parent round.outcome round.told after →
      Evolves sizes (rounds ++ [round]) cache after

variable {sizes : Nat → Prop} {rounds rounds' : List Round}

/-- **Some rounds after some others.** -/
lemma Evolves.append (h : Evolves sizes rounds cache mid) (h' : Evolves sizes rounds' mid after) :
    Evolves sizes (rounds ++ rounds') cache after := by
  induction h' with
  | refl => rwa [List.append_nil]
  | resized _ hcount ih => exact .resized (ih h) hcount
  | brought _ hbrought ih =>
      rw [← List.append_assoc]
      exact .brought (ih h) hbrought

/-- **One round**: the capacity may change before it and after it. -/
lemma Evolves.exists_brought {round : Round} (h : Evolves sizes [round] cache after) :
    ∃ before later parent, Evolves sizes [] cache before ∧
      before.Brought parent round.outcome round.told later ∧ Evolves sizes [] later after := by
  generalize hone : [round] = rounds at h
  induction h with
  | refl => cases hone
  | resized _ hcount ih =>
      obtain ⟨before, later, parent, hbefore, hbrought, hlater⟩ := ih hone
      exact ⟨before, later, parent, hbefore, hbrought, .resized hlater hcount⟩
  | @brought rounds cache mid after last parent hbefore hbrought ih =>
      obtain ⟨rfl, rfl⟩ : rounds = [] ∧ round = last := by
        cases rounds with
        | nil => simpa using hone
        | cons first rest => simp at hone
      exact ⟨mid, after, parent, hbefore, hbrought, .refl after⟩

/-- A property that other capacities leave alone stays while there is no round. -/
lemma Evolves.keeps (h : Evolves sizes [] cache after) (holds : ElementCache → Prop)
    (hholds : holds cache)
    (hsize : ∀ cache count, sizes count → holds cache → holds (cache.setCapacity count)) :
    holds after := by
  generalize hnone : ([] : List Round) = rounds at h
  induction h with
  | refl => exact hholds
  | resized _ hcount ih => exact hsize _ _ hcount (ih hholds hnone)
  | brought => simp at hnone

/-- The active element stays while there is no round. -/
lemma Evolves.activeElement_eq (h : Evolves sizes [] cache after) :
    after.activeElement = cache.activeElement := by
  refine h.keeps (fun now => now.activeElement = cache.activeElement) rfl fun now count _ hnow => ?_
  rw [activeElement_setCapacity, hnow]

/-- Where no capacity changes, nothing does. -/
lemma Evolves.eq (h : Evolves sizes [] cache after) (hsizes : ∀ count, ¬sizes count) :
    after = cache := by
  refine h.keeps (fun now => now = cache) rfl fun now count hcount _ => ?_
  exact absurd hcount (hsizes count)

end ElementCache

/-! ## Accounts -/

namespace Page

variable {kind : Command → Bool} {page mid after : Page} {id : NodeId}
  {rounds rounds' : List Round} {told told' : List HostEvent}

def caches (page : Page) : List ElementCache := page.nodes.map (·.cache)

lemma getElem?_caches {node : Node} (h : page.nodes[id]? = some node) :
    page.caches[id]? = some node.cache := by
  rw [caches, List.getElem?_map, h, Option.map_some]

lemma exists_cached {cache : ElementCache} (h : page.caches[id]? = some cache) :
    ∃ node, page.nodes[id]? = some node ∧ node.cache = cache := by
  rwa [caches, List.getElem?_map, Option.map_eq_some_iff] at h

/-- **Some rounds account for what became of a page**, and for what its document was told. -/
structure Recounted (kind : Command → Bool) (rounds : List Round) (told : List HostEvent)
    (page after : Page) : Prop where
  visits : after.visits = page.visits ++ rounds.map Round.visit
  host : after.hostEvents = page.hostEvents ++ told
  /-- The same nodes have the same names. -/
  named : after.directory.mounted = page.directory.mounted
  registry : after.registry = page.registry ∨ Command.Records kind
  caches : ∀ (id : NodeId) (cache : ElementCache), page.caches[id]? = some cache →
    ∃ now, after.caches[id]? = some now ∧
      ElementCache.Evolves (page.Sizes kind id) (rounds.filter (·.node = id)) cache now

/-- Nothing of this changes. -/
lemma Recounted.of_eq (hvisits : after.visits = page.visits)
    (hhost : after.hostEvents = page.hostEvents)
    (hnamed : after.directory.mounted = page.directory.mounted)
    (hregistry : after.registry = page.registry) (hcaches : after.caches = page.caches) :
    Recounted kind [] [] page after where
  visits := by rw [hvisits, List.map_nil, List.append_nil]
  host := by rw [hhost, List.append_nil]
  named := hnamed
  registry := .inl hregistry
  caches := by
    rw [hcaches]
    exact fun id cache hcache => ⟨cache, hcache, .refl cache⟩

lemma Recounted.refl (page : Page) : Recounted kind [] [] page page := .of_eq rfl rfl rfl rfl rfl

/-- **One account after the other.** -/
lemma Recounted.trans (h : Recounted kind rounds told page mid)
    (h' : Recounted kind rounds' told' mid after) :
    Recounted kind (rounds ++ rounds') (told ++ told') page after where
  visits := by rw [h'.visits, h.visits, List.map_append, List.append_assoc]
  host := by rw [h'.host, h.host, List.append_assoc]
  named := h'.named.trans h.named
  registry := by
    rcases h'.registry with hlater | hrecords
    · rw [hlater]
      exact h.registry
    · exact .inr hrecords
  caches := by
    intro id cache hcache
    obtain ⟨now, hnow, hbefore⟩ := h.caches id cache hcache
    obtain ⟨last, hlast, hlater⟩ := h'.caches id now hnow
    refine ⟨last, hlast, ?_⟩
    rw [List.filter_append]
    rw [sizes_congr h.named] at hlater
    exact hbefore.append hlater

lemma caches_withPlace (page : Page) (id : NodeId) (tail : Option Tail) :
    (page.withPlace id tail).caches = page.caches := by
  refine map_modifyNode _ (·.cache) ?_ page id
  exact fun _ => rfl

lemma caches_learned (page : Page) (id : NodeId) (cache : ElementCache) (outcome : Outcome) :
    (page.learned id cache outcome).caches = page.caches.modify id fun _ => cache := by
  refine view_modifyNode (·.cache) ?_ page id
  exact fun _ => rfl

lemma caches_resized (page : Page) (id : NodeId) (count : Nat) :
    (page.modifyNode id fun node => { node with
      route := node.route.withCacheCount count, cache := node.cache.setCapacity count }).caches
      = page.caches.modify id (·.setCapacity count) := by
  refine view_modifyNode (·.cache) ?_ page id
  exact fun _ => rfl

/-- One cache gets another capacity. -/
lemma Recounted.resized (page : Page) (id : NodeId) {count : Nat}
    (hcount : page.Sizes kind id count) :
    Recounted kind [] [] page (page.modifyNode id fun node => { node with
      route := node.route.withCacheCount count, cache := node.cache.setCapacity count }) where
  visits := (List.append_nil _).symm
  host := (List.append_nil _).symm
  named := rfl
  registry := .inl rfl
  caches := by
    intro other cache hcache
    refine ⟨if id = other then cache.setCapacity count else cache, ?_, ?_⟩
    · rw [caches_resized, List.getElem?_modify, hcache]
      rfl
    · split
      · next hid => exact .resized (.refl cache) (hid ▸ hcount)
      · exact .refl cache

end Page

/-- **A step without a round** is accounted for. -/
lemma Step.recounted {kind : Command → Bool} (hkind : ∀ command, kind command → command.isInert)
    {s s' : Page × Affairs} (h : Step kind s s') (hvisits : s'.1.visits = s.1.visits)
    (hbefore : s.2.turns = []) (hafter : s'.2.turns = []) (hloose : s.2.loose = [])
    (hleaving : s.2.leaving = []) :
    Recounted kind [] [] s.1 s'.1 ∧ s'.2.loose = [] ∧ s'.2.leaving = [] := by
  have hnot : ∀ {command : Command}, command.isInert = false → ¬kind command := by
    intro command hother hmay
    rw [hkind command hmay] at hother
    cases hother
  cases h with
  | slight affairs hslight =>
      refine ⟨.of_eq hslight.visits hslight.host ?_ hslight.registry ?_, hloose, hleaving⟩
      · rw [hslight.directory]
      · rw [Page.caches, Page.caches, hslight.nodes]
  | hosts event change hhosts =>
      rcases hhosts with hleaves | ⟨turn, hturn, -⟩
      · exact absurd hleaving hleaves
      · rw [hbefore] at hturn
        cases hturn
  | records page affairs registry stored hmay =>
      refine ⟨⟨(List.append_nil _).symm, (List.append_nil _).symm, rfl, .inr hmay, ?_⟩, hloose,
        hleaving⟩
      exact fun id cache hcache => ⟨cache, hcache, .refl cache⟩
  | plants affairs hmay =>
      obtain ⟨_, _, _, hmay⟩ := hmay
      exact absurd hmay (hnot rfl)
  | names => cases hloose
  | unnames page affairs name hmay => exact absurd hmay (not_or.2 ⟨hnot rfl, hnot rfl⟩)
  | shuts => cases hloose
  | tears => cases hleaving
  | lets => cases hloose
  | resizes page affairs id count hmay => exact ⟨.resized page id hmay, hloose, hleaving⟩
  | @watches page affairs name ref reactions =>
      have hlistens := relistened_watched page name ref reactions
      refine ⟨.of_eq (visits_congr hlistens.events) (hostEvents_congr hlistens.events)
        hlistens.mounted hlistens.registry ?_, hloose, hleaving⟩
      exact view_watched (·.cache) (fun _ _ => rfl) ..
  | unwatches page affairs name =>
      have hlistens := relistened_unwatched page name
      refine ⟨.of_eq (visits_congr hlistens.events) (hostEvents_congr hlistens.events)
        hlistens.mounted hlistens.registry ?_, hloose, hleaving⟩
      exact view_unwatched (·.cache) (fun _ _ => rfl) page name
  | tells => exact ⟨.of_eq rfl rfl rfl rfl (caches_withPlace ..), hloose, hleaving⟩
  | begins => cases hafter
  | settles => cases hbefore
  | _ => exact ⟨.of_eq rfl rfl rfl rfl rfl, hloose, hleaving⟩

/-- **A course without a visit** is accounted for without a round. -/
theorem Course.recounted {kind : Command → Bool} (hkind : ∀ command, kind command → command.isInert)
    {s s' : Page × Affairs} (h : Course kind s s') (hvisits : s'.1.visits = s.1.visits)
    (hturns : s'.2.turns = []) (hloose : s.2.loose = []) (hleaving : s.2.leaving = []) :
    Recounted kind [] [] s.1 s'.1 := by
  induction h using Relation.ReflTransGen.head_induction_on with
  | refl => exact .refl s'.1
  | @head s mid hstep hrest ih =>
      obtain ⟨first, hfirst, hgoes⟩ := hstep.visits
      obtain ⟨rest, hrests, hends⟩ := Course.settles hrest hturns
      -- no visit is added, so no turn is under way at any time
      obtain ⟨rfl, rfl⟩ : first = [] ∧ rest = [] := by
        rw [hrests, hfirst, List.append_assoc] at hvisits
        exact List.append_eq_nil_iff.1 (List.append_cancel_left (hvisits.trans (List.append_nil _).symm))
      rw [List.append_nil] at hfirst hrests
      have hmid : mid.2.turns = [] := List.eq_nil_iff_forall_not_mem.2 fun turn hturn => by
        cases hends turn hturn
      have hstart : s.2.turns = [] := List.eq_nil_iff_forall_not_mem.2 fun turn hturn => by
        rcases hgoes turn hturn with hlater | hdone
        · rw [hmid] at hlater
          cases hlater
        · cases hdone
      obtain ⟨hfirstly, hmidLoose, hmidLeaving⟩ :=
        hstep.recounted hkind hfirst hstart hmid hloose hleaving
      exact hfirstly.trans (ih hrests hmidLoose hmidLeaving)

end PageRouter
