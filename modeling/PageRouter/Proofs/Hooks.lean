import PageRouter.Proofs.Leads
import PageRouter.Proofs.Scripts

/-!
# What hooks and listeners from outside can do

Hooks run while the elements of a node are brought in line, and listeners from outside run while a
signal tells something.  Neither touches the page but through the commands they give.  Whatever
every such command keeps is therefore kept by all of them together (`runHooks_keeps`,
`tellWatcher_keeps`), and by the document as a whole: `update_keeps` says so of bringing the
elements of a node in line, and that they are in line afterwards.
-/

namespace PageRouter

open Page

/-! ## Elements -/

namespace ElementCache

variable {cache : ElementCache} {outcome : Outcome}

lemma InLine.new (tag : Text) (appendTo : Option Text) (capacity : Nat) :
    (ElementCache.new tag appendTo capacity).InLine none where
  active := rfl
  shown := rfl
  room := Nat.le_max_left _ _

/-- A cache keeps at least one element, so its active element survives a change of capacity. -/
lemma InLine.setCapacity (h : cache.InLine outcome) (count : Nat) :
    (cache.setCapacity count).InLine outcome where
  active := h.active
  shown := by
    have hroom : 1 ≤ clampCacheCount count := Nat.le_max_left _ _
    have hshown := h.shown
    obtain ⟨more, hmore⟩ : ∃ more, clampCacheCount count = more + 1 := ⟨_, (Nat.sub_add_cancel hroom).symm⟩
    simp only [activeElement, ElementCache.setCapacity, hmore] at hshown ⊢
    cases helements : cache.elements <;> simp_all
  room := Nat.le_max_left _ _

lemma InLine.inactive (h : cache.InLine outcome) :
    ({ cache with active := false } : ElementCache).InLine none where
  active := rfl
  shown := rfl
  room := h.room

/-- The active element with fresh properties still shows the parameters that it was made for. -/
lemma InLine.refreshFirst {found : Match} (h : cache.InLine outcome)
    (hshows : cache.shows found.params) (parent : Option Tail) :
    (cache.refreshFirst found parent).InLine (some found) := by
  have hroom := h.room
  simp only [shows, activeElement] at hshows
  cases hactive : cache.active with
  | false => simp [hactive] at hshows
  | true =>
      cases helements : cache.elements with
      | nil => simp [hactive, helements] at hshows
      | cons element others =>
          have hparams : element.params = found.params := by simpa [hactive, helements] using hshows
          refine ⟨?_, ?_, ?_⟩
          · simp [ElementCache.refreshFirst, helements, hactive]
          · simp [ElementCache.refreshFirst, activeElement, helements, hactive, Element.refreshed,
              hparams]
          · simpa [ElementCache.refreshFirst, helements] using hroom

/-- A cache with a new first element that was made for a match. -/
lemma InLine.shown_first (hroom : 1 ≤ cache.capacity) {element : Element} {found : Match}
    (hparams : element.params = found.params) (others : List Element) :
    ({ cache with elements := (element :: others).take cache.capacity, active := true } :
      ElementCache).InLine (some found) where
  active := rfl
  shown := by
    obtain ⟨more, hmore⟩ : ∃ more, cache.capacity = more + 1 := ⟨_, (Nat.sub_add_cancel hroom).symm⟩
    simp [activeElement, hmore, hparams]
  room := hroom

lemma params_of_takeOut {params : RouteParams} {elements : List Element} {element : Element}
    (h : (takeOut params elements).1 = some element) : element.params = params := by
  simpa using List.find?_some h

end ElementCache

namespace Page

/-- A steady page is sound, and its hooks and listeners keep to a kind of commands. -/
structure Steady (kind : Command → Bool) (scope : Scope) (page : Page) : Prop where
  sound : page.Sound
  /-- Its hooks and listeners keep to the kind. -/
  obeys : page.Obeys kind scope

/-- **A relation that small changes are part of**: it links a page to what becomes of it, however
many steps that takes. -/
structure Lasting (R : Page → Page → Prop) : Prop where
  refl : ∀ page, R page page
  trans : ∀ {page after last}, R page after → R after last → R page last
  /-- A change that has no part in matching. -/
  aside : ∀ {page after}, Aside page after → R page after

/-- A computation keeps a page steady and within a relation. -/
def Keeps {α : Type} (must : Bool) (kind : Command → Bool) (scope : Scope)
    (R : Page → Page → Prop) (c : PageM α) (page : Page) : Prop :=
  Leads must c page fun _ after => Steady kind scope after ∧ R page after

variable {must : Bool} {kind : Command → Bool} {scope : Scope} {R : Page → Page → Prop}
  {deeper : Deeper} {page after : Page}

lemma Steady.aside (h : Steady kind scope page) (haside : Aside page after)
    (hobeys : Obeys kind scope page → Obeys kind scope after) : Steady kind scope after :=
  ⟨haside.sound h.sound, hobeys h.obeys⟩

lemma Steady.note (h : Steady kind scope page) {event : PageEvent} (hevent : event.visit? = none) :
    Steady kind scope { page with events := event :: page.events } :=
  h.aside (.note hevent page) fun hobeys =>
    hobeys.of_eq rfl rfl rfl fun ref _ _ => by cases ref <;> exact id

section Reactions

variable (hR : Lasting R)
  (hdeeper : ∀ command, kind command → command.brings kind → ∀ page, Steady kind scope page →
    Keeps must kind scope R (deeper (.command command)) page)

include hR hdeeper

lemma performAll_keeps {commands : List Command}
    (hcommands : ∀ command ∈ commands, kind command ∧ command.brings kind)
    (h : Steady kind scope page) : Keeps must kind scope R (performAll deeper commands) page := by
  refine leads_performAll (fun after => Steady kind scope after ∧ R page after) commands ?_ page
    ⟨h, hR.refl page⟩
  rintro command hmem before ⟨hsteady, hbefore⟩
  obtain ⟨hkind, hbrings⟩ := hcommands command hmem
  refine (hdeeper command hkind hbrings before hsteady).mono fun answer after hafter => ?_
  exact ⟨hafter.1.note rfl, hR.trans hbefore (hR.trans hafter.2 (hR.aside (.note rfl _)))⟩

/-- **A listener that is meant** keeps what its commands keep. -/
lemma tellWatcher_keeps {place : Nat} {event : Text → PageEvent} {key : Text}
    (hmeant : scope.watchers place) (hevent : ∀ name, (event name).visit? = none)
    (h : Steady kind scope page) :
    Keeps must kind scope R (tellWatcher deeper place event key) page := by
  simp only [Keeps, tellWatcher, leads_bind, leads_get]
  split
  · exact ⟨h, hR.refl page⟩
  · next watcher hwatcher =>
    simp only [leads_bind, leads_note]
    refine leads_offer (Reaction.isDue key) (fun after => Steady kind scope after ∧ R page after)
      (fun _ => rfl) _ ?_ _ ⟨h.note (hevent _), hR.aside (.note (hevent _) page)⟩
    rintro index - before reaction ⟨hsteady, hbefore⟩ hreaction hruns
    have hcommands : ∀ command ∈ reaction.commands, kind command ∧ command.brings kind := by
      split at hreaction
      · next listener hlistener =>
        exact hsteady.obeys.watchers place listener hmeant hlistener reaction
          (List.mem_of_getElem? hreaction) hruns
      · simp at hreaction
    simp only [leads_bind, useReaction, leads_modify]
    have hused : Aside before { before with
        watchers := before.watchers.modify place fun watcher =>
          { watcher with reactions := Reaction.useUp index watcher.reactions } } :=
      ⟨rfl, rfl, rfl, rfl, rfl, rfl, fun _ => id⟩
    refine (performAll_keeps hR hdeeper hcommands
      (hsteady.aside hused fun hobeys => hobeys.useWatch place index)).mono ?_
    exact fun _ after hafter => ⟨hafter.1, hR.trans hbefore (hR.trans (hR.aside hused) hafter.2)⟩

/-- **The hooks in force** keep what their commands keep. -/
lemma runHooks_keeps (moment : Moment) (tag : Text) (h : Steady kind scope page) :
    Keeps must kind scope R (runHooks deeper moment tag) page := by
  simp only [Keeps, runHooks, leads_bind, leads_get]
  refine leads_offer (hookDue moment tag page.url)
    (fun after => Steady kind scope after ∧ R page after) (fun _ => rfl) _ ?_ page
    ⟨h, hR.refl page⟩
  rintro index hindex before hook ⟨hsteady, hbefore⟩ hhook hruns
  have hfrom : scope.hooksFrom ≤ index :=
    Nat.le_trans h.obeys.inForce (List.mem_range'_1.1 hindex).1
  have hcommands := hsteady.obeys.hooks index hook hfrom hhook hruns
  simp only [leads_bind, leads_modify]
  have hused : Aside before { before with hooks := Reaction.useUp index before.hooks } :=
    ⟨rfl, rfl, rfl, rfl, rfl, rfl, fun _ => id⟩
  refine (performAll_keeps hR hdeeper hcommands
    (hsteady.aside hused fun hobeys => hobeys.useHook index)).mono ?_
  exact fun _ after hafter => ⟨hafter.1, hR.trans hbefore (hR.trans (hR.aside hused) hafter.2)⟩

omit hdeeper in
lemma record_keeps (event : HostEvent) (change : Document → Document)
    (h : Steady kind scope page) : Keeps must kind scope R (record event change) page := by
  have haside : Aside page { page with
      document := change page.document, events := .host event :: page.events } :=
    ⟨rfl, rfl, rfl, rfl, rfl, visits_note rfl page, fun _ => id⟩
  exact ⟨h.aside haside fun hobeys => hobeys.of_eq rfl rfl rfl fun ref _ _ => by
    cases ref <;> exact id, hR.aside haside⟩

omit hdeeper in
lemma append_keeps (target : Option Text) (serial : Nat) (h : Steady kind scope page) :
    Keeps must kind scope R ((host deeper).append target serial) page :=
  record_keeps hR (.appended target serial) (·.append serial) h

omit hdeeper in
lemma remove_keeps (serial : Nat) (h : Steady kind scope page) :
    Keeps must kind scope R ((host deeper).remove serial) page :=
  record_keeps hR (.removed serial) (·.remove serial) h

lemma activated_keeps (element : Element) (h : Steady kind scope page) :
    Keeps must kind scope R ((host deeper).activated element) page := by
  simp only [Keeps, host, leads_bind]
  refine Leads.mono (record_keeps hR _ _ h) fun _ before hbefore => ?_
  refine Leads.mono (runHooks_keeps hR hdeeper _ _ hbefore.1) fun _ after hafter => ?_
  exact ⟨hafter.1, hR.trans hbefore.2 hafter.2⟩

lemma deactivating_keeps (element : Element) (h : Steady kind scope page) :
    Keeps must kind scope R ((host deeper).deactivating element) page := by
  simp only [Keeps, host, leads_bind, leads_get, leads_pure]
  refine Leads.mono (record_keeps hR _ _ h) fun _ before hbefore => ?_
  refine Leads.mono (runHooks_keeps hR hdeeper _ _ hbefore.1) fun _ after hafter => ?_
  exact ⟨hafter.1, hR.trans hbefore.2 hafter.2⟩

/-! ### Bringing elements in line -/

lemma deactivate_keeps (cache : ElementCache) (h : Steady kind scope page) :
    Leads must (cache.deactivate (host deeper)) page fun result after =>
      (Steady kind scope after ∧ R page after) ∧ result = { cache with active := false } := by
  simp only [ElementCache.deactivate]
  split
  · next element _ =>
    rw [leads_bind]
    refine Leads.mono (deactivating_keeps hR hdeeper element h) fun removes before hbefore => ?_
    refine leads_ite (fun _ => ?_) (fun _ => ⟨hbefore, rfl⟩)
    rw [leads_bind]
    refine Leads.mono (remove_keeps hR _ hbefore.1) fun _ after hafter => ?_
    exact ⟨⟨hafter.1, hR.trans hbefore.2 hafter.2⟩, rfl⟩
  · exact ⟨⟨h, hR.refl page⟩, rfl⟩

omit hdeeper in
lemma elementFor_keeps (tag : Text) {kept : Option Element} {found : Match} (parent : Option Tail)
    (hkept : ∀ element, kept = some element → element.params = found.params)
    (h : Steady kind scope page) :
    Leads must (ElementCache.elementFor (host deeper) tag kept found parent) page
      fun element after =>
        (Steady kind scope after ∧ R page after) ∧ element.params = found.params := by
  cases kept with
  | some element => exact ⟨⟨h, hR.refl page⟩, hkept element rfl⟩
  | none =>
      simp only [ElementCache.elementFor, host, leads_bind, leads_get, leads_pure]
      exact Leads.mono (record_keeps hR _ _ h) fun _ _ hafter => ⟨hafter, trivial⟩

lemma activate_keeps {cache : ElementCache} (hroom : 1 ≤ cache.capacity) (found : Match)
    (parent : Option Tail) (h : Steady kind scope page) :
    Leads must (cache.activate (host deeper) found parent) page fun result after =>
      (Steady kind scope after ∧ R page after) ∧ result.2.2.InLine (some found) := by
  simp only [ElementCache.activate, leads_bind, leads_pure]
  refine (deactivate_keeps hR hdeeper cache h).mono ?_
  rintro _ first ⟨⟨hfirst, hRfirst⟩, rfl⟩
  refine (elementFor_keeps hR _ parent (fun _ => ElementCache.params_of_takeOut) hfirst).mono ?_
  rintro element second ⟨⟨hsecond, hRsecond⟩, hparams⟩
  refine Leads.mono (append_keeps hR _ _ hsecond) fun _ third hthird => ?_
  refine Leads.mono (activated_keeps hR hdeeper element hthird.1) fun _ after hafter => ?_
  exact ⟨⟨hafter.1, hR.trans hRfirst (hR.trans hRsecond (hR.trans hthird.2 hafter.2))⟩,
    ElementCache.InLine.shown_first hroom hparams _⟩

/-- **Bringing elements in line** keeps what hooks keep, and leaves them in line. -/
lemma update_keeps {cache : ElementCache} {before : Outcome} (hcache : cache.InLine before)
    (outcome : Outcome) (parent : Option Tail) (h : Steady kind scope page) :
    Leads must (cache.update (host deeper) outcome parent) page fun result after =>
      (Steady kind scope after ∧ R page after) ∧ result.2.InLine outcome := by
  cases outcome with
  | none =>
      simp only [ElementCache.update]
      split
      · simp only [leads_bind, leads_pure]
        refine (deactivate_keeps hR hdeeper cache h).mono ?_
        rintro _ after ⟨hafter, rfl⟩
        exact ⟨hafter, hcache.inactive⟩
      · next hinactive =>
        have hnone : before = none := by
          cases before with
          | none => rfl
          | some _ => exact absurd hcache.active hinactive
        exact ⟨⟨h, hR.refl page⟩, hnone ▸ hcache⟩
  | some found =>
      simp only [ElementCache.update]
      split
      · next hshows => exact ⟨⟨h, hR.refl page⟩, hcache.refreshFirst hshows parent⟩
      · simp only [leads_bind]
        exact (activate_keeps hR hdeeper hcache.room found parent h).mono fun _ _ hafter => hafter

end Reactions

end Page

end PageRouter
