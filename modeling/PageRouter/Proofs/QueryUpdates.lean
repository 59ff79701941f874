import PageRouter.Proofs.Destinations
import PageRouter.Proofs.Endings
import PageRouter.Proofs.Hearings
import PageRouter.Proofs.Merging

/-!
# Updating the query of the location

An update of the query reads the pairs of the location, makes its changes and writes them down behind
the same path.  What is written is read back, so the new location differs from the old one exactly if
the pairs do (`updatedUrl?_eq`).

If nothing changes, the page stays as it is.  Otherwise the new location takes the place of the current
one, and everyone is told of it once: while the listeners are called, what they and the hooks do leaves
the history alone and is not told of, as long as none of them navigates (`NobodyNavigates`).  Whether
anyone does is read off what has happened meanwhile, since each command is noted with its answer.
-/

namespace PageRouter

open Text

/-! ## Locations with other pairs -/

namespace Query

/-- **What is written behind a path is read back.** -/
lemma parse_searchOf_written? (query : Query) : parse (searchOf query.written?) = query := by
  rw [written?]
  split
  · next hnil => rw [hnil]; rfl
  · have hdrop : parse ('?' :: write query) = parse (write query) := by
      rw [parse, parse, dropMark_of_not_mem (not_mem_write query)]
      rfl
    exact hdrop.trans (parse_write query)

end Query

/-- The location with other pairs behind its path. -/
def withPairs (url : Text) (query : Query) : Text := pathPart url ++ searchOf query.written?

section Locations

variable (url : Text) (query : Query)

lemma pathPart_withPairs : pathPart (withPairs url query) = pathPart url :=
  pathPart_append (not_mem_pathPart url) _

lemma parse_withPairs : Query.parse (searchPart (withPairs url query)) = query := by
  rw [withPairs, searchPart_append_searchOf (not_mem_pathPart url), Query.parse_searchOf_written?]

namespace Page

/-- **A location changes exactly if its pairs do.** -/
lemma updatedUrl?_eq (updates : List Query.Update) :
    updatedUrl? url updates =
      if (Query.parse (searchPart url)).merge updates = Query.parse (searchPart url) then none
      else some (withPairs url ((Query.parse (searchPart url)).merge updates)) := by
  generalize hmerged : (Query.parse (searchPart url)).merge updates = merged
  have hnext : (if merged = [] then pathPart url else pathPart url ++ '?' :: Query.write merged) =
      withPairs url merged := by
    rw [withPairs, Query.written?]
    split
    · exact (List.append_nil _).symm
    · rfl
  simp only [updatedUrl?, hmerged, hnext]
  split
  · rfl
  · next hchanged =>
    refine if_neg fun hsame => hchanged ?_
    rw [← parse_withPairs url merged, hsame]

end Page

end Locations

/-- The event answers a command of a listener or a hook that has led to another location. -/
def PageEvent.navigates : PageEvent → Bool
  | .answered command answer => command.navigates && !answer.isRefusal
  | _ => false

namespace Page

variable {page mid after : Page} {deeper : Deeper} {event : LocationEvent}

/-- The pairs of the current location. -/
def query (page : Page) : Query := Query.parse (searchPart page.url)

/-! ## Nobody navigates -/

/-- What has happened since, the latest first. -/
def since (page after : Page) : List PageEvent :=
  after.events.take (after.events.length - page.events.length)

/-- **No listener and no hook navigates** from one time to another. -/
def NobodyNavigates (page after : Page) : Prop := ∀ event ∈ page.since after, event.navigates = false

instance : Decidable (NobodyNavigates page after) := inferInstanceAs (Decidable (∀ event ∈ _, _))

lemma since_eq {later : List PageEvent} (h : after.events = later ++ page.events) :
    page.since after = later := by
  rw [since, h, List.length_append, Nat.add_sub_cancel, List.take_left]

lemma since_append (h : page.events <:+ mid.events) (h' : mid.events <:+ after.events) :
    page.since after = mid.since after ++ page.since mid := by
  obtain ⟨first, hfirst⟩ := h
  obtain ⟨second, hsecond⟩ := h'
  rw [since_eq hfirst.symm, since_eq hsecond.symm,
    since_eq (show after.events = (second ++ first) ++ page.events by
      rw [List.append_assoc, hfirst, hsecond])]

/-- If nobody navigates, nobody does so in a part of the time. -/
lemma NobodyNavigates.split (h : NobodyNavigates page after) (hpage : page.events <:+ mid.events)
    (hmid : mid.events <:+ after.events) : NobodyNavigates page mid ∧ NobodyNavigates mid after := by
  rw [NobodyNavigates, since_append hpage hmid, List.forall_mem_append] at h
  exact h.symm

/-! ## Two regimes -/

/-- Hooks may give any command. -/
lemma hooks_may_anything {index : Nat} (_ : True) (_ : page.firstHook ≤ index)
    (_ : index < page.hooks.length) : page.HookBound (fun _ => True) index :=
  .of_forall fun _ => trivial

/-- Those who listen for a tail may give any command. -/
lemma listeners_may_anything {id : NodeId} {number place : Nat} (_ : True)
    (_ : (number, Listener.watcher place) ∈ (page.signal (.tailOf id)).listeners) :
    page.ListenerBound (fun _ => True) place :=
  .of_forall fun _ => trivial

/-- What has happened is not forgotten, whatever there is to do. -/
def recording : Regime where
  holds _ := True
  becomes page after := page.events <:+ after.events
  may _ := True
  refl _ := List.suffix_rfl
  trans _ _ h h' := h.trans h'
  edit _ h := ⟨trivial, h.events⟩
  hooks := @hooks_may_anything
  listeners := @listeners_may_anything

lemma recording_unbounded : recording.Unbounded where
  may _ := trivial
  history _ _ := ⟨trivial, List.suffix_rfl, .of_eq rfl rfl (.inl rfl)⟩
  told _ _ _ _ := ⟨trivial, List.suffix_cons .., .of_eq rfl rfl (.inl rfl)⟩

/-- **The page stays where it is**, and nobody is told anything of its location, if nobody navigates. -/
structure StaysPut (page after : Page) : Prop where
  events : page.events <:+ after.events
  silent : NobodyNavigates page after →
    after.history = page.history ∧ after.hearings = page.hearings

lemma StaysPut.trans (h : StaysPut page mid) (h' : StaysPut mid after) : StaysPut page after where
  events := h.events.trans h'.events
  silent := by
    intro hnobody
    obtain ⟨hfirst, hsecond⟩ := hnobody.split h.events h'.events
    obtain ⟨hhistory, hhearings⟩ := h.silent hfirst
    obtain ⟨hhistory', hhearings'⟩ := h'.silent hsecond
    exact ⟨hhistory'.trans hhistory, hhearings'.trans hhearings⟩

/-- Any command may be given, but one that navigates is to be noticed. -/
def noticing : Regime where
  holds _ := True
  becomes := StaysPut
  may _ := True
  refl _ := ⟨List.suffix_rfl, fun _ => ⟨rfl, rfl⟩⟩
  trans _ _ h h' := h.trans h'
  edit _ h := ⟨trivial, h.events, fun _ => h.silent⟩
  hooks := @hooks_may_anything
  listeners := @listeners_may_anything

/-- **A command that navigates is noticed**: it is noted with its answer. -/
lemma navigation_noticed {depth : Nat} {command : Command} (hnavigates : command.navigates) :
    noticing.Keeps (do note (.answered command (← exec (depth + 1) (.command command)))) := by
  intro page _
  simp only [leads_bind, leads_note]
  rcases perform_makes (exec depth) page hnavigates with
    ⟨answer, -, hrun⟩ | ⟨history, kind, source, answer, -, haccepted, hrun⟩
  · have hrefused : exec (depth + 1) (.command command) page = some (answer, page) := hrun
    rw [leads_of_eq hrefused]
    exact .minor trivial (.note rfl page)
  · have hanswer : Leads false (exec (depth + 1) (.command command)) page fun result _ =>
        result.isRefusal = false := by
      rw [leads_congr (show exec (depth + 1) (.command command) page = _ from hrun)]
      simp only [announce, leads_bind, leads_pure]
      exact leads_of_forall fun _ _ _ => haccepted
    have hrecorded := recording_unbounded.keeps_exec (depth + 1) (.command command) page trivial
    refine (hrecorded.and hanswer).mono ?_
    rintro result mid ⟨hmid, hdone⟩
    have hnoted : mid.events <:+ .answered command result :: mid.events := List.suffix_cons ..
    refine ⟨trivial, ⟨hmid.becomes.trans hnoted, fun hnobody => ?_⟩,
      hmid.worn.trans (.of_eq rfl rfl (.inl rfl))⟩
    have hlast := (hnobody.split hmid.becomes hnoted).2 (.answered command result)
    rw [since_eq (show _ = [.answered command result] ++ mid.events from rfl)] at hlast
    have hstays := hlast (List.mem_singleton_self _)
    rw [PageEvent.navigates, hnavigates, hdone] at hstays
    cases hstays

/-- **Calls of any depth** are noticed. -/
lemma exec_noticed (depth : Nat) : noticing.Carries (exec depth) := by
  induction depth with
  | zero => exact ⟨fun _ _ _ _ => rfl, fun _ _ _ => rfl, fun _ _ => rfl⟩
  | succ depth ih =>
      refine ⟨fun command _ => ?_, fun id => ?_, ?_⟩
      · cases hnavigates : command.navigates with
        | true => exact navigation_noticed hnavigates
        | false =>
            have hperform : noticing.Keeps (exec (depth + 1) (.command command)) :=
              Regime.keeps_perform ih trivial hnavigates
            exact hperform.bind fun _ => .note rfl
      · exact (Regime.keeps_refresh ih id).bind fun _ => .pure _
      · exact (Regime.keeps_drain ih).bind fun _ => .pure _

/-! ## Telling once -/

lemma Listed.withHistory (h : page.Listed) (history : History) : (page.withHistory history).Listed :=
  h.congr (signal_congr rfl rfl) rfl

/-- The places of listeners from outside, in the order in which they are called. -/
def outsiders (listeners : List (Nat × Listener)) : List Nat :=
  listeners.filterMap fun
    | (_, .watcher place) => some place
    | (_, .node _) => none

/-- Each listener from outside is called once. -/
lemma Listed.nodup_outsiders (h : page.Listed) : (outsiders page.locationChanged.listeners).Nodup := by
  refine List.pairwise_filterMap.2 (h.orderly.rising.imp_of_mem fun {entry entry'} hmem hmem' hlt => ?_)
  rintro place hplace _ hplace' rfl
  obtain ⟨number, listener⟩ := entry
  obtain ⟨number', listener'⟩ := entry'
  cases listener with
  | node id => cases hplace
  | watcher spot =>
      cases listener' with
      | node id => cases hplace'
      | watcher spot' =>
          obtain rfl := Option.some.inj hplace
          obtain rfl := Option.some.inj hplace'
          exact absurd (h.once hmem hmem') (Nat.ne_of_lt hlt)

/-- **A change of the location is told once**: to listeners who listened when it was made, in their order
and to none of them twice, and to all who stay; nothing else is told of the location. -/
def ToldOnce (event : LocationEvent) (page after : Page) : Prop :=
  ∃ told : List Nat, after.hearings = page.hearings ++ told.map (·, event) ∧ told.Nodup ∧
    told.Sublist (outsiders page.locationChanged.listeners) ∧
    ∀ number place, (number, Listener.watcher place) ∈ page.locationChanged.listeners →
      after.locationChanged.isSubscribed number → place ∈ told

/-- **While a change is told** and `rest` is still to be called: if nobody has navigated, the page is
still where it was, and whoever listens and has been called has been told. -/
structure Spreads (event : LocationEvent) (page : Page) (rest : List (Nat × Listener)) (now : Page) :
    Prop where
  remaining : rest <:+ page.locationChanged.listeners
  worn : Worn page now
  events : page.events <:+ now.events
  told : NobodyNavigates page now → now.history = page.history ∧ ∃ told : List Nat,
    now.hearings = page.hearings ++ told.map (·, event) ∧
    (told ++ outsiders rest).Sublist (outsiders page.locationChanged.listeners) ∧
    ∀ number place, (number, Listener.watcher place) ∈ page.locationChanged.listeners →
      (number, Listener.watcher place) ∈ now.locationChanged.listeners →
      place ∈ told ∨ (number, Listener.watcher place) ∈ rest

namespace Spreads

variable {rest : List (Nat × Listener)} {now : Page} {entry : Nat × Listener}

lemma start (event : LocationEvent) (page : Page) :
    Spreads event page page.locationChanged.listeners page where
  remaining := List.suffix_rfl
  worn := .refl page
  events := List.suffix_rfl
  told := fun _ => ⟨rfl, [], (List.append_nil _).symm, List.Sublist.refl _, fun _ _ hmem _ => .inr hmem⟩

/-- Whoever has gone, or is a node, is not told. -/
lemma pass (h : Spreads event page (entry :: rest) now)
    (hentry : ∀ number place, entry = (number, Listener.watcher place) →
      entry ∉ now.locationChanged.listeners) : Spreads event page rest now where
  remaining := (List.suffix_cons ..).trans h.remaining
  worn := h.worn
  events := h.events
  told := by
    intro hnobody
    obtain ⟨hhistory, told, hhearings, hsublist, hall⟩ := h.told hnobody
    have hfewer : (outsiders rest).Sublist (outsiders (entry :: rest)) :=
      (List.sublist_cons_self ..).filterMap _
    refine ⟨hhistory, told, hhearings, (hfewer.append_left told).trans hsublist,
      fun number place hmem hnow => (hall number place hmem hnow).imp_right fun hrest => ?_⟩
    refine (List.mem_cons.1 hrest).resolve_left fun heq => ?_
    exact hentry number place heq.symm (heq ▸ hnow)

/-- What listeners and hooks do meanwhile. -/
lemma then_stays (h : Spreads event page rest now) (hlisted : page.Listed)
    (hkept : noticing.Kept now after) : Spreads event page rest after where
  remaining := h.remaining
  worn := h.worn.trans hkept.worn
  events := h.events.trans hkept.becomes.events
  told := by
    intro hnobody
    obtain ⟨hbefore, hlater⟩ := hnobody.split h.events hkept.becomes.events
    obtain ⟨hhistory, told, hhearings, hsublist, hall⟩ := h.told hbefore
    obtain ⟨hhistory', hhearings'⟩ := hkept.becomes.silent hlater
    refine ⟨hhistory'.trans hhistory, told, hhearings'.trans hhearings, hsublist,
      fun number place hmem hafter => hall number place hmem ?_⟩
    have hcame := Nat.lt_of_lt_of_le (hlisted.orderly.beyond _ hmem) h.worn.numbers
    exact hkept.worn.listening _ hafter hcame

/-- **The next listener writes down what it is told.** -/
lemma tell {called spot : Nat}
    (h : Spreads event page ((called, Listener.watcher spot) :: rest) now) (name : Text) :
    Spreads event page rest (now.toldAt spot name event) where
  remaining := (List.suffix_cons ..).trans h.remaining
  worn := h.worn.trans (.of_eq rfl rfl (.inl rfl))
  events := h.events.trans (List.suffix_cons ..)
  told := by
    intro hnobody
    obtain ⟨hhistory, told, hhearings, hsublist, hall⟩ :=
      h.told (hnobody.split h.events (List.suffix_cons ..)).1
    refine ⟨hhistory, told ++ [spot], ?_, ?_, fun number place hmem hnow => ?_⟩
    · rw [hearings_toldAt, hhearings, List.map_append, List.append_assoc]
      rfl
    · rw [List.append_assoc]
      exact hsublist
    · rcases hall number place hmem hnow with hold | hrest
      · exact .inl (List.mem_append_left _ hold)
      · rcases List.mem_cons.1 hrest with heq | hrest
        · cases heq
          exact .inl (List.mem_append_right _ (List.mem_singleton_self _))
        · exact .inr hrest

lemma mem (h : Spreads event page (entry :: rest) now) : entry ∈ page.locationChanged.listeners :=
  h.remaining.subset (List.mem_cons_self ..)

/-- **When everyone has been called**, the change has been told once. -/
lemma toldOnce (h : Spreads event page [] after) (hlisted : page.Listed)
    (hnobody : NobodyNavigates page after) :
    after.history = page.history ∧ ToldOnce event page after := by
  obtain ⟨hhistory, told, hhearings, hsublist, hall⟩ := h.told hnobody
  rw [outsiders, List.filterMap_nil, List.append_nil] at hsublist
  refine ⟨hhistory, told, hhearings, hlisted.nodup_outsiders.sublist hsublist, hsublist,
    fun number place hmem hstays => ?_⟩
  -- numbers are given out once, so whoever listens under this number is the one who did before
  obtain ⟨entry, hentry, hnumber⟩ := List.any_eq_true.1 hstays
  have hcame := hlisted.orderly.beyond _ hmem
  have hold : entry ∈ page.locationChanged.listeners :=
    h.worn.listening entry hentry (by rw [of_decide_eq_true hnumber]; exact hcame)
  obtain rfl := hlisted.orderly.eq_of_mem hold hmem (of_decide_eq_true hnumber)
  exact (hall number place hmem hentry).resolve_right List.not_mem_nil

end Spreads

/-- **A change is told to everyone.** -/
lemma notify_spreads (h : noticing.Carries deeper) (hlisted : page.Listed) (kind : NavigationKind)
    (source : Option Text) :
    Leads false (notify deeper kind source) page fun _ after =>
      Spreads ⟨page.url, kind, source⟩ page [] after := by
  simp only [notify, leads_bind, leads_get]
  show Leads false (Signal.emit (return (← get).signal .location) (tellLocation deeper _)) page _
  refine leads_emit (Spreads ⟨page.url, kind, source⟩ page) ?_ ?_ (.start _ page)
  · intro called listener rest now hmid _
    cases listener with
    | node id =>
        have hpassed := hmid.pass fun _ _ heq => by cases heq
        exact ((h.refresh id).discard now trivial).mono fun _ after hkept =>
          hpassed.then_stays hlisted hkept
    | watcher spot =>
        have hthere : spot < now.watchers.length :=
          Nat.lt_of_lt_of_le (hlisted.there .location hmid.mem) hmid.worn.watchers
        simp only [tellLocation, tellWatcher, leads_bind, leads_get, List.getElem?_eq_getElem hthere,
          leads_note]
        have htold := hmid.tell now.watchers[spot].name
        exact (Regime.at_react h (.of_forall fun _ => trivial) _ _ trivial).mono
          fun _ after hkept => htold.then_stays hlisted hkept
  · intro called listener rest now hmid hoff
    refine hmid.pass fun number place heq hnow => hoff ?_
    exact Signal.isSubscribed_of_mem hnow

/-! ## Updates -/

/-- The location is replaced, and everyone is told. -/
lemma updateQuery_spreads (h : noticing.Carries deeper) (hlisted : page.Listed)
    {updates : List Query.Update} {url : Text} (hurl : updatedUrl? page.url updates = some url) :
    Leads false (perform deeper (.updateQuery updates)) page fun answer after =>
      answer = .flag true ∧
        Spreads ⟨url, .replaceState, none⟩ (page.withHistory (page.history.replace url)) [] after := by
  simp only [perform, updateQuery, leads_bind, leads_get, hurl, goTo, if_true, leads_modify, leads_pure]
  have htold := notify_spreads h (hlisted.withHistory (page.history.replace url)) .replaceState none
  rw [show (page.withHistory (page.history.replace url)).url = url from
    History.location_arrive page.history true url] at htold
  exact htold.mono fun _ _ hafter => ⟨trivial, hafter⟩

/-- An update that changes nothing leaves the page as it is. -/
lemma run_updateQuery_of_merge_eq {updates : List Query.Update}
    (hsame : page.query.merge updates = page.query) :
    page.run (.updateQuery updates) = some (.flag false, page) := by
  obtain ⟨depth, -, hrun⟩ := page.run_eq_perform (.updateQuery updates)
  have hurl : updatedUrl? page.url updates = none := by
    rw [updatedUrl?_eq]
    exact if_pos hsame
  rw [hrun]
  simp only [perform, updateQuery, bind_apply, get_apply, Option.bind_some, hurl]
  rfl

/-- An update that changes the pairs ends with the location that has the new ones. -/
lemma run_updateQuery_of_merge_ne (h : page.Reached) {updates : List Query.Update}
    (hchanged : page.query.merge updates ≠ page.query) :
    ∃ after, page.run (.updateQuery updates) = some (.flag true, after) ∧
      (NobodyNavigates page after → after.url = withPairs page.url (page.query.merge updates) ∧
        after.history = page.history.replace after.url ∧
        ToldOnce ⟨after.url, .replaceState, none⟩ page after) := by
  obtain ⟨⟨answer, after⟩, hrun⟩ := Option.isSome_iff_exists.1 (run_returns h (.updateQuery updates))
  obtain ⟨depth, -, hperform⟩ := page.run_eq_perform (.updateQuery updates)
  have hurl : updatedUrl? page.url updates = some (withPairs page.url (page.query.merge updates)) := by
    rw [updatedUrl?_eq]
    exact if_neg hchanged
  obtain ⟨rfl, hspreads⟩ := (updateQuery_spreads (exec_noticed (depth + 1)) h.listed hurl).of_eq
    (hperform.symm.trans hrun)
  refine ⟨after, hrun, fun hnobody => ?_⟩
  obtain ⟨hhistory, htold⟩ := hspreads.toldOnce (h.listed.withHistory _) hnobody
  have hlocation : after.url = withPairs page.url (page.query.merge updates) := by
    rw [url, hhistory]
    exact History.location_arrive page.history true _
  rw [hlocation]
  exact ⟨rfl, hhistory, htold⟩

/-- **An update of the query changes exactly what it should.**  It comes to an end on every page and
answers whether the pairs are others than before.  If they are not, nothing happens at all.  If they are,
and no listener and no hook navigates meanwhile, then the current location has the same path as before and
exactly these pairs, the other locations of the history are the same, and the change is told once.  If the
updates name nothing twice, making them again changes nothing. -/
theorem updateQuery_exact (h : page.Reached) (updates : List Query.Update) :
    ∃ after, page.run (.updateQuery updates) =
        some (.flag (decide (page.query.merge updates ≠ page.query)), after) ∧
      (page.query.merge updates = page.query → after = page) ∧
      (page.query.merge updates ≠ page.query → NobodyNavigates page after →
        pathPart after.url = pathPart page.url ∧ after.query = page.query.merge updates ∧
        after.history = page.history.replace after.url ∧
        (∀ other, other ≠ page.history.position →
          after.history.entries[other]? = page.history.entries[other]?) ∧
        ToldOnce ⟨after.url, .replaceState, none⟩ page after) ∧
      (NobodyNavigates page after → (Query.targets updates).Nodup →
        after.run (.updateQuery updates) = some (.flag false, after)) := by
  by_cases hsame : page.query.merge updates = page.query
  · have hrun := run_updateQuery_of_merge_eq hsame
    refine ⟨page, ?_, fun _ => rfl, fun hchanged => absurd hsame hchanged, fun _ _ => hrun⟩
    rw [hrun, decide_eq_false (not_not.2 hsame)]
  · obtain ⟨after, hrun, hchange⟩ := run_updateQuery_of_merge_ne h hsame
    have hquery (hnobody : NobodyNavigates page after) : after.query = page.query.merge updates := by
      rw [query, (hchange hnobody).1, parse_withPairs]
    refine ⟨after, ?_, fun hunchanged => absurd hunchanged hsame, fun _ hnobody => ?_,
      fun hnobody hnodup => ?_⟩
    · rw [hrun, decide_eq_true hsame]
    · obtain ⟨hlocation, hhistory, htold⟩ := hchange hnobody
      refine ⟨?_, hquery hnobody, hhistory, fun other hother => ?_, htold⟩
      · rw [hlocation, pathPart_withPairs]
      · rw [hhistory]
        exact List.getElem?_set_ne (Ne.symm hother)
    · exact run_updateQuery_of_merge_eq (by rw [hquery hnobody, Query.merge_merge hnodup])

/-- A page with a query, and with a listener that does not navigate. -/
def catalogue : Page :=
  (Page.start (.start History.localOrigin "/list?page=1&sort=name".toList true)).plays
    [.watchLocation "watch".toList [⟨none, 1, [.intercept false]⟩]]

/-- The updates set the page and delete the order. -/
def turnedOver : List Query.Update :=
  [("page".toList, some "2".toList), ("sort".toList, none)]

/-- **The page is turned over**, the listener is told so, and doing it again changes nothing. -/
theorem updateQuery_exact_catalogue : catalogue.Reached ∧ ∃ after,
    catalogue.run (.updateQuery turnedOver) = some (.flag true, after) ∧
      pathPart after.url = "/list".toList ∧ after.query = [("page".toList, "2".toList)] ∧
      after.history = catalogue.history.replace "/list?page=2".toList ∧
      after.heard 0 = [⟨"/list?page=2".toList, .replaceState, none⟩] ∧
      after.run (.updateQuery turnedOver) = some (.flag false, after) := by
  have hreached : catalogue.Reached := (Reached.start _).plays _
  have hmerged : catalogue.query.merge turnedOver = [("page".toList, "2".toList)] := by decide +kernel
  have hchanged : catalogue.query.merge turnedOver ≠ catalogue.query := by decide +kernel
  obtain ⟨after, hrun, -, hchange, hagain⟩ := updateQuery_exact hreached turnedOver
  have hplay : catalogue.play (.updateQuery turnedOver) = after := by rw [play, hrun]; rfl
  have hnobody : NobodyNavigates catalogue after := hplay ▸ (by decide +kernel)
  have hurl : after.url = "/list?page=2".toList := hplay ▸ (by decide +kernel)
  have hheard : after.heard 0 = [⟨"/list?page=2".toList, .replaceState, none⟩] :=
    hplay ▸ (by decide +kernel)
  obtain ⟨hpath, hquery, hhistory, -, -⟩ := hchange hchanged hnobody
  rw [decide_eq_true hchanged] at hrun
  refine ⟨hreached, after, hrun, ?_, hquery.trans hmerged, hurl ▸ hhistory, hheard,
    hagain hnobody (by decide)⟩
  exact hpath.trans (by decide +kernel)

end Page

end PageRouter
