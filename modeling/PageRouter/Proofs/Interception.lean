import PageRouter.Proofs.Endings
import PageRouter.Proofs.Ledger
import PageRouter.Proofs.Outside

/-!
# No link is missed

A click is followed if some entry of the registry matches the whole location of its link, while nested
nodes match what is left of it on the way down.  The two agree where it matters: a node that matches
has a node around it that matches, up to a top-level node, which is matched against the whole location
(`exists_top_of_topDown`) and is in the registry as long as it is mounted (`Ledger.handles`).  So if a
location makes any mounted node match, however deep, a plain click on a link to it is followed
(`interception_complete`).  This takes an entry for each node: two routes with one id share theirs, and
it goes with the first of them (`interception_misses`).
-/

namespace PageRouter

variable {seats : List Seat} {url root : Text} {id : NodeId} {found : Match}

/-- **Whoever matches hangs below a top-level node that matches.** -/
lemma exists_top_of_topDown (hrising : Rising seats)
    (h : (topDown url root seats)[id]? = some (some found)) :
    ∃ top seat, seats[top]? = some seat ∧ seat.mounted ∧ seat.isTop ∧ Below seats top id ∧
      (seat.pattern.matchPath (stripRoot url root)).isSome := by
  induction id using Nat.strong_induction_on generalizing found with
  | _ id ih =>
      have hid : id < seats.length := by
        rw [← length_topDown url root]
        exact (List.getElem?_eq_some_iff.1 h).1
      obtain ⟨seat, hseat⟩ : ∃ seat, seats[id]? = some seat := ⟨_, List.getElem?_eq_getElem hid⟩
      rw [getElem?_topDown hrising hseat, Option.some.injEq, learns] at h
      split at h
      · next hmounted =>
        cases hsignal : seat.subscription.signal with
        | location =>
            rw [hsignal] at h
            have htop : seat.isTop := decide_eq_true hsignal
            exact ⟨id, seat, hseat, hmounted, htop, .self, Option.isSome_of_eq_some h⟩
        | tailOf parent =>
            -- a nested node matches only from a tail, which the node around it has from a match
            simp only [hsignal] at h
            cases hparent : ((topDown url root seats)[parent]?).join with
            | none => rw [hparent] at h; cases h
            | some around =>
                obtain ⟨top, held, htop, hheld, his, hbelow, hmatches⟩ :=
                  ih parent (hrising id seat parent hseat hsignal) (Option.join_eq_some_iff.1 hparent)
                exact ⟨top, held, htop, hheld, his,
                  .nested hseat ⟨hmounted, hsignal⟩ hbelow, hmatches⟩
      · cases h

namespace Page

variable {page : Page} {click : Click} {anchor : Anchor}

/-- **A mounted node is in the registry**: what its pattern matches is handled. -/
lemma Ledger.handles (h : Ledger page .none) {seat : Seat} (hseat : page.seats[id]? = some seat)
    (hmounted : seat.mounted) (hmatches : (seat.pattern.matchPath (stripRoot url root)).isSome) :
    page.registry.handles url root := by
  obtain ⟨node, hnode, rfl⟩ := exists_node hseat
  have hlisted : (node.route.id, node.pattern) ∈
      page.registry.entries.map fun entry => (some entry.id, entry.pattern) := by
    rw [h.listed]
    exact List.mem_map.2 ⟨node, List.mem_filter.2 ⟨List.mem_of_getElem? hnode, hmounted⟩, rfl⟩
  obtain ⟨entry, hentry, hsame⟩ := List.mem_map.1 hlisted
  have hpattern : entry.pattern = node.pattern := congrArg Prod.snd hsame
  exact List.any_eq_true.2 ⟨entry, hentry, hpattern ▸ hmatches⟩

/-- A click that is followed says where it has led. -/
lemma click_navigates {depth : Nat} {replaces : Bool}
    (h : page.interceptClick click = .ok (url, replaces)) :
    Leads false (perform (exec depth) (.click click)) page fun answer _ =>
      answer = .navigated url (if replaces then .replaceState else .pushState) true := by
  simp only [perform, handleClick, leads_bind, leads_get, h, leads_pure]
  exact leads_of_forall fun _ _ _ => trivial

/-- **No link is missed**: if a location makes any mounted route match, however deep in the forest, the
registry handles it.  So a plain click on a link that leads there is followed and never left to the
browser, whatever hooks and listeners do on the way. -/
theorem interception_complete (h : Led Command.tends page) :
    (∀ (url root : Text) (id : NodeId) (found : Match),
      (topDown url root page.seats)[id]? = some (some found) → page.registry.handles url root) ∧
    ∀ (click : Click) (anchor : Anchor) (url : Text) (id : NodeId) (found : Match),
      page.interceptsLinks → click.screen = .ok anchor → page.resolve anchor.href = .ok url →
      (topDown url page.root page.seats)[id]? = some (some found) →
      ∃ after, page.run (.click click) =
        some (.navigated url (if anchor.replaces then .replaceState else .pushState) true, after) := by
  have hhandles : ∀ (url root : Text) (id : NodeId) (found : Match),
      (topDown url root page.seats)[id]? = some (some found) → page.registry.handles url root := by
    intro url root id found hmatches
    obtain ⟨top, seat, hseat, hmounted, -, -, hpath⟩ := exists_top_of_topDown h.sound.elder hmatches
    exact h.ledger.handles hseat hmounted hpath
  refine ⟨hhandles, fun click anchor url id found hintercepts hscreen hresolve hmatches => ?_⟩
  have hclick : page.interceptClick click = .ok (url, anchor.replaces) :=
    interceptClick_eq_ok_iff.2
      ⟨hintercepts, anchor, hscreen, hresolve, hhandles url page.root id found hmatches, rfl⟩
  obtain ⟨⟨answer, after⟩, hrun⟩ := Option.isSome_iff_exists.1 (run_returns h.reached (.click click))
  obtain ⟨depth, hperform⟩ := run_eq_some hrun
  obtain rfl : answer = .navigated url (if anchor.replaces then .replaceState else .pushState) true :=
    (click_navigates hclick).of_eq hperform
  exact ⟨after, hrun⟩

/-- A link that only a route two levels down has a word for is followed, and a location below another
root is handled below that root. -/
theorem interception_complete_grove :
    (∃ after, grove.run (.click (plainClick "/p/one/two")) =
      some (.navigated "/p/one/two".toList .pushState true, after)) ∧
    grove.registry.handles "/app/p/one/two".toList "/app".toList := by
  have hled : Led Command.tends grove := (Led.start _).plays fun command hcommand => by
    revert command
    decide
  obtain ⟨hhandles, hfollows⟩ := interception_complete hled
  have hhere : ((topDown "/p/one/two".toList grove.root grove.seats)[3]?.join).isSome := by
    decide +kernel
  have hthere : ((topDown "/app/p/one/two".toList "/app".toList grove.seats)[3]?.join).isSome := by
    decide +kernel
  obtain ⟨found, hfound⟩ := Option.isSome_iff_exists.1 hhere
  obtain ⟨found', hfound'⟩ := Option.isSome_iff_exists.1 hthere
  have hresolve : grove.resolve "/p/one/two".toList = .ok "/p/one/two".toList := by decide +kernel
  refine ⟨?_, hhandles _ _ 3 found' (Option.join_eq_some_iff.1 hfound')⟩
  exact hfollows (plainClick "/p/one/two") _ _ 3 found (by decide +kernel) rfl hresolve
    (Option.join_eq_some_iff.1 hfound)

/-- One of the two routes with one id has been dropped again. -/
def bereft : Page := copied.play (.drop "b".toList)

/-- **Two routes with one id have one entry.**  When one of them goes, the entry goes; the other stays
mounted and matches, but nothing handles its location, and a click on a link to it is left to the
browser. -/
theorem interception_misses : ∃ found after,
    (single.run (.unmount "a".toList)).map (·.1) = some (.route returned) ∧
    Session true bereft ∧ bereft.Heeds (fun _ => false) ∧
    bereft.seats.map (·.mounted) = [false, false, true] ∧
    (topDown "/a".toList bereft.root bereft.seats)[2]? = some (some found) ∧
    bereft.registry.handles "/a".toList bereft.root = false ∧ bereft.interceptsLinks ∧
    bereft.run (.click (plainClick "/a")) = some (.ignored .noMatchingRoute false, after) := by
  have hmatches : ((topDown "/a".toList bereft.root bereft.seats)[2]?.join).isSome := by decide +kernel
  obtain ⟨found, hfound⟩ := Option.isSome_iff_exists.1 hmatches
  have hanswer : (bereft.run (.click (plainClick "/a"))).map (·.1) =
      some (.ignored .noMatchingRoute false) := by decide +kernel
  obtain ⟨⟨_, after⟩, hrun, rfl⟩ := Option.map_eq_some_iff.1 hanswer
  exact ⟨found, after, by decide +kernel, copied_session.play rfl (.inl rfl),
    .of_scripts (by decide +kernel) (by decide +kernel), by decide +kernel,
    Option.join_eq_some_iff.1 hfound, by decide +kernel, by decide +kernel, hrun⟩

end Page

end PageRouter
