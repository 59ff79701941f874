import PageRouter.Proofs.Destinations
import PageRouter.Proofs.Outside

/-!
# Refused commands

A command that is refused changes nothing.  Each command looks at everything that can go wrong before
it writes anything: a route is compiled, its tag is read and it is registered before the page gets the
new registry, and a location is found before the history gets it.  So whatever the page is like, and
whatever its hooks and listeners would have done, the page after a refusal is the page before it, with
everything that has happened on it (`refused_unchanged`).

One thing is gone all the same.  A stored route that is to be mounted is handed over, and does not
come back if it cannot be mounted (`Page.handedOver`).
-/

namespace PageRouter.Page

open Text

variable {page after : Page} {id : NodeId} {deeper : Deeper}

/-- The page that a command leaves behind if it is refused: a stored route that was to be mounted has
been handed over. -/
def handedOver (page : Page) : Command → Page
  | .mount _ _ (.stored name) =>
    { page with directory := { page.directory with stored := forget name page.directory.stored } }
  | _ => page

/-- Only mounting hands anything over. -/
lemma handedOver_click (page : Page) (click : Click) : page.handedOver (.click click) = page := rfl

/-- A command that is refused has done nothing. -/
def Spares (command : Command) (page : Page) (answer : Answer) (after : Page) : Prop :=
  answer.isRefusal → after = page.handedOver command

/-! ## Mounting and unmounting -/

/-- A route that cannot be mounted leaves the page as it is. -/
lemma attach_refuses (route : Route) (parent : Option (NodeId × Node)) :
    Leads false (attach deeper route parent) page fun result after =>
      ∀ error, result = .error error → after = page := by
  simp only [attach, leads_bind, leads_get]
  split
  · exact fun _ _ => rfl
  · exact fun _ _ => rfl
  · split
    · exact fun _ _ => rfl
    · simp only [leads_bind, leads_set, leads_discard, leads_pure]
      exact leads_of_forall fun _ _ _ _ hok => by cases hok

lemma mountAs_spares (name : Text) (parent : Option Text) (source : RouteSource) :
    Leads false (mountAs deeper name parent source) page
      (Spares (.mount name parent source) page) := by
  have htaken : Leads false (takeRoute source) page fun _ taken =>
      taken = page.handedOver (.mount name parent source) := by
    cases source with
    | fresh route => rfl
    | stored name => rfl
  simp only [mountAs, leads_bind]
  refine htaken.mono ?_
  rintro route taken rfl
  split
  · exact fun _ => rfl
  · simp only [leads_bind, leads_get]
    split
    · exact fun _ => rfl
    · simp only [leads_bind]
      refine (attach_refuses _ _).mono fun result mounted hmounted => ?_
      split
      · next error => exact fun _ => hmounted error rfl
      · -- the route is mounted, and its id is the answer
        simp only [leads_bind, leads_get, leads_modify]
        split
        · simp only [leads_bind, leads_discard, leads_pure]
          exact leads_of_forall fun _ _ _ hrefused => by cases hrefused
        · exact fun hrefused => by cases hrefused

/-- The answer is read from the page at the end. -/
lemma teardown_reads {node : Node} (hnode : page.nodes[id]? = some node) :
    Leads false (teardown deeper id) page fun route after =>
      route = after.nodes[id]?.map (·.route) := by
  simp only [teardown, leads_bind, leads_get, hnode]
  refine leads_ite (fun _ => ?_) fun _ => ?_
  · simp only [leads_bind, leads_get, leads_set, leads_modify, leads_pure]
    exact leads_of_forall fun _ _ _ => leads_of_forall fun _ _ _ => trivial
  · simp only [leads_get, leads_bind, leads_pure]

/-- Nodes stay in the list, so a node that is unmounted answers its route. -/
lemma teardown_answers {depth : Nat} {node : Node} {route : Option Route}
    (hnode : page.nodes[id]? = some node)
    (hrun : teardown (exec depth) id page = some (route, after)) : route.isSome := by
  have hevolves : evolving.Keeps (teardown (exec depth) id) :=
    Regime.keeps_teardown (.of_forall fun call _ => evolving_unbounded.keeps_exec depth call) id
  have hkept : Evolved page after := (hevolves page trivial).of_eq hrun |>.becomes
  have hfixture : page.fixtures[id]? = some node.fixture := by
    rw [fixtures, List.getElem?_map, hnode, Option.map_some]
  have hafter := getElem?_of_prefix hkept.fixtures hfixture
  rw [fixtures, List.getElem?_map, Option.map_eq_some_iff] at hafter
  obtain ⟨kept, hafter, -⟩ := hafter
  rw [(teardown_reads hnode).of_eq hrun, hafter]
  rfl

lemma unmountNamed_answers (depth : Nat) (name : Text) :
    Leads false (unmountNamed (exec depth) name) page fun route after =>
      route = none → after = page := by
  simp only [unmountNamed, leads_bind, leads_get]
  split
  · exact fun _ => rfl
  · next id node hname =>
    have hnode : page.nodes[id]? = some node := nodes_of_mounted? hname
    simp only [leads_bind, forgetMounted, leads_modify]
    refine leads_of_forall fun route after hrun hnone => ?_
    have hsome : route.isSome := teardown_answers (by exact hnode) hrun
    rw [hnone] at hsome
    cases hsome

/-! ## All commands -/

/-- A route that is not in the registry leaves it as it is when it is taken out. -/
lemma remove_of_not_found {registry : Registry} {route : Route}
    (h : (registry.remove route).1 = false) : (registry.remove route).2 = registry := by
  unfold Registry.remove at h ⊢
  split
  · rfl
  · next id hid =>
    simp only [hid, Registry.contains, Registry.get?, Option.isSome_eq_false_iff, Option.isNone_iff_eq_none,
      List.find?_eq_none, decide_eq_true_eq] at h
    have hkept : registry.entries.filter (·.id ≠ id) = registry.entries := by
      rw [List.filter_eq_self]
      exact fun entry hentry => decide_eq_true (h entry hentry)
    simp only [hkept]

lemma withMounted_spares {name : Text} {action : NodeId → Node → PageM Answer} {command : Command}
    (hsame : page.handedOver command = page)
    (haction : ∀ id node, page.mounted? name = some (id, node) →
      Leads false (action id node) page (Spares command page)) :
    Leads false (withMounted name action) page (Spares command page) := by
  simp only [withMounted, leads_bind, leads_get]
  split
  · next id node hname => exact haction id node hname
  · exact fun _ => hsame.symm

lemma withStored_spares {name : Text} {action : Route → PageM Answer} {command : Command}
    (hsame : page.handedOver command = page)
    (haction : ∀ route, Leads false (action route) page (Spares command page)) :
    Leads false (withStored name action) page (Spares command page) := by
  simp only [withStored, leads_bind, leads_get]
  split
  · next route _ => exact haction route
  · exact fun _ => hsame.symm

/-- A navigation that is refused has not begun. -/
lemma navigation_spares {command : Command} (hnavigates : command.navigates) :
    Leads false (perform deeper command) page (Spares command page) := by
  have hsame : page.handedOver command = page := by cases command <;> first | rfl | cases hnavigates
  refine leads_of_forall fun answer after hrun hrefused => ?_
  rcases perform_navigates deeper page hnavigates with
    ⟨answer', -, hperform⟩ | ⟨history, kind, source, answer', haccepted, hperform⟩
  · rw [hperform] at hrun
    cases hrun
    exact hsame.symm
  · obtain rfl : answer = answer' := announce_answers (hperform.symm.trans hrun)
    rw [haccepted] at hrefused
    cases hrefused

/-- **Every command** that is refused has done nothing. -/
lemma perform_spares (depth : Nat) (command : Command) :
    Leads false (perform (exec depth) command) page (Spares command page) := by
  by_cases hnavigates : command.navigates
  · exact navigation_spares hnavigates
  cases command with
  | setRoot root =>
      simp only [perform, setRoot, leads_bind, leads_get]
      split
      · exact fun _ => rfl
      · exact fun hrefused => by cases hrefused
  | mount name parent source => exact mountAs_spares name parent source
  | unmount name =>
      simp only [perform, leads_bind]
      refine (unmountNamed_answers depth name).mono fun route after hafter => ?_
      split
      · exact fun _ => hafter rfl
      · exact fun hrefused => by cases hrefused
  | drop name =>
      simp only [perform, leads_bind, leads_discard, leads_pure]
      exact leads_of_forall fun _ _ _ hrefused => by cases hrefused
  | refresh name =>
      refine withMounted_spares rfl fun id node _ => ?_
      simp only [leads_bind, leads_discard, leads_pure]
      exact leads_of_forall fun _ _ _ hrefused => by cases hrefused
  | setCacheCount name count =>
      exact withMounted_spares rfl fun _ _ _ hrefused => by cases hrefused
  | lastMatch name => exact withMounted_spares rfl fun _ _ _ _ => rfl
  | showRoute name => exact withStored_spares rfl fun _ _ => rfl
  | setPattern name pattern =>
      refine withStored_spares rfl fun route => ?_
      split
      · exact fun _ => rfl
      · exact fun hrefused => by cases hrefused
  | register name =>
      refine withStored_spares rfl fun route => ?_
      simp only [registerStored, leads_bind, leads_get]
      split
      · exact fun _ => rfl
      · exact fun hrefused => by cases hrefused
  | unregister name =>
      refine withStored_spares rfl fun route => ?_
      simp only [leads_bind, leads_get, leads_set, leads_pure]
      intro hrefused
      rw [remove_of_not_found (by simpa [Answer.isRefusal] using hrefused)]
      rfl
  | matchRoute name => exact withStored_spares rfl fun _ _ => rfl
  | watchTail name route reactions =>
      refine withMounted_spares rfl fun id node _ => ?_
      simp only [leads_bind, leads_pure]
      exact leads_of_forall fun _ _ _ hrefused => by cases hrefused
  | unwatch name =>
      simp only [perform, unwatchNamed, leads_bind, leads_get]
      split
      · exact fun _ => rfl
      · exact fun hrefused => by cases hrefused
  | watchLocation name reactions =>
      simp only [perform, leads_bind, leads_pure]
      exact leads_of_forall fun _ _ _ hrefused => by cases hrefused
  | describe what =>
      cases what with
      | controller => exact fun _ => rfl
      | router => exact fun _ => rfl
      | route name => exact withMounted_spares rfl fun _ _ _ _ => rfl
  | intercept | store | veto | setHooks => exact fun hrefused => by cases hrefused
  | _ => exact absurd rfl hnavigates

/-- A click that is refused is left to the browser as it was found. -/
lemma click_ignores {depth : Nat} {click : Click} {answer : Answer}
    (hrun : perform (exec depth) (.click click) page = some (answer, after))
    (hrefused : answer.isRefusal) : ∃ reason, answer = .ignored reason click.prevented := by
  have hclick : Leads false (perform (exec depth) (.click click)) page fun answer _ =>
      answer.isRefusal → ∃ reason, answer = .ignored reason click.prevented := by
    simp only [perform, handleClick, leads_bind, leads_get]
    split
    · next reason _ => exact fun _ => ⟨reason, rfl⟩
    · simp only [leads_bind, leads_pure]
      exact leads_of_forall fun _ _ _ hrefused => by cases hrefused
  exact hclick.of_eq hrun hrefused

/-- **A refused command changes nothing**, whether it comes from outside or from a hook or a listener:
the page stays as it is, with its history, registry, nodes, document and record, and a click that is
not followed stays as it was.  Only a stored route that was to be mounted is gone. -/
theorem refused_unchanged {depth : Nat} {command : Command} {answer : Answer}
    (hrun : exec depth (.command command) page = some (answer, after))
    (hrefused : answer.isRefusal) :
    after = page.handedOver command ∧
      ∀ click, command = .click click → ∃ reason, answer = .ignored reason click.prevented := by
  cases depth with
  | zero => cases hrun
  | succ depth =>
      refine ⟨(perform_spares depth command).of_eq hrun hrefused, ?_⟩
      rintro click rfl
      exact click_ignores hrun hrefused

/-- A page with a route at `/app/users/:id`, and a stored route that shows no element. -/
def shelved : Page :=
  (lone "app/" "/users/:id").play
    (.store "s".toList { Route.new with pattern := some "/x".toList })

/-- A command from outside is a call like those of hooks and listeners. -/
lemma run_eq_exec (page : Page) (command : Command) :
    page.run command = exec (page.depthFor command) (.command command) page := rfl

/-- The route without an element is not mounted and is gone from the store; a link that leads out of
the root is left to the browser, and nothing is gone. -/
theorem refused_unchanged_shelved :
    (∃ answer after, shelved.run (.mount "m".toList none (.stored "s".toList)) = some (answer, after) ∧
      answer.isRefusal ∧ after = shelved.handedOver (.mount "m".toList none (.stored "s".toList))) ∧
    ∃ reason, shelved.run (.click (plainClick "/about")) = some (.ignored reason false, shelved) := by
  have hmount : (shelved.run (.mount "m".toList none (.stored "s".toList))).map (·.1.isRefusal)
      = some true := by decide +kernel
  have hclick : (shelved.run (.click (plainClick "/about"))).map (·.1.isRefusal)
      = some true := by decide +kernel
  obtain ⟨⟨answer, after⟩, hrun, hrefused⟩ := Option.map_eq_some_iff.1 hmount
  obtain ⟨⟨ignored, left⟩, hleft, hignored⟩ := Option.map_eq_some_iff.1 hclick
  have hcall := hrun
  have hleftCall := hleft
  rw [run_eq_exec] at hcall hleftCall
  obtain ⟨hsame, hbrowser⟩ := refused_unchanged hleftCall hignored
  obtain ⟨reason, rfl⟩ := hbrowser _ rfl
  rw [handedOver_click] at hsame
  rw [hsame] at hleft
  exact ⟨⟨answer, after, hrun, hrefused, (refused_unchanged hcall hrefused).1⟩, reason, hleft⟩

end PageRouter.Page
