import PageRouter.Proofs.Endings
import PageRouter.Proofs.Rendering
import PageRouter.Proofs.Staying

/-!
# Where the values of a navigation come from

A navigation to a mounted node fills in the patterns of the nodes around it and its own.  All of
them are filled in with the same values: those that the caller gives, else what the node has found
itself, else what the nodes around it had found when the node was given its place (`Node.value?`).

`Page.navigate_resolves` says what comes of it.  If a named parameter outside all groups has no
value in any of these patterns, the navigation is refused, and all such parameters are reported in
the order in which the patterns stand behind each other.  If not, the page goes to the root, the
patterns as they are filled in (`Pattern.rendering`), and what is given to go on with; and it does
so as it would go anywhere.

Whatever hooks and listeners do, the pages on the way are built as they should be
(`exec_evolves`), so the same is said of navigations that they ask for.
-/

namespace PageRouter

open Text

/-! ## Values -/

/-- **The value of a parameter in a navigation**: the caller's, or what the node has found, if it
matches, or what the tail that it is matched against brings along. -/
def Node.value? (node : Node) (options : NavigateOptions) (name : Text) : Option Text :=
  let own := node.lastMatch.bind fun found => (found.params.get? name).join
  let outer := match node.route.place with
    | .child (some tail) => (tail.params.get? name).join
    | .child none | .root => none
  (options.params.get? name).or (own.or outer)

lemma get?_navigationValues (node : Node) (options : NavigateOptions) :
    (Page.navigationValues node options).get? = node.value? options := by
  funext name
  have hown : (Outcome.params node.lastMatch).present.get? name =
      node.lastMatch.bind fun found => (found.params.get? name).join := by
    rw [Params.get?_present]
    cases node.lastMatch <;> rfl
  rw [Page.navigationValues, Params.get?_overriddenBy, Params.get?_overriddenBy, hown, Node.value?]
  cases node.route.place with
  | root => rfl
  | child tail =>
      cases tail with
      | none => rfl
      | some tail => rw [Params.get?_present]

/-- A location with its query, if there is one. -/
lemma Query.append_written (path : Text) (query : Query) :
    path ++ searchOf query.written? = if query = [] then path else path ++ '?' :: write query := by
  rw [written?]
  split
  · exact List.append_nil path
  · rfl

/-- The command that visits a location in the way that a navigation goes there. -/
def NavigateOptions.visit (options : NavigateOptions) (url : Text) (source : Option Text) :
    Command :=
  if options.replaces then .replace url source else .push url source

lemma NavigateOptions.weight_visit (options : NavigateOptions) (url : Text)
    (source : Option Text) : (options.visit url source).weight = 1 := by
  rw [visit]
  split <;> rfl

namespace Page

variable {page : Page} {name : Text} {id : NodeId} {node : Node} {patterns : List Text}
  {options : NavigateOptions}

/-! ## The patterns around a node -/

/-- **The patterns down to a node**: those of the nodes around it, the outermost first, and its
own. -/
inductive Descent (page : Page) : List Text → NodeId → Prop
  | top {id : NodeId} {node : Node} : page.nodes[id]? = some node →
      node.subscription.signal = .location → Descent page [node.pattern.text] id
  | nested {above : List Text} {parent id : NodeId} {node : Node} : Descent page above parent →
      page.nodes[id]? = some node → node.subscription.signal = .tailOf parent →
      Descent page (above ++ [node.pattern.text]) id

lemma exists_of_fixtures {fixture : Fixture} (h : page.fixtures[id]? = some fixture) :
    ∃ node, page.nodes[id]? = some node ∧ node.fixture = fixture := by
  rw [fixtures, List.getElem?_map] at h
  exact Option.map_eq_some_iff.1 h

/-- The lineage of a nested node is told by the node around it. -/
lemma Built.exists_around (h : page.Built) (hnode : page.nodes[id]? = some node) {parent : NodeId}
    (hsignal : node.subscription.signal = .tailOf parent) : ∃ around,
    page.nodes[parent]? = some around ∧
      node.lineage = around.lineage ++ [around.pattern.text] := by
  obtain ⟨fixture, hfixture, hlineage⟩ := (h.fits_node hnode).nested parent hsignal
  obtain ⟨around, haround, rfl⟩ := exists_of_fixtures hfixture
  exact ⟨around, haround, hlineage⟩

/-- **A node keeps the patterns** of the nodes around it. -/
lemma Descent.eq_lineage (h : page.Descent patterns id) (hbuilt : page.Built)
    (hnode : page.nodes[id]? = some node) : patterns = node.lineage ++ [node.pattern.text] := by
  induction h generalizing node with
  | top htop hsignal =>
      obtain rfl := Option.some.inj (hnode.symm.trans htop)
      have hnone : node.lineage = [] := (hbuilt.fits_node hnode).top hsignal
      rw [hnone, List.nil_append]
  | nested _ hnested hsignal ih =>
      obtain rfl := Option.some.inj (hnode.symm.trans hnested)
      obtain ⟨around, haround, hlineage⟩ := hbuilt.exists_around hnode hsignal
      rw [ih haround, hlineage]

/-- Each node stands at the end of a descent. -/
lemma Built.exists_descent (h : page.Built) (hnode : page.nodes[id]? = some node) :
    ∃ patterns, page.Descent patterns id := by
  -- the lineage of a node is longer than that of the node around it
  induction hlength : node.lineage.length using Nat.strong_induction_on generalizing id node with
  | h length ih =>
      cases hsignal : node.subscription.signal with
      | location => exact ⟨_, .top hnode hsignal⟩
      | tailOf parent =>
          obtain ⟨around, haround, hlineage⟩ := h.exists_around hnode hsignal
          have hless : around.lineage.length < length := by
            rw [← hlength, hlineage, List.length_append]
            exact Nat.lt_succ_self _
          obtain ⟨above, habove⟩ := ih _ hless haround rfl
          exact ⟨_, .nested habove hnode hsignal⟩

/-- What stands in a descent are patterns. -/
lemma Descent.exists_pattern (h : page.Descent patterns id) {text : Text}
    (htext : text ∈ patterns) : ∃ pattern : Pattern, pattern.text = text := by
  induction h with
  | @top _ node _ _ => exact ⟨node.pattern, (List.mem_singleton.1 htext).symm⟩
  | @nested _ _ _ node _ _ _ ih =>
      rcases List.mem_append.1 htext with htext | htext
      · exact ih htext
      · exact ⟨node.pattern, (List.mem_singleton.1 htext).symm⟩

/-! ## Navigations -/

/-- **The location of a node**, by the patterns down to it; or the parameters that have no value. -/
lemma Descent.navigationUrl_eq (h : page.Descent patterns id) (hbuilt : page.Built)
    (hnode : page.nodes[id]? = some node) (options : NavigateOptions) :
    navigationUrl page.root node options =
      (let missing := patterns.flatMap (Pattern.missed (node.value? options))
      let path := joinPaths (page.root :: patterns.map (Pattern.rendering (node.value? options)) ++
        options.tail.toList)
      if missing = [] then .ok (path ++ searchOf options.query.written?)
      else .error (.unresolvedParams path missing)) := by
  have hpattern : node.route.pattern = some node.pattern.text := (hbuilt.fits_node hnode).text
  have hfilled :
      (node.lineage ++ [node.pattern.text]).map (fill · (navigationValues node options)) =
        patterns.map fun text => ⟨Pattern.rendering (node.value? options) text,
          Pattern.missed (node.value? options) text⟩ := by
    rw [← h.eq_lineage hbuilt hnode]
    refine List.map_congr_left fun text htext => ?_
    obtain ⟨pattern, rfl⟩ := h.exists_pattern htext
    rw [pattern.fill_eq, get?_navigationValues]
  simp only [navigationUrl, hpattern, hfilled, List.map_map, List.flatMap_map, Function.comp_def,
    ne_eq, ite_not, Query.append_written]

lemma perform_visit (deeper : Deeper) (options : NavigateOptions) (url : Text)
    (source : Option Text) : perform deeper (options.visit url source) =
      (do goTo deeper options.replaces url source; return .nothing) := by
  rw [NavigateOptions.visit]
  cases options.replaces <;> rfl

/-- **A navigation that finds its location** goes there as one goes anywhere. -/
lemma perform_navigate_visit (deeper : Deeper) (hname : page.mounted? name = some (id, node))
    {url : Text} (hurl : navigationUrl page.root node options = .ok url) :
    perform deeper (.navigate name options) page =
      (perform deeper (options.visit url (node.route.id.map RouteId.text)) page).map
        fun result => (.text url, result.2) := by
  rw [perform_visit]
  simp only [perform, withMounted, navigateTo, bind_apply, get_apply, Option.bind_some, hname,
    hurl]
  cases goTo deeper options.replaces url (node.route.id.map RouteId.text) page <;> rfl

/-- **A navigation that lacks values** is refused. -/
lemma perform_navigate_failed (deeper : Deeper) (hname : page.mounted? name = some (id, node))
    {error : RouterError} (hurl : navigationUrl page.root node options = .error error) :
    perform deeper (.navigate name options) page = some (.failed error, page) := by
  simp only [perform, withMounted, navigateTo, bind_apply, get_apply, Option.bind_some, hname,
    hurl]
  rfl

/-- Commands of the same weight are carried out to the same depth. -/
lemma exists_run_eq_perform (page : Page) (weight : Nat) : ∃ depth, ∀ command : Command,
    command.weight = weight → page.run command = perform (exec depth) command page := by
  let size := page.weight + weight + page.nodes.length + page.queue.pending.length + 4
  have hpos : 0 < size := Nat.succ_pos _
  refine ⟨size * size * size * size - 1, fun command hweight => ?_⟩
  have hdepth : page.depthFor command = size * size * size * size - 1 + 1 := by
    rw [Nat.sub_add_cancel (Nat.mul_pos (Nat.mul_pos (Nat.mul_pos hpos hpos) hpos) hpos), depthFor,
      hweight]
  rw [run, hdepth]
  rfl

/-- **Navigations resolve parameters by one rule.**  Take the patterns down to a mounted node, from
the outermost to its own.  A parameter in them is missed if it has no value and stands in no group.

A navigation to the node is refused for lack of values exactly if a parameter is missed.  Then all
that are missed are reported, pattern by pattern and from left to right, and nothing has changed.
Otherwise the navigation does what a visit of a location does, and answers the location: the root,
the patterns as they are filled in, and what is given to go on with, joined, and the query behind
them.  This holds at any moment of a run, whatever carries out the calls of the next level; and a
navigation that is asked for from outside comes to an end. -/
theorem navigate_resolves (h : page.Built) (hname : page.mounted? name = some (id, node))
    (options : NavigateOptions) : ∃ patterns, page.Descent patterns id ∧
    let missed := patterns.flatMap (Pattern.missed (node.value? options))
    let path := joinPaths (page.root ::
      patterns.map (Pattern.rendering (node.value? options)) ++ options.tail.toList)
    let url := path ++ searchOf options.query.written?
    let visit := options.visit url (node.route.id.map RouteId.text)
    let refusal : Answer × Page := (.failed (.unresolvedParams path missed), page)
    (∀ deeper, perform deeper (.navigate name options) page =
      if missed = [] then (perform deeper visit page).map fun result => (.text url, result.2)
      else some refusal) ∧
    (page.Reached →
      ((∃ path names after, page.run (.navigate name options) =
        some (.failed (.unresolvedParams path names), after)) ↔ missed ≠ []) ∧
      (missed ≠ [] → page.run (.navigate name options) = some refusal) ∧
      (missed = [] → ∃ answer after, page.run visit = some (answer, after) ∧
        page.run (.navigate name options) = some (.text url, after))) := by
  have hnode : page.nodes[id]? = some node := nodes_of_mounted? hname
  obtain ⟨patterns, hdescent⟩ := h.exists_descent hnode
  have hurl := hdescent.navigationUrl_eq h hnode options
  refine ⟨patterns, hdescent, ?_⟩
  intro missed path url visit refusal
  have hperform : ∀ deeper, perform deeper (.navigate name options) page =
      if missed = [] then (perform deeper visit page).map fun result => (.text url, result.2)
      else some refusal := by
    intro deeper
    split
    · next hnone => exact perform_navigate_visit deeper hname (hurl.trans (if_pos hnone))
    · next hsome => exact perform_navigate_failed deeper hname (hurl.trans (if_neg hsome))
  obtain ⟨depth, hdepth⟩ := page.exists_run_eq_perform 1
  have hrun : page.run (.navigate name options) =
      if missed = [] then (page.run visit).map fun result => (.text url, result.2)
      else some refusal := by
    rw [hdepth _ rfl, hdepth visit (options.weight_visit ..), hperform]
  refine ⟨hperform, fun hreached => ⟨⟨?_, fun hsome => ?_⟩, fun hsome => ?_, fun hnone => ?_⟩⟩
  · rintro ⟨other, names, after, hfailed⟩ hnone
    rw [hrun, if_pos hnone, Option.map_eq_some_iff] at hfailed
    obtain ⟨result, -, hanswer⟩ := hfailed
    cases hanswer
  · exact ⟨path, missed, page, hrun.trans (if_neg hsome)⟩
  · exact hrun.trans (if_neg hsome)
  · obtain ⟨⟨answer, after⟩, hvisit⟩ := Option.isSome_iff_exists.1 (run_returns hreached visit)
    exact ⟨answer, after, hvisit, hrun.trans (by rw [if_pos hnone, hvisit]; rfl)⟩

/-- The posts of one user. -/
def posts : Page := couple "/users/ann/posts" "/users/:user/*rest" "/posts/:post(/:reply)"

def ninth : NavigateOptions where
  params := .ofList [("post".toList, "9".toList)]
  query := []
  tail := none
  replaces := false

/-- The user is known from the location, the post has to be given, and the reply can be left out. -/
theorem navigate_resolves_posts : posts.Built ∧
    ∃ id node, posts.mounted? "inner".toList = some (id, node) ∧
      posts.run (.navigate "inner".toList .plain) =
        some (.failed (.unresolvedParams "/users/ann/posts/:post".toList ["post".toList]), posts) ∧
      ∃ after, posts.run (.navigate "inner".toList ninth) =
        some (.text "/users/ann/posts/9".toList, after) := by
  have hreached : posts.Reached := (session_couple ..).reached
  have hseen : (posts.mounted? "inner".toList).map (fun found =>
      let node := found.2
      let patterns := node.lineage ++ [node.pattern.text]
      ((patterns.flatMap (Pattern.missed (node.value? .plain)),
        patterns.map (Pattern.rendering (node.value? .plain))),
        patterns.flatMap (Pattern.missed (node.value? ninth)),
        patterns.map (Pattern.rendering (node.value? ninth)))) =
      some ((["post".toList], ["/users/ann/".toList, "/posts/:post".toList]),
        [], ["/users/ann/".toList, "/posts/9".toList]) := by
    decide +kernel
  have hroot : posts.root = ['/'] := by decide +kernel
  obtain ⟨⟨id, node⟩, hname, hseen⟩ := Option.map_eq_some_iff.1 hseen
  simp only [Prod.mk.injEq] at hseen
  obtain ⟨⟨hmissed, hrendered⟩, hmissed', hrendered'⟩ := hseen
  have hbuilt := hreached.built
  obtain ⟨patterns, hdescent, -, hplain⟩ := navigate_resolves hbuilt hname .plain
  obtain ⟨patterns', hdescent', -, hninth⟩ := navigate_resolves hbuilt hname ninth
  have hnode := nodes_of_mounted? hname
  obtain rfl := hdescent.eq_lineage hbuilt hnode
  obtain rfl := hdescent'.eq_lineage hbuilt hnode
  rw [hmissed, hrendered, hroot] at hplain
  rw [hmissed', hrendered', hroot] at hninth
  obtain ⟨answer, after, -, hrun⟩ := (hninth hreached).2.2 rfl
  exact ⟨hbuilt, id, node, hname, (hplain hreached).2.1 (List.cons_ne_nil _ _), after, hrun⟩

end Page

end PageRouter
