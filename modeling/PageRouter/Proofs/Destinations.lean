import PageRouter.Proofs.Lineage
import PageRouter.Proofs.Queries
import PageRouter.Proofs.Quiet
import PageRouter.Proofs.Trails

/-!
# Where a navigation to a route leads

A navigation to a mounted node answers the location that its pattern and those around it are filled
in to (`navigationUrl`), and tells it to everyone.  On a quiet page it always ends there, and
afterwards all nodes are in step with that location (`Session.navigates`).

On its way to the node's own pattern a filled path has the root put in front and its query behind,
is visited, and loses both again.  All of this undoes itself (`Neat.stripRoot_joinPaths`,
`Query.parse_write`), but `joinPaths` leaves out empty segments and a slash at the end.  So the node
matches exactly if its pattern generates the path without these (`navigate_arrives`); not every
pattern does, and not every root is found again (`navigate_misses`).
-/

namespace PageRouter

open Text

/-! ## Histories -/

namespace History

/-- The history after a navigation, which may replace the current location. -/
def arrive (history : History) (replaces : Bool) (url : Text) : History :=
  if replaces then history.replace url else history.push url

lemma location_arrive (history : History) (replaces : Bool) (url : Text) :
    (history.arrive replaces url).location = url := by
  have hposition := history.position_lt
  cases replaces with
  | true => simp [arrive, replace, location]
  | false =>
      have hlength :
          (history.entries.take (history.position + 1)).length = history.position + 1 := by
        rw [List.length_take]
        omega
      simp [arrive, push, location, List.getElem_append_right, hlength]

end History

/-! ## Paths that are matched with a query behind them -/

/-- The query as it stands in a location: without names and values there is none. -/
def Query.written? (query : Query) : Option Text := if query = [] then none else some (write query)

/-- **The query that was written is read back** from a match. -/
lemma Match.queryParams_of_written {found : Match} {query : Query}
    (h : found.query = query.written?) : found.queryParams = query := by
  rw [Match.queryParams, h, Query.written?]
  by_cases hnil : query = []
  · rw [if_pos hnil, hnil]
  · rw [if_neg hnil]
    exact Query.parse_write query

namespace Pattern

variable {pattern : Pattern} {path : Text} {values : Params Text}

/-- A path with a query behind it matches exactly if the pattern generates the path. -/
lemma isSome_matchPath_iff (hplain : '?' ∉ pattern.text) (hpath : '?' ∉ path)
    (query : Option Text) :
    (pattern.matchPath (path ++ searchOf query)).isSome ↔ pattern.shape.Generates path := by
  constructor
  · intro hsome
    obtain ⟨found, hfound⟩ := Option.isSome_iff_exists.1 hsome
    obtain ⟨choices, reading, ⟨hderives, -⟩, -⟩ := exists_of_matchPath hfound
    obtain ⟨before, hreads⟩ := hderives.exists_reads
    have hparts := congrArg pathPart hderives.text_eq
    rw [pathPart_append hpath, pathPart_append (hderives.not_mem_path hplain)] at hparts
    exact ⟨before, _, hparts ▸ hreads⟩
  · rintro ⟨before, captures, hreads⟩
    have hderives : pattern.Derives (path ++ searchOf query) _ ⟨captures, path, query⟩ :=
      derives_iff.2 ⟨before, hreads, rfl, rfl⟩
    exact Option.isSome_iff_ne_none.2 fun hnone => matchPath_eq_none_iff.1 hnone _ _ hderives

/-! ## Filling in -/

/-- A filled path is generated. -/
lemma generates_fill (hgiven : Token.Given values pattern.shape.leaves) :
    pattern.shape.Generates (fill pattern.text values).path := by
  rw [fill, ← pattern.shape_eq, Shape.fill_of_given hgiven]
  exact ⟨_, _, Shape.reads_full hgiven false⟩

/-- What is filled in holds no `?`. -/
lemma not_mem_fill (hplain : '?' ∉ pattern.text)
    (hgiven : Token.Given values pattern.shape.leaves) : '?' ∉ (fill pattern.text values).path := by
  obtain ⟨choices, captures, hreads⟩ := generates_fill hgiven
  exact hreads.not_mem_path fun text hliteral hmem => hplain (mem_text_of_literal hliteral hmem)

/-- With all values given, it does not matter which values they are put on top of. -/
lemma fill_overriddenBy (lower : Params Text)
    (hgiven : Token.Given values pattern.shape.leaves) :
    fill pattern.text (lower.overriddenBy values) = ⟨(fill pattern.text values).path, []⟩ := by
  have hget : ∀ name, .named name ∈ pattern.shape.leaves →
      (lower.overriddenBy values).get? name = values.get? name := by
    intro name hmem
    obtain ⟨value, hvalue, -⟩ := hgiven name hmem
    rw [Params.get?_overriddenBy, hvalue]
    rfl
  have hgiven' : Token.Given (lower.overriddenBy values) pattern.shape.leaves :=
    fun name hmem => by rw [hget name hmem]; exact hgiven name hmem
  rw [fill, fill, ← pattern.shape_eq, Shape.fill_of_given hgiven', Shape.fill_of_given hgiven]
  refine congrArg (Filled.mk · []) (List.flatMap_congr fun token hmem => ?_)
  cases token with
  | named name => rw [Token.filled, hget name hmem, Token.filled]
  | literal text | splat name | groupOpen | groupClose => rfl

end Pattern

/-! ## Navigations -/

/-- Neither values nor a query nor a tail are given. -/
def NavigateOptions.plain : NavigateOptions := ⟨∅, [], none, false⟩

namespace Page

variable {late : Bool} {page after : Page} {name : Text} {id : NodeId} {node : Node}
  {options : NavigateOptions} {url : Text}

/-- A navigation to a node arrives at its location and tells everyone. -/
lemma perform_navigate (deeper : Deeper) (hname : page.mounted? name = some (id, node))
    (hurl : navigationUrl page.root node options = .ok url) : ∃ kind,
    perform deeper (.navigate name options) page =
      announce deeper kind (node.route.id.map RouteId.text) (.text url)
        (page.withHistory (page.history.arrive options.replaces url)) := by
  have hperform : perform deeper (.navigate name options) page =
      (do goTo deeper options.replaces url (node.route.id.map RouteId.text); return .text url :
        PageM Answer) page := by
    simp only [perform, withMounted, navigateTo, bind_apply, get_apply, Option.bind_some, hname,
      hurl]
    cases goTo deeper options.replaces url (node.route.id.map RouteId.text) page <;> rfl
  rw [hperform, History.arrive]
  cases options.replaces with
  | true => exact ⟨.replaceState, rfl⟩
  | false => exact ⟨.pushState, rfl⟩

/-- What is announced is answered. -/
lemma announce_answers {deeper : Deeper} {kind : NavigationKind} {source : Option Text}
    {answer answer' : Answer}
    (h : announce deeper kind source answer page = some (answer', after)) : answer' = answer := by
  rw [announce, bind_apply, Option.bind_eq_some_iff] at h
  obtain ⟨⟨_, mid⟩, -, hmid⟩ := h
  cases hmid
  rfl

/-- **A navigation that returns** answers its location, whatever hooks and listeners do. -/
lemma navigate_answers (hname : page.mounted? name = some (id, node))
    (hurl : navigationUrl page.root node options = .ok url) {answer : Answer}
    (hrun : page.run (.navigate name options) = some (answer, after)) : answer = .text url := by
  obtain ⟨depth, hperform⟩ := run_eq_some hrun
  obtain ⟨kind, hannounce⟩ := perform_navigate (exec depth) hname hurl
  exact announce_answers (hannounce.symm.trans hperform)

/-- **On a quiet page** a navigation to a node ends, at its location, and puts all nodes in step. -/
lemma Session.navigates (h : Session late page) (hquiet : page.Quiet)
    (hname : page.mounted? name = some (id, node))
    (hurl : navigationUrl page.root node options = .ok url) : ∃ after,
    page.run (.navigate name options) = some (.text url, after) ∧ after.url = url ∧
      after.seats = page.seats ∧ after.root = page.root ∧ after.InStep := by
  have hrest := h.atRest
  obtain ⟨depth, hlength, hrun⟩ := page.run_eq_perform (.navigate name options)
  obtain ⟨kind, hperform⟩ := perform_navigate (exec (depth + 1)) hname hurl
  obtain ⟨after, hannounce, -, htoured⟩ := hquiet.announces hrest.steady hrest.queue_eq hlength
    (page.history.arrive options.replaces url) kind (node.route.id.map RouteId.text) (.text url)
  refine ⟨after, hrun.trans (hperform.trans hannounce), ?_, htoured.forest.seats,
    congrArg (·.getD ['/']) htoured.forest.root, hrest.inStep htoured⟩
  rw [Page.url, htoured.history]
  exact page.history.location_arrive options.replaces url

/-! ## Navigations to top-level nodes -/

/-- The root of a session without two slashes side by side is neat. -/
lemma Built.neat_root (h : page.Built) (htight : Tight page.root) : Neat page.root := by
  cases hroot : page.root? with
  | none => rw [Page.root, hroot]; exact ⟨rfl, by decide, .inl rfl⟩
  | some root =>
      rw [Page.root, hroot] at htight ⊢
      obtain ⟨text, rfl⟩ := h.root root hroot
      exact neat_normalizeRoot htight

lemma Built.fits_node (h : page.Built) (hnode : page.nodes[id]? = some node) :
    node.fixture.Fits page.fixtures :=
  h.fits _ (List.mem_map_of_mem (List.mem_of_getElem? hnode))

/-- **The location of a top-level node**: the root, the pattern filled in, and the query. -/
lemma Built.navigationUrl_top (h : page.Built) (hnode : page.nodes[id]? = some node)
    (htop : node.subscription.signal = .location) (htail : options.tail = none)
    (hgiven : Token.Given options.params node.pattern.shape.leaves) :
    navigationUrl page.root node options =
      .ok (joinPaths [page.root, (fill node.pattern.text options.params).path] ++
        searchOf options.query.written?) := by
  have hfits := h.fits_node hnode
  have hpattern : node.route.pattern = some node.pattern.text := hfits.text
  have hlineage : node.lineage = [] := hfits.top htop
  have hfill : fill node.pattern.text (navigationValues node options) =
      ⟨(fill node.pattern.text options.params).path, []⟩ := Pattern.fill_overriddenBy _ hgiven
  simp only [navigationUrl, hpattern, hlineage, htail, List.nil_append, List.map_cons, List.map_nil,
    hfill, List.flatMap_cons, List.flatMap_nil, Option.toList_none, List.append_nil, ne_eq,
    not_true_eq_false, if_false, Query.written?]
  split
  · exact congrArg _ (List.append_nil _).symm
  · rfl

/-- **A route navigates to itself.**  On a quiet page whose root has no two slashes side by side, a
navigation to a mounted top-level node, whose pattern holds no `?`, with values for all named
parameters, none of them empty, and without a tail ends at the location that it answers.  There the
node matches exactly if its pattern generates the path that it is filled in to, without empty
segments and without a slash at the end; so it matches if the text of the pattern, parentheses and
splat apart, is neat.  If it matches, it finds the query that was given. -/
theorem navigate_arrives (h : Session true page) (hquiet : page.Quiet)
    (hname : page.mounted? name = some (id, node)) (hmounted : node.mounted)
    (htop : node.subscription.signal = .location) (hplain : '?' ∉ node.pattern.text)
    (hroot : Tight page.root) (htail : options.tail = none)
    (hvalues : ∀ name ∈ node.pattern.names,
      ∃ value, options.params.get? name = some value ∧ value ≠ []) :
    ∃ url after revisited, page.run (.navigate name options) = some (.text url, after) ∧
      after.url = url ∧ after.nodes[id]? = some revisited ∧ revisited.mounted ∧
      (revisited.lastMatch.isSome ↔ node.pattern.shape.Generates
        (joinPaths [(fill node.pattern.text options.params).path])) ∧
      (Neat node.pattern.flatText → revisited.lastMatch.isSome) ∧
      ∀ found, revisited.lastMatch = some found → found.queryParams = options.query := by
  have hgiven : Token.Given options.params node.pattern.shape.leaves :=
    fun name hleaf => hvalues name (Pattern.mem_names_iff_leaf.2 hleaf)
  have hnode : page.nodes[id]? = some node := nodes_of_mounted? hname
  have hbuilt := h.reached.built
  have hurl := hbuilt.navigationUrl_top hnode htop htail hgiven
  obtain ⟨after, hrun, hat, hseats, hafterRoot, hstep⟩ := h.navigates hquiet hname hurl
  -- the node is where it was, and has learned what there is to learn from the new location
  have hseat : after.seats[id]? = some node.seat := hseats ▸ seats_of_nodes hnode
  obtain ⟨revisited, hrevisited, hsame⟩ := exists_node hseat
  have hstill : revisited.mounted := (congrArg Seat.mounted hsame).trans hmounted
  have hlearned : revisited.lastMatch = node.pattern.matchPath
      (joinPaths [(fill node.pattern.text options.params).path] ++
        searchOf options.query.written?) := by
    rw [hstep id revisited hrevisited hstill,
      expected_top (hseats ▸ h.atRest.steady.sound.elder) hseat hmounted htop, hat, hafterRoot]
    exact congrArg _ ((hbuilt.neat_root hroot).stripRoot_joinPaths _ _)
  have hmark : '?' ∉ joinPaths [(fill node.pattern.text options.params).path] :=
    not_mem_joinPaths (by decide) fun piece hpiece =>
      List.mem_singleton.1 hpiece ▸ Pattern.not_mem_fill hplain hgiven
  have hmatches := Pattern.isSome_matchPath_iff hplain hmark options.query.written?
  rw [← hlearned] at hmatches
  refine ⟨_, after, revisited, hrun, hat, hrevisited, hstill, hmatches, fun hneat => ?_,
    fun found hfound => ?_⟩
  · rw [hmatches, (Pattern.neat_fill hneat hgiven).joinPaths_eq]
    exact Pattern.generates_fill hgiven
  · refine Match.queryParams_of_written ?_
    rw [Pattern.query_of_matchPath (hlearned.symm.trans hfound) hplain, queryPart_append hmark]

/-- A page with one route, below a root. -/
def lone (root pattern : String) : Page :=
  ((Page.start (.start History.localOrigin "/".toList true)).play (.setRoot root.toList)).plays
    [.mount "r".toList none (.fresh
      { Route.new with pattern := some pattern.toList, element := some "r-page".toList })]

lemma session_lone (root pattern : String) : Session true (lone root pattern) := by
  refine ((Session.start _).play rfl (.inl rfl)).plays fun command hcommand => ?_
  obtain rfl := List.mem_singleton.1 hcommand
  exact ⟨rfl, rfl⟩

/-- Values that do not stand for themselves in a location, and a query. -/
def nabokov : NavigateOptions where
  params := .ofList [("author".toList, "Nabokov/В.".toList), ("tab".toList, "all".toList)]
  query := [("q".toList, "pale fire & ada".toList)]
  tail := none
  replaces := false

/-- A route with a group below a root. -/
theorem navigate_arrives_nabokov : ∃ id node url after revisited found,
    (lone "/app/" "/by/:author(/:tab)").mounted? "r".toList = some (id, node) ∧
      (lone "/app/" "/by/:author(/:tab)").run (.navigate "r".toList nabokov) =
        some (.text url, after) ∧
      after.url = url ∧ after.nodes[id]? = some revisited ∧ revisited.lastMatch = some found ∧
      found.queryParams = nabokov.query := by
  have hmounted : ((lone "/app/" "/by/:author(/:tab)").mounted? "r".toList).map (fun (_, node) =>
      (node.mounted, node.subscription.signal, node.pattern.text, node.pattern.names)) =
        some (true, .location, "/by/:author(/:tab)".toList, ["author".toList, "tab".toList]) := by
    decide +kernel
  obtain ⟨⟨id, node⟩, hname, hnode⟩ := Option.map_eq_some_iff.1 hmounted
  simp only [Prod.mk.injEq] at hnode
  obtain ⟨hmounted, htop, htext, hnames⟩ := hnode
  have hvalues : ∀ name ∈ node.pattern.names,
      ∃ value, nabokov.params.get? name = some value ∧ value ≠ [] := by
    rw [hnames]
    intro name hname
    simp only [List.mem_cons, List.not_mem_nil, or_false] at hname
    rcases hname with rfl | rfl
    · exact ⟨"Nabokov/В.".toList, by decide, by decide⟩
    · exact ⟨"all".toList, by decide, by decide⟩
  obtain ⟨url, after, revisited, hrun, hat, hrevisited, -, -, hneat, hquery⟩ := navigate_arrives
    (session_lone "/app/" "/by/:author(/:tab)")
    (.of_scripts (by decide +kernel) (by decide +kernel)) hname hmounted htop
    (by rw [htext]; decide) (by decide +kernel) rfl hvalues
  have hflat : Neat node.pattern.flatText := by
    rw [Pattern.flatText, htext]
    exact ⟨by decide, by decide +kernel, .inr (by decide +kernel)⟩
  obtain ⟨found, hfound⟩ := Option.isSome_iff_exists.1 (hneat hflat)
  exact ⟨id, node, url, after, revisited, found, hname, hrun, hat, hrevisited, hfound,
    hquery found hfound⟩

/-- A navigation to the one route of a page ends at a location at which the route does not match,
though it needs no values, and its text begins with a slash and has no two slashes side by side and
no `?`. -/
def Misses (root pattern url : String) : Prop :=
  ∃ id node after revisited, Session true (lone root pattern) ∧ (lone root pattern).Quiet ∧
    (lone root pattern).mounted? "r".toList = some (id, node) ∧ node.mounted ∧
    node.subscription.signal = .location ∧ node.pattern.text = pattern.toList ∧
    pattern.toList.head? = some '/' ∧ Tight pattern.toList ∧ '?' ∉ pattern.toList ∧
    node.pattern.names = [] ∧
    (lone root pattern).run (.navigate "r".toList .plain) =
      some (.text url.toList, after) ∧
    after.nodes[id]? = some revisited ∧ revisited.mounted ∧ revisited.lastMatch = none

lemma Misses.of_seen {root pattern url : String}
    (hid : ((lone root pattern).mounted? "r".toList).map (·.1) = some 0)
    (hnode : ((lone root pattern).mounted? "r".toList).map (fun (_, node) =>
      (node.mounted, node.subscription.signal, node.pattern.text, node.pattern.names)) =
        some (true, .location, pattern.toList, []))
    (hquiet : (lone root pattern).Quiet)
    (htext : pattern.toList.head? = some '/' ∧ Tight pattern.toList ∧ '?' ∉ pattern.toList)
    (hrun : ((lone root pattern).run (.navigate "r".toList .plain)).map
      (fun (answer, after) =>
        (answer, after.nodes[0]?.map fun node => (node.mounted, node.lastMatch))) =
          some (.text url.toList, some (true, none))) :
    Misses root pattern url := by
  obtain ⟨⟨id, node⟩, hname, rfl⟩ := Option.map_eq_some_iff.1 hid
  rw [hname, Option.map_some, Option.some.injEq] at hnode
  simp only [Prod.mk.injEq] at hnode
  obtain ⟨hmounted, htop, hpattern, hnames⟩ := hnode
  obtain ⟨⟨answer, after⟩, hrun, hafter⟩ := Option.map_eq_some_iff.1 hrun
  obtain ⟨rfl, hrevisited⟩ := Prod.mk.inj hafter
  obtain ⟨revisited, hrevisited, hlearned⟩ := Option.map_eq_some_iff.1 hrevisited
  obtain ⟨hstill, hlearned⟩ := Prod.mk.inj hlearned
  exact ⟨0, node, after, revisited, session_lone root pattern, hquiet, hname, hmounted, htop,
    hpattern, htext.1, htext.2.1, htext.2.2, hnames, hrun, hrevisited, hstill, hlearned⟩

/-- **What `joinPaths` leaves out is lost on the way**: a slash at the end of a pattern, and one of
two slashes side by side in a root. -/
theorem navigate_misses :
    Misses "/" "/about/" "/about" ∧ Misses "/my//app" "/about" "/my/app/about" := by
  constructor
  · exact .of_seen (by decide +kernel) (by decide +kernel)
      (.of_scripts (by decide +kernel) (by decide +kernel)) (by decide +kernel) (by decide +kernel)
  · exact .of_seen (by decide +kernel) (by decide +kernel)
      (.of_scripts (by decide +kernel) (by decide +kernel)) (by decide +kernel) (by decide +kernel)

end Page

end PageRouter
