import PageRouter.Proofs.Chains
import PageRouter.Proofs.Destinations
import PageRouter.Proofs.Nested
import PageRouter.Proofs.Tops

/-!
# Navigations that stay where they are

A navigation that gives no values takes those of the moment: what the node has learned last, and
below that what the nodes around it have.  Level by level, what a pattern captured is filled in
again where it was captured, and the paths of all levels behind each other are the path of the
location (`fill_descend`).

All levels share one map of values, in which the deepest level that declares a name decides.  So the
navigation stays where it is if levels that declare the same name have found the same value
(`navigate_stays`), and in general it does not (`navigate_strays`).
-/

namespace PageRouter

open Text

variable {url root : Text} {place : ParentLink} {pattern last : Pattern}
  {patterns uppers : List Pattern} {levels : List Level} {level : Level} {outer : Tail}
  {values : Params Text}

/-! ## Captures at a place -/

/-- What the parameters of a pattern capture that is matched from a place. -/
def Pattern.capturesAt (pattern : Pattern) (place : ParentLink) (url root : Text) :
    List (Param × Option Text) :=
  match (place.outer url root).bind fun outer => pattern.read? (outer.path ++ searchPart url) with
  | some reading => pattern.params.zip reading.captures
  | none => []

/-- Encoding what a named parameter stands for gives back what it captured. -/
def Match.Canonical (captures : List (Param × Option Text)) : Prop :=
  ∀ capture ∈ captures, capture.1.kind = .named →
    ∀ raw ∈ capture.2, encodeComponent (decodeComponent raw) = raw

instance : DecidablePred Match.Canonical := fun captures =>
  inferInstanceAs (Decidable (∀ capture ∈ captures, _))

lemma Pattern.exists_of_matchPath_outer (houter : place.outer url root = some outer)
    (hvalid : outer.Valid) (hplain : '?' ∉ pattern.text) {own : Match}
    (h : pattern.matchPath (outer.path ++ searchPart url) = some own) : ∃ choices reading,
    pattern.Derives (outer.path ++ searchPart url) choices reading ∧ reading.path = outer.path ∧
      own = Match.ofReading pattern.params reading ∧
      pattern.capturesAt place url root = pattern.params.zip reading.captures := by
  obtain ⟨choices, reading, hfirst, rfl⟩ := exists_of_matchPath h
  refine ⟨choices, reading, hfirst.1, ?_, rfl, ?_⟩
  · have hparts := congrArg pathPart hfirst.1.text_eq
    rw [searchPart_eq_searchOf, pathPart_append hvalid.not_mem_path,
      pathPart_append (hfirst.1.not_mem_path hplain)] at hparts
    exact hparts.symm
  · rw [capturesAt, houter, Option.bind_some, hfirst.read?_eq]

/-! ## Chains of trails -/

/-- **Trails nested in one another**: all but the last leave a rest to the next one. -/
structure Trails (uppers : List Pattern) (last : Pattern) : Prop where
  trail : ∀ pattern ∈ uppers ++ [last], pattern.IsTrail
  plain : ∀ pattern ∈ uppers ++ [last], '?' ∉ pattern.text
  /-- In each pattern the named parameters have different names. -/
  names : ∀ pattern ∈ uppers ++ [last], pattern.names.Nodup
  isOpen : ∀ pattern ∈ uppers, pattern.IsOpen
  closed : last.IsClosed

lemma Trails.tail {upper : Pattern} (h : Trails (upper :: uppers) last) : Trails uppers last where
  trail := fun pattern hmem => h.trail pattern (List.mem_cons_of_mem _ hmem)
  plain := fun pattern hmem => h.plain pattern (List.mem_cons_of_mem _ hmem)
  names := fun pattern hmem => h.names pattern (List.mem_cons_of_mem _ hmem)
  isOpen := fun pattern hmem => h.isOpen pattern (List.mem_cons_of_mem _ hmem)
  closed := h.closed

/-- **Filling in undoes a chain of matches.**  All patterns of the chain are filled in with what
they captured; nothing is missing, and the segments of all filled paths are the path that the chain
was matched against. -/
theorem fill_descend (htrails : Trails uppers last) (hroot : '?' ∉ root)
    (houter : place.outer url root = some outer) (hvalid : outer.Valid)
    (h : descend url root place (uppers ++ [last]) = some levels)
    (hwritten : ∀ level ∈ levels,
      Match.Written values (level.pattern.capturesAt level.place url root)) :
    (∀ pattern ∈ uppers ++ [last], (fill pattern.text values).missing = []) ∧
      ((uppers ++ [last]).flatMap fun pattern => segments (fill pattern.text values).path) ≠ [] ∧
      slashed ((uppers ++ [last]).flatMap fun pattern => segments (fill pattern.text values).path) =
        outer.path := by
  induction uppers generalizing place outer levels with
  | nil =>
      obtain ⟨outer', own, rest, houter', hown, -, rfl⟩ := exists_of_descend_cons hroot h
      obtain rfl : outer = outer' := Option.some.inj (houter.symm.trans houter')
      have hlast : last ∈ [] ++ [last] := List.mem_singleton_self last
      obtain ⟨choices, reading, hderives, hpath, -, hcaptures⟩ :=
        Pattern.exists_of_matchPath_outer houter hvalid (htrails.plain last hlast) hown
      obtain ⟨hmissing, hne, hfill⟩ := hderives.fill_closed (htrails.trail last hlast)
        htrails.closed (hcaptures ▸ hwritten _ (List.mem_cons_self ..))
      rw [List.nil_append, List.flatMap_singleton]
      refine ⟨fun pattern hmem => ?_, hne, hfill.symm.trans hpath⟩
      rw [List.mem_singleton.1 hmem]
      exact hmissing
  | cons upper uppers ih =>
      obtain ⟨outer', own, rest, houter', hown, hrest, rfl⟩ := exists_of_descend_cons hroot h
      obtain rfl : outer = outer' := Option.some.inj (houter.symm.trans houter')
      have hupper : upper ∈ upper :: uppers ++ [last] := List.mem_cons_self ..
      have hplain := htrails.plain upper hupper
      obtain ⟨choices, reading, hderives, hpath, rfl, hcaptures⟩ :=
        Pattern.exists_of_matchPath_outer houter hvalid hplain hown
      obtain ⟨hmissing, raw, htail, hfill⟩ := hderives.fill_open (htrails.trail upper hupper)
        (htrails.isOpen upper (List.mem_cons_self ..))
        (hcaptures ▸ hwritten _ (List.mem_cons_self ..))
      obtain ⟨tail, htail, htailPath⟩ := Option.map_eq_some_iff.1 htail
      -- the next level is matched against what the splat of this one captured
      have hmiddle : ((Match.ofReading upper.params reading).under outer).tail =
          some ⟨outer.consumed ++ tail.consumed, tail.path,
            outer.params.overriddenBy tail.params⟩ := by
        rw [Match.under, htail]
        rfl
      have hvalidMiddle := (Pattern.valid_of_tail_under hvalid hplain hown hmiddle).1
      have hplace :
          (ParentLink.child ((Match.ofReading upper.params reading).under outer).tail).outer url
            root = some _ := hmiddle
      obtain ⟨hmissingRest, hne, hfillRest⟩ := ih htrails.tail hplace hvalidMiddle hrest
        fun level hlevel => hwritten level (List.mem_cons_of_mem _ hlevel)
      rw [List.cons_append, List.flatMap_cons]
      refine ⟨fun pattern hmem => ?_, List.append_ne_nil_of_right_ne_nil _ hne, ?_⟩
      · rcases List.mem_cons.1 hmem with rfl | hmem
        · exact hmissing
        · exact hmissingRest pattern hmem
      · rw [slashed, List.flatMap_append, ← slashed, ← slashed, hfillRest, htailPath, ← hfill,
          hpath]

/-- A chain goes on below its last level. -/
lemma descend_concat {found : Match}
    (h : descend url root place patterns = some (levels ++ [level]))
    (hfound : pattern.matchUnder (.child level.found.tail) url root = some found) :
    descend url root place (patterns ++ [pattern]) =
      some (levels ++ [level] ++ [⟨.child level.found.tail, pattern, found⟩]) := by
  induction patterns generalizing place levels with
  | nil =>
      cases levels <;> cases Option.some.inj h
  | cons first patterns ih =>
      rw [descend] at h
      split at h
      · cases h
      · next own hown =>
          obtain ⟨rest, hrest, hlevels⟩ := Option.map_eq_some_iff.1 h
          rw [List.cons_append, descend, hown]
          cases levels with
          | nil =>
              obtain ⟨rfl, rfl⟩ := List.cons.inj hlevels
              cases patterns with
              | nil => simp [descend, hfound]
              | cons second patterns =>
                  rw [descend] at hrest
                  split at hrest
                  · cases hrest
                  · simp at hrest
          | cons top levels =>
              obtain ⟨rfl, rfl⟩ := List.cons.inj hlevels
              simp only [ih hrest]
              rfl

/-! ## Values of the moment -/

/-- Levels that declare the same name have found the same value for it. -/
def Agree (levels : List Level) : Prop :=
  ∀ level ∈ levels, ∀ other ∈ levels, ∀ name ∈ level.pattern.names, name ∈ other.pattern.names →
    level.found.params.get? name = other.found.params.get? name

instance : DecidablePred Agree := fun levels =>
  inferInstanceAs (Decidable (∀ level ∈ levels, _))

/-- Of two values that may be there, and are the same if they are, it does not matter which counts.
-/
lemma join_or_join {α : Type} {a b : Option (Option α)} {value : Option α}
    (ha : ∀ value', a = some value' → value' = value)
    (hb : ∀ value', b = some value' → value' = value) (h : a.or b ≠ none) :
    a.join.or b.join = value := by
  cases a with
  | some value' =>
      obtain rfl := ha value' rfl
      cases b with
      | none => exact Option.or_none
      | some value'' =>
          obtain rfl := hb value'' rfl
          exact Option.or_self
  | none =>
      cases b with
      | none => exact absurd rfl h
      | some value' => exact hb value' rfl

/-- **Values that all levels agree on** are the values of each level: those of the last level on top
of those of the levels around it. -/
lemma Agree.get?_values {uppers : List Level} {last : Level} (h : Agree (uppers ++ [last]))
    (hnames : ∀ level ∈ uppers ++ [last], ∀ name,
      (level.found.params.get? name).isSome ↔ name ∈ level.pattern.names)
    {params : RouteParams}
    (hparams : ∀ name, params.get? name = uppers.reverse.findSome? (·.found.params.get? name))
    (hlevel : level ∈ uppers ++ [last]) {name : Text} (hname : name ∈ level.pattern.names) :
    (params.present.overriddenBy last.found.params.present).get? name =
      level.found.params.present.get? name := by
  obtain ⟨value, hvalue⟩ := Option.isSome_iff_exists.1 ((hnames level hlevel name).2 hname)
  have hagree : ∀ other ∈ uppers ++ [last], ∀ value', other.found.params.get? name = some value' →
      value' = value := by
    intro other hother value' hvalue'
    have hdeclares := (hnames other hother name).1 (by rw [hvalue']; rfl)
    rw [h other hother level hlevel name hdeclares hname, hvalue] at hvalue'
    exact (Option.some.inj hvalue').symm
  have hupper : ∀ value', params.get? name = some value' → value' = value := by
    intro value' hvalue'
    rw [hparams] at hvalue'
    obtain ⟨other, hother, hfound⟩ := List.exists_of_findSome?_eq_some hvalue'
    exact hagree other (List.mem_append_left _ (List.mem_reverse.1 hother)) value' hfound
  have hsome : (last.found.params.get? name).or (params.get? name) ≠ none := by
    intro hnone
    obtain ⟨hlast, hnone⟩ := Option.or_eq_none_iff.1 hnone
    rw [hparams, List.findSome?_eq_none_iff] at hnone
    rcases List.mem_append.1 hlevel with hmem | hmem
    · rw [hnone level (List.mem_reverse.2 hmem)] at hvalue
      cases hvalue
    · rw [List.mem_singleton.1 hmem, hlast] at hvalue
      cases hvalue
  rw [Params.get?_overriddenBy, Params.get?_present, Params.get?_present, Params.get?_present,
    hvalue, Option.join_some]
  exact join_or_join (hagree last (List.mem_append_right _ (List.mem_singleton_self last))) hupper
    hsome

/-- **The values of a chain are what its levels captured**, if the levels agree. -/
lemma written_of_agree {uppers : List Level} {last : Level} (hroot : '?' ∉ root)
    (hplain : ∀ pattern ∈ patterns, '?' ∉ pattern.text)
    (h : descend url root .root patterns = some (uppers ++ [last]))
    (hcanonical : ∀ level ∈ uppers ++ [last],
      Match.Canonical (level.pattern.capturesAt level.place url root))
    (hagree : Agree (uppers ++ [last])) {params : RouteParams}
    (hparams : ∀ name, params.get? name = uppers.reverse.findSome? (·.found.params.get? name))
    (hlevel : level ∈ uppers ++ [last]) (hdistinct : level.pattern.names.Nodup) :
    Match.Written (params.present.overriddenBy last.found.params.present)
      (level.pattern.capturesAt level.place url root) := by
  have hlevels : ∀ level ∈ uppers ++ [last], _ := fun level =>
    exists_of_mem_descend hroot hplain (fun outer => valid_outer_root) h
  have hnames : ∀ level ∈ uppers ++ [last], ∀ name,
      (level.found.params.get? name).isSome ↔ name ∈ level.pattern.names := by
    intro level hlevel name
    obtain ⟨outer, own, -, -, -, hown, hfound⟩ := hlevels level hlevel
    rw [← Pattern.mem_names_of_matchPath hown, Params.mem_names_iff, hfound]
    rfl
  obtain ⟨outer, own, houter, hvalid, hpattern, hown, hfound⟩ := hlevels level hlevel
  obtain ⟨choices, reading, hderives, -, rfl, hcaptures⟩ :=
    Pattern.exists_of_matchPath_outer houter hvalid hpattern hown
  have hwritten := hderives.written hdistinct fun param raw hmem hkind =>
    hcanonical level hlevel (param, some raw) (hcaptures ▸ hmem) hkind raw rfl
  rw [hcaptures]
  intro param capture hmem hkind
  have hname : param.name ∈ level.pattern.names :=
    List.mem_map_of_mem (List.mem_filter.2 ⟨(List.of_mem_zip hmem).1, decide_eq_true hkind⟩)
  rw [hagree.get?_values hnames hparams hlevel hname, hfound]
  exact hwritten param capture hmem hkind

/-! ## Nodes nested in one another -/

/-- The level of a chain that a node is, with what it has learned. -/
def Node.asLevel (node : Node) (found : Match) : Level := ⟨node.route.place, node.pattern, found⟩

/-- What was learned at a level is what there is to learn. -/
def Level.Current (level : Level) (url root : Text) : Prop :=
  level.pattern.matchUnder level.place url root = some level.found

namespace Page

variable {late : Bool} {page after : Page} {name : Text} {id : NodeId} {node : Node} {found : Match}
  {above : List Level}

/-- **The nodes around a node**, as levels, the outermost first.  All of them are mounted and match,
and each next one is matched from the tail that the one around it has learned last. -/
inductive Ancestry (page : Page) : List Level → NodeId → Node → Prop
  | top {id : NodeId} {node : Node} : page.nodes[id]? = some node → node.mounted →
      node.subscription.signal = .location → node.route.place = .root → Ancestry page [] id node
  | nested {above : List Level} {parent id : NodeId} {around node : Node} {found : Match} :
      Ancestry page above parent around → around.lastMatch = some found →
      page.nodes[id]? = some node → node.mounted → node.subscription.signal = .tailOf parent →
      node.route.place = .child found.tail → Ancestry page (above ++ [around.asLevel found]) id node

namespace Ancestry

lemma nodes (h : page.Ancestry above id node) : page.nodes[id]? = some node := by
  cases h <;> assumption

/-- The lineage of a node is told by the nodes around it. -/
lemma lineage_eq (h : page.Ancestry above id node) (hbuilt : page.Built) :
    node.lineage = above.map (·.pattern.text) := by
  induction h with
  | top hnode _ htop _ => exact (hbuilt.fits_node hnode).top htop
  | @nested above parent id around node found haround _ hnode _ hsignal _ ih =>
      obtain ⟨fixture, hfixture, hlineage⟩ := (hbuilt.fits_node hnode).nested parent hsignal
      have hparent : page.fixtures[parent]? = some around.fixture := by
        rw [Page.fixtures, List.getElem?_map, haround.nodes]
        rfl
      obtain rfl : around.fixture = fixture := Option.some.inj (hparent.symm.trans hfixture)
      rw [List.map_append, ← ih]
      exact hlineage

/-- **At rest, all that nodes nested in one another have learned is current.** -/
lemma current (h : page.Ancestry above id node) (hrest : page.AtRest false)
    (hfound : node.lastMatch = some found) :
    ∀ level ∈ above ++ [node.asLevel found], level.Current page.url page.root := by
  induction h generalizing found with
  | top hnode hmounted _ hplace =>
      intro level hlevel
      obtain rfl := List.mem_singleton.1 hlevel
      rw [Level.Current, Node.asLevel, hplace]
      exact (hrest.lastMatch_top hnode hmounted hplace).symm.trans hfound
  | nested _ haround hnode hmounted hsignal _ ih =>
      intro level hlevel
      rcases List.mem_append.1 hlevel with habove | hown
      · exact ih haround level habove
      · obtain rfl := List.mem_singleton.1 hown
        exact (hrest.lastMatch_nested hnode hmounted hsignal).symm.trans hfound

/-- **Nodes nested in one another are a chain of their patterns**, if what they have learned is
current. -/
lemma descend (h : page.Ancestry above id node)
    (hcurrent : ∀ level ∈ above ++ [node.asLevel found], level.Current page.url page.root) :
    descend page.url page.root .root ((above ++ [node.asLevel found]).map (·.pattern)) =
      some (above ++ [node.asLevel found]) := by
  have hown := hcurrent _ (List.mem_append_right _ (List.mem_singleton_self _))
  rw [Level.Current] at hown
  induction h generalizing found with
  | @top id node hnode hmounted htop hplace =>
      rw [Node.asLevel, hplace] at hown
      simp [PageRouter.descend, Node.asLevel, hown, hplace]
  | @nested above parent id around node found' _ _ _ _ _ hplace ih =>
      have habove : ∀ level ∈ above ++ [around.asLevel found'], level.Current page.url page.root :=
        fun level hlevel => hcurrent level (List.mem_append_left _ hlevel)
      have hchain := ih habove (habove _ (List.mem_append_right _ (List.mem_singleton_self _)))
      have hlevel : node.asLevel found = ⟨.child found'.tail, node.pattern, found⟩ := by
        rw [Node.asLevel, hplace]
      rw [hlevel] at hown
      rw [List.map_append, hlevel]
      exact descend_concat hchain hown

/-- The parameters that have been found where a node is matched. -/
lemma exists_outer (h : page.Ancestry above id node) (hroot : '?' ∉ page.root)
    (hplain : ∀ level ∈ above ++ [node.asLevel found], '?' ∉ level.pattern.text)
    (hcurrent : ∀ level ∈ above ++ [node.asLevel found], level.Current page.url page.root) :
    ∃ outer,
    node.route.place.outer page.url page.root = some outer ∧
      ∀ name, outer.params.get? name = above.reverse.findSome? (·.found.params.get? name) := by
  have hchain := h.descend hcurrent
  have hplain' : ∀ pattern ∈ (above ++ [node.asLevel found]).map (·.pattern),
      '?' ∉ pattern.text := by
    intro pattern hmem
    obtain ⟨level, hlevel, rfl⟩ := List.mem_map.1 hmem
    exact hplain level hlevel
  obtain ⟨outer, -, houter, -⟩ := exists_of_mem_descend hroot hplain'
    (fun outer => valid_outer_root) hchain (List.mem_append_right _ (List.mem_singleton_self _))
  refine ⟨outer, houter, fun name => ?_⟩
  cases h with
  | top _ _ _ hplace =>
      rw [Node.asLevel, hplace] at houter
      cases houter
      rfl
  | @nested above parent _ around _ found' haround hlearned hnode hmounted hsignal hplace =>
      rw [Node.asLevel, hplace] at houter
      have htail : (around.asLevel found').found.tail = some outer := houter
      rw [List.append_assoc] at hchain hplain'
      have hget := (tail_of_descend hroot hplain' rfl (valid_outer_root rfl) hchain htail).2 name
      exact hget.trans Option.or_none

end Ancestry

/-! ## Navigations without values -/

/-- The values of the moment are those of the node on top of those found around it. -/
lemma navigationValues_plain {outer : Tail}
    (houter : node.route.place.outer page.url page.root = some outer)
    (hfound : node.lastMatch = some found) :
    navigationValues node .plain = outer.params.present.overriddenBy found.params.present := by
  refine Params.ext_get? fun name => ?_
  have hnone : ∀ name, (∅ : Params Text).get? name = none := fun _ => rfl
  rw [navigationValues, hfound, NavigateOptions.plain, Params.get?_overriddenBy, hnone,
    Option.none_or, Params.get?_overriddenBy, Params.get?_overriddenBy]
  refine congrArg _ ?_
  cases hplace : node.route.place with
  | root =>
      rw [hplace] at houter
      cases houter
      rfl
  | child tail =>
      rw [hplace] at houter
      obtain rfl : tail = some outer := houter
      rfl

/-- **The location of a navigation without values**, from the patterns of the node and of those
around it: they are filled in with the values of the moment. -/
lemma navigationUrl_plain (hbuilt : page.Built) (hnode : page.nodes[id]? = some node)
    (hlineage : node.lineage = uppers.map (·.text)) (hroot : page.root = ['/'])
    (hvalues : navigationValues node .plain = values)
    (hmissing : ∀ pattern ∈ uppers ++ [node.pattern], (fill pattern.text values).missing = [])
    (hne : ((uppers ++ [node.pattern]).flatMap fun pattern =>
      segments (fill pattern.text values).path) ≠ []) :
    navigationUrl page.root node .plain = .ok (slashed ((uppers ++ [node.pattern]).flatMap
      fun pattern => segments (fill pattern.text values).path)) := by
  have hown : node.route.pattern = some node.pattern.text := (hbuilt.fits_node hnode).text
  have hfilled : (node.lineage ++ [node.pattern.text]).map (fill · values) =
      (uppers ++ [node.pattern]).map fun pattern => fill pattern.text values := by
    rw [hlineage, ← List.map_singleton, ← List.map_append, List.map_map]
    rfl
  have hnothing : ((uppers ++ [node.pattern]).map fun pattern => fill pattern.text values).flatMap
      (·.missing) = [] := by
    rw [List.flatMap_map]
    exact List.flatMap_eq_nil_iff.2 hmissing
  have hsegments : (page.root :: ((uppers ++ [node.pattern]).map fun pattern =>
      fill pattern.text values).map (·.path)).flatMap segments =
        (uppers ++ [node.pattern]).flatMap fun pattern =>
          segments (fill pattern.text values).path := by
    rw [List.flatMap_cons, hroot, List.flatMap_map, List.flatMap_map]
    rfl
  rw [← hsegments] at hne ⊢
  rw [← joinPaths_of_ne_nil hne, navigationUrl, hown]
  simp only [hvalues, hfilled, hnothing]
  simp [NavigateOptions.plain]

/-- **A navigation without values stays where it is.**  No root is set.  A node and the nodes around
it match the location; their patterns are trails, all but the last ending in a splat; what they
capture is written as values are; and levels that declare the same name have found the same value.
Then the navigation answers the path of the location, whatever hooks and listeners do, if it ends;
and on a quiet page of a session it ends there. -/
theorem navigate_stays (h : page.Reached) (hroot : page.root? = none)
    (hname : page.mounted? name = some (id, node)) (hancestry : page.Ancestry above id node)
    (hfound : node.lastMatch = some found)
    (hcurrent : ∀ level ∈ above ++ [node.asLevel found], level.Current page.url page.root)
    (htrails : Trails (above.map (·.pattern)) node.pattern)
    (hcanonical : ∀ level ∈ above ++ [node.asLevel found],
      Match.Canonical (level.pattern.capturesAt level.place page.url page.root))
    (hagree : Agree (above ++ [node.asLevel found])) :
    navigationUrl page.root node .plain = .ok (pathPart page.url) ∧
      (∀ answer after, page.run (.navigate name .plain) = some (answer, after) →
        answer = .text (pathPart page.url)) ∧
      (Session true page → page.Quiet → ∃ after,
        page.run (.navigate name .plain) = some (.text (pathPart page.url), after) ∧
          after.url = pathPart page.url) := by
  have hbuilt : page.Built := h.built
  have hslash : page.root = ['/'] := by rw [Page.root, hroot]; rfl
  have hplainRoot : '?' ∉ page.root := by rw [hslash]; decide
  have hpatterns : (above ++ [node.asLevel found]).map (·.pattern) =
      above.map (·.pattern) ++ [node.pattern] := List.map_append
  have hchain := hancestry.descend hcurrent
  rw [hpatterns] at hchain
  have hmem : ∀ level ∈ above ++ [node.asLevel found],
      level.pattern ∈ above.map (·.pattern) ++ [node.pattern] :=
    fun level hlevel => hpatterns ▸ List.mem_map_of_mem hlevel
  obtain ⟨outer, houter, hparams⟩ := hancestry.exists_outer hplainRoot
    (fun level hlevel => htrails.plain _ (hmem level hlevel)) hcurrent
  -- what every level captured is filled in again
  obtain ⟨hmissing, hne, hpath⟩ := fill_descend htrails hplainRoot rfl (valid_outer_root rfl) hchain
    fun level hlevel => written_of_agree hplainRoot htrails.plain hchain hcanonical hagree hparams
      hlevel (htrails.names _ (hmem level hlevel))
  have hlineage : node.lineage = (above.map (·.pattern)).map (·.text) := by
    rw [hancestry.lineage_eq hbuilt, List.map_map]
    rfl
  have hvalues : navigationValues node .plain = outer.params.present.overriddenBy
      (node.asLevel found).found.params.present := navigationValues_plain houter hfound
  have hurl : navigationUrl page.root node .plain = .ok (pathPart page.url) := by
    rw [navigationUrl_plain hbuilt hancestry.nodes hlineage hslash hvalues hmissing hne, hpath,
      hslash]
    rfl
  refine ⟨hurl, fun answer after hrun => navigate_answers hname hurl hrun,
    fun hsession hquiet => ?_⟩
  obtain ⟨after, hrun, hat, -⟩ := hsession.navigates hquiet hname hurl
  exact ⟨after, hrun, hat⟩

/-! ## Two levels -/

/-- A page at a location, with one route in another. -/
def couple (url outer inner : String) : Page :=
  let shown (pattern : String) : RouteSource := .fresh
    { Route.new with pattern := some pattern.toList, element := some "x-page".toList }
  (Page.start (.start History.localOrigin url.toList true)).plays
    [.mount "outer".toList none (shown outer),
      .mount "inner".toList (some "outer".toList) (shown inner)]

lemma session_couple (url outer inner : String) : Session true (couple url outer inner) := by
  refine (Session.start _).plays fun command hcommand => ?_
  simp only [List.mem_cons, List.not_mem_nil, or_false] at hcommand
  rcases hcommand with rfl | rfl <;> exact ⟨rfl, rfl⟩

/-- The levels of all nodes that match. -/
def standingLevels (page : Page) : List Level :=
  page.nodes.filterMap fun node => node.lastMatch.map node.asLevel

/-- Two nodes one in the other, from what can be seen of the page. -/
lemma exists_ancestry_of_two
    (hseats : page.nodes.map (fun node => (node.mounted, node.subscription.signal)) =
      [(true, .location), (true, .tailOf 0)])
    (htop : page.nodes[0]?.map (·.route.place) = some .root)
    (hplace : page.nodes[1]?.map (·.route.place) =
      (page.nodes[0]?.bind (·.lastMatch)).map fun found => .child found.tail)
    (hmatch : (page.nodes[1]?.bind (·.lastMatch)).isSome)
    (hname : (page.mounted? name).map (·.1) = some 1) :
    ∃ (around node : Node) (learned found : Match),
      page.mounted? name = some (1, node) ∧ node.lastMatch = some found ∧
        page.standingLevels = [around.asLevel learned, node.asLevel found] ∧
        page.Ancestry [around.asLevel learned] 1 node := by
  obtain ⟨around, rest, hnodes, haround, hrest⟩ := List.map_eq_cons_iff.1 hseats
  obtain ⟨node, rest, rfl, hnode, hrest⟩ := List.map_eq_cons_iff.1 hrest
  obtain rfl := List.map_eq_nil_iff.1 hrest
  obtain ⟨hmounted, hlocation⟩ := Prod.mk.inj haround
  obtain ⟨hmounted', hsignal⟩ := Prod.mk.inj hnode
  obtain ⟨⟨_, named⟩, hname, rfl⟩ := Option.map_eq_some_iff.1 hname
  have hnamed := nodes_of_mounted? hname
  rw [hnodes] at htop hplace hmatch hnamed
  obtain rfl : node = named := Option.some.inj hnamed
  obtain ⟨found, hfound⟩ := Option.isSome_iff_exists.1 hmatch
  obtain ⟨learned, hlearned, hplace⟩ := Option.map_eq_some_iff.1 hplace.symm
  have hfound : node.lastMatch = some found := hfound
  have hlearned : around.lastMatch = some learned := hlearned
  refine ⟨around, node, learned, found, hname, hfound, ?_, ?_⟩
  · simp [standingLevels, hnodes, hfound, hlearned]
  · exact .nested (.top (by rw [hnodes]; rfl) hmounted hlocation (Option.some.inj htop)) hlearned
      (by rw [hnodes]; rfl) hmounted' hsignal hplace.symm

/-- Two trails one in the other. -/
lemma Trails.of_two {upper last : Level}
    (h : ∀ level ∈ [upper, last], level.pattern.IsTrail ∧ '?' ∉ level.pattern.text ∧
      level.pattern.names.Nodup)
    (hopen : upper.pattern.IsOpen) (hclosed : last.pattern.IsClosed) :
    Trails [upper.pattern] last.pattern := by
  have h : ∀ pattern ∈ [upper.pattern] ++ [last.pattern], pattern.IsTrail ∧ '?' ∉ pattern.text ∧
      pattern.names.Nodup := by
    simpa using h
  exact ⟨fun pattern hmem => (h pattern hmem).1, fun pattern hmem => (h pattern hmem).2.1,
    fun pattern hmem => (h pattern hmem).2.2, by simpa using hopen, hclosed⟩

/-- Both levels declare the author, and both find the same one. -/
def dedicated : Page :=
  couple "/by/Ada%20L/Notes/for/Ada%20L?n=1" "/by/:author/*work" "/:title/for/:author"

theorem navigate_stays_dedicated : ∃ id node above found after,
    dedicated.root? = none ∧ dedicated.mounted? "inner".toList = some (id, node) ∧
      dedicated.Ancestry above id node ∧ node.lastMatch = some found ∧
      (∀ level ∈ above ++ [node.asLevel found], level.Current dedicated.url dedicated.root) ∧
      Trails (above.map (·.pattern)) node.pattern ∧ Agree (above ++ [node.asLevel found]) ∧
      dedicated.run (.navigate "inner".toList .plain) =
        some (.text "/by/Ada%20L/Notes/for/Ada%20L".toList, after) := by
  have hroot : dedicated.root? = none := by decide +kernel
  have htexts : dedicated.standingLevels.map (·.pattern.text) =
      ["/by/:author/*work".toList, "/:title/for/:author".toList] := by decide +kernel
  have htrails : ∀ level ∈ dedicated.standingLevels, level.pattern.IsTrail ∧
      '?' ∉ level.pattern.text ∧ level.pattern.names.Nodup := by decide +kernel
  have hclosed : ∀ level ∈ dedicated.standingLevels.drop 1, level.pattern.IsClosed := by
    decide +kernel
  have hcanonical : ∀ level ∈ dedicated.standingLevels,
      Match.Canonical (level.pattern.capturesAt level.place dedicated.url dedicated.root) := by
    decide +kernel
  have hagree : Agree dedicated.standingLevels := by decide +kernel
  have hname : (dedicated.mounted? "inner".toList).map (·.1) = some 1 := by decide +kernel
  obtain ⟨around, node, learned, found, hname, hfound, hlevels, hancestry⟩ :=
    exists_ancestry_of_two (by decide +kernel) (by decide +kernel) (by decide +kernel)
      (by decide +kernel) hname
  rw [hlevels] at htexts htrails hclosed hcanonical hagree
  have hopen : around.pattern.IsOpen :=
    ⟨"/by/:author".toList, "work".toList, (List.cons.inj htexts).1, by decide⟩
  have hall : Trails [around.pattern] node.pattern :=
    Trails.of_two htrails hopen (hclosed _ (List.mem_singleton_self _))
  have hsession : Session true dedicated := session_couple _ _ _
  have hcurrent := hancestry.current (hsession.early (.inl hroot)).atRest hfound
  obtain ⟨-, -, hquiet⟩ := navigate_stays hsession.reached hroot hname hancestry hfound hcurrent
    hall hcanonical hagree
  obtain ⟨after, hrun, -⟩ := hquiet hsession (.of_scripts (by decide +kernel) (by decide +kernel))
  have hpath : pathPart dedicated.url = "/by/Ada%20L/Notes/for/Ada%20L".toList := by decide +kernel
  exact ⟨1, node, [around.asLevel learned], found, after, hroot, hname, hancestry, hfound, hcurrent,
    hall, hagree, hpath ▸ hrun⟩

/-- Both levels declare `id`, and each finds another one. -/
def contended : Page := couple "/users/a/posts/b" "/users/:id/*rest" "/posts/:id"

/-- **The deepest level decides** what is filled in for all levels: the navigation leads elsewhere.
-/
theorem navigate_strays : ∃ id node above found after,
    Session true contended ∧ contended.Quiet ∧ contended.root? = none ∧
      contended.mounted? "inner".toList = some (id, node) ∧ contended.Ancestry above id node ∧
      node.lastMatch = some found ∧
      (∀ level ∈ above ++ [node.asLevel found], level.Current contended.url contended.root) ∧
      Trails (above.map (·.pattern)) node.pattern ∧
      (∀ level ∈ above ++ [node.asLevel found], Match.Canonical
        (level.pattern.capturesAt level.place contended.url contended.root)) ∧
      pathPart contended.url = "/users/a/posts/b".toList ∧
      contended.run (.navigate "inner".toList .plain) =
        some (.text "/users/b/posts/b".toList, after) := by
  have htexts : contended.standingLevels.map (·.pattern.text) =
      ["/users/:id/*rest".toList, "/posts/:id".toList] := by decide +kernel
  have htrails : ∀ level ∈ contended.standingLevels, level.pattern.IsTrail ∧
      '?' ∉ level.pattern.text ∧ level.pattern.names.Nodup := by decide +kernel
  have hclosed : ∀ level ∈ contended.standingLevels.drop 1, level.pattern.IsClosed := by
    decide +kernel
  have hcanonical : ∀ level ∈ contended.standingLevels, Match.Canonical
      (level.pattern.capturesAt level.place contended.url contended.root) := by decide +kernel
  have hname : (contended.mounted? "inner".toList).map (·.1) = some 1 := by decide +kernel
  have hanswer : (contended.run (.navigate "inner".toList .plain)).map (·.1) =
      some (.text "/users/b/posts/b".toList) := by decide +kernel
  obtain ⟨around, node, learned, found, hname, hfound, hlevels, hancestry⟩ :=
    exists_ancestry_of_two (by decide +kernel) (by decide +kernel) (by decide +kernel)
      (by decide +kernel) hname
  obtain ⟨⟨_, after⟩, hrun, rfl⟩ := Option.map_eq_some_iff.1 hanswer
  rw [hlevels] at htexts htrails hclosed hcanonical
  have hopen : around.pattern.IsOpen :=
    ⟨"/users/:id".toList, "rest".toList, (List.cons.inj htexts).1, by decide⟩
  have hroot : contended.root? = none := by decide +kernel
  have hsession : Session true contended := session_couple _ _ _
  exact ⟨1, node, [around.asLevel learned], found, after, hsession,
    .of_scripts (by decide +kernel) (by decide +kernel), hroot, hname, hancestry, hfound,
    hancestry.current (hsession.early (.inl hroot)).atRest hfound,
    Trails.of_two htrails hopen (hclosed _ (List.mem_singleton_self _)), hcanonical,
    by decide +kernel, hrun⟩

end Page

end PageRouter
