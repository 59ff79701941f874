import PageRouter.Proofs.Captures

/-!
# Chains of nested patterns

Each pattern of a chain but the first is matched against the tail of the one around it (`descend`).
The location below the root is itself a tail, of which nothing has been used up
(`ParentLink.outer`), so all levels are matched in one way (`Pattern.matchUnder_eq`), and a law of
one level becomes a law of chains of any length.

What is used up and what is left make up the path, apart from the slashes between them; parameters
accumulate, and the deepest level that declares a name decides its value; the query is the same at
all levels (`chain_accumulates`).
-/

namespace PageRouter

open Text

/-! ## Levels -/

/-- The tail that a route is matched against from its place. -/
def ParentLink.outer (url root : Text) : ParentLink → Option Tail
  | .root => some ⟨[], pathPart (stripRoot url root), ∅⟩
  | .child tail => tail

/-- One pattern of a chain, where it is matched, and what it learns. -/
structure Level where
  place : ParentLink
  pattern : Pattern
  found : Match

/-- **A chain of patterns**: the first is matched from a place, each next one from the tail of the
one before it.  There are no levels unless all patterns match. -/
def descend (url root : Text) : ParentLink → List Pattern → Option (List Level)
  | _, [] => some []
  | place, pattern :: patterns =>
    match pattern.matchUnder place url root with
    | none => none
    | some found =>
      (descend url root (.child found.tail) patterns).map (⟨place, pattern, found⟩ :: ·)

/-- How a level parts the path: what is used up before it and the path it is matched against are
what is used up after it, some slashes, and the text that its splat leaves. -/
def Level.Parts (url root : Text) (level : Level) (raw : Text) (slashes : Nat) : Prop :=
  ∃ outer tail, level.place.outer url root = some outer ∧ level.found.tail = some tail ∧
    tail.path = '/' :: raw ∧
    outer.consumed ++ outer.path = tail.consumed ++ List.replicate slashes '/' ++ raw

variable {url root : Text}

/-! ## One level -/

/-- A tail as it stands in a chain. -/
structure Tail.Valid (tail : Tail) : Prop where
  not_mem_path : '?' ∉ tail.path
  getLast?_consumed : tail.consumed.getLast? ≠ some '/'

/-- Nothing used up changes nothing. -/
lemma Match.under_nothing (found : Match) (path : Text) : found.under ⟨[], path, ∅⟩ = found := by
  obtain ⟨params, splats, tail, query⟩ := found
  cases tail with
  | none => rfl
  | some tail =>
      have hparams : Params.overriddenBy ∅ tail.params = tail.params :=
        Params.ext_get? fun name => by rw [Params.get?_overriddenBy]; exact Option.or_none
      simp [Match.under, hparams]

/-- **All places are one**: a pattern is matched against the path that is left and the search of the
location, and what was used up and found before is put to the match. -/
lemma Pattern.matchUnder_eq (pattern : Pattern) (place : ParentLink) (hroot : '?' ∉ root) :
    pattern.matchUnder place url root = (place.outer url root).bind fun outer =>
      (pattern.matchPath (outer.path ++ searchPart url)).map (·.under outer) := by
  cases place with
  | root =>
      have htext : pathPart (stripRoot url root) ++ searchPart url = stripRoot url root := by
        rw [← searchPart_stripRoot hroot, pathPart_append_searchPart]
      simp [Pattern.matchUnder, ParentLink.outer, htext, Match.under_nothing]
  | child tail => cases tail <;> rfl

/-- The location itself is a valid tail. -/
lemma valid_outer_root {outer : Tail} (h : ParentLink.root.outer url root = some outer) :
    outer.Valid := by
  cases h
  exact ⟨not_mem_pathPart _, by simp⟩

namespace Pattern

variable {pattern : Pattern} {outer : Tail} {own : Match}

/-- **What a pattern leaves** under a valid tail. -/
lemma exists_tail_under (houter : outer.Valid) (hplain : '?' ∉ pattern.text)
    (h : pattern.matchPath (outer.path ++ searchPart url) = some own) (hsplat : pattern.hasSplat) :
    ∃ name raw tail slashes, own.splats = .ofList [(name, raw)] ∧
      (own.under outer).tail = some tail ∧ tail.path = '/' :: raw ∧ tail.Valid ∧
      tail.params = outer.params.overriddenBy own.params ∧
      outer.consumed ++ outer.path = tail.consumed ++ List.replicate slashes '/' ++ raw := by
  obtain ⟨name, raw, consumed, slashes, hsplats, htail, hraw, hend, hpath⟩ :=
    exists_tail h hplain hsplat
  rw [searchPart_eq_searchOf, pathPart_append houter.not_mem_path] at hpath
  refine ⟨name, raw, _, slashes, hsplats, by rw [Match.under, htail]; rfl, rfl, ⟨?_, ?_⟩, rfl, ?_⟩
  · simpa using hraw
  · rw [List.getLast?_append]
    cases hlast : consumed.getLast? with
    | none => exact houter.getLast?_consumed
    | some c => rwa [hlast] at hend
  · simp only [hpath, List.append_assoc]

lemma valid_of_tail_under (houter : outer.Valid) (hplain : '?' ∉ pattern.text)
    (h : pattern.matchPath (outer.path ++ searchPart url) = some own) {tail : Tail}
    (htail : (own.under outer).tail = some tail) :
    tail.Valid ∧ tail.params = outer.params.overriddenBy own.params := by
  have hown : own.tail.isSome := by
    cases hown : own.tail with
    | none => simp [Match.under, hown] at htail
    | some tail => rfl
  obtain ⟨-, -, tail', -, -, htail', -, hvalid, hparams, -⟩ :=
    exists_tail_under houter hplain h (hasSplat_of_tail h hown)
  rw [htail, Option.some.injEq] at htail'
  exact htail' ▸ ⟨hvalid, hparams⟩

end Pattern

/-! ## Chains -/

variable {place : ParentLink} {pattern : Pattern} {patterns : List Pattern} {levels : List Level}

lemma exists_of_descend_cons (hroot : '?' ∉ root)
    (h : descend url root place (pattern :: patterns) = some levels) : ∃ outer own rest,
    place.outer url root = some outer ∧ pattern.matchPath (outer.path ++ searchPart url) = some own ∧
      descend url root (.child (own.under outer).tail) patterns = some rest ∧
      levels = ⟨place, pattern, own.under outer⟩ :: rest := by
  rw [descend, pattern.matchUnder_eq place hroot] at h
  split at h
  · cases h
  · next found hfound =>
      obtain ⟨outer, houter, hmatch⟩ := Option.bind_eq_some_iff.1 hfound
      obtain ⟨own, hown, rfl⟩ := Option.map_eq_some_iff.1 hmatch
      obtain ⟨rest, hrest, rfl⟩ := Option.map_eq_some_iff.1 h
      exact ⟨outer, own, rest, houter, hown, hrest, rfl⟩

lemma exists_outer_of_descend (hroot : '?' ∉ root)
    (h : descend url root place patterns = some levels) (hne : levels ≠ []) :
    ∃ outer, place.outer url root = some outer := by
  cases patterns with
  | nil =>
      cases h
      exact absurd rfl hne
  | cons pattern patterns =>
      obtain ⟨outer, -, -, houter, -⟩ := exists_of_descend_cons hroot h
      exact ⟨outer, houter⟩

/-- Each level of a chain is matched against a valid tail. -/
lemma exists_of_mem_descend (hroot : '?' ∉ root) (hplain : ∀ pattern ∈ patterns, '?' ∉ pattern.text)
    (hplace : ∀ outer, place.outer url root = some outer → outer.Valid)
    (h : descend url root place patterns = some levels) {level : Level} (hlevel : level ∈ levels) :
    ∃ outer own, level.place.outer url root = some outer ∧ outer.Valid ∧
      '?' ∉ level.pattern.text ∧
      level.pattern.matchPath (outer.path ++ searchPart url) = some own ∧
      level.found = own.under outer := by
  induction patterns generalizing place levels with
  | nil =>
      cases h
      cases hlevel
  | cons pattern patterns ih =>
      have hpattern := hplain pattern (List.mem_cons_self ..)
      obtain ⟨outer, own, rest, houter, hown, hrest, rfl⟩ := exists_of_descend_cons hroot h
      rcases List.mem_cons.1 hlevel with rfl | hlevel
      · exact ⟨outer, own, houter, hplace outer houter, hpattern, hown, rfl⟩
      · refine ih (fun other hother => hplain other (List.mem_cons_of_mem _ hother)) ?_ hrest hlevel
        intro tail htail
        exact (Pattern.valid_of_tail_under (hplace outer houter) hpattern hown htail).1

/-- With one slash at a level, nothing of the path is lost there. -/
lemma Level.Parts.append_eq {level : Level} {raw : Text} (h : level.Parts url root raw 1)
    {outer tail : Tail} (houter : level.place.outer url root = some outer)
    (htail : level.found.tail = some tail) :
    tail.consumed ++ tail.path = outer.consumed ++ outer.path := by
  obtain ⟨outer', tail', houter', htail', hpath, hparts⟩ := h
  obtain rfl : outer = outer' := Option.some.inj (houter.symm.trans houter')
  obtain rfl : tail = tail' := Option.some.inj (htail.symm.trans htail')
  rw [hparts, hpath]
  simp

/-- **What a level leaves**, told from the place where the chain begins. -/
lemma tail_of_descend (hroot : '?' ∉ root) (hplain : ∀ pattern ∈ patterns, '?' ∉ pattern.text)
    {outer : Tail} (houter : place.outer url root = some outer) (hvalid : outer.Valid)
    {above below : List Level} {level : Level}
    (h : descend url root place patterns = some (above ++ level :: below)) {tail : Tail}
    (htail : level.found.tail = some tail) :
    ((∀ upper ∈ above ++ [level], ∃ raw, upper.Parts url root raw 1) →
      tail.consumed ++ tail.path = outer.consumed ++ outer.path) ∧
    ∀ name, tail.params.get? name =
      ((above ++ [level]).reverse.findSome? (·.found.params.get? name)).or
        (outer.params.get? name) := by
  induction patterns generalizing place outer above with
  | nil =>
      have hnil := Option.some.inj h
      cases above <;> cases hnil
  | cons pattern patterns ih =>
      have hpattern := hplain pattern (List.mem_cons_self ..)
      obtain ⟨outer', own, rest, houter', hown, hrest, hlevels⟩ := exists_of_descend_cons hroot h
      obtain rfl : outer = outer' := Option.some.inj (houter.symm.trans houter')
      cases above with
      | nil =>
          obtain ⟨rfl, rfl⟩ := List.cons.inj hlevels
          obtain ⟨-, hparams⟩ := Pattern.valid_of_tail_under hvalid hpattern hown htail
          constructor
          · intro hparts
            obtain ⟨raw, hparts⟩ := hparts _ (List.mem_cons_self ..)
            exact hparts.append_eq houter htail
          · intro name
            rw [hparams, Params.get?_overriddenBy]
            simp [Match.under]
      | cons head above =>
          obtain ⟨rfl, rfl⟩ := List.cons.inj hlevels
          -- the level below the first one is matched against the tail that the first one leaves
          obtain ⟨middle, hmiddle⟩ := exists_outer_of_descend hroot hrest (by simp)
          obtain ⟨hvalidMiddle, hparams⟩ :=
            Pattern.valid_of_tail_under hvalid hpattern hown hmiddle
          have hplainRest : ∀ other ∈ patterns, '?' ∉ other.text :=
            fun other hother => hplain other (List.mem_cons_of_mem _ hother)
          obtain ⟨hpath, hget⟩ := ih hplainRest hmiddle hvalidMiddle hrest
          constructor
          · intro hparts
            obtain ⟨raw, hhead⟩ := hparts _ (List.mem_cons_self ..)
            rw [hpath fun upper hupper => hparts upper (List.mem_cons_of_mem _ hupper)]
            exact hhead.append_eq houter hmiddle
          · intro name
            rw [hget, hparams, Params.get?_overriddenBy, List.cons_append, List.reverse_cons,
              List.findSome?_append, Option.or_assoc]
            simp [Match.under]

/-- **The deepest level counts** in a map that holds, for each name, the value of the last level
that declares it. -/
lemma deepest_counts {params : RouteParams} {name : Text}
    (hnames : ∀ level ∈ levels,
      (level.found.params.get? name).isSome ↔ name ∈ level.pattern.names)
    (hget : params.get? name = levels.reverse.findSome? (·.found.params.get? name)) :
    (name ∈ params.names ↔ ∃ level ∈ levels, name ∈ level.pattern.names) ∧
      ∀ before deepest after, levels = before ++ deepest :: after →
        name ∈ deepest.pattern.names → (∀ lower ∈ after, name ∉ lower.pattern.names) →
        params.get? name = deepest.found.params.get? name := by
  constructor
  · rw [Params.mem_names_iff, hget, List.findSome?_isSome_iff]
    constructor
    · rintro ⟨level, hlevel, hsome⟩
      rw [List.mem_reverse] at hlevel
      exact ⟨level, hlevel, (hnames level hlevel).1 hsome⟩
    · rintro ⟨level, hlevel, hname⟩
      exact ⟨level, List.mem_reverse.2 hlevel, (hnames level hlevel).2 hname⟩
  · rintro before deepest after rfl hdeepest hafter
    have hnone : after.reverse.findSome? (·.found.params.get? name) = none := by
      rw [List.findSome?_eq_none_iff]
      intro lower hlower
      rw [List.mem_reverse] at hlower
      rw [← Option.not_isSome_iff_eq_none, hnames lower (by simp [hlower])]
      exact hafter lower hlower
    have hsome := (hnames deepest (by simp)).2 hdeepest
    obtain ⟨value, hvalue⟩ := Option.isSome_iff_exists.1 hsome
    rw [hget, hvalue]
    simp [List.findSome?_append, hnone, hvalue]

/-! ## The law of chains -/

/-- **A chain accumulates.**  At each level with a splat, what was used up before and the path that
the level is matched against are what is used up after it, some slashes, and what its splat leaves.
If there is one slash at each level, what is used up and what is left make up the path of the
location below the root.  The parameters of a tail are those of all levels down to it, and of levels
that declare the same name the deepest counts.  The query is that of the location at every level. -/
theorem chain_accumulates {url root : Text} {patterns : List Pattern} {levels : List Level}
    (hroot : '?' ∉ root) (hplain : ∀ pattern ∈ patterns, '?' ∉ pattern.text)
    (h : descend url root .root patterns = some levels) :
    (∀ level ∈ levels, level.pattern.hasSplat → ∃ name raw tail slashes,
      level.found.splats = .ofList [(name, raw)] ∧ level.found.tail = some tail ∧
        tail.path = '/' :: raw ∧ '?' ∉ raw ∧ tail.consumed.getLast? ≠ some '/' ∧
        level.Parts url root raw slashes) ∧
    (∀ above level below tail, levels = above ++ level :: below → level.found.tail = some tail →
      (∀ upper ∈ above ++ [level], ∃ raw, upper.Parts url root raw 1) →
      tail.consumed ++ tail.path = pathPart (stripRoot url root)) ∧
    (∀ above level below tail, levels = above ++ level :: below → level.found.tail = some tail →
      ∀ name,
        (name ∈ tail.params.names ↔ ∃ upper ∈ above ++ [level], name ∈ upper.pattern.names) ∧
        ∀ before deepest after, above ++ [level] = before ++ deepest :: after →
          name ∈ deepest.pattern.names → (∀ lower ∈ after, name ∉ lower.pattern.names) →
          tail.params.get? name = deepest.found.params.get? name) ∧
    ∀ level ∈ levels, level.found.query = queryPart url := by
  have hplace : ∀ outer, ParentLink.root.outer url root = some outer → outer.Valid :=
    fun outer => valid_outer_root
  have hlevels : ∀ level ∈ levels, _ :=
    fun level => exists_of_mem_descend hroot hplain hplace h
  have hnames : ∀ level ∈ levels, ∀ name,
      (level.found.params.get? name).isSome ↔ name ∈ level.pattern.names := by
    intro level hlevel name
    obtain ⟨outer, own, -, -, -, hown, hfound⟩ := hlevels level hlevel
    rw [← Pattern.mem_names_of_matchPath hown, Params.mem_names_iff, hfound]
    rfl
  refine ⟨fun level hlevel hsplat => ?_, fun above level below tail heq htail hparts => ?_,
    fun above level below tail heq htail name => ?_, fun level hlevel => ?_⟩
  · obtain ⟨outer, own, houter, hvalid, hpattern, hown, hfound⟩ := hlevels level hlevel
    obtain ⟨name, raw, tail, slashes, hsplats, htail, hpath, hvalidTail, -, hparts⟩ :=
      Pattern.exists_tail_under hvalid hpattern hown hsplat
    rw [← hfound] at htail
    refine ⟨name, raw, tail, slashes, ?_, htail, hpath, ?_, hvalidTail.getLast?_consumed, outer, tail,
      houter, htail, hpath, hparts⟩
    · rw [hfound, ← hsplats]
      rfl
    · have hmark := hvalidTail.not_mem_path
      rw [hpath, List.mem_cons, not_or] at hmark
      exact hmark.2
  · subst heq
    exact (tail_of_descend hroot hplain rfl (hplace _ rfl) h htail).1 hparts
  · subst heq
    have hget := (tail_of_descend hroot hplain rfl (hplace _ rfl) h htail).2 name
    rw [show Params.get? (∅ : RouteParams) name = none from rfl, Option.or_none] at hget
    refine deepest_counts (fun upper hupper => hnames upper ?_ name) hget
    rw [List.append_cons]
    exact List.mem_append_left _ hupper
  · obtain ⟨outer, own, -, hvalid, hpattern, hown, hfound⟩ := hlevels level hlevel
    rw [hfound]
    calc own.query = queryPart (outer.path ++ searchPart url) :=
          Pattern.query_of_matchPath hown hpattern
      _ = queryPart url := by rw [searchPart_eq_searchOf, queryPart_append hvalid.not_mem_path]

/-! ## Three levels -/

/-- Three patterns for routes nested in one another.  Two of them declare `id`, and the second one
has a group. -/
def threeDeep : List Pattern :=
  [ ⟨"/users/:id/*rest".toList, _, rfl, by decide, by decide, by decide⟩,
    ⟨"/posts/:id(/:mode)/*rest".toList, _, rfl, by decide, by decide, by decide⟩,
    ⟨"/:page".toList, _, rfl, by decide, by decide, by decide⟩ ]

/-- A location that all three match, below the root `/app`. -/
def threeDeepUrl : Text := "/app/users/ann/posts/9/edit?tab=1".toList

/-- What a level is matched against and what it leaves, as texts. -/
def Level.texts (url root : Text) (level : Level) : Option (Text × Text) × Option (Text × Text) :=
  ((level.place.outer url root).map fun tail => (tail.consumed, tail.path),
    level.found.tail.map fun tail => (tail.consumed, tail.path))

lemma Level.Parts.of_texts {level : Level} {before path after raw : Text} {slashes : Nat}
    (h : level.texts url root = (some (before, path), some (after, '/' :: raw)))
    (hpath : before ++ path = after ++ List.replicate slashes '/' ++ raw) :
    level.Parts url root raw slashes := by
  obtain ⟨hbefore, hafter⟩ := Prod.mk.inj h
  obtain ⟨outer, houter, hbefore⟩ := Option.map_eq_some_iff.1 hbefore
  obtain ⟨tail, htail, hafter⟩ := Option.map_eq_some_iff.1 hafter
  obtain ⟨rfl, rfl⟩ := Prod.mk.inj hbefore
  obtain ⟨rfl, hraw⟩ := Prod.mk.inj hafter
  exact ⟨outer, tail, houter, htail, hraw, hpath⟩

/-- What the second of three levels leaves. -/
theorem chain_accumulates_threeDeep : ∃ levels level tail,
    '?' ∉ "/app".toList ∧ (∀ pattern ∈ threeDeep, '?' ∉ pattern.text) ∧
      descend threeDeepUrl "/app".toList .root threeDeep = some levels ∧
      levels[1]? = some level ∧ level.found.tail = some tail ∧
      tail.consumed ++ tail.path = "/users/ann/posts/9/edit".toList ∧
      tail.params.get? "id".toList = level.found.params.get? "id".toList ∧
      ∀ level ∈ levels, level.found.query = some "tab=1".toList := by
  have hroot : '?' ∉ "/app".toList := by decide
  have hplain : ∀ pattern ∈ threeDeep, '?' ∉ pattern.text := by decide
  have hlength : (descend threeDeepUrl "/app".toList .root threeDeep).map List.length = some 3 := by
    decide +kernel
  have hfirst : ((descend threeDeepUrl "/app".toList .root threeDeep).bind (·[0]?)).map
      (·.texts threeDeepUrl "/app".toList) =
        some (some ([], "/users/ann/posts/9/edit".toList),
          some ("/users/ann".toList, "/posts/9/edit".toList)) := by
    decide +kernel
  have hsecond : ((descend threeDeepUrl "/app".toList .root threeDeep).bind (·[1]?)).map
      (·.texts threeDeepUrl "/app".toList) =
        some (some ("/users/ann".toList, "/posts/9/edit".toList),
          some ("/users/ann/posts/9".toList, "/edit".toList)) := by
    decide +kernel
  have hnames : ((descend threeDeepUrl "/app".toList .root threeDeep).bind (·[1]?)).map
      (·.pattern.names) = some ["id".toList, "mode".toList] := by
    decide +kernel
  obtain ⟨levels, h, hlength⟩ := Option.map_eq_some_iff.1 hlength
  rw [h] at hfirst hsecond hnames
  obtain ⟨first, second, third, rfl⟩ := List.length_eq_three.1 hlength
  obtain ⟨tail, htail, -⟩ := Option.map_eq_some_iff.1 (Prod.mk.inj (Option.some.inj hsecond)).2
  obtain ⟨-, hpath, hparams, hquery⟩ := chain_accumulates hroot hplain h
  refine ⟨_, second, tail, hroot, hplain, h, rfl, htail, ?_, ?_, hquery⟩
  · refine (hpath [first] second [third] tail rfl htail ?_).trans (by decide +kernel)
    rintro upper (_ | ⟨_, _ | ⟨_, _ | _⟩⟩)
    · exact ⟨_, .of_texts (Option.some.inj hfirst) rfl⟩
    · exact ⟨_, .of_texts (Option.some.inj hsecond) rfl⟩
  · have hdeclares : "id".toList ∈ second.pattern.names := by
      have heq : second.pattern.names = ["id".toList, "mode".toList] := Option.some.inj hnames
      rw [heq]
      decide
    exact (hparams [first] second [third] tail rfl htail _).2 [first] second [] rfl hdeclares
      (by simp)

/-! ## What a nested level leaves out -/

/-- Two patterns, the second for a route nested in the first. -/
def twoDeep : List Pattern :=
  [ ⟨"/a/*r".toList, _, rfl, by decide, by decide, by decide⟩,
    ⟨"/b/*s".toList, _, rfl, by decide, by decide, by decide⟩ ]

/-- **The path of a nested level is not all that is used up.**  What the second level is matched
against does not begin with what is used up after it, because that counts from the root. -/
theorem nested_path_ne_consumed : ∃ levels level outer tail,
    descend "/a/b/c".toList "/".toList .root twoDeep = some levels ∧ level ∈ levels ∧
      level.pattern.hasSplat ∧ level.place.outer "/a/b/c".toList "/".toList = some outer ∧
      level.found.tail = some tail ∧
      ∀ slashes raw, outer.path ≠ tail.consumed ++ List.replicate slashes '/' ++ raw := by
  have hlevel : ((descend "/a/b/c".toList "/".toList .root twoDeep).bind (·[1]?)).map
      (·.texts "/a/b/c".toList "/".toList) =
        some (some ("/a".toList, "/b/c".toList), some ("/a/b".toList, "/c".toList)) := by
    decide +kernel
  have hsplat : ((descend "/a/b/c".toList "/".toList .root twoDeep).bind (·[1]?)).map
      (·.pattern.hasSplat) = some true := by
    decide +kernel
  obtain ⟨level, hlevel, htexts⟩ := Option.map_eq_some_iff.1 hlevel
  rw [hlevel, Option.map_some, Option.some.injEq] at hsplat
  obtain ⟨levels, h, hat⟩ := Option.bind_eq_some_iff.1 hlevel
  obtain ⟨hbefore, hafter⟩ := Prod.mk.inj htexts
  obtain ⟨outer, houter, hbefore⟩ := Option.map_eq_some_iff.1 hbefore
  obtain ⟨tail, htail, hafter⟩ := Option.map_eq_some_iff.1 hafter
  refine ⟨levels, level, outer, tail, h, List.mem_of_getElem? hat, hsplat, houter, htail, ?_⟩
  intro slashes raw
  rw [(Prod.mk.inj hbefore).2, (Prod.mk.inj hafter).1]
  simp

end PageRouter
