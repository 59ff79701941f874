import Mathlib.Data.List.Nodup
import PageRouter.Pattern.Fill
import PageRouter.Proofs.Captures
import PageRouter.Proofs.Escapes

/-!
# Filling in and matching

Filling in a pattern and matching it undo each other, in either order, under a condition on the
pattern that differs with the order.

**Matching undoes filling** (`Pattern.matchPath_fill`) where a named parameter ends at a slash, at
the splat or at the end, groups aside.  A filled path takes every group, and
`Shape.Reads.full_first` says that this reading precedes all others: a value is then as long as a
segment, so nothing can capture more, the splat captures nothing, and skipping a group is the worse
choice.

**Filling undoes matching** (`Pattern.fill_matchPath`) where each group has a named parameter of its
own.  Which groups a reading takes is then told by the parameters that have a value
(`Shape.Reads.fill_eq`).  A value is filled in as `encodeComponent` writes it, so the text must have
been written that way.
-/

namespace PageRouter

open Text

/-! ## The path with all groups -/

namespace Token

/-- What ends the segment in front of it: the end of the pattern, a splat or a slash. -/
def endsSegment : List Token → Bool
  | [] | .splat _ :: _ | .literal ('/' :: _) :: _ => true
  | _ => false

/-- Each named parameter ends its segment. -/
def Delimited : List Token → Prop
  | [] => True
  | .named _ :: tokens => endsSegment tokens ∧ Delimited tokens
  | _ :: tokens => Delimited tokens

instance decidableDelimited : DecidablePred Delimited
  | [] => .isTrue trivial
  | .named _ :: tokens =>
      have := decidableDelimited tokens
      inferInstanceAs (Decidable (endsSegment tokens ∧ Delimited tokens))
  | .literal _ :: tokens | .splat _ :: tokens | .groupOpen :: tokens | .groupClose :: tokens =>
      decidableDelimited tokens

/-- The part of a filled path that comes from a token. -/
def filled (values : Params Text) : Token → Text
  | .literal text => text
  | .named name => encodeComponent ((values.get? name).getD [])
  | .splat _ | .groupOpen | .groupClose => []

/-- Values for all named parameters, none of them empty. -/
def Given (values : Params Text) (tokens : List Token) : Prop :=
  ∀ name, .named name ∈ tokens → ∃ value, values.get? name = some value ∧ value ≠ []

variable {values : Params Text} {tokens tokens' : List Token}

lemma Given.left (h : Given values (tokens ++ tokens')) : Given values tokens :=
  fun name hmem => h name (List.mem_append_left _ hmem)

lemma Given.right (h : Given values (tokens ++ tokens')) : Given values tokens' :=
  fun name hmem => h name (List.mem_append_right _ hmem)

lemma Given.tail {token : Token} (h : Given values (token :: tokens)) : Given values tokens :=
  fun name hmem => h name (List.mem_cons_of_mem _ hmem)

lemma Delimited.right (h : Delimited (tokens ++ tokens')) : Delimited tokens' := by
  induction tokens with
  | nil => exact h
  | cons token tokens ih =>
      cases token
      case named => exact ih h.2
      all_goals exact ih h

lemma Given.filled_ne_nil {name : Text} (h : Given values tokens) (hmem : .named name ∈ tokens) :
    filled values (.named name) ≠ [] := by
  obtain ⟨value, hvalue, hne⟩ := h name hmem
  rw [filled, hvalue]
  exact encodeComponent_ne_nil hne

/-- A filled parameter stays inside a segment. -/
lemma inside_of_mem_filled {name : Text} {c : Char} (h : c ∈ filled values (.named name)) :
    c ≠ '/' ∧ c ≠ '?' :=
  inside_of_mem_encodeComponent h

/-- What is filled in behind the end of a segment begins with a slash, if with anything. -/
lemma head?_filled (h : endsSegment tokens) (hlast : SplatLast tokens) :
    ∀ c ∈ (tokens.flatMap (filled values)).head?, c = '/' := by
  unfold endsSegment at h
  split at h
  · simp
  · next name more =>
      obtain rfl : more = [] := hlast
      simp [filled]
  · simp [filled]
  · cases h

end Token

namespace Shape

/-- The choices of the reading that takes every group of a filled path. -/
def fullChoices (values : Params Text) : Shape → List Choice
  | .done => []
  | .literal _ next => next.fullChoices values
  | .named name next => .named (Token.filled values (.named name)) :: next.fullChoices values
  | .splat _ next => .splat [] :: next.fullChoices values
  | .group body next => .taken :: (body.fullChoices values ++ next.fullChoices values)

variable {values : Params Text}

/-- **A filled path has all groups** where all values are given, and nothing is missing. -/
lemma fill_of_given {shape : Shape} (h : Token.Given values shape.leaves) :
    shape.fill values = ⟨shape.leaves.flatMap (Token.filled values), []⟩ := by
  induction shape with
  | done => rfl
  | literal text next ih => simp [fill, leaves, Token.filled, ih h.tail]
  | named name next ih =>
      obtain ⟨value, hvalue, -⟩ := h name (List.mem_cons_self ..)
      simp [fill, leaves, Token.filled, hvalue, ih h.tail]
  | splat name next ih => simp [fill, leaves, Token.filled, ih h.tail]
  | group body next ihBody ih => simp [fill, leaves, ihBody h.left, ih h.right]

/-- The filled path can be read with every group taken. -/
lemma reads_full {shape : Shape} (h : Token.Given values shape.leaves) (optional : Bool) :
    shape.Reads (shape.fullChoices values)
      ((shape.params optional).map fun param => some (param.leaf.filled values))
      (shape.leaves.flatMap (Token.filled values)) := by
  induction shape generalizing optional with
  | done => exact .done
  | literal text next ih => exact .literal (ih h.tail optional)
  | named name next ih =>
      exact .named (h.filled_ne_nil (List.mem_cons_self ..)) (fun c => Token.inside_of_mem_filled)
        (ih h.tail optional)
  | splat name next ih => exact .splat (by simp) (ih h.tail optional)
  | group body next ihBody ih =>
      rw [params, List.map_append, leaves, List.flatMap_append]
      exact .taken (ihBody h.left true) (ih h.right optional)

/-- Text up to the end of a segment is the longest that a named parameter can capture. -/
lemma named_le_segment {value segment rest rest' : Text} (hvalue : ∀ c ∈ value, c ≠ '/')
    (hends : ∀ c ∈ rest'.head?, c = '/') (h : value ++ rest = segment ++ rest') :
    value = segment ∨ value.length < segment.length := by
  rcases List.append_eq_append_iff.1 h with ⟨more, rfl, hrest⟩ | ⟨more, rfl, hrest⟩
  · cases more with
    | nil => exact .inl (List.append_nil _).symm
    | cons c more => exact .inr (by simp)
  · cases more with
    | nil => exact .inl (List.append_nil _)
    | cons c more =>
        have hc : c = '/' := hends c (by simp [hrest])
        exact absurd hc (hvalue c (by simp))

end Shape

namespace Shape.Reads

variable {values : Params Text} {shape : Shape} {choices : List Choice}
  {captures : List (Option Text)} {path : Text}

/-- **Taking every group comes first** among all ways to read a filled path.  The tokens `after` are
those that stand behind the sequence; the other way may read what they leave, `rest`, as it likes. -/
theorem full_first (h : shape.Reads choices captures path) (after : List Token) {rest : Text}
    (hdelimited : Token.Delimited (shape.leaves ++ after))
    (hlast : Token.SplatLast (shape.leaves ++ after))
    (hpath : path ++ rest = (shape.leaves ++ after).flatMap (Token.filled values)) :
    (choices = shape.fullChoices values ∧ rest = after.flatMap (Token.filled values)) ∨
      Precedes (shape.fullChoices values) choices := by
  induction h generalizing after rest with
  | done => exact .inl ⟨rfl, hpath⟩
  | literal _ ih =>
      rw [leaves, List.cons_append, List.flatMap_cons, List.append_assoc] at hpath
      exact ih after hdelimited hlast (List.append_cancel_left hpath)
  | @named name value path next _ _ hne hvalue _ ih =>
      rw [leaves, List.cons_append, List.flatMap_cons, List.append_assoc] at hpath
      have hends : ∀ c ∈ ((next.leaves ++ after).flatMap (Token.filled values)).head?, c = '/' :=
        Token.head?_filled hdelimited.1 hlast
      rcases named_le_segment (fun c hc => (hvalue c hc).1) hends hpath with rfl | hshorter
      · refine (ih after hdelimited.2 hlast (List.append_cancel_left hpath)).imp ?_ ?_
        · rintro ⟨rfl, hrest⟩
          exact ⟨rfl, hrest⟩
        · exact fun hprecedes => .inr ⟨rfl, hprecedes⟩
      · exact .inr (.inl hshorter)
  | @splat name value path next _ _ hvalue _ ih =>
      rw [leaves, List.cons_append, List.flatMap_cons, List.append_assoc] at hpath
      cases value with
      | nil =>
          have hnext : Token.SplatLast (next.leaves ++ after) := by
            rw [show next.leaves ++ after = [] from hlast]
            trivial
          refine (ih after hdelimited hnext hpath).imp ?_ ?_
          · rintro ⟨rfl, hrest⟩
            exact ⟨rfl, hrest⟩
          · exact fun hprecedes => .inr ⟨rfl, hprecedes⟩
      | cons c value => exact .inr (.inl (Nat.succ_pos _))
  | taken _ _ ihBody ih =>
      rw [leaves, List.append_assoc] at hdelimited hlast hpath
      rw [List.append_assoc] at hpath
      rcases ihBody _ hdelimited hlast hpath with ⟨rfl, hrest⟩ | hprecedes
      · refine (ih after hdelimited.right hlast.right hrest).imp ?_ ?_
        · rintro ⟨rfl, hrest⟩
          exact ⟨rfl, hrest⟩
        · exact fun hprecedes => .inr ⟨rfl, hprecedes.append_left _⟩
      · exact .inr (.inr ⟨rfl, hprecedes.append ..⟩)
  | skipped => exact .inr (.inl trivial)

end Shape.Reads

/-! ## Matching undoes filling -/

namespace Pattern

variable {pattern : Pattern} {values : Params Text}

lemma mem_names_iff_leaf {name : Text} :
    name ∈ pattern.names ↔ .named name ∈ pattern.shape.leaves := by
  have hparams :
      .named name ∈ pattern.params.map Param.leaf ↔ .named name ∈ pattern.shape.leaves := by
    rw [params, Shape.map_leaf_params, List.mem_filter]
    exact and_iff_left rfl
  rw [← hparams, names, List.mem_map, List.mem_map]
  constructor
  · rintro ⟨⟨_, kind, optional⟩, hmem, rfl⟩
    obtain ⟨hmem, hkind⟩ := List.mem_filter.1 hmem
    obtain rfl : kind = .named := of_decide_eq_true hkind
    exact ⟨_, hmem, rfl⟩
  · rintro ⟨⟨_, _ | _, optional⟩, hmem, hleaf⟩
    · cases hleaf
      exact ⟨_, List.mem_filter.2 ⟨hmem, rfl⟩, rfl⟩
    · cases hleaf

/-- The reading of a filled path that takes all groups. -/
def fullReading (pattern : Pattern) (values : Params Text) : Reading where
  captures := pattern.params.map fun param => some (param.leaf.filled values)
  path := (fill pattern.text values).path
  query := none

/-- **The reading of a filled path** takes every group. -/
theorem leftmostFirst_full (hdelimited : Token.Delimited pattern.shape.leaves)
    (hgiven : Token.Given values pattern.shape.leaves) :
    pattern.LeftmostFirst (fill pattern.text values).path
      (pattern.shape.fullChoices values ++ [.noQuery]) (pattern.fullReading values) := by
  have hfill : fill pattern.text values =
      ⟨pattern.shape.leaves.flatMap (Token.filled values), []⟩ := by
    rw [fill, ← pattern.shape_eq]
    exact Shape.fill_of_given hgiven
  refine ⟨⟨_, ?_, .inl ⟨rfl, rfl, rfl⟩⟩, ?_⟩
  · rw [fullReading, hfill]
    exact Shape.reads_full hgiven false
  · intro others other hother
    obtain ⟨before, hreads, htext, rfl⟩ := derives_iff.1 hother
    have hpath : other.path ++ searchOf other.query =
        (pattern.shape.leaves ++ []).flatMap (Token.filled values) := by
      rw [← htext, hfill, List.append_nil]
    have hlast : Token.SplatLast (pattern.shape.leaves ++ []) := by
      rw [List.append_nil]
      exact pattern.splatLast_leaves
    rcases hreads.full_first [] (by rwa [List.append_nil]) hlast hpath with ⟨rfl, hrest⟩ | hprecedes
    · cases hquery : other.query with
      | none => exact .inl rfl
      | some query => rw [hquery] at hrest; cases hrest
    · exact .inr (hprecedes.append ..)

lemma zip_fullReading (pattern : Pattern) (values : Params Text) :
    pattern.params.zip (pattern.fullReading values).captures =
      pattern.params.map fun param => (param, some (param.leaf.filled values)) :=
  List.map_prod_left_eq_zip.symm

/-- Captured from a filled path, a parameter has the value that was given. -/
lemma namedValues_full (hgiven : Token.Given values pattern.shape.leaves) :
    Match.namedValues (pattern.params.zip (pattern.fullReading values).captures) =
      pattern.names.map fun name => (name, values.get? name) := by
  have hvalues : ∀ param ∈ pattern.params, param.kind = .named →
      (some (param.leaf.filled values)).map decodeComponent = values.get? param.name := by
    rintro ⟨name, kind, optional⟩ hmem rfl
    have hleaf : .named name ∈ pattern.shape.leaves := mem_names_iff_leaf.1
      (List.mem_map.2 ⟨_, List.mem_filter.2 ⟨hmem, rfl⟩, rfl⟩)
    obtain ⟨value, hvalue, -⟩ := hgiven name hleaf
    simp [Param.leaf, Token.filled, hvalue, decodeComponent_encodeComponent]
  rw [zip_fullReading, names]
  generalize pattern.params = params at hvalues
  induction params with
  | nil => rfl
  | cons param params ih =>
      have hrest := ih fun other hother => hvalues other (List.mem_cons_of_mem _ hother)
      have hparam := hvalues param (List.mem_cons_self ..)
      obtain ⟨name, _ | _, optional⟩ := param
      · have hhead : (name, (some (Token.filled values (.named name))).map decodeComponent) =
            (name, values.get? name) := congrArg (Prod.mk name) (hparam rfl)
        exact congrArg₂ List.cons hhead hrest
      · exact hrest

lemma splatValues_full (pattern : Pattern) (values : Params Text) :
    Match.splatValues (pattern.params.zip (pattern.fullReading values).captures) =
      (pattern.params.filter (·.kind = .splat)).map fun param => (param.name, []) := by
  rw [zip_fullReading]
  induction pattern.params with
  | nil => rfl
  | cons param params ih =>
      obtain ⟨name, _ | _, optional⟩ := param
      · exact ih
      · exact congrArg ((name, []) :: ·) ih

/-- **Matching undoes filling.**  In the pattern each named parameter is followed by the end, the
splat or a slash, parentheses apart.  Filled in with values for all of them, which may be any texts
but the empty one, it lacks nothing, and its match finds those values, also in groups, an empty rest
for the splat, and no query. -/
theorem matchPath_fill (pattern : Pattern) (values : Params Text)
    (hdelimited : Token.Delimited ((tokenize pattern.text).filter Token.isLeaf))
    (hvalues : ∀ name ∈ pattern.names, ∃ value, values.get? name = some value ∧ value ≠ []) :
    (fill pattern.text values).missing = [] ∧
      ∃ found, pattern.matchPath (fill pattern.text values).path = some found ∧
        (∀ name, found.params.get? name =
          if name ∈ pattern.names then some (values.get? name) else none) ∧
        (∀ param ∈ pattern.params, param.kind = .splat → found.splats.get? param.name = some []) ∧
        found.query = none := by
  rw [← leaves_shape] at hdelimited
  have hgiven : Token.Given values pattern.shape.leaves :=
    fun name hleaf => hvalues name (mem_names_iff_leaf.2 hleaf)
  refine ⟨?_, _, (leftmostFirst_full hdelimited hgiven).matchPath_eq, fun name => ?_,
    fun param hparam hkind => ?_, ?_⟩
  · rw [fill, ← pattern.shape_eq, Shape.fill_of_given hgiven]
  · rw [Match.ofReading_eq, namedValues_full hgiven]
    split
    · next hname =>
        refine Params.get?_ofList_eq_some (List.mem_map_of_mem hname) fun other hother => ?_
        obtain ⟨_, -, heq⟩ := List.mem_map.1 hother
        cases heq
        rfl
    · next hname =>
        rw [← Option.not_isSome_iff_eq_none, ← Params.mem_names_iff, Params.mem_names_ofList]
        simpa using hname
  · rw [Match.ofReading_eq, splatValues_full]
    refine Params.get?_ofList_eq_some (List.mem_map.2
      ⟨param, List.mem_filter.2 ⟨hparam, decide_eq_true hkind⟩, rfl⟩) fun other hother => ?_
    obtain ⟨_, -, heq⟩ := List.mem_map.1 hother
    exact (Prod.mk.inj heq).2.symm
  · rw [Match.ofReading_eq, fullReading]

/-- A pattern with a group in a group and with a splat. -/
def shop : Pattern :=
  ⟨"/shop(/:kind(/by-:maker))/*rest".toList, _, rfl, by decide, by decide, by decide⟩

lemma names_shop : shop.names = ["kind".toList, "maker".toList] := by decide +kernel

/-- Values that do not stand for themselves in a path. -/
def shopValues : Params Text :=
  .ofList [("kind".toList, "tea/50%".toList), ("maker".toList, "Ü & Co".toList)]

/-- All groups of the filled path are found again. -/
theorem matchPath_fill_shop :
    Token.Delimited ((tokenize shop.text).filter Token.isLeaf) ∧
      (∀ name ∈ shop.names, ∃ value, shopValues.get? name = some value ∧ value ≠ []) ∧
      (fill shop.text shopValues).path = "/shop/tea%2F50%25/by-%C3%9C%20%26%20Co/".toList ∧
      ∃ found, shop.matchPath (fill shop.text shopValues).path = some found ∧
        found.params.get? "kind".toList = some (some "tea/50%".toList) ∧
        found.params.get? "maker".toList = some (some "Ü & Co".toList) ∧ found.query = none := by
  have hdelimited : Token.Delimited ((tokenize shop.text).filter Token.isLeaf) := by decide +kernel
  have hvalues : ∀ name ∈ shop.names, ∃ value, shopValues.get? name = some value ∧ value ≠ [] := by
    rw [names_shop]
    intro name hname
    simp only [List.mem_cons, List.not_mem_nil, or_false] at hname
    rcases hname with rfl | rfl
    · exact ⟨"tea/50%".toList, by decide, by decide⟩
    · exact ⟨"Ü & Co".toList, by decide, by decide⟩
  obtain ⟨-, found, hfound, hparams, -, hquery⟩ := matchPath_fill shop shopValues hdelimited hvalues
  refine ⟨hdelimited, hvalues, by decide +kernel, found, hfound, ?_, ?_, hquery⟩
  · rw [hparams, names_shop]
    decide
  · rw [hparams, names_shop]
    decide

end Pattern

/-! ## Groups that a reading takes -/

namespace Shape

/-- The named parameters that stand in a sequence itself, not in a group of it. -/
def ownNames : Shape → List Text
  | .done => []
  | .named name next => name :: next.ownNames
  | .literal _ next | .splat _ next | .group _ next => next.ownNames

/-- Every group has a named parameter of its own. -/
def GroupsNamed : Shape → Prop
  | .done => True
  | .literal _ next | .named _ next | .splat _ next => next.GroupsNamed
  | .group body next => body.ownNames ≠ [] ∧ body.GroupsNamed ∧ next.GroupsNamed

instance decidableGroupsNamed : DecidablePred GroupsNamed
  | .done => .isTrue trivial
  | .literal _ next | .named _ next | .splat _ next => decidableGroupsNamed next
  | .group body next =>
      have := decidableGroupsNamed body
      have := decidableGroupsNamed next
      inferInstanceAs (Decidable (body.ownNames ≠ [] ∧ body.GroupsNamed ∧ next.GroupsNamed))

variable {values : Params Text} {shape : Shape} {name : Text}

lemma mem_params_of_mem_ownNames (h : name ∈ shape.ownNames) (optional : Bool) :
    ⟨name, .named, optional⟩ ∈ shape.params optional := by
  induction shape with
  | done => simp [ownNames] at h
  | literal text next ih => exact ih h
  | named other next ih =>
      rcases List.mem_cons.1 h with rfl | h
      · exact List.mem_cons_self ..
      · exact List.mem_cons_of_mem _ (ih h)
  | splat other next ih => exact List.mem_cons_of_mem _ (ih h)
  | group body next ihBody ih => exact List.mem_append_right _ (ih h)

/-- A parameter of a sequence's own that has no value is missing. -/
lemma mem_missing (h : name ∈ shape.ownNames) (hnone : values.get? name = none) :
    name ∈ (shape.fill values).missing := by
  induction shape with
  | done => simp [ownNames] at h
  | literal text next ih => exact ih h
  | named other next ih =>
      rw [fill]
      rcases List.mem_cons.1 h with rfl | h
      · rw [hnone]
        exact List.mem_cons_self ..
      · split
        · exact ih h
        · exact List.mem_cons_of_mem _ (ih h)
  | splat other next ih => exact ih h
  | group body next ihBody ih =>
      rw [fill]
      split
      · exact ih h
      · exact ih h

end Shape

/-- The captures of named parameters are the values as they are written, and a parameter without a
capture has no value. -/
def Match.Written (values : Params Text) (captures : List (Param × Option Text)) : Prop :=
  ∀ param capture, (param, capture) ∈ captures → param.kind = .named →
    (values.get? param.name).map encodeComponent = capture

namespace Match.Written

variable {values : Params Text} {captures captures' : List (Param × Option Text)}

lemma left (h : Written values (captures ++ captures')) : Written values captures :=
  fun param capture hmem => h param capture (List.mem_append_left _ hmem)

lemma right (h : Written values (captures ++ captures')) : Written values captures' :=
  fun param capture hmem => h param capture (List.mem_append_right _ hmem)

lemma tail {head : Param × Option Text} (h : Written values (head :: captures)) :
    Written values captures :=
  fun param capture hmem => h param capture (List.mem_cons_of_mem _ hmem)

end Match.Written

/-- A group that a reading skips has parameters missing. -/
lemma Shape.missing_of_skipped {values : Params Text} {body : Shape} (hnamed : body.ownNames ≠ [])
    (h : Match.Written values
      ((body.params true).zip (List.replicate (body.params true).length none))) :
    (body.fill values).missing ≠ [] := by
  obtain ⟨name, hname⟩ := List.exists_mem_of_ne_nil _ hnamed
  have hskipped : ((⟨name, .named, true⟩, none) : Param × Option Text) ∈
      (body.params true).zip (List.replicate (body.params true).length none) := by
    rw [← List.map_const', ← List.map_prod_left_eq_zip]
    exact List.mem_map_of_mem (Shape.mem_params_of_mem_ownNames hname true)
  have hnone := h _ _ hskipped rfl
  exact List.ne_nil_of_mem (mem_missing hname (Option.map_eq_none_iff.1 hnone))

/-- **Filling in takes the groups that a reading took**, where the values are what it captured: the
filled path and what the splat captured make up the path that was read. -/
theorem Shape.Reads.fill_eq {values : Params Text} {shape : Shape} {choices : List Choice}
    {captures : List (Option Text)} {path : Text} (h : shape.Reads choices captures path)
    (hgroups : shape.GroupsNamed) (hlast : Token.SplatLast shape.leaves) (optional : Bool)
    (hvalues : Match.Written values ((shape.params optional).zip captures)) :
    (shape.fill values).missing = [] ∧
      (shape.fill values).path ++ Match.leftOver ((shape.params optional).zip captures) = path := by
  induction h generalizing optional with
  | done => exact ⟨rfl, rfl⟩
  | literal _ ih =>
      obtain ⟨hmissing, hpath⟩ := ih hgroups hlast optional hvalues
      exact ⟨hmissing, by rw [fill, List.append_assoc, ← hpath]; rfl⟩
  | @named name value path next _ captures _ _ _ ih =>
      obtain ⟨hmissing, hpath⟩ := ih hgroups hlast optional hvalues.tail
      obtain ⟨given, hgiven, rfl⟩ :=
        Option.map_eq_some_iff.1 (hvalues _ _ (List.mem_cons_self ..) rfl)
      rw [fill, hgiven]
      exact ⟨hmissing, by rw [List.append_assoc, ← hpath]; rfl⟩
  | @splat name value path next _ captures _ hnext ih =>
      have hleaves : next.leaves = [] := hlast
      have hempty : path = [] := hnext.eq_nil_of_leaves hleaves
      obtain ⟨hmissing, hpath⟩ := ih hgroups (by rw [hleaves]; trivial) optional hvalues.tail
      rw [hempty, List.append_eq_nil_iff] at hpath
      refine ⟨hmissing, ?_⟩
      rw [fill, hpath.1, params, List.zip_cons_cons, Match.leftOver_cons_splat, hpath.2, hempty]
      rfl
  | taken hbody hnext ihBody ih =>
      rw [zip_taken hbody] at hvalues ⊢
      obtain ⟨hmissingBody, hpathBody⟩ := ihBody hgroups.2.1 hlast.left true hvalues.left
      obtain ⟨hmissing, hpath⟩ := ih hgroups.2.2 hlast.right optional hvalues.right
      rw [fill, if_pos hmissingBody, Match.leftOver_append]
      refine ⟨hmissing, ?_⟩
      rcases hbody.leftOver_eq_nil_or hlast true with hnone | hleaves
      · rw [hnone, List.append_nil] at hpathBody
        rw [hnone, List.nil_append, List.append_assoc, hpathBody, hpath]
      · rw [hnext.eq_nil_of_leaves hleaves, List.append_eq_nil_iff] at hpath
        rw [hpath.1, hpath.2, List.append_nil, List.append_nil, hpathBody,
          hnext.eq_nil_of_leaves hleaves, List.append_nil]
  | skipped _ ih =>
      rw [zip_skipped] at hvalues ⊢
      rw [fill, if_neg (missing_of_skipped hgroups.1 hvalues.left), Match.leftOver_append,
        leftOver_skipped, List.nil_append]
      exact ih hgroups.2.2 hlast.right optional hvalues.right

/-! ## Filling undoes matching -/

/-- What the splat stands for, and nothing where the pattern has none. -/
def Match.splatText (found : Match) : Text :=
  found.splats.entries.flatMap (·.2)

namespace Pattern

variable {pattern : Pattern} {text : Text} {reading : Reading} {choices : List Choice}

lemma Derives.splatText_eq (h : pattern.Derives text choices reading) :
    (Match.ofReading pattern.params reading).splatText =
      Match.leftOver (pattern.params.zip reading.captures) := by
  rw [Match.ofReading_eq, Match.splatText, Match.leftOver]
  obtain ⟨hvalues, -⟩ | ⟨name, raw, -, hvalues, -⟩ := Match.splat_cases h.splatLast_zip
  · rw [hvalues]
    rfl
  · rw [hvalues]
    rfl

/-- The values of a match are what the reading captures, if that is written as values are. -/
lemma Derives.written (h : pattern.Derives text choices reading) (hnames : pattern.names.Nodup)
    (hcanonical : ∀ param raw, (param, some raw) ∈ pattern.params.zip reading.captures →
      param.kind = .named → encodeComponent (decodeComponent raw) = raw) :
    Match.Written (Match.ofReading pattern.params reading).params.present
      (pattern.params.zip reading.captures) := by
  rintro ⟨name, kind, optional⟩ capture hmem rfl
  have hvalue : (name, capture.map decodeComponent) ∈
      Match.namedValues (pattern.params.zip reading.captures) :=
    List.mem_filterMap.2 ⟨_, hmem, rfl⟩
  have hfst :
      (Match.namedValues (pattern.params.zip reading.captures)).map (·.1) = pattern.names := by
    rw [Match.map_fst_namedValues, h.map_fst_zip, names]
  have hget : (Match.ofReading pattern.params reading).params.get? name =
      some (capture.map decodeComponent) := by
    rw [Match.ofReading_eq]
    refine Params.get?_ofList_eq_some hvalue fun other hother => ?_
    have heq := List.inj_on_of_nodup_map (hfst ▸ hnames) hother hvalue rfl
    exact (Prod.mk.inj heq).2
  rw [Params.get?_present, hget]
  cases capture with
  | none => rfl
  | some raw => exact congrArg some (hcanonical _ raw hmem rfl)

/-- **Filling undoes matching.**  The named parameters of the pattern have different names, and each
group has one of its own.  A text that matches, and whose captures are written as values are, is the
pattern filled in with the values that the match found, and nothing is missing, then what the splat
stands for, then the query. -/
theorem fill_matchPath (hnames : pattern.names.Nodup) (hgroups : pattern.shape.GroupsNamed)
    (h : pattern.read? text = some reading)
    (hcanonical : ∀ param raw, (param, some raw) ∈ pattern.params.zip reading.captures →
      param.kind = .named → encodeComponent (decodeComponent raw) = raw) :
    ∃ found, pattern.matchPath text = some found ∧
      (fill pattern.text found.params.present).missing = [] ∧
      (fill pattern.text found.params.present).path ++ found.splatText ++ searchOf found.query =
        text := by
  obtain ⟨choices, hfirst⟩ := exists_leftmostFirst h
  have hderives := hfirst.1
  obtain ⟨before, hreads⟩ := hderives.exists_reads
  obtain ⟨hmissing, hpath⟩ := hreads.fill_eq hgroups pattern.splatLast_leaves false
    (hderives.written hnames hcanonical)
  refine ⟨_, hfirst.matchPath_eq, ?_, ?_⟩
  · rw [fill, ← pattern.shape_eq, hmissing]
  · rw [hderives.splatText_eq, fill, ← pattern.shape_eq]
    calc _ = reading.path ++ searchOf (Match.ofReading pattern.params reading).query := by
          rw [← hpath]
          rfl
      _ = reading.path ++ searchOf reading.query := by rw [Match.ofReading_eq]
      _ = text := hderives.text_eq.symm

/-- A text that takes the outer group of the pattern only. -/
def shopText : Text := "/shop/caf%C3%A9/x/y?tab=1".toList

def shopReading : Reading :=
  ⟨[some "caf%C3%A9".toList, none, some "x/y".toList], "/shop/caf%C3%A9/x/y".toList,
    some "tab=1".toList⟩

/-- The group that the text leaves out is left out again. -/
theorem fill_matchPath_shop :
    shop.names.Nodup ∧ shop.shape.GroupsNamed ∧ shop.read? shopText = some shopReading ∧
      (∀ param raw, (param, some raw) ∈ shop.params.zip shopReading.captures →
        param.kind = .named → encodeComponent (decodeComponent raw) = raw) ∧
      ∃ found, shop.matchPath shopText = some found ∧
        (fill shop.text found.params.present).missing = [] ∧
        (fill shop.text found.params.present).path ++ found.splatText ++ searchOf found.query =
          shopText := by
  have hnames : shop.names.Nodup := by
    rw [names_shop]
    decide
  have hgroups : shop.shape.GroupsNamed := by decide +kernel
  have hread : shop.read? shopText = some shopReading := by decide +kernel
  have hcanonical : ∀ param raw, (param, some raw) ∈ shop.params.zip shopReading.captures →
      param.kind = .named → encodeComponent (decodeComponent raw) = raw := by
    intro param raw hmem hkind
    have hparams : shop.params = [⟨"kind".toList, .named, true⟩, ⟨"maker".toList, .named, true⟩,
        ⟨"rest".toList, .splat, false⟩] := by decide +kernel
    rw [hparams, shopReading] at hmem
    simp only [List.zip_cons_cons, List.zip_nil_left, List.mem_cons, List.not_mem_nil, or_false,
      Prod.mk.injEq, Option.some.injEq, reduceCtorEq, and_false, false_or] at hmem
    rcases hmem with ⟨-, rfl⟩ | ⟨rfl, -⟩
    · decide +kernel
    · cases hkind
  exact ⟨hnames, hgroups, hread, hcanonical, fill_matchPath hnames hgroups hread hcanonical⟩

end Pattern

end PageRouter
