import PageRouter.Proofs.Lookup
import PageRouter.Proofs.Readings

/-!
# What a match takes from its reading

A match is told by the parameters of the pattern and what the reading captures for them.  The named
ones give the map of parameters (`Match.namedValues`), the splat gives the tail and stands in a map
of its own (`Match.splatValues`), and `Match.ofReading_eq` puts the four fields together.

The splat's capture ends the path, so the path is what the tail's owner has used up, some slashes,
and what is left (`Pattern.exists_tail`).

`Pattern.Reports` says the same of each field without the functions that make it.  A match is
determined by what it reports, and it reports the leftmost-first reading
(`Pattern.matchPath_leftmost_first`).
-/

namespace PageRouter

open Text

namespace Match

/-! ## Values of parameters -/

/-- The names of named parameters with the values that the match gives them. -/
def namedValues (captures : List (Param × Option Text)) : List (Text × Option Text) :=
  captures.filterMap fun (param, capture) =>
    match param.kind with
    | .named => some (param.name, capture.map decodeComponent)
    | .splat => none

/-- The name of the splat with what it stands for. -/
def splatValues (captures : List (Param × Option Text)) : List (Text × Text) :=
  captures.filterMap fun (param, capture) =>
    match param.kind with
    | .named => none
    | .splat => some (param.name, capture.getD [])

/-- What the splat stands for, and nothing where there is no splat. -/
def leftOver (captures : List (Param × Option Text)) : Text :=
  (splatValues captures).flatMap (·.2)

variable {captures captures' : List (Param × Option Text)}

lemma namedValues_append (captures captures' : List (Param × Option Text)) :
    namedValues (captures ++ captures') = namedValues captures ++ namedValues captures' :=
  List.filterMap_append

lemma splatValues_append (captures captures' : List (Param × Option Text)) :
    splatValues (captures ++ captures') = splatValues captures ++ splatValues captures' :=
  List.filterMap_append

lemma leftOver_append (captures captures' : List (Param × Option Text)) :
    leftOver (captures ++ captures') = leftOver captures ++ leftOver captures' := by
  rw [leftOver, splatValues_append, List.flatMap_append]
  rfl

lemma leftOver_cons_splat {name : Text} {optional : Bool} (capture : Option Text)
    (captures : List (Param × Option Text)) :
    leftOver ((⟨name, .splat, optional⟩, capture) :: captures) =
      capture.getD [] ++ leftOver captures := rfl

/-- Named parameters in front do not matter to the splat. -/
lemma splat_append_named (h : ∀ capture ∈ captures, capture.1.kind = .named)
    (captures' : List (Param × Option Text)) :
    splatValues (captures ++ captures') = splatValues captures' ∧
      splatText? (captures ++ captures') = splatText? captures' := by
  induction captures with
  | nil => exact ⟨rfl, rfl⟩
  | cons head captures ih =>
      have ih := ih fun capture hmem => h capture (List.mem_cons_of_mem _ hmem)
      obtain ⟨⟨name, kind, optional⟩, capture⟩ := head
      obtain rfl : kind = .named := h _ (List.mem_cons_self ..)
      exact ih

lemma map_fst_namedValues (captures : List (Param × Option Text)) :
    (namedValues captures).map (·.1) =
      ((captures.map (·.1)).filter (·.kind = .named)).map (·.name) := by
  induction captures with
  | nil => rfl
  | cons head captures ih =>
      obtain ⟨⟨name, _ | _, optional⟩, capture⟩ := head
      · exact congrArg (name :: ·) ih
      · exact ih

/-- Of the named parameters with one name there is a last one. -/
lemma exists_last_named {name : Text}
    (h : name ∈ ((captures.map (·.1)).filter (·.kind = .named)).map (·.name)) :
    ∃ before optional capture after, captures = before ++ (⟨name, .named, optional⟩, capture) :: after ∧
      ∀ later ∈ after, later.1.kind = .named → later.1.name ≠ name := by
  induction captures with
  | nil => cases h
  | cons head rest ih =>
      by_cases hrest : name ∈ ((rest.map (·.1)).filter (·.kind = .named)).map (·.name)
      · obtain ⟨before, optional, capture, after, rfl, hlast⟩ := ih hrest
        exact ⟨head :: before, optional, capture, after, rfl, hlast⟩
      · obtain ⟨⟨other, _ | _, optional⟩, capture⟩ := head
        · obtain rfl : name = other := (List.mem_cons.1 h).resolve_right hrest
          refine ⟨[], optional, capture, rest, rfl, fun later hlater hkind hname => hrest ?_⟩
          exact List.mem_map.2 ⟨later.1, List.mem_filter.2
            ⟨List.mem_map_of_mem hlater, decide_eq_true hkind⟩, hname⟩
        · exact absurd h hrest

lemma map_fst_splatValues (captures : List (Param × Option Text)) :
    (splatValues captures).map (·.1) =
      ((captures.map (·.1)).filter (·.kind = .splat)).map (·.name) := by
  induction captures with
  | nil => rfl
  | cons head captures ih =>
      obtain ⟨⟨name, _ | _, optional⟩, capture⟩ := head
      · exact ih
      · exact congrArg (name :: ·) ih

lemma assign_eq (found : Match) (captures : List (Param × Option Text)) :
    assign found captures =
      { found with
        params := found.params.setAll (namedValues captures)
        splats := found.splats.setAll (splatValues captures) } := by
  induction captures generalizing found with
  | nil => rfl
  | cons head captures ih =>
      obtain ⟨⟨name, _ | _, optional⟩, capture⟩ := head
      · exact ih _
      · exact ih _

/-- **The fields of a match.** -/
theorem ofReading_eq (params : List Param) (reading : Reading) :
    ofReading params reading =
      { params := .ofList (namedValues (params.zip reading.captures))
        splats := .ofList (splatValues (params.zip reading.captures))
        tail := (splatText? (params.zip reading.captures)).map fun rest =>
          ⟨dropTrailing '/' (reading.path.take (reading.path.length - rest.length)), '/' :: rest,
            .ofList (namedValues (params.zip reading.captures))⟩
        query := reading.query } := by
  rw [ofReading]
  simp only [assign_eq]
  cases splatText? (params.zip reading.captures) <;> rfl

/-- What is left in the tail is the splat's text, and what is used up is what stands in front of it. -/
lemma tail_ofReading {params : List Param} {reading : Reading} {used raw : Text}
    (hraw : splatText? (params.zip reading.captures) = some raw) (hused : used ++ raw = reading.path) :
    (ofReading params reading).tail =
      some ⟨dropTrailing '/' used, '/' :: raw, (ofReading params reading).params⟩ := by
  have hbefore : reading.path.take (reading.path.length - raw.length) = used := by
    rw [← hused, List.length_append, Nat.add_sub_cancel, List.take_left]
  rw [ofReading_eq, hraw, Option.map_some, hbefore]

/-! ## The splat -/

/-- **At most one splat**, which gives the tail and the map of splats. -/
lemma splat_cases (h : Token.SplatLast (captures.map (·.1.leaf))) :
    (splatValues captures = [] ∧ splatText? captures = none) ∨
      ∃ name raw, .splat name ∈ captures.map (·.1.leaf) ∧ splatValues captures = [(name, raw)] ∧
        splatText? captures = some raw := by
  induction captures with
  | nil => exact .inl ⟨rfl, rfl⟩
  | cons head captures ih =>
      obtain ⟨⟨name, _ | _, optional⟩, capture⟩ := head
      · rcases ih h with hnone | ⟨name, raw, hmem, hfound⟩
        · exact .inl hnone
        · exact .inr ⟨name, raw, List.mem_cons_of_mem _ hmem, hfound⟩
      · obtain rfl : captures = [] := List.map_eq_nil_iff.1 h
        exact .inr ⟨name, capture.getD [], List.mem_cons_self .., rfl, rfl⟩

lemma mem_splatValues {name raw : Text} : (name, raw) ∈ splatValues captures ↔
    ∃ optional capture, (⟨name, .splat, optional⟩, capture) ∈ captures ∧ raw = capture.getD [] := by
  rw [splatValues, List.mem_filterMap]
  constructor
  · rintro ⟨⟨⟨_, _ | _, optional⟩, capture⟩, hmem, hvalue⟩
    · cases hvalue
    · cases hvalue
      exact ⟨optional, capture, hmem, rfl⟩
  · rintro ⟨optional, capture, hmem, rfl⟩
    exact ⟨_, hmem, rfl⟩

/-- Where there is at most one splat, its value is never set again. -/
lemma get?_splatValues (h : Token.SplatLast (captures.map (·.1.leaf))) {name raw : Text} :
    (Params.ofList (splatValues captures)).get? name = some raw ↔ (name, raw) ∈ splatValues captures := by
  constructor
  · intro hget
    rw [Params.get?_ofList] at hget
    exact List.mem_reverse.1 (Params.mem_of_find? hget)
  · intro hmem
    refine Params.get?_ofList_eq_some hmem fun other hother => ?_
    obtain ⟨hnone, -⟩ | ⟨only, value, -, hvalues, -⟩ := splat_cases h
    · rw [hnone] at hmem
      cases hmem
    · rw [hvalues, List.mem_singleton, Prod.mk.injEq] at hmem hother
      rw [hmem.2, hother.2]

lemma splatText?_isSome_iff :
    (splatText? captures).isSome ↔ ∃ name, .splat name ∈ captures.map (·.1.leaf) := by
  induction captures with
  | nil => simp [splatText?]
  | cons head captures ih =>
      obtain ⟨⟨name, _ | _, optional⟩, capture⟩ := head
      · simpa [splatText?, Param.leaf] using ih
      · simp [splatText?, Param.leaf]

end Match

namespace Shape.Reads

variable {shape : Shape} {choices : List Choice} {captures : List (Option Text)} {path : Text}

/-- The parameters that are captured, by their tokens. -/
lemma map_leaf_zip (h : shape.Reads choices captures path) (optional : Bool) :
    ((shape.params optional).zip captures).map (·.1.leaf) = shape.leaves.filter Token.isParam :=
  calc ((shape.params optional).zip captures).map (·.1.leaf)
      = (((shape.params optional).zip captures).map Prod.fst).map Param.leaf := by simp
    _ = (shape.params optional).map Param.leaf := by
        rw [List.map_fst_zip (Nat.le_of_eq (h.length_captures optional).symm)]
    _ = _ := map_leaf_params shape optional

/-- A splat that has no part in a reading stands for no text. -/
lemma leftOver_skipped (params : List Param) :
    Match.leftOver (params.zip (List.replicate params.length none)) = [] := by
  induction params with
  | nil => rfl
  | cons param params ih =>
      obtain ⟨name, _ | _, optional⟩ := param
      · exact ih
      · exact ih

/-- Behind a splat, wherever it stands, nothing is read. -/
lemma leftOver_eq_nil_or {tokens : List Token} (h : shape.Reads choices captures path)
    (hlast : Token.SplatLast (shape.leaves ++ tokens)) (optional : Bool) :
    Match.leftOver ((shape.params optional).zip captures) = [] ∨ tokens = [] := by
  have hlast' : Token.SplatLast (((shape.params optional).zip captures).map (·.1.leaf)) := by
    rw [h.map_leaf_zip]
    exact hlast.left.filter _
  obtain ⟨hnone, -⟩ | ⟨name, raw, hmem, -⟩ := Match.splat_cases hlast'
  · exact .inl (by rw [Match.leftOver, hnone, List.flatMap_nil])
  · rw [h.map_leaf_zip] at hmem
    exact .inr (hlast.eq_nil (List.mem_of_mem_filter hmem))

/-- **The splat's capture ends the path.** -/
theorem splat_suffix (h : shape.Reads choices captures path)
    (hlast : Token.SplatLast shape.leaves) (optional : Bool) :
    Match.leftOver ((shape.params optional).zip captures) <:+ path := by
  induction h generalizing optional with
  | done => exact List.suffix_rfl
  | literal _ ih => exact (ih hlast optional).trans (List.suffix_append ..)
  | named _ _ _ ih => exact (ih hlast optional).trans (List.suffix_append ..)
  | @splat name value path next choices captures _ hnext ih =>
      have hpath : path = [] := hnext.eq_nil_of_leaves hlast
      have hrest := ih (by rw [show next.leaves = [] from hlast]; trivial) optional
      rw [hpath, List.suffix_nil] at hrest
      rw [hpath, List.append_nil, params, List.zip_cons_cons, Match.leftOver_cons_splat, hrest,
        List.append_nil]
      exact List.suffix_rfl
  | taken hbody hnext ihBody ih =>
      rw [zip_taken hbody, Match.leftOver_append]
      rcases hbody.leftOver_eq_nil_or hlast true with hnone | hleaves
      · rw [hnone, List.nil_append]
        exact (ih hlast.right optional).trans (List.suffix_append ..)
      · have hrest := ih hlast.right optional
        rw [hnext.eq_nil_of_leaves hleaves, List.suffix_nil] at hrest
        rw [hnext.eq_nil_of_leaves hleaves, hrest, List.append_nil, List.append_nil]
        exact ihBody hlast.left true
  | skipped _ ih =>
      rw [zip_skipped, Match.leftOver_append, leftOver_skipped, List.nil_append]
      exact ih hlast.right optional

end Shape.Reads

/-! ## Matches of a pattern -/

namespace Pattern

variable {pattern : Pattern} {text : Text} {found : Match} {reading : Reading}

/-- The names of the named parameters, from left to right. -/
def names (pattern : Pattern) : List Text :=
  (pattern.params.filter (·.kind = .named)).map (·.name)

lemma exists_splat_of_hasSplat (h : pattern.hasSplat) :
    ∃ name, .splat name ∈ pattern.shape.leaves.filter Token.isParam := by
  obtain ⟨⟨name, kind, optional⟩, hmem, hkind⟩ := List.any_eq_true.1 h
  obtain rfl : kind = .splat := of_decide_eq_true hkind
  rw [← Shape.map_leaf_params pattern.shape false]
  exact ⟨name, List.mem_map_of_mem (f := Param.leaf) hmem⟩

/-- A match is that of the leftmost-first reading. -/
lemma exists_of_matchPath (h : pattern.matchPath text = some found) : ∃ choices reading,
    pattern.LeftmostFirst text choices reading ∧ found = Match.ofReading pattern.params reading := by
  obtain ⟨reading, hread, rfl⟩ := Option.map_eq_some_iff.1 h
  obtain ⟨choices, hfirst⟩ := exists_leftmostFirst hread
  exact ⟨choices, reading, hfirst, rfl⟩

lemma LeftmostFirst.matchPath_eq {choices : List Choice}
    (h : pattern.LeftmostFirst text choices reading) :
    pattern.matchPath text = some (Match.ofReading pattern.params reading) := by
  rw [matchPath, h.read?_eq, Option.map_some]

/-- A text that does not match cannot be read. -/
lemma matchPath_eq_none_iff : pattern.matchPath text = none ↔
    ∀ choices reading, ¬pattern.Derives text choices reading := by
  have hbest := pattern.isBest_read text
  rw [matchPath, Option.map_eq_none_iff]
  cases hread : pattern.read? text with
  | none =>
      rw [hread] at hbest
      exact iff_of_true rfl hbest
  | some reading =>
      rw [hread] at hbest
      obtain ⟨choices, hderives, -⟩ := hbest
      exact iff_of_false (by simp) fun hnone => hnone choices reading hderives

/-- The parameters of a reading with their captures, by their tokens. -/
lemma Derives.map_leaf_zip {choices : List Choice} (h : pattern.Derives text choices reading) :
    (pattern.params.zip reading.captures).map (·.1.leaf) =
      pattern.shape.leaves.filter Token.isParam := by
  obtain ⟨before, hreads⟩ := h.exists_reads
  exact hreads.map_leaf_zip false

/-- The splat comes last among them, if there is one. -/
lemma Derives.splatLast_zip {choices : List Choice} (h : pattern.Derives text choices reading) :
    Token.SplatLast ((pattern.params.zip reading.captures).map (·.1.leaf)) := by
  rw [h.map_leaf_zip]
  exact pattern.splatLast_leaves.filter _

lemma Derives.map_fst_zip {choices : List Choice} (h : pattern.Derives text choices reading) :
    (pattern.params.zip reading.captures).map (·.1) = pattern.params := by
  obtain ⟨before, hreads⟩ := h.exists_reads
  exact List.map_fst_zip (Nat.le_of_eq (hreads.length_captures false).symm)

/-- The splat's capture ends the path. -/
lemma Derives.splat_suffix {choices : List Choice} (h : pattern.Derives text choices reading)
    {raw : Text} (hraw : Match.splatText? (pattern.params.zip reading.captures) = some raw) :
    raw <:+ reading.path := by
  obtain ⟨before, hreads⟩ := h.exists_reads
  have hsuffix := hreads.splat_suffix pattern.splatLast_leaves false
  obtain ⟨-, hnone⟩ | ⟨name, raw', -, hvalues, hraw'⟩ := Match.splat_cases h.splatLast_zip
  · rw [hnone] at hraw
    cases hraw
  · obtain rfl : raw' = raw := Option.some.inj (hraw'.symm.trans hraw)
    rwa [← params, Match.leftOver, hvalues, List.flatMap_singleton] at hsuffix

/-- Only a splat leaves a tail. -/
lemma hasSplat_of_tail (h : pattern.matchPath text = some found) (htail : found.tail.isSome) :
    pattern.hasSplat := by
  obtain ⟨choices, reading, ⟨hderives, -⟩, rfl⟩ := exists_of_matchPath h
  rw [Match.ofReading_eq, Option.isSome_map, Match.splatText?_isSome_iff, hderives.map_leaf_zip,
    ← Shape.map_leaf_params pattern.shape false] at htail
  obtain ⟨name, hname⟩ := htail
  obtain ⟨⟨name, _ | _, optional⟩, hmem, hleaf⟩ := List.mem_map.1 hname
  · cases hleaf
  · exact List.any_eq_true.2 ⟨_, hmem, rfl⟩

/-! ## What a match reports -/

/-- **What a match reports of a reading**: each field of the match, told by what the parameters of the
pattern stand for in the reading. -/
structure Reports (pattern : Pattern) (reading : Reading) (found : Match) : Prop where
  /-- The names are those of the named parameters. -/
  names : ∀ name, name ∈ found.params.names ↔ name ∈ pattern.names
  /-- A name has what the last parameter of the name stands for, decoded, and no value if this
  parameter stands in a group that is skipped. -/
  values : ∀ (before : List (Param × Option Text)) (name : Text) (optional : Bool)
    (capture : Option Text) (after : List (Param × Option Text)),
    pattern.params.zip reading.captures = before ++ (⟨name, .named, optional⟩, capture) :: after →
    (∀ later ∈ after, later.1.kind = .named → later.1.name ≠ name) →
    found.params.get? name = some (capture.map decodeComponent)
  /-- The splat's name has what the splat stands for, as it is written, and no other name has. -/
  splats : ∀ name raw, found.splats.get? name = some raw ↔ ∃ optional capture,
    (⟨name, .splat, optional⟩, capture) ∈ pattern.params.zip reading.captures ∧
      raw = capture.getD []
  /-- There is a tail if there is a splat.  It is left by what the splat stands for; what is used up is
  the path in front of it without the slashes at its end. -/
  tail : ∀ tail, found.tail = some tail ↔ ∃ name raw count, found.splats.get? name = some raw ∧
    reading.path = tail.consumed ++ List.replicate count '/' ++ raw ∧
    tail.consumed.getLast? ≠ some '/' ∧ tail.path = '/' :: raw ∧ tail.params = found.params
  query : found.query = reading.query

/-- **A match is determined by what it reports.** -/
lemma Reports.eq {choices : List Choice} {other : Match} (h : pattern.Reports reading found)
    (hderives : pattern.Derives text choices reading) (hother : pattern.Reports reading other) :
    found = other := by
  have hparams : found.params = other.params := by
    refine Params.ext_get? fun name => ?_
    by_cases hname : name ∈ pattern.names
    · rw [Pattern.names, ← hderives.map_fst_zip] at hname
      obtain ⟨before, optional, capture, after, hzip, hlast⟩ := Match.exists_last_named hname
      rw [h.values before name optional capture after hzip hlast,
        hother.values before name optional capture after hzip hlast]
    · have hnone : ∀ {reported : Match}, pattern.Reports reading reported →
          reported.params.get? name = none := by
        intro reported hreported
        rw [← Option.not_isSome_iff_eq_none, ← Params.mem_names_iff]
        exact fun hmem => hname ((hreported.names name).1 hmem)
      rw [hnone h, hnone hother]
  have hsplats : found.splats = other.splats :=
    Params.ext_get? fun name => Option.ext fun raw => by rw [h.splats, hother.splats]
  have htail : found.tail = other.tail :=
    Option.ext fun tail => by rw [h.tail, hother.tail, hparams, hsplats]
  have hquery : found.query = other.query := h.query.trans hother.query.symm
  obtain ⟨_, _, _, _⟩ := found
  obtain ⟨_, _, _, _⟩ := other
  cases hparams
  cases hsplats
  cases htail
  cases hquery
  rfl

lemma Derives.get?_splats {choices : List Choice} (h : pattern.Derives text choices reading)
    {name raw : Text} : (Match.ofReading pattern.params reading).splats.get? name = some raw ↔
      (name, raw) ∈ Match.splatValues (pattern.params.zip reading.captures) := by
  rw [Match.ofReading_eq]
  exact Match.get?_splatValues h.splatLast_zip

/-- The path of a reading is what its tail's owner has used up, slashes, and the splat's text. -/
lemma Derives.tail_iff {choices : List Choice} (h : pattern.Derives text choices reading)
    (tail : Tail) : (Match.ofReading pattern.params reading).tail = some tail ↔
      ∃ name raw count, (Match.ofReading pattern.params reading).splats.get? name = some raw ∧
        reading.path = tail.consumed ++ List.replicate count '/' ++ raw ∧
        tail.consumed.getLast? ≠ some '/' ∧ tail.path = '/' :: raw ∧
        tail.params = (Match.ofReading pattern.params reading).params := by
  simp only [h.get?_splats]
  obtain ⟨hnone, hnothing⟩ | ⟨name, raw, -, hvalues, hraw⟩ := Match.splat_cases h.splatLast_zip
  · simp [Match.ofReading_eq, hnone, hnothing]
  · obtain ⟨used, hused⟩ := h.splat_suffix hraw
    rw [Match.tail_ofReading hraw hused, hvalues, Option.some.injEq]
    constructor
    · rintro rfl
      obtain ⟨count, hcount⟩ := exists_dropTrailing_append '/' used
      refine ⟨name, raw, count, List.mem_singleton_self _, ?_, getLast?_dropTrailing '/' used, rfl, rfl⟩
      rw [← hcount, hused]
    · rintro ⟨_, _, count, hmem, hpath, hends, htail, hparams⟩
      obtain ⟨-, rfl⟩ := Prod.mk.inj (List.mem_singleton.1 hmem)
      obtain ⟨consumed, path, params⟩ := tail
      obtain rfl : used = consumed ++ List.replicate count '/' :=
        List.append_cancel_right (hused.trans hpath)
      rw [dropTrailing_append_replicate hends]
      exact congrArg₂ _ htail.symm hparams.symm

/-- **The match behind a reading** reports the reading. -/
lemma Derives.reports {choices : List Choice} (h : pattern.Derives text choices reading) :
    pattern.Reports reading (Match.ofReading pattern.params reading) where
  names := by
    intro name
    rw [Match.ofReading_eq, Params.mem_names_ofList, Match.map_fst_namedValues, h.map_fst_zip,
      Pattern.names]
  values := by
    intro before name optional capture after hzip hlast
    have hvalues : Match.namedValues (pattern.params.zip reading.captures) =
        Match.namedValues before ++ (name, capture.map decodeComponent) ::
          Match.namedValues after := by
      rw [hzip, Match.namedValues_append]
      rfl
    rw [Match.ofReading_eq, hvalues]
    refine Params.get?_ofList_last fun hmem => ?_
    rw [Match.map_fst_namedValues] at hmem
    obtain ⟨param, hparam, hname⟩ := List.mem_map.1 hmem
    obtain ⟨hafter, hkind⟩ := List.mem_filter.1 hparam
    obtain ⟨later, hlater, rfl⟩ := List.mem_map.1 hafter
    exact hlast later hlater (of_decide_eq_true hkind) hname
  splats := fun _ _ => h.get?_splats.trans Match.mem_splatValues
  tail := h.tail_iff
  query := by rw [Match.ofReading_eq]

/-- **The names of a match** are those of the pattern. -/
theorem mem_names_of_matchPath (h : pattern.matchPath text = some found) {name : Text} :
    name ∈ found.params.names ↔ name ∈ pattern.names := by
  obtain ⟨choices, reading, ⟨hderives, -⟩, rfl⟩ := exists_of_matchPath h
  exact hderives.reports.names name

/-- **The tail.**  The path of the text is what the route uses up, some slashes, and what its splat
leaves. -/
theorem exists_tail (h : pattern.matchPath text = some found) (hplain : '?' ∉ pattern.text)
    (hsplat : pattern.hasSplat) : ∃ name raw consumed count,
      found.splats = .ofList [(name, raw)] ∧ found.tail = some ⟨consumed, '/' :: raw, found.params⟩ ∧
      '?' ∉ raw ∧ consumed.getLast? ≠ some '/' ∧
      pathPart text = consumed ++ List.replicate count '/' ++ raw := by
  obtain ⟨choices, reading, ⟨hderives, -⟩, rfl⟩ := exists_of_matchPath h
  have hpath := hderives.not_mem_path hplain
  obtain ⟨hnone, hsplats⟩ | ⟨name, raw, -, hvalues, hraw⟩ :=
    Match.splat_cases hderives.splatLast_zip
  · have hsome := Match.splatText?_isSome_iff.2
      (hderives.map_leaf_zip ▸ exists_splat_of_hasSplat hsplat)
    rw [hsplats] at hsome
    cases hsome
  · obtain ⟨used, hused⟩ := hderives.splat_suffix hraw
    obtain ⟨count, hcount⟩ := exists_dropTrailing_append '/' used
    refine ⟨name, raw, dropTrailing '/' used, count, ?_, ?_, ?_, getLast?_dropTrailing '/' used, ?_⟩
    · rw [Match.ofReading_eq, hvalues]
    · exact Match.tail_ofReading hraw hused
    · intro hmem
      exact hpath (hused ▸ List.mem_append_right _ hmem)
    · rw [hderives.text_eq, pathPart_append hpath, ← hused, ← hcount]

/-- The query of a match is what follows the first `?`. -/
theorem query_of_matchPath (h : pattern.matchPath text = some found) (hplain : '?' ∉ pattern.text) :
    found.query = queryPart text := by
  obtain ⟨choices, reading, ⟨hderives, -⟩, rfl⟩ := exists_of_matchPath h
  rw [hderives.text_eq, queryPart_append (hderives.not_mem_path hplain), Match.ofReading_eq]

/-- **Leftmost-first matching.**  A text matches exactly if it is a path that the pattern generates,
followed by nothing or by a query.  The match is the one that reports the leftmost-first reading in its
parameters, its splat, its tail and its query. -/
theorem matchPath_leftmost_first (pattern : Pattern) (text : Text) :
    ((pattern.matchPath text).isSome ↔
      ∃ path rest, text = path ++ rest ∧ (rest = [] ∨ ∃ query, rest = '?' :: query) ∧
        pattern.shape.Generates path) ∧
    ∀ found, pattern.matchPath text = some found ↔
      ∃ choices reading, pattern.LeftmostFirst text choices reading ∧
        pattern.Reports reading found := by
  constructor
  · rw [← exists_derives, Option.isSome_iff_ne_none, Ne, matchPath_eq_none_iff]
    simp only [not_forall, not_not]
  · intro found
    constructor
    · intro hfound
      obtain ⟨choices, reading, hfirst, rfl⟩ := exists_of_matchPath hfound
      exact ⟨choices, reading, hfirst, hfirst.1.reports⟩
    · rintro ⟨choices, reading, hfirst, hreports⟩
      rw [hfirst.matchPath_eq, hreports.eq hfirst.1 hfirst.1.reports]

end Pattern

end PageRouter
