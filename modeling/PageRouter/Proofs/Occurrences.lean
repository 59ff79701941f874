import PageRouter.Proofs.Escapes
import PageRouter.Proofs.Grammar

/-!
# Names that occur several times

A pattern may give one name to several parameters, but a match has one value for each name.  The
parameters are set from left to right, so the value is that of the name's **last** occurrence, and
it is there exactly if the innermost group around that occurrence takes part in the reading
(`Pattern.matchPath_last_occurrence`).  What the earlier occurrences captured is lost, even where
they stand in no group and every match has a value for them.

Which groups around an occurrence take part is read off the parts in front of it
(`Token.openGroups`).  Since parentheses pair, a group leaves the groups around it as it finds them,
and so each leaf of a reading can be compared with the innermost group around it
(`Token.ReadAs.fits`).
-/

namespace PageRouter

open Text

namespace Token

variable {tokens : List Token} {parts : List (Token × Option Text)} {marks : List Bool}

/-! ## Open groups -/

/-- The groups that are open behind one more part: for each of them whether it takes part. -/
def openAfter (marks : List Bool) (part : Token × Option Text) : List Bool :=
  match part.1 with
  | .groupOpen => part.2.isSome :: marks
  | .groupClose => marks.tail
  | _ => marks

/-- **Which of the groups that are open behind some parts take part**, the innermost first. -/
def openGroups (marks : List Bool) (parts : List (Token × Option Text)) : List Bool :=
  parts.foldl openAfter marks

/-- Each leaf stands for something, unless the innermost group around it does not take part. -/
def Agrees : List Bool → List (Token × Option Text) → Prop
  | _, [] => True
  | marks, part :: parts =>
    (part.1.isLeaf → (part.2 = none ↔ marks.head? = some false)) ∧
      Agrees (openAfter marks part) parts

lemma openGroups_append (marks : List Bool) (parts parts' : List (Token × Option Text)) :
    openGroups marks (parts ++ parts') = openGroups (openGroups marks parts) parts' :=
  List.foldl_append

lemma agrees_append {parts' : List (Token × Option Text)} :
    Agrees marks (parts ++ parts') ↔
      Agrees marks parts ∧ Agrees (openGroups marks parts) parts' := by
  induction parts generalizing marks with
  | nil => exact (and_iff_right trivial).symm
  | cons part parts ih =>
      rw [List.cons_append, Agrees, Agrees, ih, and_assoc]
      rfl

lemma openAfter_leaf {token : Token} (hleaf : token.isLeaf) (capture : Option Text) :
    openAfter marks (token, capture) = marks := by
  cases token
  case groupOpen | groupClose => cases hleaf
  all_goals rfl

/-- Parts that close the groups which they open, and whose leaves agree with the groups around
them. -/
structure Fits (marks : List Bool) (parts : List (Token × Option Text)) : Prop where
  closes : openGroups marks parts = marks
  agrees : Agrees marks parts

lemma Fits.nil : Fits marks [] := ⟨rfl, trivial⟩

lemma Fits.leaf {token : Token} {capture : Option Text} (hleaf : token.isLeaf)
    (hcapture : capture = none ↔ marks.head? = some false) (h : Fits marks parts) :
    Fits marks ((token, capture) :: parts) := by
  refine ⟨?_, fun _ => hcapture, ?_⟩
  · rw [openGroups, List.foldl_cons, openAfter_leaf hleaf]
    exact h.closes
  · rw [openAfter_leaf hleaf]
    exact h.agrees

/-- A group leaves the groups around it as it finds them. -/
lemma Fits.group {mark mark' : Option Text} {body : List (Token × Option Text)}
    (hbody : Fits (mark.isSome :: marks) body) (h : Fits marks parts) :
    Fits marks ((.groupOpen, mark) :: (body ++ (.groupClose, mark') :: parts)) := by
  have hclosed : openGroups (mark.isSome :: marks) (body ++ (.groupClose, mark') :: parts) =
      openGroups marks parts := by
    rw [openGroups_append, hbody.closes]
    rfl
  refine ⟨hclosed.trans h.closes, nofun, agrees_append.2 ⟨hbody.agrees, nofun, ?_⟩⟩
  have hback := hbody.closes
  simp only [openAfter] at hback ⊢
  rw [hback]
  exact h.agrees

/-- What is skipped stands for nothing, and so do the groups in it. -/
lemma Balanced.fits_skipped (h : Balanced tokens) (hmarks : marks.head? = some false) :
    Fits marks (tokens.map (·, none)) := by
  induction h generalizing marks with
  | nil => exact .nil
  | leaf hleaf _ ih => exact .leaf hleaf (iff_of_true rfl hmarks) (ih hmarks)
  | group _ _ ihBody ih =>
      rw [List.map_cons, List.map_append, List.map_cons]
      exact .group (ihBody rfl) (ih hmarks)

/-- **A reading fits** where the innermost group around it takes part. -/
lemma ReadAs.fits (h : ReadAs parts) (hmarks : marks.head? ≠ some false) : Fits marks parts := by
  induction h generalizing marks with
  | nil => exact .nil
  | literal _ ih | named _ _ _ ih | splat _ _ ih =>
      exact .leaf rfl (iff_of_false (Option.some_ne_none _) hmarks) (ih hmarks)
  | taken _ _ ihBody ih => exact .group (ihBody (by simp)) (ih hmarks)
  | skipped hbody _ ih => exact .group (hbody.fits_skipped rfl) (ih hmarks)

/-- **A leaf stands for nothing** exactly if the innermost group around it does not take part. -/
theorem ReadAs.capture_eq_none_iff {before after : List (Token × Option Text)} {token : Token}
    {capture : Option Text} (h : ReadAs (before ++ (token, capture) :: after))
    (hleaf : token.isLeaf) : capture = none ↔ (openGroups [] before).head? = some false := by
  have hfits : Fits [] (before ++ (token, capture) :: after) := h.fits (by simp)
  exact (agrees_append.1 hfits.agrees).2.1 hleaf

/-! ## Values by name -/

/-- A named parameter that stands for something stands for something that is not empty. -/
lemma ReadAs.ne_nil (h : ReadAs parts) {name value : Text}
    (hmem : (.named name, some value) ∈ parts) : value ≠ [] := by
  induction h with
  | nil => cases hmem
  | literal _ ih | splat _ _ ih => exact ih (by simpa using hmem)
  | named hne _ _ ih =>
      rcases List.mem_cons.1 hmem with heq | hmem
      · cases heq
        exact hne
      · exact ih hmem
  | taken _ _ ihBody ih =>
      simp only [List.mem_cons, List.mem_append, Prod.mk.injEq, reduceCtorEq, false_and,
        false_or] at hmem
      exact hmem.elim ihBody ih
  | skipped _ _ ih => exact ih (by simpa using hmem)

/-- The names of the named parameters in a reading, with their values. -/
def valuesOf (parts : List (Token × Option Text)) : List (Text × Option Text) :=
  parts.filterMap fun part =>
    match part.1 with
    | .named name => some (name, part.2.map decodeComponent)
    | _ => none

lemma namedValues_zip {params : List Param}
    (hparams : params.map Param.leaf = (parts.map Prod.fst).filter isParam) :
    Match.namedValues (params.zip (captured parts)) = valuesOf parts := by
  induction parts generalizing params with
  | nil => simp [captured, valuesOf, Match.namedValues]
  | cons part parts ih =>
      obtain ⟨token, capture⟩ := part
      cases token
      case literal | groupOpen | groupClose => exact ih hparams
      all_goals
        obtain ⟨⟨name, _ | _, optional⟩, rest, rfl, hleaf, hrest⟩ := List.map_eq_cons_iff.1 hparams
        all_goals cases hleaf
      · exact congrArg ((name, capture.map decodeComponent) :: ·) (ih hrest)
      · exact ih hrest

lemma exists_of_mem_valuesOf {name : Text} (hmem : name ∈ (valuesOf parts).map (·.1)) :
    ∃ part ∈ parts, part.1 = .named name := by
  obtain ⟨⟨_, value⟩, hvalue, rfl⟩ := List.mem_map.1 hmem
  obtain ⟨⟨token, capture⟩, hpart, hsome⟩ := List.mem_filterMap.1 hvalue
  cases token
  case named =>
      cases hsome
      exact ⟨_, hpart, rfl⟩
  all_goals cases hsome

end Token

/-! ## Parameters outside of groups -/

namespace Shape

variable {shape : Shape} {choices : List Choice} {captures : List (Option Text)} {path : Text}
  {param : Param} {capture : Option Text}

lemma optional_of_mem_params (h : param ∈ shape.params true) : param.optional = true := by
  induction shape with
  | done => cases h
  | literal _ next ih => exact ih h
  | named _ next ih | splat _ next ih =>
      rcases List.mem_cons.1 h with rfl | h
      · rfl
      · exact ih h
  | group body next ihBody ih => exact (List.mem_append.1 h).elim ihBody ih

/-- **A parameter outside of all groups** has a capture in every reading. -/
lemma Reads.isSome_of_required (h : shape.Reads choices captures path) {optional : Bool}
    (hmem : (param, capture) ∈ (shape.params optional).zip captures)
    (hrequired : param.optional = false) : capture.isSome := by
  -- the parameters of a group are all optional, whether it is taken or not
  have hgroup : ∀ {body : Shape} {captures : List (Option Text)},
      (param, capture) ∉ (body.params true).zip captures := fun hbody => by
    rw [optional_of_mem_params (List.of_mem_zip hbody).1] at hrequired
    cases hrequired
  induction h generalizing optional with
  | done => cases hmem
  | literal _ ih => exact ih hmem
  | named _ _ _ ih | splat _ _ ih =>
      rcases List.mem_cons.1 hmem with heq | hmem
      · cases heq
        rfl
      · exact ih hmem
  | taken hbody _ _ ih =>
      rw [zip_taken hbody] at hmem
      exact (List.mem_append.1 hmem).elim (fun hbody => absurd hbody hgroup) ih
  | skipped _ ih =>
      rw [zip_skipped] at hmem
      exact (List.mem_append.1 hmem).elim (fun hbody => absurd hbody hgroup) ih

end Shape

/-! ## Matches -/

namespace Pattern

variable {pattern : Pattern} {text : Text} {found : Match}

/-- **The splat's name** is the only one in the map of splats. -/
lemma names_splats (h : pattern.matchPath text = some found) :
    found.splats.names = (pattern.params.filter (·.kind = .splat)).map (·.name) := by
  obtain ⟨choices, reading, ⟨hderives, -⟩, rfl⟩ := exists_of_matchPath h
  have hnames := Match.map_fst_splatValues (pattern.params.zip reading.captures)
  rw [hderives.map_fst_zip] at hnames
  rw [← hnames, Match.ofReading_eq]
  obtain ⟨hvalues, -⟩ | ⟨name, raw, -, hvalues, -⟩ := Match.splat_cases hderives.splatLast_zip
  · rw [hvalues]
    rfl
  · rw [hvalues]
    rfl

lemma isSome_tail (h : pattern.matchPath text = some found) :
    found.tail.isSome = pattern.hasSplat := by
  refine Bool.eq_iff_iff.2 ⟨hasSplat_of_tail h, fun hsplat => ?_⟩
  obtain ⟨choices, reading, ⟨hderives, -⟩, rfl⟩ := exists_of_matchPath h
  rw [Match.ofReading_eq, Option.isSome_map, Match.splatText?_isSome_iff, hderives.map_leaf_zip]
  exact exists_splat_of_hasSplat hsplat

/-- **A parameter outside of all groups** has a value, if no later parameter has its name. -/
lemma exists_value_of_required (h : pattern.matchPath text = some found) {front back : List Param}
    {name : Text} (hparams : pattern.params = front ++ ⟨name, .named, false⟩ :: back)
    (hlast : ∀ param ∈ back, param.kind = .named → param.name ≠ name) :
    ∃ value, found.params.get? name = some (some value) := by
  obtain ⟨choices, reading, ⟨hderives, -⟩, rfl⟩ := exists_of_matchPath h
  obtain ⟨before, hreads⟩ := hderives.exists_reads
  obtain ⟨captures, rest, hzip, -, hrest⟩ :=
    List.map_eq_append_iff.1 (hderives.map_fst_zip.trans hparams)
  obtain ⟨⟨_, capture⟩, later, rfl, rfl, rfl⟩ := List.map_eq_cons_iff.1 hrest
  have hmem : (⟨name, .named, false⟩, capture) ∈ pattern.params.zip reading.captures :=
    hzip ▸ List.mem_append_right _ (List.mem_cons_self ..)
  obtain ⟨raw, rfl⟩ := Option.isSome_iff_exists.1 (hreads.isSome_of_required hmem rfl)
  have hvalues : Match.namedValues (pattern.params.zip reading.captures) =
      Match.namedValues captures ++ (name, some (decodeComponent raw)) ::
        Match.namedValues later := by
    rw [hzip, Match.namedValues_append]
    rfl
  refine ⟨decodeComponent raw, ?_⟩
  rw [Match.ofReading_eq, hvalues]
  refine Params.get?_ofList_last fun hmem => ?_
  rw [Match.map_fst_namedValues] at hmem
  obtain ⟨param, hparam, hname⟩ := List.mem_map.1 hmem
  obtain ⟨hback, hkind⟩ := List.mem_filter.1 hparam
  exact hlast param hback (of_decide_eq_true hkind) hname

section Parts

variable {parts : List (Token × Option Text)} {query : Option Text} {name : Text}

/-- The values of a match, by the tokens of its reading. -/
lemma params_ofReading (htokens : parts.map Prod.fst = tokenize pattern.text) :
    (Match.ofReading pattern.params
      ⟨Token.captured parts, Token.spelled parts, query⟩).params =
        .ofList (Token.valuesOf parts) := by
  rw [Match.ofReading_eq, Token.namedValues_zip]
  rw [map_leaf_params, htokens]

/-- The value of a name is that of its last occurrence. -/
lemma get?_params_of_last {before after : List (Token × Option Text)} {capture : Option Text}
    (htokens : parts.map Prod.fst = tokenize pattern.text)
    (hparts : parts = before ++ (.named name, capture) :: after)
    (hlast : ∀ part ∈ after, part.1 ≠ .named name) :
    (Match.ofReading pattern.params
      ⟨Token.captured parts, Token.spelled parts, query⟩).params.get? name =
        some (capture.map decodeComponent) := by
  rw [params_ofReading htokens, hparts, Token.valuesOf, List.filterMap_append]
  refine Params.get?_ofList_last fun hmem => ?_
  obtain ⟨part, hpart, hname⟩ := Token.exists_of_mem_valuesOf hmem
  exact hlast part hpart hname

end Parts

/-- A value is never empty. -/
lemma value_ne_nil (h : pattern.matchPath text = some found) {name value : Text}
    (hvalue : found.params.get? name = some (some value)) : value ≠ [] := by
  obtain ⟨parts, query, htokens, hreadAs, -, rfl⟩ := exists_readAs_of_matchPath h
  rw [params_ofReading htokens, Params.get?_ofList] at hvalue
  have hmem := List.mem_reverse.1 (Params.mem_of_find? hvalue)
  obtain ⟨⟨token, capture⟩, hpart, hsome⟩ := List.mem_filterMap.1 hmem
  cases token
  case named other =>
      obtain ⟨rfl, hcapture⟩ := Prod.mk.inj (Option.some.inj hsome)
      obtain ⟨raw, rfl, rfl⟩ := Option.map_eq_some_iff.1 hcapture
      exact decodeComponent_ne_nil (hreadAs.ne_nil hpart)
  all_goals cases hsome

/-- **What a match knows of each name.**  For every pattern and every text that it matches:

* the names of the match are those of the named parameters, and the splat's name, if there is a
  splat, is the only one in the map of splats; there is a tail exactly if there is a splat;
* no value is empty;
* a named parameter outside of all groups has a value, if no later parameter has its name;
* in the reading that the match is taken from, the value of a name is that of its last occurrence,
  and it is missing exactly if the innermost group around that occurrence does not take part. -/
theorem matchPath_last_occurrence (h : pattern.matchPath text = some found) :
    (∀ name, name ∈ found.params.names ↔ name ∈ pattern.names) ∧
    found.splats.names = (pattern.params.filter (·.kind = .splat)).map (·.name) ∧
    found.tail.isSome = pattern.hasSplat ∧
    (∀ name value, found.params.get? name = some (some value) → value ≠ []) ∧
    (∀ front name back, pattern.params = front ++ ⟨name, .named, false⟩ :: back →
      (∀ param ∈ back, param.kind = .named → param.name ≠ name) →
      ∃ value, found.params.get? name = some (some value)) ∧
    ∃ parts query, parts.map Prod.fst = tokenize pattern.text ∧ Token.ReadAs parts ∧
      text = Token.spelled parts ++ searchOf query ∧
      found = Match.ofReading pattern.params ⟨Token.captured parts, Token.spelled parts, query⟩ ∧
      ∀ before name capture after, parts = before ++ (.named name, capture) :: after →
        (∀ part ∈ after, part.1 ≠ .named name) →
        found.params.get? name = some (capture.map decodeComponent) ∧
        (found.params.get? name = some none ↔
          (Token.openGroups [] before).head? = some false) := by
  refine ⟨fun name => mem_names_of_matchPath h, names_splats h, isSome_tail h,
    fun name value => value_ne_nil h, fun front name back => exists_value_of_required h, ?_⟩
  obtain ⟨parts, query, htokens, hreadAs, htext, rfl⟩ := exists_readAs_of_matchPath h
  refine ⟨parts, query, htokens, hreadAs, htext, rfl, ?_⟩
  intro before name capture after hparts hlast
  refine ⟨get?_params_of_last htokens hparts hlast, ?_⟩
  rw [hparts] at hreadAs
  rw [get?_params_of_last htokens hparts hlast, ← hreadAs.capture_eq_none_iff rfl,
    Option.some_inj, Option.map_eq_none_iff]

/-- A pattern that gives one name to a parameter outside of all groups and to one in a group. -/
def chapter : Pattern :=
  ⟨"/:book/:page(/:page)".toList, _, rfl, by decide, by decide, by decide⟩

/-- The group does not take part, and the page that was captured in front of it is lost. -/
theorem matchPath_last_occurrence_chapter :
    chapter.params = [⟨"book".toList, .named, false⟩, ⟨"page".toList, .named, false⟩,
        ⟨"page".toList, .named, true⟩] ∧
      ∃ found, chapter.matchPath "/a/b".toList = some found ∧
        (∃ value, found.params.get? "book".toList = some (some value)) ∧
        found.params.get? "page".toList = some none ∧
        ∃ before capture after,
          (before ++ (.named "page".toList, capture) :: after).map Prod.fst =
            tokenize chapter.text ∧
          Token.ReadAs (before ++ (.named "page".toList, capture) :: after) ∧
          (Token.openGroups [] before).head? = some false := by
  have hparams : chapter.params = [] ++ ⟨"book".toList, .named, false⟩ ::
      [⟨"page".toList, .named, false⟩, ⟨"page".toList, .named, true⟩] := by decide +kernel
  have hpage : (chapter.matchPath "/a/b".toList).map (·.params.get? "page".toList) =
      some (some none) := by decide +kernel
  obtain ⟨found, hfound, hnone⟩ := Option.map_eq_some_iff.1 hpage
  obtain ⟨-, -, -, -, hrequired, parts, query, htokens, hreadAs, -, -, hlast⟩ :=
    matchPath_last_occurrence hfound
  refine ⟨hparams, found, hfound, hrequired _ _ _ hparams (by simp), hnone, ?_⟩
  have htext : tokenize chapter.text = [.literal "/".toList, .named "book".toList,
      .literal "/".toList, .named "page".toList, .groupOpen, .literal "/".toList] ++
      .named "page".toList :: [.groupClose] := by decide +kernel
  obtain ⟨before, rest, rfl, -, hrest⟩ := List.map_eq_append_iff.1 (htokens.trans htext)
  obtain ⟨⟨_, capture⟩, after, rfl, rfl, hafter⟩ := List.map_eq_cons_iff.1 hrest
  have hothers : ∀ part ∈ after, part.1 ≠ .named "page".toList := by
    intro part hpart hname
    have hmem := List.mem_map_of_mem (f := Prod.fst) hpart
    simp [hafter, hname] at hmem
  exact ⟨before, capture, after, htokens, hreadAs,
    (hlast before _ capture after rfl hothers).2.1 hnone⟩

end Pattern

end PageRouter
