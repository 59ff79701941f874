import PageRouter.Match
import PageRouter.Proofs.LeftmostFirst

/-!
# What all readings of a pattern share

The **leaves** of a sequence are its tokens without the parentheses, from left to right.  They say
what matters about a pattern that compiles apart from its groups: its literals are parts of its
text, and its splat, if it has one, comes last (`Pattern.splatLast_leaves`).

From this follows what every reading has in common, whichever groups it takes: it has one capture
for each parameter (`Reads.length_captures`), and a pattern without `?` reads a path without `?`
(`Reads.not_mem_path`), so that the path ends and the query begins at the first `?` of the text.
-/

namespace PageRouter

open Text

/-! ## Leaves -/

/-- A token that is no parenthesis. -/
def Token.isLeaf : Token → Bool
  | .groupOpen | .groupClose => false
  | _ => true

/-- The splat is the last token, if there is one. -/
def Token.SplatLast : List Token → Prop
  | [] => True
  | .splat _ :: tokens => tokens = []
  | _ :: tokens => SplatLast tokens

/-- A token that is a parameter. -/
def Token.isParam : Token → Bool
  | .named _ | .splat _ => true
  | _ => false

lemma Token.SplatLast.left {tokens tokens' : List Token} (h : SplatLast (tokens ++ tokens')) :
    SplatLast tokens := by
  induction tokens with
  | nil => trivial
  | cons token tokens ih =>
      cases token
      case splat => exact (List.append_eq_nil_iff.1 h).1
      all_goals exact ih h

lemma Token.SplatLast.right {tokens tokens' : List Token} (h : SplatLast (tokens ++ tokens')) :
    SplatLast tokens' := by
  induction tokens with
  | nil => exact h
  | cons token tokens ih =>
      cases token
      case splat => rw [(List.append_eq_nil_iff.1 h).2]; trivial
      all_goals exact ih h

/-- Nothing follows a splat. -/
lemma Token.SplatLast.eq_nil {tokens tokens' : List Token} (h : SplatLast (tokens ++ tokens'))
    {name : Text} (hmem : .splat name ∈ tokens) : tokens' = [] := by
  induction tokens with
  | nil => simp at hmem
  | cons token tokens ih =>
      cases token
      case splat => exact (List.append_eq_nil_iff.1 h).2
      all_goals exact ih h (by simpa using hmem)

lemma Token.SplatLast.filter {tokens : List Token} (h : SplatLast tokens) (p : Token → Bool) :
    SplatLast (tokens.filter p) := by
  induction tokens with
  | nil => trivial
  | cons token tokens ih =>
      rw [List.filter_cons]
      cases token
      case splat =>
          rw [SplatLast] at h
          subst h
          split <;> simp [SplatLast]
      all_goals
        split
        · exact ih h
        · exact ih h

/-- The token of a parameter. -/
def Param.leaf (param : Param) : Token :=
  match param.kind with
  | .named => .named param.name
  | .splat => .splat param.name

namespace Shape

/-- The tokens of a sequence and of the groups in it, without the parentheses. -/
def leaves : Shape → List Token
  | .done => []
  | .literal text next => .literal text :: next.leaves
  | .named name next => .named name :: next.leaves
  | .splat name next => .splat name :: next.leaves
  | .group body next => body.leaves ++ next.leaves

/-- **The parameters are the leaves that are no literals.** -/
lemma map_leaf_params (shape : Shape) (optional : Bool) :
    (shape.params optional).map Param.leaf = shape.leaves.filter Token.isParam := by
  induction shape generalizing optional with
  | done => rfl
  | literal text next ih => simpa [params, leaves, Token.isParam] using ih optional
  | named name next ih | splat name next ih =>
      simp [params, leaves, List.filter_cons, Token.isParam, Param.leaf, ih optional]
  | group body next ihBody ih => simp [params, leaves, ihBody true, ih optional]

lemma leaves_push (token : Token) (state : Shape × List Shape) :
    (push token state).1.leaves ++ (push token state).2.flatMap leaves =
      (if token.isLeaf then [token] else []) ++ (state.1.leaves ++ state.2.flatMap leaves) := by
  obtain ⟨shape, outer⟩ := state
  cases token
  case groupOpen => cases outer <;> simp [push, Token.isLeaf, leaves]
  all_goals simp [push, Token.isLeaf, leaves]

lemma leaves_foldr (tokens : List Token) :
    (tokens.foldr push (.done, [])).1.leaves ++ (tokens.foldr push (.done, [])).2.flatMap leaves =
      tokens.filter Token.isLeaf := by
  induction tokens with
  | nil => rfl
  | cons token tokens ih =>
      rw [List.foldr_cons, leaves_push, ih, List.filter_cons]
      split <;> simp

end Shape

/-! ## What the check of a pattern ensures -/

/-- Inside as many groups as are open, so many are closed to the right. -/
lemma length_outer_of_faultOf {tokens : List Token} {splatSeen : Bool} {depth : Nat}
    (h : faultOf splatSeen depth tokens = none) :
    (tokens.foldr Shape.push (.done, [])).2.length = depth := by
  induction tokens generalizing splatSeen depth with
  | nil =>
      rw [faultOf] at h
      split at h
      · next hdepth => exact hdepth.symm
      · cases h
  | cons token tokens ih =>
      rw [List.foldr_cons]
      cases token with
      | groupClose =>
          cases depth with
          | zero => cases h
          | succ depth => simp [Shape.push, ih h]
      | groupOpen =>
          rw [faultOf] at h
          split at h
          · cases h
          · have hlength := ih h
            generalize tokens.foldr Shape.push (.done, []) = state at hlength
            obtain ⟨shape, _ | ⟨next, outer⟩⟩ := state
            · simp at hlength
            · simpa [Shape.push] using hlength
      | literal text | named name | splat name =>
          rw [faultOf] at h
          split at h
          · cases h
          · simpa [Shape.push] using ih h

/-- Behind a splat, and behind every splat there is, only parentheses follow. -/
lemma splatLast_of_faultOf {tokens : List Token} {splatSeen : Bool} {depth : Nat}
    (h : faultOf splatSeen depth tokens = none) :
    (splatSeen → tokens.filter Token.isLeaf = []) ∧
      Token.SplatLast (tokens.filter Token.isLeaf) := by
  induction tokens generalizing splatSeen depth with
  | nil => exact ⟨fun _ => rfl, trivial⟩
  | cons token tokens ih =>
      cases token with
      | groupClose =>
          cases depth with
          | zero => cases h
          | succ depth => exact ih h
      | groupOpen =>
          rw [faultOf] at h
          split at h
          · cases h
          · exact ih h
      | literal text | named name =>
          rw [faultOf] at h
          split at h
          · cases h
          · next hseen => exact ⟨fun hsplat => absurd hsplat hseen, (ih h).2⟩
      | splat name =>
          rw [faultOf] at h
          split at h
          · cases h
          · next hseen => exact ⟨fun hsplat => absurd hsplat hseen, (ih h).1 rfl⟩

namespace Pattern

lemma leaves_shape (pattern : Pattern) :
    pattern.shape.leaves = (tokenize pattern.text).filter Token.isLeaf := by
  have houter := length_outer_of_faultOf pattern.faultless
  have hleaves := Shape.leaves_foldr (tokenize pattern.text)
  rw [List.length_eq_zero_iff.1 houter, List.flatMap_nil, List.append_nil] at hleaves
  rw [pattern.shape_eq]
  exact hleaves

/-- **The splat comes last.** -/
theorem splatLast_leaves (pattern : Pattern) : Token.SplatLast pattern.shape.leaves := by
  rw [leaves_shape]
  exact (splatLast_of_faultOf pattern.faultless).2

/-- The literals of a pattern are parts of its text. -/
lemma mem_text_of_literal {pattern : Pattern} {text : Text} {c : Char}
    (hliteral : .literal text ∈ pattern.shape.leaves) (hc : c ∈ text) : c ∈ pattern.text := by
  rw [leaves_shape] at hliteral
  rw [← Token.write_tokenize pattern.text]
  exact List.mem_flatMap.2 ⟨_, (List.mem_filter.1 hliteral).1, hc⟩

end Pattern

/-! ## Captures -/

namespace Shape.Reads

variable {shape : Shape} {choices : List Choice} {captures : List (Option Text)} {path : Text}

/-- **One capture for each parameter.** -/
theorem length_captures (h : shape.Reads choices captures path) (optional : Bool) :
    captures.length = (shape.params optional).length := by
  induction h generalizing optional with
  | done => rfl
  | literal _ ih => exact ih optional
  | named _ _ _ ih => simp [Shape.params, ih optional]
  | splat _ _ ih => simp [Shape.params, ih optional]
  | taken _ _ ihBody ih => simp [Shape.params, ihBody true, ih optional]
  | skipped _ ih => simp [Shape.params, ih optional]

/-- The captures of a group and of what follows it. -/
lemma zip_taken {body next : Shape} {captures' : List (Option Text)}
    (h : body.Reads choices captures path) (optional : Bool) :
    ((Shape.group body next).params optional).zip (captures ++ captures') =
      (body.params true).zip captures ++ (next.params optional).zip captures' :=
  List.zip_append (h.length_captures true).symm

lemma zip_skipped (body next : Shape) (captures : List (Option Text)) (optional : Bool) :
    ((Shape.group body next).params optional).zip
        (List.replicate (body.params true).length none ++ captures) =
      (body.params true).zip (List.replicate (body.params true).length none) ++
        (next.params optional).zip captures :=
  List.zip_append List.length_replicate.symm

/-- A sequence without `?` reads no path with `?`. -/
lemma not_mem_path (h : shape.Reads choices captures path)
    (hplain : ∀ text, .literal text ∈ shape.leaves → '?' ∉ text) : '?' ∉ path := by
  induction h with
  | done => simp
  | @literal text path next _ _ _ ih =>
      have htext := hplain text (List.mem_cons_self ..)
      have hnext := ih fun text htext => hplain text (List.mem_cons_of_mem _ htext)
      simp [htext, hnext]
  | named _ hvalue _ ih =>
      have hnext := ih fun text htext => hplain text (List.mem_cons_of_mem _ htext)
      simpa [hnext] using fun hmem => (hvalue _ hmem).2 rfl
  | splat hvalue _ ih =>
      have hnext := ih fun text htext => hplain text (List.mem_cons_of_mem _ htext)
      simpa [hnext] using fun hmem => hvalue _ hmem rfl
  | taken _ _ ihBody ih =>
      have hbody := ihBody fun text htext => hplain text (List.mem_append_left _ htext)
      have hnext := ih fun text htext => hplain text (List.mem_append_right _ htext)
      simp [hbody, hnext]
  | skipped _ ih => exact ih fun text htext => hplain text (List.mem_append_right _ htext)

/-- What has no leaves reads the empty path. -/
lemma eq_nil_of_leaves (h : shape.Reads choices captures path) (hleaves : shape.leaves = []) :
    path = [] := by
  induction h with
  | done => rfl
  | literal => simp [Shape.leaves] at hleaves
  | named => simp [Shape.leaves] at hleaves
  | splat => simp [Shape.leaves] at hleaves
  | taken _ _ ihBody ih =>
      obtain ⟨hbody, hnext⟩ := List.append_eq_nil_iff.1 hleaves
      rw [ihBody hbody, ih hnext, List.append_nil]
  | skipped _ ih => exact ih (List.append_eq_nil_iff.1 hleaves).2

end Shape.Reads

/-! ## Texts -/

/-- A query as it stands in a text, with its `?` in front. -/
def searchOf : Option Text → Text
  | some query => '?' :: query
  | none => []

/-- What follows the first `?` of a text, if it holds one. -/
def queryPart (text : Text) : Option Text :=
  (cutAt? '?' text).map (·.2)

section Parts

variable {path : Text}

lemma forall_ne_mark (hpath : '?' ∉ path) : ∀ c ∈ path, decide (c ≠ '?') = true := by
  intro c hc
  rw [decide_eq_true_eq]
  rintro rfl
  exact hpath hc

lemma searchPart_append (hpath : '?' ∉ path) (text : Text) :
    searchPart (path ++ text) = searchPart text :=
  List.dropWhile_append_of_pos (forall_ne_mark hpath)

/-- A text whose path holds no `?` is parted in front of its query. -/
lemma splitSearch_append (hpath : '?' ∉ path) (query : Option Text) :
    splitSearch (path ++ searchOf query) = (path, searchOf query) := by
  rw [splitSearch, pathPart, searchPart_append hpath,
    List.takeWhile_append_of_pos (forall_ne_mark hpath)]
  cases query <;> simp [searchOf, searchPart]

lemma pathPart_append (hpath : '?' ∉ path) (query : Option Text) :
    pathPart (path ++ searchOf query) = path :=
  (Prod.mk.inj (splitSearch_append hpath query)).1

lemma searchPart_append_searchOf (hpath : '?' ∉ path) (query : Option Text) :
    searchPart (path ++ searchOf query) = searchOf query :=
  (Prod.mk.inj (splitSearch_append hpath query)).2

lemma queryPart_append (hpath : '?' ∉ path) (query : Option Text) :
    queryPart (path ++ searchOf query) = query := by
  induction path with
  | nil => cases query <;> rfl
  | cons c path ih =>
      rw [List.mem_cons, not_or] at hpath
      have hrest := ih hpath.2
      rw [queryPart] at hrest
      rw [queryPart, List.cons_append, cutAt?, if_neg (Ne.symm hpath.1), Option.map_map]
      exact hrest

/-- Every text is a path without `?`, and then a query or nothing. -/
lemma exists_eq_append_searchOf (text : Text) :
    ∃ path query, '?' ∉ path ∧ text = path ++ searchOf query := by
  induction text with
  | nil => exact ⟨[], none, by simp, rfl⟩
  | cons c text ih =>
      by_cases hc : c = '?'
      · exact ⟨[], some text, by simp, by rw [hc]; rfl⟩
      · obtain ⟨path, query, hpath, rfl⟩ := ih
        exact ⟨c :: path, query, by simp [hpath, Ne.symm hc], rfl⟩

lemma searchPart_eq_searchOf (text : Text) : searchPart text = searchOf (queryPart text) := by
  obtain ⟨path, query, hpath, rfl⟩ := exists_eq_append_searchOf text
  rw [searchPart_append_searchOf hpath, queryPart_append hpath]

lemma not_mem_pathPart (text : Text) : '?' ∉ pathPart text := by
  obtain ⟨path, query, hpath, rfl⟩ := exists_eq_append_searchOf text
  rwa [pathPart_append hpath]

/-- A root without `?` takes nothing of the search. -/
lemma searchPart_stripRoot {url root : Text} (hroot : '?' ∉ root) :
    searchPart (stripRoot url root) = searchPart url := by
  rw [stripRoot]
  split
  · rfl
  · split
    · next hafter =>
        rw [after?_eq_some_iff.1 hafter, searchPart_append hroot]
        rfl
    · next rest hafter =>
        rw [after?_eq_some_iff.1 hafter, searchPart_append hroot]
    · next query hafter =>
        rw [after?_eq_some_iff.1 hafter, searchPart_append hroot]
        rfl
    · rfl

end Parts

namespace Pattern

variable {pattern : Pattern} {text : Text} {choices : List Choice} {reading : Reading}

lemma exists_leftmostFirst (h : pattern.read? text = some reading) :
    ∃ choices, pattern.LeftmostFirst text choices reading := by
  have hbest := pattern.isBest_read text
  rw [h] at hbest
  obtain ⟨choices, hderives, hothers⟩ := hbest
  exact ⟨choices, hderives,
    fun others other hother => (hothers others other hother).imp_left And.left⟩

/-- The reading is the one whose choices precede all others. -/
lemma LeftmostFirst.read?_eq (h : pattern.LeftmostFirst text choices reading) :
    pattern.read? text = some reading :=
  (pattern.isBest_read text).eq_some h.1 h.2

/-- The choice that ends a derivation. -/
def queryChoice : Option Text → Choice
  | some _ => .query
  | none => .noQuery

lemma derives_iff : pattern.Derives text choices reading ↔
    ∃ before, pattern.shape.Reads before reading.captures reading.path ∧
      text = reading.path ++ searchOf reading.query ∧
      choices = before ++ [queryChoice reading.query] := by
  obtain ⟨captures, path, query⟩ := reading
  constructor
  · rintro ⟨before, hreads, ⟨rfl, rfl, rfl⟩ | ⟨query, rfl, rfl, rfl⟩⟩
    · exact ⟨before, hreads, (List.append_nil _).symm, rfl⟩
    · exact ⟨before, hreads, rfl, rfl⟩
  · rintro ⟨before, hreads, rfl, rfl⟩
    cases query with
    | none => exact ⟨before, hreads, .inl ⟨rfl, List.append_nil _, rfl⟩⟩
    | some query => exact ⟨before, hreads, .inr ⟨query, rfl, rfl, rfl⟩⟩

lemma Derives.text_eq (h : pattern.Derives text choices reading) :
    text = reading.path ++ searchOf reading.query := by
  obtain ⟨before, -, htext, -⟩ := derives_iff.1 h
  exact htext

lemma Derives.exists_reads (h : pattern.Derives text choices reading) :
    ∃ before, pattern.shape.Reads before reading.captures reading.path := by
  obtain ⟨before, hreads, -⟩ := h
  exact ⟨before, hreads⟩

/-- A pattern without `?` reads no path with `?`. -/
lemma Derives.not_mem_path (h : pattern.Derives text choices reading) (hplain : '?' ∉ pattern.text) :
    '?' ∉ reading.path := by
  obtain ⟨before, hreads⟩ := h.exists_reads
  exact hreads.not_mem_path fun text hliteral hmem => hplain (mem_text_of_literal hliteral hmem)

end Pattern

end PageRouter
