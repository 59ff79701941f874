import PageRouter.Proofs.Filling
import PageRouter.Proofs.Flattening
import PageRouter.Proofs.Segments

/-!
# Paths written as patterns

What stands for a named parameter in a path has no slash, whether it was captured or is filled in.
So a path has its slashes where the tokens that spell it have them (`Token.Spells.neat`).

A **trail** is a pattern without groups whose text begins with a slash and has no two slashes side
by side.  A trail that ends in a slash and a splat leaves the rest of a path to other patterns:
filled in with what it captured, it is the path up to there (`Pattern.Derives.fill_open`).  A trail
without a splat is filled in to all of the path (`Pattern.Derives.fill_closed`).
-/

namespace PageRouter

open Text

/-! ## Slashes of tokens -/

namespace Token.Spells

variable {tokens : List Token} {values : List Text} {path : Text}

/-- What is spelled begins with a slash if the tokens do, and only then. -/
lemma head?_iff (h : Spells tokens values path) :
    path.head? = some '/' ↔ (write tokens).head? = some '/' := by
  induction h with
  | nil => rfl
  | @literal text path tokens _ _ ih =>
      rw [show write (.literal text :: tokens) = text ++ write tokens from rfl]
      cases text with
      | nil => exact ih
      | cons c text => rfl
  | @named name value path tokens _ hne hvalue _ _ =>
      obtain ⟨c, value, rfl⟩ := List.exists_cons_of_ne_nil hne
      have hc := (hvalue c (List.mem_cons_self ..)).1
      simp [write, Token.text, hc]

/-- **Spelling puts no slashes side by side.** -/
lemma tight (h : Spells tokens values path) (htight : Tight (write tokens)) : Tight path := by
  induction h with
  | nil => exact htight
  | literal hrest ih =>
      obtain ⟨htext, htight, hmeet⟩ := tight_append_iff.1 htight
      exact tight_append_iff.2 ⟨htext, ih htight, fun ⟨hlast, hhead⟩ =>
        hmeet ⟨hlast, hrest.head?_iff.1 hhead⟩⟩
  | named _ hvalue _ ih =>
      refine tight_append_iff.2 ⟨tight_of_not_mem fun hmem => (hvalue _ hmem).1 rfl,
        ih (tight_append_iff.1 htight).2.1, fun ⟨hlast, _⟩ => ?_⟩
      exact (hvalue _ (List.mem_of_getLast? hlast)).1 rfl

/-- Without named parameters the tokens spell what they are written as. -/
lemma eq_write (h : Spells tokens values path) (hsigil : ':' ∉ write tokens) :
    path = write tokens := by
  induction h with
  | nil => rfl
  | literal _ ih => exact congrArg _ (ih fun hmem => hsigil (List.mem_append_right _ hmem))
  | named => exact absurd (List.mem_cons_self ..) hsigil

/-- **Neat tokens spell neat paths.** -/
lemma neat (h : Spells tokens values path) (hneat : Neat (write tokens)) : Neat path := by
  refine ⟨h.head?_iff.2 hneat.head, h.tight hneat.tight, ?_⟩
  rcases hneat.last with hroot | hlast
  · exact .inl ((h.eq_write (by rw [hroot]; decide)).trans hroot)
  · exact .inr (mt h.getLast?_write hlast)

end Token.Spells

/-! ## Sequences without groups -/

namespace Shape

lemma groupsNamed_ofTokens {front tokens : List Token} (hfront : ∀ token ∈ front, token.isFlat)
    (h : (ofTokens tokens).GroupsNamed) : (ofTokens (front ++ tokens)).GroupsNamed := by
  induction front with
  | nil => exact h
  | cons token front ih =>
      have ih := ih fun other hother => hfront other (List.mem_cons_of_mem _ hother)
      cases token with
      | literal text | named name => exact ih
      | splat name | groupOpen | groupClose => cases hfront _ (List.mem_cons_self ..)

end Shape

/-- Without `(` there is no `)`. -/
lemma not_groupClose_of_faultOf {tokens : List Token} {splatSeen : Bool}
    (h : faultOf splatSeen 0 tokens = none) (hopen : .groupOpen ∉ tokens) :
    .groupClose ∉ tokens := by
  induction tokens generalizing splatSeen with
  | nil => exact List.not_mem_nil
  | cons token tokens ih =>
      rw [List.mem_cons, not_or] at hopen ⊢
      cases token with
      | groupOpen => exact absurd rfl hopen.1
      | groupClose => cases h
      | literal text | named name | splat name =>
          rw [faultOf] at h
          split at h
          · cases h
          · exact ⟨by simp, ih h hopen.2⟩

namespace Pattern

variable {pattern : Pattern}

/-- **A trail.** -/
structure IsTrail (pattern : Pattern) : Prop where
  flat : '(' ∉ pattern.text
  head : pattern.text.head? = some '/'
  tight : Tight pattern.text

instance : DecidablePred IsTrail := fun pattern =>
  decidable_of_iff ('(' ∉ pattern.text ∧ pattern.text.head? = some '/' ∧ Tight pattern.text)
    ⟨fun ⟨hflat, hhead, htight⟩ => ⟨hflat, hhead, htight⟩,
      fun h => ⟨h.flat, h.head, h.tight⟩⟩

/-- The pattern ends in a slash and a splat. -/
def IsOpen (pattern : Pattern) : Prop :=
  ∃ front name, pattern.text = front ++ '/' :: '*' :: name ∧ Token.IsName name

/-- The pattern has no splat and does not end in a slash. -/
def IsClosed (pattern : Pattern) : Prop :=
  pattern.hasSplat = false ∧ pattern.text.getLast? ≠ some '/'

instance : DecidablePred IsClosed := fun _ => inferInstanceAs (Decidable (_ ∧ _))

lemma not_groupOpen_of_not_mem (h : '(' ∉ pattern.text) : .groupOpen ∉ tokenize pattern.text := by
  intro hmem
  rw [← Token.write_tokenize pattern.text] at h
  exact h (List.mem_flatMap.2 ⟨_, hmem, List.mem_cons_self ..⟩)

/-- The tokens of a pattern without groups are literals, named parameters and splats. -/
lemma flat_or_splat (h : '(' ∉ pattern.text) {token : Token}
    (hmem : token ∈ tokenize pattern.text) : token.isFlat ∨ ∃ name, token = .splat name := by
  have hopen := not_groupOpen_of_not_mem h
  have hclose := not_groupClose_of_faultOf pattern.faultless hopen
  cases token with
  | literal text | named name => exact .inl rfl
  | splat name => exact .inr ⟨name, rfl⟩
  | groupOpen => exact absurd hmem hopen
  | groupClose => exact absurd hmem hclose

lemma hasSplat_of_mem {name : Text} (h : .splat name ∈ tokenize pattern.text) :
    pattern.hasSplat := by
  have hleaf : .splat name ∈ pattern.shape.leaves.filter Token.isParam := by
    rw [leaves_shape, List.filter_filter]
    exact List.mem_filter.2 ⟨h, rfl⟩
  rw [← Shape.map_leaf_params pattern.shape false] at hleaf
  obtain ⟨⟨name, _ | _, optional⟩, hmem, hleaf⟩ := List.mem_map.1 hleaf
  · cases hleaf
  · exact List.any_eq_true.2 ⟨_, hmem, rfl⟩

/-- **A pattern without groups and splats** reads what its tokens spell. -/
lemma extends_of_closed (hflat : '(' ∉ pattern.text) (hsplat : pattern.hasSplat = false) :
    pattern.shape.Extends (tokenize pattern.text) .done ∧ pattern.shape.GroupsNamed := by
  have hfront : ∀ token ∈ tokenize pattern.text, token.isFlat := by
    intro token hmem
    refine (flat_or_splat hflat hmem).resolve_right ?_
    rintro ⟨name, rfl⟩
    rw [hasSplat_of_mem hmem] at hsplat
    cases hsplat
  have hshape : pattern.shape = Shape.ofTokens (tokenize pattern.text ++ []) := by
    rw [List.append_nil]
    exact pattern.shape_eq
  rw [hshape]
  exact ⟨Shape.extends_ofTokens hfront, Shape.groupsNamed_ofTokens hfront trivial⟩

/-- **A pattern without groups that ends in a slash and a splat** reads what its tokens up to the
slash spell, and then any rest. -/
lemma exists_extends_of_open (hflat : '(' ∉ pattern.text) (h : pattern.IsOpen) :
    ∃ front start name, pattern.text =
        Token.write (front ++ [.literal (start ++ ['/'])]) ++ '*' :: name ∧
      pattern.shape.Extends (front ++ [.literal (start ++ ['/'])]) (.splat name .done) ∧
      pattern.shape.GroupsNamed := by
  obtain ⟨text, name, htext, hname⟩ := h
  obtain ⟨front, start, htokens⟩ := Token.exists_concat_slash
    (Token.canonical_tokenize (text ++ ['/'])) (by rw [Token.write_tokenize]; simp)
  have hsplat : tokenize ('/' :: '*' :: name) = [.literal ['/'], .splat name] := by
    have hcanonical : Token.Canonical [.literal ['/'], .splat name] :=
      ⟨by simp, ⟨by decide, by decide, trivial⟩, rfl, hname, by simp [Token.literalHead], trivial⟩
    simpa [Token.write, Token.text] using Token.tokenize_write hcanonical
  have hpattern :
      tokenize pattern.text = (front ++ [.literal (start ++ ['/'])]) ++ [.splat name] := by
    rw [htext, Token.tokenize_join htokens hsplat, List.append_assoc]
    rfl
  have hfront : ∀ token ∈ front ++ [.literal (start ++ ['/'])], token.isFlat := by
    intro token hmem
    refine (flat_or_splat hflat (hpattern ▸ List.mem_append_left _ hmem)).resolve_right ?_
    rintro ⟨other, rfl⟩
    have hlast := (splatLast_of_faultOf pattern.faultless).2
    rw [hpattern, List.filter_append] at hlast
    cases hlast.eq_nil (List.mem_filter.2 ⟨hmem, rfl⟩)
  have hshape : pattern.shape =
      Shape.ofTokens ((front ++ [.literal (start ++ ['/'])]) ++ [.splat name]) := by
    rw [← hpattern]
    exact pattern.shape_eq
  refine ⟨front, start, name, ?_, ?_⟩
  · have hwrite := Token.write_tokenize pattern.text
    rw [hpattern, Token.write, List.flatMap_append, List.flatMap_singleton] at hwrite
    exact hwrite.symm
  · rw [hshape]
    exact ⟨Shape.extends_ofTokens hfront, Shape.groupsNamed_ofTokens hfront trivial⟩

/-! ## Filling in what was captured -/

variable {text : Text} {choices : List Choice} {reading : Reading} {values : Params Text}

/-- What the splat behind a trail captures is the end of the path. -/
lemma splat_of_extends {front : List Token} {name : Text}
    (h : pattern.shape.Extends front (.splat name .done)) {captures : List (Option Text)}
    {path : Text} (hreads : pattern.shape.Reads choices captures path) :
    ∃ captured used raw, Token.Spells front captured used ∧ path = used ++ raw ∧
      Match.leftOver (pattern.params.zip captures) = raw ∧
      Match.splatText? (pattern.params.zip captures) = some raw := by
  obtain ⟨captured, used, _, _, _, hspells, hsplat, -, rfl, rfl⟩ := h.reads.1 hreads
  cases hsplat with
  | @splat _ raw _ _ _ _ hraw hdone =>
      cases hdone
      have hparams : pattern.params = _ := h.params
      have hsplat := Match.splat_append_named (kind_ownParams front captured)
        (((Shape.splat name .done).params false).zip [some raw])
      rw [hparams, zip_ownParams hspells]
      refine ⟨captured, used, raw, hspells, by rw [List.append_nil], ?_, hsplat.2⟩
      rw [Match.leftOver, hsplat.1]
      exact List.append_nil raw

/-- A pattern filled in with what it captured, and what its splat captured, are the path. -/
lemma Derives.fill_eq (h : pattern.Derives text choices reading)
    (hgroups : pattern.shape.GroupsNamed)
    (hwritten : Match.Written values (pattern.params.zip reading.captures)) :
    (fill pattern.text values).missing = [] ∧
      (fill pattern.text values).path ++ Match.leftOver (pattern.params.zip reading.captures) =
        reading.path := by
  obtain ⟨before, hreads⟩ := h.exists_reads
  rw [fill, ← pattern.shape_eq]
  exact hreads.fill_eq hgroups pattern.splatLast_leaves false hwritten

/-- **A trail that ends in a splat**, filled in with what it captured, is the path up to the slash
in front of the splat. -/
theorem Derives.fill_open (h : pattern.Derives text choices reading) (htrail : pattern.IsTrail)
    (hopen : pattern.IsOpen)
    (hwritten : Match.Written values (pattern.params.zip reading.captures)) :
    (fill pattern.text values).missing = [] ∧
      ∃ raw, (Match.ofReading pattern.params reading).tail.map (·.path) = some ('/' :: raw) ∧
        reading.path = slashed (segments (fill pattern.text values).path) ++ '/' :: raw := by
  obtain ⟨front, start, name, htext, hextends, hgroups⟩ := exists_extends_of_open htrail.flat hopen
  obtain ⟨hmissing, hpath⟩ := h.fill_eq hgroups hwritten
  obtain ⟨before, hreads⟩ := h.exists_reads
  obtain ⟨captured, used, raw, hspells, hused, hleft, hsplat⟩ := splat_of_extends hextends hreads
  rw [hleft, hused] at hpath
  have hfill := List.append_cancel_right hpath
  refine ⟨hmissing, raw, by rw [Match.ofReading_eq, hsplat]; rfl, ?_⟩
  -- the part in front of the splat has its slashes where the text of the pattern has them
  have hlast : used.getLast? = some '/' := by
    obtain ⟨_, -, rfl⟩ := hspells.of_concat_literal
    simp
  have hhead : used.head? = some '/' := by
    refine hspells.head?_iff.2 ?_
    have hhead := htrail.head
    rw [htext] at hhead
    simpa [Token.write, Token.text] using hhead
  have htight : Tight used := by
    have htight := htrail.tight
    rw [htext] at htight
    exact hspells.tight (tight_append_iff.1 htight).1
  calc reading.path = used ++ raw := hused
    _ = (slashed (segments used) ++ slashAtEnd used) ++ raw := by
        rw [← eq_slashed_segments hhead htight]
    _ = slashed (segments (fill pattern.text values).path) ++ '/' :: raw := by
        rw [slashAtEnd, if_pos hlast, hfill, List.append_assoc, List.singleton_append]

/-- A trail without a splat is neat. -/
lemma IsTrail.neat (h : pattern.IsTrail) (hclosed : pattern.IsClosed) : Neat pattern.text :=
  ⟨h.head, h.tight, .inr hclosed.2⟩

/-- **A trail without a splat**, filled in with what it captured, is the path. -/
theorem Derives.fill_closed (h : pattern.Derives text choices reading) (htrail : pattern.IsTrail)
    (hclosed : pattern.IsClosed)
    (hwritten : Match.Written values (pattern.params.zip reading.captures)) :
    (fill pattern.text values).missing = [] ∧ segments (fill pattern.text values).path ≠ [] ∧
      reading.path = slashed (segments (fill pattern.text values).path) := by
  obtain ⟨hextends, hgroups⟩ := extends_of_closed htrail.flat hclosed.1
  obtain ⟨hmissing, hpath⟩ := h.fill_eq hgroups hwritten
  obtain ⟨before, hreads⟩ := h.exists_reads
  obtain ⟨captured, used, _, _, _, hspells, hdone, -, hcaptures, hused⟩ := hextends.reads.1 hreads
  cases hdone
  rw [List.append_nil] at hused hcaptures
  have hleft : Match.leftOver (pattern.params.zip reading.captures) = [] := by
    have hparams : pattern.params = Token.ownParams (tokenize pattern.text) :=
      hextends.params.trans (List.append_nil _)
    have hnamed := Match.splat_append_named (kind_ownParams (tokenize pattern.text) captured) []
    rw [List.append_nil] at hnamed
    rw [hparams, hcaptures, Match.leftOver, hnamed.1]
    rfl
  rw [hleft, List.append_nil] at hpath
  have hneat : Neat used := hspells.neat (by
    rw [Token.write_tokenize]
    exact htrail.neat hclosed)
  rw [hpath, hused]
  refine ⟨hmissing, ?_⟩
  rcases hneat.eq_root_or with ⟨rfl, -⟩ | hslashed
  · refine absurd ?_ hclosed.2
    rw [← Token.write_tokenize pattern.text]
    exact hspells.getLast?_write rfl
  · exact hslashed

/-! ## Filling in any pattern -/

/-- The text of a pattern without its parentheses and its splat. -/
def flatText (pattern : Pattern) : Text := Token.write ((tokenize pattern.text).filter Token.isFlat)

/-- Tokens filled in are spelled. -/
lemma spells_filled {tokens : List Token} (h : Token.Given values tokens) : ∃ captured,
    Token.Spells (tokens.filter Token.isFlat) captured (tokens.flatMap (Token.filled values)) := by
  induction tokens with
  | nil => exact ⟨[], .nil⟩
  | cons token tokens ih =>
      obtain ⟨captured, hspells⟩ := ih h.tail
      cases token with
      | literal text => exact ⟨captured, .literal hspells⟩
      | named name =>
          exact ⟨_, .named (h.filled_ne_nil (List.mem_cons_self ..))
            (fun c => Token.inside_of_mem_filled) hspells⟩
      | splat name | groupOpen | groupClose => exact ⟨captured, hspells⟩

/-- **Where the text of a pattern is neat**, parentheses and splat apart, it is filled in neatly. -/
theorem neat_fill (hneat : Neat pattern.flatText)
    (hgiven : Token.Given values pattern.shape.leaves) :
    Neat (fill pattern.text values).path := by
  obtain ⟨captured, hspells⟩ := spells_filled hgiven
  have hflat : pattern.shape.leaves.filter Token.isFlat =
      (tokenize pattern.text).filter Token.isFlat := by
    rw [leaves_shape, List.filter_filter]
    refine List.filter_congr fun token _ => ?_
    cases token <;> rfl
  rw [fill, ← pattern.shape_eq, Shape.fill_of_given hgiven]
  exact hspells.neat (hflat ▸ hneat)

end Pattern

end PageRouter
