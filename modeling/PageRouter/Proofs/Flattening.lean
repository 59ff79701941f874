import PageRouter.Proofs.Junctions

/-!
# Nested matching is flat matching

A route nested in another one sees the tail of that one, and its tail is told from the outside.  The
two patterns could as well be one, without the outer splat (`Pattern.Joint`), matched at once
(`Pattern.Joint.matchPath_flat`).

Every reading of the flat pattern parts at the slash where the two meet, and it is the same slash
for all of them (`Joint.slash_eq`).  So its leftmost-first reading is that of the outer pattern up
to the slash and that of the inner one behind it (`Joint.leftmostFirst_flat`).
-/

namespace PageRouter

open Text

namespace Pattern

variable {front : List Token} {outer inner flat : Pattern} {url before raw : Text}
  {values : List Text} {query : Option Text}

/-! ## What the outer pattern reads -/

/-- The choices of the outer pattern. -/
def outerChoices (values : List Text) (raw : Text) (query : Option Text) : List Choice :=
  values.map .named ++ [.splat raw, queryChoice query]

/-- The reading of the outer pattern. -/
def outerReading (values : List Text) (before raw : Text) (query : Option Text) : Reading :=
  ⟨values.map some ++ [some raw], before ++ '/' :: raw, query⟩

lemma Joint.derives_outer_iff (joint : Joint front outer inner flat) {choices : List Choice}
    {reading : Reading} : outer.Derives url choices reading ↔
      ∃ values before raw query, Token.Spells front values before ∧ '?' ∉ raw ∧
        url = before ++ '/' :: (raw ++ searchOf query) ∧ choices = outerChoices values raw query ∧
        reading = outerReading values before raw query := by
  obtain ⟨captures, path, query⟩ := reading
  rw [derives_iff]
  constructor
  · rintro ⟨_, hreads, rfl, rfl⟩
    obtain ⟨values, before, _, _, _, hspells, hslash, rfl, rfl, rfl⟩ := joint.outer_eq.reads.1 hreads
    cases hslash with
    | literal hsplat =>
        cases hsplat with
        | @splat _ raw _ _ _ _ hraw hdone =>
            cases hdone
            refine ⟨values, before, raw, query, hspells, fun hmem => hraw _ hmem rfl, ?_, ?_, ?_⟩
            · simp
            · simp [outerChoices]
            · simp [outerReading]
  · rintro ⟨values, before, raw, query', hspells, hraw, rfl, rfl, hreading⟩
    obtain ⟨rfl, rfl, rfl⟩ := Reading.mk.inj hreading
    refine ⟨values.map .named ++ [.splat raw], joint.outer_eq.reads.2 ⟨values, before, [.splat raw],
      [some raw], '/' :: raw, hspells, ?_, rfl, rfl, rfl⟩, by simp, by simp [outerChoices]⟩
    have hsplat : (Shape.splat ['r'] .done).Reads [.splat raw] [some raw] (raw ++ []) :=
      .splat (fun c hc => by rintro rfl; exact hraw hc) .done
    rw [List.append_nil] at hsplat
    exact .literal hsplat

/-! ## What the flat pattern reads -/

/-- The reading of the flat pattern, from the one behind the slash. -/
def flatReading (values : List Text) (before : Text) (below : Reading) : Reading :=
  ⟨values.map some ++ below.captures, before ++ below.path, below.query⟩

lemma Joint.derives_flat_iff (joint : Joint front outer inner flat) {choices : List Choice}
    {reading : Reading} : flat.Derives url choices reading ↔
      ∃ values before text choices' below, Token.Spells front values before ∧
        inner.Derives text choices' below ∧ url = before ++ text ∧
        choices = values.map .named ++ choices' ∧ reading = flatReading values before below := by
  constructor
  · obtain ⟨captures, path, query⟩ := reading
    rw [derives_iff]
    rintro ⟨_, hreads, rfl, rfl⟩
    obtain ⟨values, before, choices', captures', after, hspells, hinner, rfl, rfl, rfl⟩ :=
      joint.flat_eq.reads.1 hreads
    exact ⟨values, before, _, _, ⟨captures', after, query⟩, hspells,
      derives_iff.2 ⟨choices', hinner, rfl, rfl⟩, List.append_assoc .., List.append_assoc .., rfl⟩
  · rintro ⟨values, before, _, _, below, hspells, hinner, rfl, rfl, rfl⟩
    obtain ⟨choices', hreads, rfl, rfl⟩ := derives_iff.1 hinner
    exact derives_iff.2 ⟨_, joint.flat_eq.reads.2
      ⟨values, before, choices', _, _, hspells, hreads, rfl, rfl, rfl⟩,
      (List.append_assoc ..).symm, (List.append_assoc ..).symm⟩

/-- The inner pattern reads a slash first. -/
lemma Joint.exists_slash (joint : Joint front outer inner flat) {text : Text} {choices : List Choice}
    {reading : Reading} (h : inner.Derives text choices reading) : ∃ rest, text = '/' :: rest := by
  obtain ⟨start, next, hshape⟩ := joint.slash
  obtain ⟨_, hreads, rfl, -⟩ := derives_iff.1 h
  rw [hshape] at hreads
  obtain ⟨captures, path, query⟩ := reading
  cases hreads with
  | literal hreads => exact ⟨_, rfl⟩

/-- What the flat pattern reads, the outer one reads too. -/
lemma Joint.exists_outer (joint : Joint front outer inner flat) {choices : List Choice}
    {reading : Reading} (h : flat.Derives url choices reading) :
    ∃ choices' reading', outer.Derives url choices' reading' := by
  obtain ⟨values, before, _, _, below, hspells, hinner, rfl, -, -⟩ := joint.derives_flat_iff.1 h
  obtain ⟨rest, rfl⟩ := joint.exists_slash hinner
  obtain ⟨raw, query, hraw, rfl⟩ := exists_eq_append_searchOf rest
  exact ⟨_, _, joint.derives_outer_iff.2
    ⟨values, before, raw, query, hspells, hraw, rfl, rfl, rfl⟩⟩

/-- **The slash where the two patterns meet** is the same for all readings. -/
lemma Joint.slash_eq (joint : Joint front outer inner flat) {values' : List Text}
    {before' text : Text} {choices : List Choice} {reading : Reading}
    (hspells : Token.Spells front values before)
    (hspells' : Token.Spells front values' before') (hinner : inner.Derives text choices reading)
    (heq : before ++ '/' :: (raw ++ searchOf query) = before' ++ text) :
    before' = before ∧ text = '/' :: (raw ++ searchOf query) := by
  obtain ⟨rest, rfl⟩ := joint.exists_slash hinner
  obtain ⟨rfl, rfl⟩ := hspells.unique hspells' heq
  exact ⟨rfl, rfl⟩

/-- **The leftmost-first reading of the flat pattern** is put together from those of the two
patterns that it joins. -/
theorem Joint.leftmostFirst_flat (joint : Joint front outer inner flat)
    (hspells : Token.Spells front values before) (hraw : '?' ∉ raw)
    (houter : outer.LeftmostFirst (before ++ '/' :: (raw ++ searchOf query))
      (outerChoices values raw query) (outerReading values before raw query))
    {choices : List Choice} {below : Reading}
    (hinner : inner.LeftmostFirst ('/' :: (raw ++ searchOf query)) choices below) :
    flat.LeftmostFirst (before ++ '/' :: (raw ++ searchOf query)) (values.map .named ++ choices)
      (flatReading values before below) := by
  have hderives := joint.derives_flat_iff.2
    ⟨values, before, _, choices, below, hspells, hinner.1, rfl, rfl, rfl⟩
  refine ⟨hderives, fun others other hother => ?_⟩
  obtain ⟨values', before', text, choices', below', hspells', hinner', heq, rfl, -⟩ :=
    joint.derives_flat_iff.1 hother
  obtain ⟨rfl, rfl⟩ := joint.slash_eq hspells hspells' hinner' heq
  have houter' := joint.derives_outer_iff.2
    ⟨values', before', raw, query, hspells', hraw, rfl, rfl, rfl⟩
  rcases houter.2 _ _ houter' with hsame | hprecedes
  · rw [List.append_cancel_right hsame]
    rcases hinner.2 _ _ hinner' with rfl | hprecedes
    · exact .inl rfl
    · exact .inr (hprecedes.append_left _)
  · refine .inr (Precedes.append (hprecedes.of_append ?_) ..)
    rw [List.length_map, List.length_map, hspells.length_values, hspells'.length_values]

/-! ## What the matches hold -/

/-- The values of the parameters in front of the slash. -/
def ownValues (front : List Token) (values : List Text) : RouteParams :=
  .ofList (Match.namedValues ((Token.ownParams front).zip (values.map some)))

/-- The captures of the parameters in front of the slash and of those behind it. -/
lemma zip_ownParams (hspells : Token.Spells front values before) (params : List Param)
    (captures : List (Option Text)) :
    (Token.ownParams front ++ params).zip (values.map some ++ captures) =
      (Token.ownParams front).zip (values.map some) ++ params.zip captures :=
  List.zip_append (by rw [List.length_map, hspells.length_values])

lemma kind_ownParams (front : List Token) (values : List Text) :
    ∀ capture ∈ (Token.ownParams front).zip (values.map some), capture.1.kind = .named := by
  rintro ⟨param, capture⟩ hmem
  obtain ⟨token, -, htoken⟩ := List.mem_filterMap.1 (List.of_mem_zip hmem).1
  cases token <;> cases htoken
  rfl

/-- The path without what the splat has captured at its end. -/
lemma take_used (used raw : Text) :
    (used ++ raw).take ((used ++ raw).length - raw.length) = used := by
  rw [List.length_append, Nat.add_sub_cancel, List.take_left]

lemma Joint.ofReading_outer (joint : Joint front outer inner flat)
    (hspells : Token.Spells front values before) (raw : Text) (query : Option Text) :
    (Match.ofReading outer.params (outerReading values before raw query)).params =
        ownValues front values ∧
      (Match.ofReading outer.params (outerReading values before raw query)).tail =
        some ⟨before, '/' :: raw, ownValues front values⟩ := by
  have hlast : before.getLast? ≠ some '/' := mt hspells.getLast?_write joint.last
  have hparams : outer.params = Token.ownParams front ++ [⟨['r'], .splat, false⟩] :=
    joint.outer_eq.params
  have hnamed : Match.namedValues (outer.params.zip (values.map some ++ [some raw])) =
      Match.namedValues ((Token.ownParams front).zip (values.map some)) := by
    rw [hparams, zip_ownParams hspells, Match.namedValues_append]
    exact List.append_nil _
  have hsplat : Match.splatText? (outer.params.zip (values.map some ++ [some raw])) = some raw := by
    rw [hparams, zip_ownParams hspells, (Match.splat_append_named (kind_ownParams front values) _).2]
    rfl
  have hused : dropTrailing '/' (before ++ ['/']) = before :=
    (dropTrailing_append hlast _).trans (List.append_nil _)
  have hpath : before ++ '/' :: raw = (before ++ ['/']) ++ raw := by simp
  rw [Match.ofReading_eq, outerReading, hnamed, hsplat, hpath, Option.map_some, take_used, hused]
  exact ⟨rfl, rfl⟩

/-- **The flat match** is the inner one, told from the outside. -/
lemma Joint.ofReading_flat (joint : Joint front outer inner flat)
    (hspells : Token.Spells front values before) {text : Text} {choices : List Choice}
    {below : Reading} (hinner : inner.Derives text choices below) (path : Text) :
    Match.ofReading flat.params (flatReading values before below) =
      { (Match.ofReading inner.params below).under ⟨before, path, ownValues front values⟩ with
        params :=
          (ownValues front values).overriddenBy (Match.ofReading inner.params below).params } := by
  have hlast : before.getLast? ≠ some '/' := mt hspells.getLast?_write joint.last
  have hparams : flat.params = Token.ownParams front ++ inner.params := joint.flat_eq.params
  have hnamed : Params.ofList (Match.namedValues
      (flat.params.zip (values.map some ++ below.captures))) =
        (ownValues front values).overriddenBy
          (.ofList (Match.namedValues (inner.params.zip below.captures))) := by
    rw [hparams, zip_ownParams hspells, Match.namedValues_append, Params.ofList_append, ownValues]
  have hsplat :=
    Match.splat_append_named (kind_ownParams front values) (inner.params.zip below.captures)
  rw [← zip_ownParams hspells, ← hparams] at hsplat
  rw [Match.ofReading_eq, Match.ofReading_eq, flatReading, hnamed, hsplat.1, hsplat.2]
  cases hraw : Match.splatText? (inner.params.zip below.captures) with
  | none => rfl
  | some raw =>
      obtain ⟨used, hused⟩ := hinner.splat_suffix hraw
      rw [← hused, ← List.append_assoc, Option.map_some, Option.map_some, take_used, take_used,
        dropTrailing_append hlast]
      rfl

/-! ## The law of nesting -/

/-- The flat pattern matches what the two match in turn. -/
theorem Joint.matchPath_flat (joint : Joint front outer inner flat) (hplain : '?' ∉ outer.text)
    (url root : Text) :
    flat.matchPath url =
      (inner.matchUnder (.child (outer.matchPath url).tail) url root).map fun below =>
        { below with params := (outer.matchPath url).params.overriddenBy below.params } := by
  cases hfound : outer.matchPath url with
  | none =>
      refine matchPath_eq_none_iff.2 fun choices reading hderives => ?_
      obtain ⟨choices', reading', houter⟩ := joint.exists_outer hderives
      exact matchPath_eq_none_iff.1 hfound choices' reading' houter
  | some above =>
      obtain ⟨choices, reading, hfirst, rfl⟩ := exists_of_matchPath hfound
      obtain ⟨values, before, raw, query, hspells, hraw, rfl, rfl, rfl⟩ :=
        joint.derives_outer_iff.1 hfirst.1
      obtain ⟨hparams, htail⟩ := joint.ofReading_outer hspells raw query
      have hsearch : searchPart (before ++ '/' :: (raw ++ searchOf query)) = searchOf query := by
        have hpath : '?' ∉ before ++ '/' :: raw := hfirst.1.not_mem_path hplain
        simpa using searchPart_append_searchOf hpath query
      rw [Outcome.tail, Option.bind_some, htail, Outcome.params, hparams, matchUnder, hsearch,
        List.cons_append]
      cases hbelow : inner.matchPath ('/' :: (raw ++ searchOf query)) with
      | none =>
          refine matchPath_eq_none_iff.2 fun choices reading hderives => ?_
          obtain ⟨values', before', text, choices', below, hspells', hinner, heq, -⟩ :=
            joint.derives_flat_iff.1 hderives
          obtain ⟨-, rfl⟩ := joint.slash_eq hspells hspells' hinner heq
          exact matchPath_eq_none_iff.1 hbelow choices' below hinner
      | some own =>
          obtain ⟨_, below, hinner, rfl⟩ := exists_of_matchPath hbelow
          rw [(joint.leftmostFirst_flat hspells hraw hfirst hinner).matchPath_eq,
            joint.ofReading_flat hspells hinner.1 ('/' :: raw)]
          rfl

/-- **Nested matching is flat matching.**  The text `front` has no groups and ends in one slash.
What the pattern of a route with the splat `*r` behind `front` leaves to a nested route, and what
the pattern of that one finds there, is what one pattern finds at once that has the nested one in
place of the splat: the same locations match, with the parameters of both, of which the inner ones
count, and with the query, the splat and the tail of the nested match. -/
theorem nested_eq_flat {front rest : Text} {outer inner : Pattern} (hopen : '(' ∉ front)
    (hclose : ')' ∉ front) (hslash : "/".toList <:+ front) (honce : ¬"//".toList <:+ front)
    (hplain : '?' ∉ front) (houter : compile (front ++ "*r".toList) = .ok outer)
    (hinner : compile ('/' :: rest) = .ok inner) :
    ∃ flat, compile (front ++ rest) = .ok flat ∧ ∀ url root,
      flat.matchPath url =
        (inner.matchUnder (.child (outer.matchPath url).tail) url root).map fun below =>
          { below with params := (outer.matchPath url).params.overriddenBy below.params } := by
  obtain ⟨text, rfl⟩ := hslash
  have hlast : text.getLast? ≠ some '/' := by
    intro hend
    obtain ⟨more, rfl⟩ := List.getLast?_eq_some_iff.1 hend
    exact honce ⟨more, by simp⟩
  rw [compile_eq_ok_iff, List.append_assoc] at houter
  obtain ⟨tokens, flat, htext, joint⟩ := exists_joint
    (fun hmem => hopen (List.mem_append_left _ hmem))
    (fun hmem => hclose (List.mem_append_left _ hmem)) hlast houter (compile_eq_ok_iff.1 hinner)
  have houterPlain : '?' ∉ outer.text := by
    rw [houter, ← List.append_assoc, List.mem_append, not_or]
    exact ⟨hplain, by decide⟩
  refine ⟨flat, compile_eq_ok_iff.2 ?_, fun url root => joint.matchPath_flat houterPlain url root⟩
  rw [htext, List.append_assoc]
  rfl

/-- A pattern that can part a segment in several ways. -/
def article : Pattern :=
  ⟨"/docs/:book-:page/*r".toList, _, rfl, by decide, by decide, by decide⟩

/-- A nested pattern with a group, a name that the outer pattern has too, and a splat. -/
def edition : Pattern :=
  ⟨"/:page(/v:number)/*s".toList, _, rfl, by decide, by decide, by decide⟩

/-- The two patterns in one find what they find in turn. -/
theorem nested_eq_flat_article :
    '(' ∉ "/docs/:book-:page/".toList ∧ ')' ∉ "/docs/:book-:page/".toList ∧
      "/".toList <:+ "/docs/:book-:page/".toList ∧ ¬"//".toList <:+ "/docs/:book-:page/".toList ∧
      '?' ∉ "/docs/:book-:page/".toList ∧
      compile ("/docs/:book-:page/".toList ++ "*r".toList) = .ok article ∧
      compile ('/' :: ":page(/v:number)/*s".toList) = .ok edition ∧
      ∃ flat, compile "/docs/:book-:page/:page(/v:number)/*s".toList = .ok flat ∧
        ((flat.matchPath "/docs/a-b-c/d/v2/e?f".toList).map fun found =>
          (found.params.get? "book".toList, found.params.get? "page".toList)) =
          some (some (some "a-b".toList), some (some "d".toList)) := by
  have houter : compile ("/docs/:book-:page/".toList ++ "*r".toList) = .ok article :=
    compile_eq_ok_iff.2 rfl
  have hinner : compile ('/' :: ":page(/v:number)/*s".toList) = .ok edition :=
    compile_eq_ok_iff.2 rfl
  have hopen : '(' ∉ "/docs/:book-:page/".toList := by decide
  have hclose : ')' ∉ "/docs/:book-:page/".toList := by decide
  have hslash : "/".toList <:+ "/docs/:book-:page/".toList := by decide
  have honce : ¬"//".toList <:+ "/docs/:book-:page/".toList := by decide
  have hplain : '?' ∉ "/docs/:book-:page/".toList := by decide
  obtain ⟨flat, hflat, hmatch⟩ := nested_eq_flat hopen hclose hslash honce hplain houter hinner
  refine ⟨hopen, hclose, hslash, honce, hplain, houter, hinner, flat, hflat, ?_⟩
  rw [hmatch _ "/".toList]
  decide +kernel

end Pattern

end PageRouter
