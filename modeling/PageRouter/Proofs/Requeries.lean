import PageRouter.Proofs.Captures
import PageRouter.Proofs.Walks

/-!
# The same path with another query

A pattern without `?` looks at the query of a text only to write it down.  So two texts with the same
path are read in the same way but for the query (`Pattern.matchPath_requery`), below every root and
from every place (`Pattern.matchUnder_requery`); and if all nodes of a forest are matched from the root
downwards, each learns the same from two locations with the same path but for the query
(`topDown_requery`).
-/

namespace PageRouter

open Text

/-! ## Matches -/

/-- A match with another query. -/
def Match.withQuery (found : Match) (query : Option Text) : Match := { found with query := query }

/-- What is learned, with another query. -/
def Outcome.withQuery (outcome : Outcome) (query : Option Text) : Outcome :=
  outcome.map (·.withQuery query)

lemma Outcome.tail_withQuery (outcome : Outcome) (query : Option Text) :
    Outcome.tail (outcome.withQuery query) = outcome.tail := by
  cases outcome <;> rfl

/-! ## Choices -/

/-- The choice is not about the query. -/
def Choice.IsInner (choice : Choice) : Prop := choice ≠ .query ∧ choice ≠ .noQuery

lemma Shape.Reads.isInner {shape : Shape} {choices : List Choice} {captures : List (Option Text)}
    {path : Text} (h : shape.Reads choices captures path) : ∀ choice ∈ choices, choice.IsInner := by
  have hcons : ∀ {first : Choice} {rest : List Choice}, first.IsInner →
      (∀ choice ∈ rest, choice.IsInner) → ∀ choice ∈ first :: rest, choice.IsInner :=
    fun hfirst hrest => List.forall_mem_cons.2 ⟨hfirst, hrest⟩
  induction h with
  | done => exact fun _ hmem => by cases hmem
  | literal _ ih => exact ih
  | named _ _ _ ih => exact hcons ⟨nofun, nofun⟩ ih
  | splat _ _ ih => exact hcons ⟨nofun, nofun⟩ ih
  | taken _ _ ihBody ih =>
      exact hcons ⟨nofun, nofun⟩ fun choice hmem =>
        (List.mem_append.1 hmem).elim (ihBody choice) (ih choice)
  | skipped _ ih => exact hcons ⟨nofun, nofun⟩ ih

/-- Choices about the query are compared with each other only. -/
lemma Choice.IsInner.not_better {choice : Choice} (h : choice.IsInner) (query : Option Text) :
    ¬choice.Better (Pattern.queryChoice query) ∧ ¬(Pattern.queryChoice query).Better choice ∧
      choice ≠ Pattern.queryChoice query := by
  obtain ⟨hquery, hnone⟩ := h
  cases query <;> cases choice <;> simp_all [Choice.Better, Pattern.queryChoice]

/-- Whether there is a query decides nothing if it is the same on both sides. -/
lemma Precedes.requery {choices others : List Choice} {query : Option Text}
    (h : Precedes (choices ++ [Pattern.queryChoice query]) (others ++ [Pattern.queryChoice query]))
    (hchoices : ∀ choice ∈ choices, choice.IsInner) (hothers : ∀ choice ∈ others, choice.IsInner)
    (query' : Option Text) :
    Precedes (choices ++ [Pattern.queryChoice query']) (others ++ [Pattern.queryChoice query']) := by
  induction choices generalizing others with
  | nil =>
      cases others with
      | nil => exact absurd h h.asymm
      | cons other others =>
          obtain ⟨-, hbetter, hne⟩ := (hothers other (List.mem_cons_self ..)).not_better query
          rcases h with hfirst | ⟨hsame, -⟩
          · exact absurd hfirst hbetter
          · exact absurd hsame.symm hne
  | cons choice choices ih =>
      cases others with
      | nil =>
          obtain ⟨hbetter, -, hne⟩ := (hchoices choice (List.mem_cons_self ..)).not_better query
          rcases h with hfirst | ⟨hsame, -⟩
          · exact absurd hfirst hbetter
          · exact absurd hsame hne
      | cons other others =>
          refine h.imp_right fun ⟨hsame, hrest⟩ => ⟨hsame, ih hrest ?_ ?_⟩
          · exact fun choice hmem => hchoices choice (List.mem_cons_of_mem _ hmem)
          · exact fun choice hmem => hothers choice (List.mem_cons_of_mem _ hmem)

/-! ## Patterns -/

namespace Pattern

variable {pattern : Pattern} {path : Text} {query query' : Option Text} {choices : List Choice}
  {reading : Reading}

/-- What derives a path with a query reads the path and that query. -/
lemma derives_append_iff (hplain : '?' ∉ pattern.text) (hpath : '?' ∉ path) :
    pattern.Derives (path ++ searchOf query) choices reading ↔ ∃ before,
      pattern.shape.Reads before reading.captures path ∧ reading = ⟨reading.captures, path, query⟩ ∧
        choices = before ++ [queryChoice query] := by
  constructor
  · intro h
    have hreading := h.not_mem_path hplain
    obtain ⟨before, hreads, htext, rfl⟩ := derives_iff.1 h
    have hsame : path = reading.path := by
      rw [← pathPart_append hpath query, htext, pathPart_append hreading]
    have hquery : query = reading.query := by
      rw [← queryPart_append hpath query, htext, queryPart_append hreading]
    subst hsame hquery
    exact ⟨before, hreads, rfl, rfl⟩
  · rintro ⟨before, hreads, hreading, rfl⟩
    rw [hreading, derives_iff]
    exact ⟨before, hreads, rfl, rfl⟩

/-- **The best reading** of a path is the same with every query. -/
lemma read?_of_read? (hplain : '?' ∉ pattern.text) (hpath : '?' ∉ path)
    (h : pattern.read? (path ++ searchOf query) = some reading) (query' : Option Text) :
    pattern.read? (path ++ searchOf query') = some { reading with query := query' } := by
  obtain ⟨choices, hderives, hfirst⟩ := exists_leftmostFirst h
  obtain ⟨before, hreads, hreading, rfl⟩ := (derives_append_iff hplain hpath).1 hderives
  rw [hreading]
  have hbest : pattern.LeftmostFirst (path ++ searchOf query') (before ++ [queryChoice query'])
      ⟨reading.captures, path, query'⟩ := by
    refine ⟨(derives_append_iff hplain hpath).2 ⟨before, hreads, rfl, rfl⟩, fun others other hother => ?_⟩
    obtain ⟨before', hreads', -, rfl⟩ := (derives_append_iff hplain hpath).1 hother
    have hbefore : pattern.Derives (path ++ searchOf query) (before' ++ [queryChoice query])
        ⟨other.captures, path, query⟩ :=
      (derives_append_iff hplain hpath).2 ⟨before', hreads', rfl, rfl⟩
    rcases hfirst _ _ hbefore with hsame | hprecedes
    · exact .inl (by rw [List.append_cancel_right hsame])
    · exact .inr (hprecedes.requery hreads.isInner hreads'.isInner query')
  exact hbest.read?_eq

lemma read?_requery (hplain : '?' ∉ pattern.text) (hpath : '?' ∉ path) (query query' : Option Text) :
    pattern.read? (path ++ searchOf query')
      = (pattern.read? (path ++ searchOf query)).map fun reading => { reading with query := query' } := by
  cases hread : pattern.read? (path ++ searchOf query) with
  | some reading => exact read?_of_read? hplain hpath hread query'
  | none =>
      refine Option.eq_none_iff_forall_not_mem.2 fun reading hreading => ?_
      have hback := read?_of_read? hplain hpath hreading query
      rw [hread] at hback
      cases hback

/-- **A path matches alike with every query**, but for the query. -/
theorem matchPath_requery (hplain : '?' ∉ pattern.text) (hpath : '?' ∉ path)
    (query query' : Option Text) :
    pattern.matchPath (path ++ searchOf query')
      = (pattern.matchPath (path ++ searchOf query)).withQuery query' := by
  rw [matchPath, read?_requery hplain hpath query query', matchPath, Outcome.withQuery, Option.map_map,
    Option.map_map]
  refine congrArg (Option.map · _) (funext fun reading => ?_)
  simp only [Function.comp_apply, Match.ofReading_eq, Match.withQuery]

end Pattern

/-! ## Roots and places -/

section Places

variable {path root : Text}

/-- A start without `?` is a start of the path. -/
lemma after?_append (hroot : '?' ∉ root) (query : Option Text) :
    after? root (path ++ searchOf query) = (after? root path).map (· ++ searchOf query) := by
  cases hafter : after? root path with
  | some rest =>
      rw [after?_eq_some_iff.1 hafter, List.append_assoc]
      exact after?_eq_some_iff.2 rfl
  | none =>
      refine Option.eq_none_iff_forall_not_mem.2 fun rest hrest => ?_
      rcases List.append_eq_append_iff.1 (after?_eq_some_iff.1 hrest) with
        ⟨more, hmore, hsearch⟩ | ⟨more, hmore, -⟩
      · -- what the root has beyond the path would begin with the query's mark
        cases more with
        | nil =>
            rw [List.append_nil] at hmore
            have hwhole : after? root path = some [] :=
              after?_eq_some_iff.2 (by rw [hmore, List.append_nil])
            rw [hwhole] at hafter
            cases hafter
        | cons c more =>
            cases query with
            | none => cases hsearch
            | some query =>
                obtain ⟨rfl, -⟩ := List.cons.inj hsearch
                exact hroot (hmore ▸ List.mem_append_right _ (List.mem_cons_self ..))
      · rw [after?_eq_some_iff.2 hmore] at hafter
        cases hafter

/-- A root that ends inside a segment is not taken off. -/
lemma stripRoot_of_inside {url rest : Text} {c : Char} (h : after? root url = some (c :: rest))
    (hslash : c ≠ '/') (hmark : c ≠ '?') : stripRoot url root = url := by
  rw [stripRoot]
  split
  · rfl
  · split
    · next hafter => rw [h] at hafter; cases hafter
    · next hafter => rw [h] at hafter; cases hafter; exact absurd rfl hslash
    · next hafter => rw [h] at hafter; cases hafter; exact absurd rfl hmark
    · rfl

/-- **A root is taken off the path**, whatever the query. -/
lemma stripRoot_append (hroot : '?' ∉ root) (hpath : '?' ∉ path) (query : Option Text) :
    stripRoot (path ++ searchOf query) root = stripRoot path root ++ searchOf query ∧
      '?' ∉ stripRoot path root := by
  by_cases htrivial : root = ['/'] ∨ root = []
  · rw [stripRoot, stripRoot, if_pos htrivial, if_pos htrivial]
    exact ⟨rfl, hpath⟩
  have hlong : after? root (path ++ searchOf query) = (after? root path).map (· ++ searchOf query) :=
    after?_append hroot query
  cases hafter : after? root path with
  | none =>
      rw [hafter, Option.map_none] at hlong
      simp [stripRoot, htrivial, hafter, hlong, hpath]
  | some rest =>
      rw [hafter, Option.map_some] at hlong
      have hrest : '?' ∉ rest := fun hmem =>
        hpath (after?_eq_some_iff.1 hafter ▸ List.mem_append_right _ hmem)
      cases rest with
      | nil =>
          refine ⟨?_, by simp [stripRoot, htrivial, hafter]⟩
          rw [stripRoot, stripRoot, if_neg htrivial, if_neg htrivial, hlong, hafter]
          cases query <;> rfl
      | cons c rest =>
          have hmark : c ≠ '?' := fun hmark => hrest (hmark ▸ List.mem_cons_self ..)
          by_cases hslash : c = '/'
          · subst hslash
            simp [stripRoot, htrivial, hafter, hlong] at hrest ⊢
            exact hrest
          · rw [stripRoot_of_inside hlong hslash hmark, stripRoot_of_inside hafter hslash hmark]
            exact ⟨rfl, hpath⟩

/-- **A place and a root are the same for every query.** -/
theorem Pattern.matchUnder_requery {pattern : Pattern} {place : ParentLink} (hplain : '?' ∉ pattern.text)
    (hroot : '?' ∉ root) (hpath : '?' ∉ path) (htail : ∀ tail, place = .child (some tail) → '?' ∉ tail.path)
    (query query' : Option Text) :
    pattern.matchUnder place (path ++ searchOf query') root
      = (pattern.matchUnder place (path ++ searchOf query) root).withQuery query' := by
  cases place with
  | root =>
      obtain ⟨hstrip, hstripped⟩ := stripRoot_append hroot hpath query
      rw [matchUnder, matchUnder, (stripRoot_append hroot hpath query').1, hstrip]
      exact matchPath_requery hplain hstripped query query'
  | child tail =>
      cases tail with
      | none => rfl
      | some tail =>
          rw [matchUnder, matchUnder, searchPart_append_searchOf hpath, searchPart_append_searchOf hpath,
            matchPath_requery hplain (htail tail rfl) query query', Outcome.withQuery, Option.map_map,
            Outcome.withQuery, Option.map_map]
          rfl

end Places

/-- A pattern without `?` leaves no `?` to nested routes. -/
lemma Pattern.not_mem_tail {pattern : Pattern} {place : ParentLink} {url root : Text} {tail : Tail}
    (hplain : '?' ∉ pattern.text) (h : Outcome.tail (pattern.matchUnder place url root) = some tail) :
    '?' ∉ tail.path := by
  have hown : ∀ {text : Text} {own : Match} {left : Tail}, pattern.matchPath text = some own →
      own.tail = some left → '?' ∉ left.path := by
    intro text own left hown hleft
    obtain ⟨_, raw, consumed, _, -, htail, hraw, -⟩ :=
      exists_tail hown hplain (hasSplat_of_tail hown (Option.isSome_of_eq_some hleft))
    rw [hleft, Option.some.injEq] at htail
    rw [htail]
    simpa using hraw
  obtain ⟨found, hfound, htail⟩ := Option.bind_eq_some_iff.1 h
  cases place with
  | root => exact hown hfound htail
  | child outer =>
      cases outer with
      | none => cases hfound
      | some outer =>
          obtain ⟨own, hmatch, rfl⟩ := Option.map_eq_some_iff.1 hfound
          obtain ⟨left, hleft, rfl⟩ := Option.map_eq_some_iff.1 htail
          have hplainLeft := hown hmatch hleft
          exact hplainLeft

/-! ## The whole forest -/

section Forest

variable {seats : List Seat} {path root : Text} (hrising : Rising seats)
  (hplain : ∀ seat ∈ seats, seat.mounted → '?' ∉ seat.pattern.text)

include hrising hplain

lemma not_mem_topDown_tail {url root : Text} {id : NodeId} {tail : Tail}
    (h : Outcome.tail (topDown url root seats)[id]?.join = some tail) : '?' ∉ tail.path := by
  cases hseat : seats[id]? with
  | none =>
      have hbeyond : (topDown url root seats)[id]? = none := by
        rw [List.getElem?_eq_none_iff, length_topDown]
        exact List.getElem?_eq_none_iff.1 hseat
      rw [hbeyond] at h
      cases h
  | some seat =>
      rw [getElem?_topDown hrising hseat, Option.join_some, learns] at h
      split at h
      · next hmounted =>
        have hown : '?' ∉ seat.pattern.text := hplain seat (List.mem_of_getElem? hseat) hmounted
        split at h
        · have htop : Outcome.tail (seat.pattern.matchUnder .root url root) = some tail := h
          exact Pattern.not_mem_tail hown htop
        · exact Pattern.not_mem_tail hown h
      · cases h

variable (hroot : '?' ∉ root) (hpath : '?' ∉ path)

include hroot hpath

/-- **Every node learns the same** from two locations with the same path, but for the query. -/
theorem topDown_requery (query query' : Option Text) (id : NodeId) :
    (topDown (path ++ searchOf query') root seats)[id]?.join
      = Outcome.withQuery (topDown (path ++ searchOf query) root seats)[id]?.join query' := by
  induction id using Nat.strong_induction_on with
  | _ id ih =>
      cases hseat : seats[id]? with
      | none =>
          have hbeyond : ∀ url, (topDown url root seats)[id]? = none := fun url => by
            rw [List.getElem?_eq_none_iff, length_topDown]
            exact List.getElem?_eq_none_iff.1 hseat
          rw [hbeyond, hbeyond]
          rfl
      | some seat =>
          rw [getElem?_topDown hrising hseat, getElem?_topDown hrising hseat, Option.join_some,
            Option.join_some, learns, learns]
          split
          · next hmounted =>
            have hown : '?' ∉ seat.pattern.text := hplain seat (List.mem_of_getElem? hseat) hmounted
            cases hsignal : seat.subscription.signal with
            | location =>
                show seat.pattern.matchUnder .root (path ++ searchOf query') root
                  = (seat.pattern.matchUnder .root (path ++ searchOf query) root).withQuery query'
                exact Pattern.matchUnder_requery hown hroot hpath (fun _ h => by cases h) query query'
            | tailOf parent =>
                simp only
                rw [ih parent (hrising id seat parent hseat hsignal), Outcome.tail_withQuery]
                refine Pattern.matchUnder_requery hown hroot hpath (fun tail htail => ?_) query query'
                exact not_mem_topDown_tail hrising hplain (ParentLink.child.inj htail)
          · rfl

end Forest

end PageRouter
