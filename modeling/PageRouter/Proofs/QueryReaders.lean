import PageRouter.Proofs.Chains
import PageRouter.Proofs.Queries

/-!
# Two readers of one query

The query of a location is read in two ways.  A route reads it from its match, which has it without
the `?` in front, and gives the pairs to its element; an update of the location reads it from the
location's search, which begins with the `?`.  Both leave it to `Query.parse`, which drops a `?` in
front if there is one.

A query may begin with a `?` of its own.  The route's reader drops that one too, so its pairs are
those of the search without two marks, and the readers agree exactly if the search does not begin
with two (`Pattern.readers_agree_iff`).  A `?` that is dropped always makes a difference
(`Query.pairs_cons_mark_ne`): it belongs to the name of the first pair, or is a pair of its own.
-/

namespace PageRouter

open Text

namespace Query

/-! ## Marks in a query -/

/-- The pairs of a query that has no `?` in front of it. -/
def pairs (query : Text) : Query :=
  ((splitOn '&' query).filter (· ≠ [])).map decodePair

/-- A mark stands for itself. -/
lemma decodePart_cons_mark (part : Text) : decodePart ('?' :: part) = '?' :: decodePart part := by
  have hmark : Octet.ofChar '?' = [0x3F] := rfl
  have hoctets : ∀ text : Text, Octet.unescape (utf8 ('?' :: text)) =
      Octet.ofChar '?' ++ Octet.unescape (utf8 text) := fun text =>
    Octet.unescape_cons_of_ne (by decide) (utf8 text)
  rw [decodePart, List.map_cons, if_neg (by decide), hoctets, ofUtf8Lossy, Octet.scan_ofChar,
    List.map_cons]
  rfl

/-- A mark in front of a pair belongs to its name. -/
lemma decodePair_cons_mark (pair : Text) :
    decodePair ('?' :: pair) = ('?' :: (decodePair pair).1, (decodePair pair).2) := by
  have hcut : cutAt? '=' ('?' :: pair) = (cutAt? '=' pair).map fun cut =>
      ('?' :: cut.1, cut.2) := rfl
  rw [decodePair, decodePair, hcut]
  cases cutAt? '=' pair with
  | none => exact Prod.ext (decodePart_cons_mark pair) rfl
  | some cut => exact Prod.ext (decodePart_cons_mark cut.1) rfl

/-- **A mark makes a difference**: to the name of the first pair, or to the number of pairs where
the query begins with an empty one. -/
lemma pairs_cons_mark_ne (query : Text) : pairs ('?' :: query) ≠ pairs query := by
  obtain ⟨part, parts, hsplit⟩ := List.exists_cons_of_ne_nil (splitOn_ne_nil '&' query)
  have hmarked : splitOn '&' ('?' :: query) = ('?' :: part) :: parts := by
    rw [splitOn, if_neg (by decide), hsplit]
  have hfirst : pairs ('?' :: query) =
      decodePair ('?' :: part) :: (parts.filter (· ≠ [])).map decodePair := by
    simp [pairs, hmarked]
  intro heq
  rw [hfirst, pairs, hsplit] at heq
  by_cases hpart : part = []
  · simpa [hpart] using congrArg List.length heq
  · simp only [ne_eq, hpart, not_false_eq_true, decide_true, List.filter_cons_of_pos,
      List.map_cons, List.cons.injEq, and_true, decodePair_cons_mark] at heq
    exact List.cons_ne_self _ _ (congrArg Prod.fst heq)

lemma parse_cons_mark (query : Text) : parse ('?' :: query) = pairs query := rfl

/-- Only a query without a mark of its own is read as if it had none in front. -/
lemma parse_eq_pairs_iff {query : Text} : parse query = pairs query ↔ ¬['?'] <+: query := by
  constructor
  · rintro hparse ⟨rest, rfl⟩
    exact pairs_cons_mark_ne rest hparse.symm
  · intro hmark
    have hdrop : dropMark query = query := by
      unfold dropMark
      split
      · next rest => exact absurd ⟨rest, rfl⟩ hmark
      · rfl
    rw [parse, hdrop, pairs]

end Query

/-! ## The two readers -/

namespace Pattern

variable {pattern : Pattern} {place : ParentLink} {url root : Text} {found : Match}

/-- **The query of a match** is that of the location, wherever the route is. -/
lemma query_of_matchUnder (hplain : '?' ∉ pattern.text) (hroot : '?' ∉ root)
    (hplace : ∀ tail, place = .child (some tail) → '?' ∉ tail.path)
    (h : pattern.matchUnder place url root = some found) : found.query = queryPart url := by
  rw [matchUnder_eq pattern place hroot] at h
  obtain ⟨outer, houter, hfound⟩ := Option.bind_eq_some_iff.1 h
  obtain ⟨own, hown, rfl⟩ := Option.map_eq_some_iff.1 hfound
  have hpath : '?' ∉ outer.path := by
    cases place with
    | root => exact (valid_outer_root houter).not_mem_path
    | child tail =>
        obtain rfl : tail = some outer := houter
        exact hplace outer rfl
  have hquery : own.query = queryPart url := by
    rw [query_of_matchPath hown hplain, searchPart_eq_searchOf, queryPart_append hpath]
  exact hquery

/-- **When the readers of a query agree.**  Whatever pattern without `?` matches, wherever its route
is, the pairs that the route sees are those of the location's search without its mark, of which one
more mark is dropped if there is one.  They are the pairs that an update of the location works on
exactly if the search does not begin with two marks. -/
theorem readers_agree_iff (hplain : '?' ∉ pattern.text) (hroot : '?' ∉ root)
    (hplace : ∀ tail, place = .child (some tail) → '?' ∉ tail.path)
    (h : pattern.matchUnder place url root = some found) :
    found.queryParams = Query.parse (Query.dropMark (splitSearch url).2) ∧
      (found.queryParams = Query.parse (splitSearch url).2 ↔
        ¬"??".toList <+: (splitSearch url).2) := by
  rw [splitSearch, searchPart_eq_searchOf, Match.queryParams,
    query_of_matchUnder hplain hroot hplace h]
  cases queryPart url with
  | none => exact ⟨rfl, iff_of_true rfl (by simp [searchOf])⟩
  | some query =>
      have hmarks : "??".toList <+: searchOf (some query) ↔ ['?'] <+: query := by
        simp [searchOf]
      rw [hmarks, searchOf, Query.parse_cons_mark]
      exact ⟨rfl, Query.parse_eq_pairs_iff⟩

/-- A pattern without parameters. -/
def searchPage : Pattern := ⟨"/search".toList, _, rfl, by decide, by decide, by decide⟩

/-- A query with a mark of its own is seen without it, and any other query as it is. -/
theorem readers_agree_iff_searchPage :
    '?' ∉ searchPage.text ∧ '?' ∉ "/".toList ∧
      (∀ tail, ParentLink.root = .child (some tail) → '?' ∉ tail.path) ∧
      (∃ found, searchPage.matchUnder .root "/search??x=1".toList "/".toList = some found ∧
        found.queryParams = Query.parse "?x=1".toList ∧
        found.queryParams ≠ Query.parse "??x=1".toList) ∧
      ∃ found, searchPage.matchUnder .root "/search?x=1?".toList "/".toList = some found ∧
        found.queryParams = Query.parse "?x=1?".toList := by
  have hplain : '?' ∉ searchPage.text := by decide
  have hroot : '?' ∉ "/".toList := by decide
  have hplace : ∀ tail, ParentLink.root = .child (some tail) → '?' ∉ tail.path := nofun
  have hsearch : (splitSearch "/search??x=1".toList).2 = "??x=1".toList := by decide +kernel
  have hsearch' : (splitSearch "/search?x=1?".toList).2 = "?x=1?".toList := by decide +kernel
  obtain ⟨found, hfound⟩ := Option.isSome_iff_exists.1
    (by decide +kernel : (searchPage.matchUnder .root "/search??x=1".toList "/".toList).isSome)
  obtain ⟨found', hfound'⟩ := Option.isSome_iff_exists.1
    (by decide +kernel : (searchPage.matchUnder .root "/search?x=1?".toList "/".toList).isSome)
  obtain ⟨hpairs, hagree⟩ := readers_agree_iff hplain hroot hplace hfound
  obtain ⟨-, hagree'⟩ := readers_agree_iff hplain hroot hplace hfound'
  rw [hsearch] at hpairs hagree
  rw [hsearch'] at hagree'
  exact ⟨hplain, hroot, hplace, ⟨found, hfound, hpairs, mt hagree.1 (by decide)⟩,
    found', hfound', hagree'.2 (by decide)⟩

end Pattern

end PageRouter
