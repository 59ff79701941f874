import PageRouter.Proofs.Readings
import PageRouter.Registry

/-!
# The root in front of locations

Patterns do not mention the root, so an application can be put below another one without a change to
its routes.  Whatever looks at a location takes the root off for itself: a top-level route when it
is matched, the registry when it is asked whether a location is handled, and a nested route when it
takes the location's search.  All of them see the same with the root in front as without it
(`root_transparent`).

A root that has a `?` is an exception only for nested routes: they would take the search to begin
inside the root.
-/

namespace PageRouter

open Text

variable {url root url' root' : Text}

/-- **Two locations, each below its root, are alike** if nothing that is matched against them tells
them apart: no text read as a pattern, no pattern at any place, no route, and no registry. -/
structure Alike (url root url' root' : Text) : Prop where
  text : ∀ text, (Pattern.compile text).map (·.matchPath (stripRoot url root)) =
    (Pattern.compile text).map (·.matchPath (stripRoot url' root'))
  pattern : ∀ (pattern : Pattern) (place : ParentLink),
    pattern.matchUnder place url root = pattern.matchUnder place url' root'
  route : ∀ route : Route, route.matchUrl url root = route.matchUrl url' root'
  registry : ∀ registry : Registry, registry.handles url root = registry.handles url' root'

/-- All that is ever looked at is the location without its root, and its search. -/
lemma Alike.of_stripRoot (hstrip : stripRoot url root = stripRoot url' root')
    (hsearch : searchPart url = searchPart url') : Alike url root url' root' := by
  have hpattern : ∀ (pattern : Pattern) (place : ParentLink),
      pattern.matchUnder place url root = pattern.matchUnder place url' root' := by
    intro pattern place
    match place with
    | .root => rw [Pattern.matchUnder, Pattern.matchUnder, hstrip]
    | .child (some tail) => rw [Pattern.matchUnder, Pattern.matchUnder, hsearch]
    | .child none => rfl
  refine ⟨fun text => by rw [hstrip], hpattern, fun route => ?_, fun registry => ?_⟩
  · simp only [Route.matchUrl, hpattern]
  · simp only [Registry.handles, hstrip]

/-- Behind a root that is not `/`, a location is read as what is left of it. -/
lemma stripRoot_append_of_ne (hroot : normalizeRoot root ≠ ['/']) (rest : Text) :
    stripRoot (normalizeRoot root ++ rest) (normalizeRoot root) =
      match rest with
      | [] => ['/']
      | '/' :: rest => '/' :: rest
      | '?' :: query => '/' :: '?' :: query
      | _ => normalizeRoot root ++ rest := by
  have hafter : after? (normalizeRoot root) (normalizeRoot root ++ rest) = some rest :=
    after?_eq_some_iff.2 rfl
  have hne : ¬(normalizeRoot root = ['/'] ∨ normalizeRoot root = []) := by
    rw [not_or]
    exact ⟨hroot, List.cons_ne_nil _ _⟩
  rw [stripRoot, if_neg hne, hafter]
  split <;> simp_all

/-- **The root is transparent.**  With a root that is not `/` and has no `?`, a location behind the
root is to every pattern, route and registry what it is without a root; the root alone is `/`, and a
query right behind it is one behind `/`. -/
theorem root_transparent (hroot : normalizeRoot root ≠ ['/']) (hplain : '?' ∉ normalizeRoot root) :
    (∀ url, url.head? = some '/' →
      Alike (normalizeRoot root ++ url) (normalizeRoot root) url ['/']) ∧
    Alike (normalizeRoot root) (normalizeRoot root) ['/'] ['/'] ∧
    ∀ query, Alike (normalizeRoot root ++ '?' :: query) (normalizeRoot root)
      ('/' :: '?' :: query) ['/'] := by
  refine ⟨fun url hurl => ?_, ?_, fun query => ?_⟩
  · obtain ⟨rest, rfl⟩ := List.head?_eq_some_iff.1 hurl
    exact .of_stripRoot (stripRoot_append_of_ne hroot _) (searchPart_append hplain _)
  · have hstrip := stripRoot_append_of_ne hroot []
    have hsearch := searchPart_append hplain []
    rw [List.append_nil] at hstrip hsearch
    exact .of_stripRoot hstrip hsearch
  · exact .of_stripRoot (stripRoot_append_of_ne hroot _) (searchPart_append hplain _)

/-- Below the root `/app`, a location may well begin with another `/app`. -/
theorem root_transparent_app :
    normalizeRoot "app/".toList = "/app".toList ∧ normalizeRoot "app/".toList ≠ ['/'] ∧
    '?' ∉ normalizeRoot "app/".toList ∧
    Alike (normalizeRoot "app/".toList ++ "/app/users?page=2".toList) (normalizeRoot "app/".toList)
      "/app/users?page=2".toList ['/'] := by
  have hroot : normalizeRoot "app/".toList ≠ ['/'] := by decide +kernel
  have hplain : '?' ∉ normalizeRoot "app/".toList := by decide +kernel
  exact ⟨by decide +kernel, hroot, hplain,
    (root_transparent hroot hplain).1 "/app/users?page=2".toList (by decide +kernel)⟩

end PageRouter
