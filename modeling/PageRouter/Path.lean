import PageRouter.Text.Basic

/-!
# Paths

A location is a path, possibly followed by `?` and a query.  A page may live below a **root**, a
path that all its locations begin with and that no route's pattern mentions; an application's routes
are therefore matched against locations with the root taken off, and its navigations put it on.

* `normalizeRoot` gives a root its one written form: `/`, or a slash and no slash at the end.
* `stripRoot` takes a root off, on a segment boundary only.
* `splitSearch` parts a location before its first `?`.
* `joinPaths` puts paths behind each other and leaves no empty segment.
-/

namespace PageRouter

open Text

/-- The written form of a root: one slash in front and none at the end. -/
def normalizeRoot (root : Text) : Text :=
  '/' :: dropTrailing '/' (dropLeading '/' root)

/-- **A location below the root.**  The root itself is `/`, and a query right behind the root keeps
its `?`; a location that is not below the root stays as it is. -/
def stripRoot (url root : Text) : Text :=
  if root = ['/'] ∨ root = [] then url
  else match after? root url with
    | some [] => ['/']
    | some ('/' :: rest) => '/' :: rest
    | some ('?' :: query) => '/' :: '?' :: query
    | _ => url

/-- The part of a location before its first `?`. -/
def pathPart (url : Text) : Text :=
  url.takeWhile (· ≠ '?')

/-- The search of a location: its first `?` and all that follows, or nothing. -/
def searchPart (url : Text) : Text :=
  url.dropWhile (· ≠ '?')

/-- A location's path and its search. -/
def splitSearch (url : Text) : Text × Text :=
  (pathPart url, searchPart url)

/-- The segments of a path: what stands between slashes and is not empty. -/
def segments (path : Text) : List Text :=
  (splitOn '/' path).filter (· ≠ [])

/-- **Paths behind each other.**  A slash, and the segments of all pieces with one slash between
each two. -/
def joinPaths (pieces : List Text) : Text :=
  '/' :: joinWith '/' (pieces.flatMap segments)

/-- Nothing is lost at the `?`. -/
theorem pathPart_append_searchPart (url : Text) : pathPart url ++ searchPart url = url :=
  List.takeWhile_append_dropWhile

end PageRouter
