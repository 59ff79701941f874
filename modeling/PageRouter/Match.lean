import PageRouter.Pattern.Reading
import PageRouter.Params
import PageRouter.Path
import PageRouter.Query

/-!
# Matches

What a route learns from a location: the values of its named parameters, the part of the path that
its splat leaves to nested routes, and the query.  A location that a pattern does not read gives no
match at all.

A nested route does not see the location; it sees the **tail** of the route it is nested in, and the
location's search.  The parts of the path that have been used up, and the parameters found in them,
accumulate on the way down (`Match.under`).
-/

namespace PageRouter

open Text

/-- The values of named parameters.  A parameter without a value stands in a group that the location
leaves out. -/
abbrev RouteParams := Params (Option Text)

/-- The part of a path that a route leaves to the routes nested in it. -/
structure Tail where
  /-- The path used up by the route and all routes around it, without slashes at its end. -/
  consumed : Text
  /-- What is left, with a slash in front. -/
  path : Text
  /-- The parameters of the route and of all routes around it. -/
  params : RouteParams
  deriving DecidableEq

/-- What a route learns from a location that it matches. -/
structure Match where
  /-- The values of the named parameters. -/
  params : RouteParams
  /-- What the splat stands for, as it is written, by the splat's name. -/
  splats : Params Text
  /-- What is left for nested routes, if the pattern has a splat. -/
  tail : Option Tail
  /-- The query as it is written, without its `?`. -/
  query : Option Text
  deriving DecidableEq

/-- The place of a route, which says what it is matched against. -/
inductive ParentLink where
  /-- A route of its own: it is matched against the location. -/
  | root
  /-- A nested route: it is matched against the tail of the route around it, if there is one. -/
  | child (tail : Option Tail)
  deriving DecidableEq

namespace Match

def queryParams (found : Match) : Query :=
  match found.query with
  | some query => Query.parse query
  | none => []

/-- The parameters set one by one from the captures; of two with one name the later counts. -/
def assign (found : Match) : List (Param × Option Text) → Match
  | [] => found
  | (param, capture) :: rest =>
    match param.kind with
    | .named =>
      assign { found with params := found.params.insert param.name (capture.map decodeComponent) } rest
    | .splat =>
      assign { found with splats := found.splats.insert param.name (capture.getD []) } rest

/-- What the splat of a pattern stands for: `none` if the pattern has no splat, and nothing if the
splat has no part in the reading. -/
def splatText? : List (Param × Option Text) → Option Text
  | [] => none
  | (param, capture) :: rest =>
    match param.kind with
    | .named => splatText? rest
    | .splat => some (capture.getD [])

/-- **The match behind a reading.**  The splat ends the path, so what stands before it is the path
without as many characters as the splat has. -/
def ofReading (params : List Param) (reading : Reading) : Match :=
  let captures := params.zip reading.captures
  let found := assign ⟨∅, ∅, none, reading.query⟩ captures
  match splatText? captures with
  | none => found
  | some rest =>
    let before := reading.path.take (reading.path.length - rest.length)
    { found with tail := some ⟨dropTrailing '/' before, '/' :: rest, found.params⟩ }

/-- A match of a nested route, told from the outside: the tail's path begins where the outer tail's
does, and the outer parameters are there unless they are set again. -/
def under (found : Match) (outer : Tail) : Match :=
  { found with
    tail := found.tail.map fun tail =>
      ⟨outer.consumed ++ tail.consumed, tail.path, outer.params.overriddenBy tail.params⟩ }

end Match

/-- What a route learns from a location: nothing if it does not match. -/
abbrev Outcome := Option Match

namespace Outcome

/-- The parameters of an outcome, which has none without a match. -/
def params (outcome : Outcome) : RouteParams :=
  match outcome with
  | some found => found.params
  | none => ∅

/-- The tail of an outcome, which has none without a match. -/
def tail (outcome : Outcome) : Option Tail :=
  outcome.bind (·.tail)

/-- **Whether two outcomes show the same element**: both match, with equal parameters. -/
def sameBase (a b : Outcome) : Bool :=
  match a, b with
  | some a, some b => a.params = b.params
  | _, _ => false

end Outcome

namespace Pattern

/-- A path with an optional query, matched. -/
def matchPath (pattern : Pattern) (path : Text) : Outcome :=
  (pattern.read? path).map (Match.ofReading pattern.params)

/-- A location, matched from a route's place. -/
def matchUnder (pattern : Pattern) (place : ParentLink) (url root : Text) : Outcome :=
  match place with
  | .root => pattern.matchPath (stripRoot url root)
  | .child (some tail) =>
    (pattern.matchPath (tail.path ++ searchPart url)).map (·.under tail)
  | .child none => none

end Pattern

end PageRouter
