import PageRouter.Pattern.Shape
import PageRouter.Text.Percent
import PageRouter.Params

/-!
# Filling in a pattern

A pattern read the other way makes a path from values: each named parameter is replaced by its
value, percent-encoded, and the splat is left out.  A group appears only when every parameter that
stands directly in it has a value; a group inside it decides for itself.  A parameter that no group
makes dispensable and that has no value is reported and stays in the path as `:name`.
-/

namespace PageRouter

open Text

structure Filled where
  path : Text
  /-- The parameters that have no value and are not optional, from left to right. -/
  missing : List Text
  deriving DecidableEq, Repr

/-- A sequence filled in with values. -/
def Shape.fill (values : Params Text) : Shape → Filled
  | .done => ⟨[], []⟩
  | .literal text next =>
    let rest := next.fill values
    ⟨text ++ rest.path, rest.missing⟩
  | .named name next =>
    let rest := next.fill values
    match values.get? name with
    | some value => ⟨encodeComponent value ++ rest.path, rest.missing⟩
    | none => ⟨':' :: name ++ rest.path, name :: rest.missing⟩
  | .splat _ next => next.fill values
  | .group body next =>
    let inner := body.fill values
    let rest := next.fill values
    if inner.missing = [] then ⟨inner.path ++ rest.path, rest.missing⟩ else rest

/-- A pattern's text filled in with values; the text need not be an acceptable pattern. -/
def fill (text : Text) (values : Params Text) : Filled :=
  (Shape.ofText text).fill values

end PageRouter
