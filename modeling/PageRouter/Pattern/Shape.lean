import PageRouter.Pattern.Token

/-!
# The shape of a pattern

The tokens of a pattern form a sequence in which a group holds a sequence of its own.  `Shape` is
that sequence: each of its constructors but the first holds one item and what follows it.

Every list of tokens has a shape, also one whose parentheses do not pair: a `)` that closes nothing
ends the pattern, and a `(` that nothing closes reaches to its end.  Whether a pattern is acceptable
is a question of its own; filling in a pattern does not ask it.
-/

namespace PageRouter

inductive Shape where
  | done
  /-- Text that stands for itself, then more. -/
  | literal (text : Text) (next : Shape)
  | named (name : Text) (next : Shape)
  | splat (name : Text) (next : Shape)
  | group (body next : Shape)
  deriving DecidableEq, Repr

inductive ParamKind where
  /-- One segment of a path, or a part of one. -/
  | named
  | splat
  deriving DecidableEq, Repr

structure Param where
  name : Text
  kind : ParamKind
  /-- Whether it stands inside a group. -/
  optional : Bool
  deriving DecidableEq, Repr

namespace Shape

/-! ## From tokens -/

/-- One more token in front of a sequence.  The list holds, innermost first, the sequences that
follow the groups which are open to the right of here. -/
def push : Token → Shape × List Shape → Shape × List Shape
  | .literal text, (shape, outer) => (.literal text shape, outer)
  | .named name, (shape, outer) => (.named name shape, outer)
  | .splat name, (shape, outer) => (.splat name shape, outer)
  | .groupClose, (shape, outer) => (.done, shape :: outer)
  | .groupOpen, (shape, next :: outer) => (.group shape next, outer)
  | .groupOpen, (shape, []) => (.group shape .done, [])

/-- The shape of a list of tokens. -/
def ofTokens (tokens : List Token) : Shape :=
  (tokens.foldr push (.done, [])).1

/-- The shape of a pattern's text. -/
def ofText (text : Text) : Shape :=
  ofTokens (tokenize text)

/-! ## Parameters -/

/-- The parameters of a sequence from left to right; `optional` says whether the sequence stands in
a group. -/
def params (optional : Bool) : Shape → List Param
  | .done => []
  | .literal _ next => next.params optional
  | .named name next => ⟨name, .named, optional⟩ :: next.params optional
  | .splat name next => ⟨name, .splat, optional⟩ :: next.params optional
  | .group body next => body.params true ++ next.params optional

/-! ## Nesting -/

/-- The number of items in a sequence, where each character of a literal is one. -/
def items : Shape → Nat
  | .done => 0
  | .literal text next => text.length + next.items
  | .named _ next => 1 + next.items
  | .splat _ next => 1 + next.items
  | .group _ next => 1 + next.items

/-- **How deeply a sequence nests.**  Along its most expensive chain of groups each group costs two,
one more if it holds several items, and the innermost item costs four for a named parameter, three
for a splat and nothing for text. -/
def nesting : Shape → Nat
  | .done => 0
  | .literal _ next => next.nesting
  | .named _ next => max 4 next.nesting
  | .splat _ next => max 3 next.nesting
  | .group body next =>
    max (2 + (if 2 ≤ body.items then 1 else 0) + body.nesting) next.nesting

end Shape

end PageRouter
