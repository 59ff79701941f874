import PageRouter.Pattern.Shape

/-!
# Acceptable patterns

Not every text is a pattern.  A pattern has at least one character; its parentheses pair; it has at
most one splat; and nothing but `)` follows the splat, because the splat takes the rest of the path.
`faultOf` names the first offence from the left, and only a pattern that has none of them can leave
groups unclosed.  What remains is a bound on nesting, which the matcher's own cost dictates.

A `Pattern` is a text that passed, together with its shape.

* `Pattern.compile` checks a text.
* `Pattern.params` lists the parameters; a reading of a path has one capture for each of them.
* `Pattern.expression` is the regular expression that accepts what the pattern accepts.
-/

namespace PageRouter

open Text

/-! ## Faults -/

/-- Why a text is no pattern. -/
inductive PatternFault where
  | empty
  | literalAfterSplat
  /-- A named parameter follows the splat. -/
  | namedAfterSplat (name : Text)
  /-- A group opens after the splat. -/
  | groupAfterSplat
  | secondSplat (name : Text)
  | unmatchedClose
  | unclosed (count : Nat)
  | tooDeep
  deriving DecidableEq, Repr

/-- The first fault of a list of tokens that follows a splat or not, inside `depth` groups. -/
def faultOf (splatSeen : Bool) (depth : Nat) : List Token → Option PatternFault
  | [] => if depth = 0 then none else some (.unclosed depth)
  | .literal _ :: tokens =>
    if splatSeen then some .literalAfterSplat else faultOf splatSeen depth tokens
  | .named name :: tokens =>
    if splatSeen then some (.namedAfterSplat name) else faultOf splatSeen depth tokens
  | .splat name :: tokens =>
    if splatSeen then some (.secondSplat name) else faultOf true depth tokens
  | .groupOpen :: tokens =>
    if splatSeen then some .groupAfterSplat else faultOf splatSeen (depth + 1) tokens
  | .groupClose :: tokens =>
    match depth with
    | 0 => some .unmatchedClose
    | depth + 1 => faultOf splatSeen depth tokens

/-- The greatest cost of nesting that the matcher bears, the whole pattern counted as one level. -/
def nestingLimit : Nat := 250

/-! ## Patterns -/

/-- **An acceptable pattern.**  The shape is determined by the text and is kept because every match
needs it. -/
structure Pattern where
  /-- The text as it was written. -/
  text : Text
  shape : Shape
  /-- The shape is that of the text. -/
  shape_eq : shape = Shape.ofText text
  text_ne_nil : text ≠ []
  faultless : faultOf false 0 (tokenize text) = none
  /-- The groups do not nest too deeply. -/
  shallow : 1 + shape.nesting ≤ nestingLimit

namespace Pattern

/-- The pattern with this text, or why there is none. -/
def compile (text : Text) : Except PatternFault Pattern :=
  if hne : text = [] then .error .empty
  else match hfault : faultOf false 0 (tokenize text) with
    | some fault => .error fault
    | none =>
      let shape := Shape.ofText text
      if hdeep : 1 + shape.nesting ≤ nestingLimit then
        .ok ⟨text, shape, rfl, hne, hfault, hdeep⟩
      else .error .tooDeep

/-- The parameters from left to right. -/
def params (pattern : Pattern) : List Param :=
  pattern.shape.params false

/-- Whether a pattern has a splat, and so leaves a part of the path to others. -/
def hasSplat (pattern : Pattern) : Bool :=
  pattern.params.any (·.kind = .splat)

end Pattern

/-! ## The regular expression of a pattern -/

/-- The characters that have a meaning of their own in a regular expression. -/
def isMeta (c : Char) : Bool :=
  ['\\', '.', '+', '*', '?', '(', ')', '|', '[', ']', '\x7b', '\x7d', '^', '$', '#', '&', '-',
    '~'].contains c

/-- The regular expression of a sequence. -/
def Shape.expression : Shape → Text
  | .done => []
  | .literal text next =>
    (text.flatMap fun c => if isMeta c then ['\\', c] else [c]) ++ next.expression
  | .named _ next => "([^/?]+)".toList ++ next.expression
  | .splat _ next => "([^?]*?)".toList ++ next.expression
  | .group body next => "(?:".toList ++ body.expression ++ ")?".toList ++ next.expression

/-- The regular expression that accepts a path with an optional query: one capturing group for each
parameter, and one for the query. -/
def Pattern.expression (pattern : Pattern) : Text :=
  '^' :: (pattern.shape.expression ++ "(?:\\?((?s:.*)))?$".toList)

end PageRouter
