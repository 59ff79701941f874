import PageRouter.Address.Punycode
import PageRouter.CodePoint.Direction
import PageRouter.CodePoint.Folding
import PageRouter.CodePoint.Joining
import PageRouter.Text.Composed

/-!
# Names of hosts

A name is a list of labels with dots between them.  Names may hold letters of all scripts, but two
spellings of one name have to be one name, and a name must not look like another one by tricks of
writing.  So a name is folded and composed first, and then each label has to keep four rules:

* it does not begin with a mark;
* a joiner stands only where letters join or behind a virama (`joinersFit`);
* it is not overlong;
* if any label of the name runs from right to left, it keeps to one direction (`keepsDirection`).

A label beyond ASCII is written in Punycode behind `xn--`.  One that is written so already has to be
the Punycode of a label that folding and composing leave as it is.  `Host.labels?` gives the
labels of a name in ASCII.
-/

namespace PageRouter.Host

open Text CodePoint

/-! ## Characters -/

/-- The characters that a host may not hold, whatever the scheme. -/
def isForbidden (c : Char) : Bool :=
  ['\x00', '\t', '\n', '\r', ' ', '#', '/', ':', '<', '>', '?', '@', '[', '\\', ']', '^',
    '|'].contains c

/-- The characters that a name may not hold. -/
def isForbiddenInName (c : Char) : Bool :=
  isForbidden c || c.toNat < 0x20 || c == '%' || c == '\x7f'

/-- Whether a text is in ASCII. -/
def isAscii (text : Text) : Bool :=
  text.all (·.toNat < 0x80)

/-! ## Joiners -/

/-- The character that joins letters, and the one that keeps them apart. -/
def isJoiner (c : Char) : Bool :=
  c == '\u200D' || c == '\u200C'

/-- Whether the nearest letter of a text, over marks, is one of a kind. -/
def nearest (kind : Char → Bool) (text : Text) : Bool :=
  match text.dropWhile fun c => !kind c && isTransparent c with
  | c :: _ => kind c
  | [] => false

/-- Whether a joiner may stand between two texts, of which the one before it is given backwards:
behind a virama, or, if it keeps letters apart, between letters that would join. -/
def joinerFits (joiner : Char) (before behind : Text) : Bool :=
  (before.head?.map isVirama).getD false ||
    (joiner == '\u200C' && nearest joinsBehind before && nearest joinsBefore behind)

/-- Whether all joiners of a label fit, given backwards what stands before it. -/
def joinersFit (before : Text) : Text → Bool
  | [] => true
  | c :: rest => (!isJoiner c || joinerFits c before rest) && joinersFit (c :: before) rest

/-! ## Directions -/

/-- The directions behind the first character, without the marks at the end. -/
def innerDirections (label : Text) : List Direction :=
  (((label.drop 1).map direction).reverse.dropWhile (· = .mark)).reverse

/-- **Whether a label keeps to one direction.**  To the right run letters that do, with digits and
signs; to the left run letters that do, with digits of one kind and signs.  Neither ends in a sign.
-/
def keepsDirection (label : Text) : Bool :=
  let inner := innerDirections label
  let endsIn (directions : List Direction) : Bool :=
    (inner.getLast?.map directions.contains).getD true
  match label.head?.map direction with
  | none => true
  | some .rightward =>
    endsIn [.rightward, .digit] && inner.all ([.rightward, .digit, .sign, .mark].contains ·)
  | some .leftward =>
    endsIn [.leftward, .arabicDigit, .digit] && inner.all (· ≠ .rightward) &&
      !(inner.contains .digit && inner.contains .arabicDigit)
  | some _ => false

/-! ## Labels -/

structure Label where
  plain : Text
  written : Text
  deriving DecidableEq, Repr

/-- Whether a label beyond ASCII may stand in a name. -/
def isProper (plain : Text) : Bool :=
  !(plain.head?.map isMark).getD false && joinersFit [] plain && plain.length ≤ 1000

/-- The label that a code in Punycode stands for. -/
def decodeLabel? (code : Text) : Option Text :=
  if !isAscii code || code = [] || code.getLast? = some '-' || 2000 < code.length then none
  else (Punycode.decode? code).filter fun plain =>
    plain.all isFolded && composed plain = plain && isProper plain

/-- A label from a text that is folded and composed. -/
def label? (text : Text) : Option Label :=
  match after? ['x', 'n', '-', '-'] text with
  | some code => (decodeLabel? code).map fun plain => ⟨plain, text⟩
  | none =>
    if isAscii text then some ⟨text, text⟩
    else if isProper text then some ⟨text, ['x', 'n', '-', '-'] ++ Punycode.encode text⟩
    else none

/-! ## Names -/

/-- Whether labels make a name: where one of them runs to the left, each has to keep to one
direction. -/
def isCoherent (labels : List Label) : Bool :=
  !labels.any (·.plain.any runsLeft) || labels.all (keepsDirection ·.plain)

/-- **The labels of a name, in ASCII.** -/
def labels? (text : Text) : Option (List Text) :=
  match (foldText text).map composed with
  | none => none
  | some name =>
    if name = [] ∨ name.any isForbiddenInName then none
    else
      (((splitOn '.' name).mapM label?).filter isCoherent).map fun labels => labels.map (·.written)

end PageRouter.Host
