import PageRouter.Toml.Scalar
import PageRouter.Toml.Value

/-!
# Reading TOML

`Toml.read?` reads a document into its table, or fails.  Lists and inline tables nest, but no deeper
than a fixed limit, and a dotted name has fewer parts than that limit.  The loops over items, pairs
and lines are bounded by the length of the text, since each round takes at least one character.
-/

namespace PageRouter.Toml

open Text

/-- What lists and inline tables do not nest as deep as, and dotted names have fewer parts than. -/
def limit : Nat := 80

/-! ## Blanks and comments -/

def spaces : Read Unit :=
  discard (run isSpace)

/-- A comment up to the end of its line. -/
def comment : Read Unit := do
  exactly '#'
  discard (run isVisible)

/-- The end of a line or of the text. -/
def lineOrTextEnd : Read Unit := do
  if (← peek) ≠ none then lineEnd

/-- What may stand behind a value or a header on its line, and the end of the line. -/
def restOfLine : Read Unit := do
  spaces
  if (← peek) = some '#' then comment
  lineOrTextEnd

def gaps : Nat → Read Unit
  | 0 => return
  | fuel + 1 => do
    let before := (← get).length
    modify skipBlank
    if (← peek) = some '#' then comment
    if (← get).length < before then gaps fuel

/-- All blanks, line ends and comments at the front. -/
def allGaps : Read Unit := do
  gaps ((← get).length + 1)

/-! ## Names -/

/-- The characters of a name without quotes. -/
def isBare (c : Char) : Bool :=
  isLetter c || isDigit c || c = '-' || c = '_'

def namePart : Read Text := do
  spaces
  let c ← peek
  let part ← if c = some '"' ∨ c = some '\'' then shortText else run isBare
  if part = [] ∧ c ≠ some '"' ∧ c ≠ some '\'' then failure
  spaces
  return part

/-- The parts of a dotted name behind its first. -/
def moreParts : Nat → Read (List Text)
  | 0 => failure
  | fuel + 1 => do
    if (← peek) = some '.' then
      exactly '.'
      return (← namePart) :: (← moreParts fuel)
    else return []

/-- A name: what stands before its last dot, and the rest. -/
def name : Read (List Text × Text) := do
  let first ← namePart
  let parts := first :: (← moreParts limit)
  if parts.length < limit then return (parts.dropLast, parts.getLast?.getD first) else failure

/-! ## Values -/

/-- A value that holds no other. -/
def scalar : Read Value := do
  match ← peek with
  | some '"' => return .text (← text)
  | some '\'' => return .text (← text)
  | some 't' => do word "true".toList; return .flag true
  | some 'f' => do word "false".toList; return .flag false
  | _ =>
    if (← maybe moment).isSome then return .moment
    else if (← maybe float).isSome then return .float
    else return .integer (← integer)

/-- The items of a list up to its closing bracket. -/
def listItems (value : Read Value) : Nat → Read (List Value)
  | 0 => failure
  | fuel + 1 => do
    allGaps
    if (← peek) = some ']' then
      exactly ']'
      return []
    let item ← value
    allGaps
    if (← char fun c => c = ',' || c = ']') = ']' then return [item]
    return item :: (← listItems value fuel)

/-- The pairs of an inline table up to its closing brace. -/
def inlinePairs (value : Read Value) : Nat → Read (List Pair)
  | 0 => failure
  | fuel + 1 => do
    let (path, name) ← name
    exactly '='
    spaces
    let held ← value
    spaces
    if (← char fun c => c = ',' || c = '\x7d') = '\x7d' then return [⟨path, name, held⟩]
    return ⟨path, name, held⟩ :: (← inlinePairs value fuel)

/-- An inline table behind its opening brace. -/
def inlineTable (value : Read Value) : Read Value := do
  spaces
  if (← peek) = some '\x7d' then
    exactly '\x7d'
    return .inline []
  let pairs ← inlinePairs value (← get).length
  match Entries.addPairs? [] pairs with
  | some entries => return .inline entries
  | none => failure

/-- A value, in which lists and inline tables nest less deep than `depth`. -/
def value : Nat → Read Value
  | 0 => scalar
  | depth + 1 => do
    match ← peek with
    | some '[' => do
      exactly '['
      if depth = 0 then failure
      return .list (← listItems (value depth) ((← get).length + 1))
    | some '\x7b' => do
      exactly '\x7b'
      if depth = 0 then failure
      inlineTable (value depth)
    | _ => scalar

/-! ## Documents -/

def pair : Read Pair := do
  let (path, name) ← name
  exactly '='
  spaces
  let value ← value limit
  restOfLine
  return ⟨path, name, value⟩

/-- A header on its line; it has no pairs yet. -/
def header : Read Section := do
  exactly '['
  let repeated := (← peek) = some '['
  if repeated then exactly '['
  let (path, name) ← name
  exactly ']'
  if repeated then exactly ']'
  restOfLine
  return ⟨repeated, path, name, []⟩

/-- The pairs up to the next header, and the sections from there. -/
def lines : Nat → Read (List Pair × List Section)
  | 0 => failure
  | fuel + 1 => do
    spaces
    match ← peek with
    | none => return ([], [])
    | some '#' => do
      comment
      lineOrTextEnd
      lines fuel
    | some '[' => do
      let opened ← header
      let (pairs, sections) ← lines fuel
      return ([], { opened with pairs := pairs } :: sections)
    | some c =>
      if c = '\n' ∨ c = '\r' then
        lineEnd
        lines fuel
      else
        let first ← pair
        let (pairs, sections) ← lines fuel
        return (first :: pairs, sections)

/-- **The table of a document**, or `none` if the text is no document.  A mark at the start that
tells the order of bytes is not a part of it. -/
def read? (document : Text) : Option Entries := do
  let document := match document with
    | '\ufeff' :: rest => rest
    | rest => rest
  let ((pairs, sections), _) ← lines (document.length + 1) document
  Entries.ofDocument? pairs sections

end PageRouter.Toml
