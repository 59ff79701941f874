import PageRouter.Pattern.Compile

/-!
# Readings of a text

A pattern can read one text in many ways: `:a:b` may part `xyz` after the first or after the second
letter, and a group may be taken or skipped.  One reading is best, and it is the **leftmost-first**
one: deciding from left to right, a group is rather taken than skipped, a named parameter is as long
and the splat as short as it can be, as far as the rest of the text can still be read.

The number of readings grows without bound in the length of the pattern, so they are not tried one
after the other.  A **column** holds, for each rest of the text, the best reading of that rest by
what follows in the pattern; each item of a shape makes the column of the sequence that starts with
it from the column of what comes after it.  One pass per item and per character finds the best
reading of the whole text.
-/

namespace PageRouter

open Text

/-- A way to read a text by a sequence of items. -/
structure Reading where
  /-- What each parameter stands for, from left to right; `none` where its group is skipped. -/
  captures : List (Option Text)
  /-- The text in front of the query. -/
  path : Text
  /-- What follows the `?` behind the path, if there is one. -/
  query : Option Text
  deriving DecidableEq, Repr

namespace Reading

/-- One character more in front of the path. -/
def precededBy (c : Char) (reading : Reading) : Reading :=
  { reading with path := c :: reading.path }

/-- One capture more in front of the others. -/
def capturing (capture : Option Text) (reading : Reading) : Reading :=
  { reading with captures := capture :: reading.captures }

end Reading

/-- The best reading of each rest of a text, the whole text first and the empty rest last. -/
abbrev Column (α : Type) := List (Option α)

namespace Column

variable {α β : Type}

/-- The best reading of the whole text that a column belongs to. -/
def best : Column α → Option α
  | [] => none
  | entry :: _ => entry

/-! ## The end of a pattern -/

/-- **Behind the last item** a text is at its end, or its query follows. -/
def atEnd : Text → Column Reading
  | [] => [some ⟨[], [], none⟩]
  | c :: rest => (if c = '?' then some ⟨[], [], some rest⟩ else none) :: atEnd rest

/-! ## Literals -/

/-- The character `c`, then what `next` reads. -/
def character (c : Char) : Text → Column Reading → Column Reading
  | d :: text, _ :: next =>
    (if d = c then (best next).map (·.precededBy d) else none) :: character c text next
  | _, _ => [none]

/-- Literal text, then what `next` reads. -/
def literal (literal whole : Text) (next : Column Reading) : Column Reading :=
  literal.foldr (fun c column => character c whole column) next

/-! ## Parameters -/

/-- The better of two entries: the first, or the second where the first is none. -/
def orElse (first second : Option α) : Option α :=
  match first with
  | some reading => some reading
  | none => second

/-- Any number of characters from a class, then what `next` reads, together with the characters
taken; as many as possible, or as few. -/
def run (inside : Char → Bool) (greedy : Bool) : Text → Column Reading → Column (Text × Reading)
  | c :: text, here :: next =>
    let further := run inside greedy text next
    let stop := here.map ([], ·)
    let go := if inside c then
        (best further).map fun (taken, reading) => (c :: taken, reading.precededBy c)
      else none
    (if greedy then orElse go stop else orElse stop go) :: further
  | _, here :: _ => [here.map ([], ·)]
  | _, [] => []

/-- At least one character from a class, then as `further` goes on. -/
def nonEmpty (inside : Char → Bool) : Text → Column (Text × Reading) → Column (Text × Reading)
  | c :: text, _ :: further =>
    (if inside c then
        (best further).map fun (taken, reading) => (c :: taken, reading.precededBy c)
      else none) :: nonEmpty inside text further
  | _, _ => [none]

/-- The characters taken become the capture. -/
def capture (column : Column (Text × Reading)) : Column Reading :=
  column.map (·.map fun (taken, reading) => reading.capturing (some taken))

def inSegment (c : Char) : Bool :=
  c != '/' && c != '?'

def inPath (c : Char) : Bool :=
  c != '?'

/-- A named parameter, then what `next` reads. -/
def named (text : Text) (next : Column Reading) : Column Reading :=
  capture (nonEmpty inSegment text (run inSegment true text next))

/-- A splat parameter, then what `next` reads. -/
def splat (text : Text) (next : Column Reading) : Column Reading :=
  capture (run inPath false text next)

/-! ## Groups -/

/-- What `next` reads, with `count` parameters in front that have no part in it. -/
def skipping (count : Nat) (next : Column Reading) : Column Reading :=
  next.map (·.map fun reading =>
    { reading with captures := List.replicate count none ++ reading.captures })

/-- The better of two columns, entry by entry. -/
def firstOf (first second : Column Reading) : Column Reading :=
  List.zipWith orElse first second

end Column

/-- The best readings of all rests of a text by a sequence, from the column of what follows it. -/
def Shape.column (whole : Text) (next : Column Reading) : Shape → Column Reading
  | .done => next
  | .literal text rest => Column.literal text whole (rest.column whole next)
  | .named _ rest => Column.named whole (rest.column whole next)
  | .splat _ rest => Column.splat whole (rest.column whole next)
  | .group body rest =>
    let after := rest.column whole next
    Column.firstOf (body.column whole after) (Column.skipping (body.params true).length after)

/-- **The best reading of a path** with an optional query, if there is one. -/
def Pattern.read? (pattern : Pattern) (text : Text) : Option Reading :=
  Column.best (pattern.shape.column text (Column.atEnd text))

end PageRouter
