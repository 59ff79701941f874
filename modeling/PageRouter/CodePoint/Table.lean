import PageRouter.Text.Number

/-!
# Tables of code points

What a character is — a mark, a capital, a letter of a script that runs from right to left — is no
rule but data: a long list of stretches of code points.  A **table** holds such stretches in
ascending order, each with a value, and finds the one that holds a code point by halving.

Tables are written as texts, which keeps them as short as a standard prints them.  A text is a list
of words with blanks between them; a word is a code point or a stretch `first-last`, in hexadecimal,
and its value may stand behind `=`.

* `Table.find?` finds the stretch that holds a code point.
* `Table.read` reads the text of a table, and `CodePoints.read` that of a set, which is a table
  without values.
-/

namespace PageRouter

open Text

/-- Code points next to each other that share a value. -/
structure Stretch (α : Type) where
  first : Nat
  last : Nat
  value : α
  deriving Repr

/-- **A table of code points**: stretches in ascending order. -/
structure Table (α : Type) where
  stretches : Array (Stretch α)

namespace Table

variable {α : Type}

/-! ## Looking up -/

/-- The place, from `low` and before `high`, of the first stretch that does not end before `n`;
`high` where all of them do. -/
def seek (t : Table α) (n low high : Nat) : Nat :=
  if low < high then
    let middle := (low + high) / 2
    match t.stretches[middle]? with
    | some stretch =>
      if stretch.last < n then seek t n (middle + 1) high else seek t n low middle
    | none => seek t n low middle
  else low
termination_by high - low
decreasing_by all_goals omega

/-- The stretch that holds a code point. -/
def find? (t : Table α) (n : Nat) : Option (Stretch α) :=
  (t.stretches[t.seek n 0 t.stretches.size]?).filter fun stretch =>
    stretch.first ≤ n && n ≤ stretch.last

/-! ## Reading -/

def codePoint (text : Text) : Nat :=
  (number? 16 0 text).getD 0

/-- A stretch from the word that writes it; `value` reads what stands behind `=`. -/
def stretchOf (value : Text → α) (word : Text) : Stretch α :=
  let (place, rest) := (cutAt? '=' word).getD (word, [])
  let (first, last) := (cutAt? '-' place).getD (place, place)
  ⟨codePoint first, codePoint last, value rest⟩

/-- What is read of a table: its stretches, and the word at hand with its last character in front.
-/
structure Draft (α : Type) where
  stretches : Array (Stretch α)
  word : Text

/-- The draft with the word at hand among its stretches. -/
def Draft.settle (value : Text → α) (draft : Draft α) : Draft α :=
  match draft.word with
  | [] => draft
  | word => ⟨draft.stretches.push (stretchOf value word.reverse), []⟩

/-- The draft after one more character. -/
def Draft.take (value : Text → α) (draft : Draft α) (c : Char) : Draft α :=
  if c = ' ' ∨ c = '\n' then draft.settle value else ⟨draft.stretches, c :: draft.word⟩

/-- **A table from its text.** -/
def read (value : Text → α) (text : String) : Table α :=
  ⟨((text.toList.foldl (Draft.take value) ⟨#[], []⟩).settle value).stretches⟩

end Table

/-! ## Sets -/

abbrev CodePoints := Table Unit

namespace CodePoints

def read (text : String) : CodePoints :=
  Table.read (fun _ => ()) text

/-- Whether a code point is in a set. -/
def contains (s : CodePoints) (n : Nat) : Bool :=
  (s.find? n).isSome

end CodePoints

end PageRouter
