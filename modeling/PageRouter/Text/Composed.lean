import PageRouter.CodePoint.Combining
import PageRouter.CodePoint.Decomposition

/-!
# Composed texts

An accented letter is one character or a letter and a mark, and two marks may come in either order:
texts that read the same have several spellings.  `Text.composed` is the one spelling that names are
kept in, the normal form C of Unicode 17.  Every character is taken apart as far as it goes, marks
are put in the order of their classes, and letters are put together again with the marks behind
them.  A text below the first mark, U+0300, is composed as it stands.
-/

namespace PageRouter.Text

open CodePoint

/-! ## Hangul

A syllable is a leading consonant, a vowel, and perhaps a trailing consonant.  The syllables stand
in the order of their parts: 28 for each vowel, without and with a trailing consonant, and 588 for
each leading consonant.
-/

def syllableParts? (c : Char) : Option Text :=
  let n := c.toNat
  if 0xAC00 ≤ n ∧ n < 0xAC00 + 11172 then
    let place := n - 0xAC00
    let vowelPlace := place % 588 / 28
    some (Char.ofNat (0x1100 + place / 588) :: Char.ofNat (0x1161 + vowelPlace) ::
      if place % 28 = 0 then [] else [Char.ofNat (0x11A7 + place % 28)])
  else none

/-- The syllable of a leading consonant and a vowel, or of a syllable without a trailing consonant
and one. -/
def syllable? (first second : Char) : Option Char :=
  let n := first.toNat
  let m := second.toNat
  if 0x1100 ≤ n ∧ n < 0x1100 + 19 ∧ 0x1161 ≤ m ∧ m < 0x1161 + 21 then
    some (Char.ofNat (0xAC00 + (n - 0x1100) * 588 + (m - 0x1161) * 28))
  else if 0xAC00 ≤ n ∧ n < 0xAC00 + 11172 ∧ (n - 0xAC00) % 28 = 0 ∧ 0x11A7 < m ∧
      m < 0x11A7 + 28 then
    some (Char.ofNat (n + (m - 0x11A7)))
  else none

/-! ## Taking apart -/

def takeApart (c : Char) : Text :=
  if c.toNat < 0xC0 then [c]
  else match syllableParts? c with
    | some parts => parts
    | none => (decompositions.of? c).getD [c]

/-- A text taken apart a number of times. -/
def decomposeBy : Nat → Text → Text
  | 0, text => text
  | n + 1, text => decomposeBy n (text.flatMap takeApart)

/-- A text taken apart as far as it goes: no character can be taken apart more than three times. -/
def decomposed (text : Text) : Text :=
  decomposeBy 3 text

/-! ## Putting marks in order -/

/-- A character put before a text whose marks are in order: a mark moves behind the marks of lower
classes. -/
def putInOrder (c : Char × Nat) : List (Char × Nat) → List (Char × Nat)
  | [] => [c]
  | next :: rest =>
    if next.2 ≠ 0 ∧ next.2 < c.2 then next :: putInOrder c rest else c :: next :: rest

/-- A text with its marks in order. -/
def arrange (text : Text) : Text :=
  ((text.map fun c => (c, combiningClass c)).foldr putInOrder []).map (·.1)

/-! ## Putting together -/

def together? (first second : Char) : Option Char :=
  (syllable? first second).or (composite? first second)

/-- A text put together, from a letter that takes in what it can.  `marks` are the marks behind it
that it could not take in, the last one first, and `last` is the class of that one: a mark can be
taken in only from behind marks of lower classes. -/
def composeFrom (letter : Char) (marks : Text) (last : Nat) : Text → Text
  | [] => letter :: marks.reverse
  | c :: rest =>
    let level := combiningClass c
    match if marks = [] ∨ last < level then together? letter c else none with
    | some whole => composeFrom whole marks last rest
    | none =>
      if level = 0 then letter :: (marks.reverse ++ composeFrom c [] 0 rest)
      else composeFrom letter (c :: marks) level rest

/-- **The composed spelling of a text.** -/
def composed (text : Text) : Text :=
  if text.all (·.toNat < 0x300) then text
  else match arrange (decomposed text) with
    | [] => []
    | c :: rest => composeFrom c [] 0 rest

end PageRouter.Text
