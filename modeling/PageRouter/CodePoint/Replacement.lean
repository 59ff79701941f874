import PageRouter.CodePoint.Table

/-!
# Replacements

A table can say what stands for a character elsewhere: the small letter for a capital, the letter
and the mark for an accented letter.  The value of a stretch is written in one of three ways:

* `61,62,63` lists the texts for the code points in turn, where `66+69` is a text of two characters;
* `61` alone is the code point for the first, and the others follow one by one;
* `101/2` is the same for every second code point, and the ones between stand for themselves.
-/

namespace PageRouter

open Text

/-- What stands for the code points of a stretch. -/
inductive Replacement where
  | listed (texts : Array Text)
  /-- For every `step`th of them, from the first on, the code point as far behind `start`. -/
  | run (start step : Nat)
  deriving Repr

namespace Replacement

/-- What stands for the code point `place` places behind the first. -/
def textAt? (replacement : Replacement) (place : Nat) : Option Text :=
  match replacement with
  | .listed texts => texts[place]?
  | .run start step => if place % step = 0 then some [Char.ofNat (start + place)] else none

/-- A text from its code points in hexadecimal with `+` between them. -/
def readText (text : Text) : Text :=
  (splitOn '+' text).map fun part => Char.ofNat (Table.codePoint part)

def read (text : Text) : Replacement :=
  match cutAt? '/' text with
  | some (start, step) => .run (Table.codePoint start) (Table.codePoint step)
  | none =>
    if text.contains '+' || text.contains ',' then
      .listed ((splitOn ',' text).map readText).toArray
    else .run (Table.codePoint text) 1

end Replacement

abbrev Replacements := Table Replacement

namespace Replacements

def read (text : String) : Replacements :=
  Table.read Replacement.read text

/-- What stands for a character, if there is something. -/
def of? (t : Replacements) (c : Char) : Option Text :=
  (t.find? c.toNat).bind fun stretch => stretch.value.textAt? (c.toNat - stretch.first)

end Replacements

end PageRouter
