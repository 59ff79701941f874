import PageRouter.Text.Basic

/-!
# Blank characters

The characters with the Unicode property `White_Space`.  A configuration that holds nothing else
says nothing, and the words of a link's relation are the runs between them.
-/

namespace PageRouter.Text

/-- Whether a character is white space in the sense of Unicode. -/
def isBlank (c : Char) : Bool :=
  let n := c.toNat
  (0x09 ≤ n && n ≤ 0x0D) || n == 0x20 || n == 0x85 || n == 0xA0 || n == 0x1680 ||
    (0x2000 ≤ n && n ≤ 0x200A) || n == 0x2028 || n == 0x2029 || n == 0x202F || n == 0x205F ||
    n == 0x3000

/-- The words of a text: the non-empty runs between blanks. -/
def words (text : Text) : List Text :=
  (go text).filter (· ≠ [])
where
  /-- The runs between blanks, empty ones included. -/
  go : Text → List Text
    | [] => [[]]
    | c :: rest =>
      if isBlank c then [] :: go rest
      else match go rest with
        | [] => [[c]]
        | word :: more => (c :: word) :: more

end PageRouter.Text
