import PageRouter.Text.Utf8

/-!
# Percent escapes

`%` and two hexadecimal digits stand for one octet.  Writing escapes the octets of every character
that is not to be kept and uses capital digits; reading takes either case and leaves a `%` that two
digits do not follow as it is.

* `Text.escapeUnless` writes; `Text.encodeComponent` is the form in which a parameter's value stands
  in a path.
* `Octet.unescape` reads; `Text.decodeComponent` is the reading of a captured parameter, which stays
  as it is where the octets are no text.
-/

namespace PageRouter

namespace Octet

/-! ## Hexadecimal digits -/

/-- The digit for a number below sixteen, with capitals. -/
def hexDigit (n : Nat) : Char :=
  if n < 10 then Char.ofNat (0x30 + n) else Char.ofNat (0x41 + n - 10)

/-- The number that a digit stands for, where the digit is given by its octet. -/
def hexValue? (b : Nat) : Option Nat :=
  if 0x30 ≤ b ∧ b ≤ 0x39 then some (b - 0x30)
  else if 0x41 ≤ b ∧ b ≤ 0x46 then some (b - 0x41 + 10)
  else if 0x61 ≤ b ∧ b ≤ 0x66 then some (b - 0x61 + 10)
  else none

/-! ## One octet, and lists of them -/

def escape (b : Octet) : Text :=
  ['%', hexDigit (b / 16), hexDigit (b % 16)]

def ofHex? (high low : Octet) : Option Octet :=
  match hexValue? high, hexValue? low with
  | some h, some l => some (16 * h + l)
  | _, _ => none

/-- The octets with every escape replaced by what it stands for.  Fewer than three octets hold no
escape. -/
def unescape : List Octet → List Octet
  | b :: high :: low :: rest =>
    match if b = 0x25 then ofHex? high low else none with
    | some octet => octet :: unescape rest
    | none => b :: unescape (high :: low :: rest)
  | octets => octets

end Octet

namespace Text

/-- The text with the octets of every character that is not to be kept escaped. -/
def escapeUnless (keep : Char → Bool) (text : Text) : Text :=
  text.flatMap fun c => if keep c then [c] else (Octet.ofChar c).flatMap Octet.escape

/-- The characters that stand for themselves in a component of a URL: ASCII letters and digits,
hyphen, dot, underscore and tilde. -/
def isUnreserved (c : Char) : Bool :=
  isLetter c || isDigit c || c == '-' || c == '.' || c == '_' || c == '~'

/-- A value as it is written into a path. -/
def encodeComponent (text : Text) : Text :=
  escapeUnless isUnreserved text

/-- The value that a part of a path stands for, if its octets are a text. -/
def decodeComponent? (text : Text) : Option Text :=
  ofUtf8? (Octet.unescape text.utf8)

/-- The value that a part of a path stands for; the part itself where its octets are no text. -/
def decodeComponent (text : Text) : Text :=
  (decodeComponent? text).getD text

end Text

end PageRouter
