import PageRouter.Text.Percent

/-!
# TOML scalars

The texts, numbers, truth values, dates and times of TOML.  Each reader takes what it can from the
front of a text and leaves the rest; it fails where the text does not begin with such a value.

Numbers are read for their form.  A whole number has to fit into 64 bits; of a number that is not
whole nothing is kept, but a positive one has to be finite as a number of double precision.
-/

namespace PageRouter.Toml

open Text

/-- Readers of a text, which take something from its front or fail. -/
abbrev Read := StateT Text Option

/-! ## Characters -/

/-- The next character, if it is of a kind. -/
def char (kind : Char → Bool) : Read Char := fun text =>
  match text with
  | [] => none
  | c :: rest => if kind c then some (c, rest) else none

/-- The next character, which has to be this one. -/
def exactly (c : Char) : Read Unit :=
  discard (char (· = c))

/-- The next characters, which have to be these. -/
def word (expected : Text) : Read Unit := fun text =>
  (after? expected text).map ((), ·)

/-- All characters of a kind at the front. -/
def run (kind : Char → Bool) : Read Text := fun text =>
  some (text.takeWhile kind, text.dropWhile kind)

/-- A reader, or nothing where it fails. -/
def maybe {α : Type} (read : Read α) : Read (Option α) := fun text =>
  match read text with
  | some (value, rest) => some (some value, rest)
  | none => some (none, text)

/-- The next character, which stays where it is. -/
def peek : Read (Option Char) := fun text => some (text.head?, text)

def isSpace (c : Char) : Bool :=
  c = ' ' || c = '\t'

/-- A character that may stand in a comment or a text: a tab, or anything that is no control. -/
def isVisible (c : Char) : Bool :=
  c = '\t' || (' ' ≤ c && c ≠ '\x7f')

def isDigitOf (base : Nat) (c : Char) : Bool :=
  match Octet.hexValue? c.toNat with
  | some d => d < base
  | none => false

def lineEnd : Read Unit := do
  if (← peek) = some '\r' then exactly '\r'
  exactly '\n'

/-! ## Texts -/

/-- A character given by `n` hexadecimal digits. -/
def codePoint (n : Nat) : Read Char := do
  let digits ← (List.range n).mapM fun _ => char (isDigitOf 16)
  let value := digits.foldl (fun sum c => sum * 16 + (Octet.hexValue? c.toNat).getD 0) 0
  if value < 0xD800 ∨ (0xDFFF < value ∧ value < 0x110000) then return Char.ofNat value else failure

def escaped : Read Char := do
  match ← char fun _ => true with
  | 'b' => return '\x08'
  | 't' => return '\t'
  | 'n' => return '\n'
  | 'f' => return '\x0c'
  | 'r' => return '\r'
  | '"' => return '"'
  | '\\' => return '\\'
  | 'u' => codePoint 4
  | 'U' => codePoint 8
  | _ => failure

/-- The text up to the closing quote, with escapes; `fuel` bounds its length. -/
def basicBody : Nat → Read Text
  | 0 => failure
  | fuel + 1 => do
    let c ← char isVisible
    if c = '"' then return []
    else if c = '\\' then return (← escaped) :: (← basicBody fuel)
    else return c :: (← basicBody fuel)

/-- The text up to the closing apostrophe, without escapes. -/
def literalBody : Read Text := do
  let text ← run fun c => isVisible c && c ≠ '\''
  exactly '\''
  return text

/-- All blanks and line ends at the front. -/
def skipBlank : Text → Text
  | ' ' :: rest => skipBlank rest
  | '\t' :: rest => skipBlank rest
  | '\n' :: rest => skipBlank rest
  | '\r' :: '\n' :: rest => skipBlank rest
  | rest => rest

/-- What stands behind a backslash in a text of several lines: the end of the line and all blanks
behind it stand for nothing. -/
def escapedInLines : Read Text := fun text =>
  match (do discard (run isSpace); lineEnd : Read Unit) text with
  | some (_, rest) => some ([], skipBlank rest)
  | none => (do return [← escaped] : Read Text) text

/-- How many closing marks stand at the front. -/
def marks (quote : Char) : Read Nat := do
  return (← run (· = quote)).length

/-- The text up to three closing marks, of which up to two more belong to the text; line ends are
line feeds.  `fuel` bounds its length. -/
def linesBody (quote : Char) (escapes : Bool) : Nat → Read Text
  | 0 => failure
  | fuel + 1 => do
    match ← peek with
    | none => failure
    | some c =>
      if c = quote then
        let count ← marks quote
        if 5 < count then failure
        else if 3 ≤ count then return List.replicate (count - 3) quote
        else return List.replicate count quote ++ (← linesBody quote escapes fuel)
      else if c = '\n' ∨ c = '\r' then
        lineEnd
        return '\n' :: (← linesBody quote escapes fuel)
      else if c = '\\' ∧ escapes then
        exactly '\\'
        return (← escapedInLines) ++ (← linesBody quote escapes fuel)
      else
        let c ← char isVisible
        return c :: (← linesBody quote escapes fuel)

def shortText : Read Text := do
  let length := (← get).length
  if (← char fun c => c = '"' || c = '\'') = '"' then basicBody length else literalBody

/-- A text of several lines; the end of its first line, if nothing else is there, does not count. -/
def longText : Read Text := do
  let length := (← get).length
  let quote ← char fun c => c = '"' || c = '\''
  word [quote, quote]
  discard (maybe lineEnd)
  linesBody quote (quote = '"') (length + 1)

def text : Read Text := do
  match ← maybe longText with
  | some text => return text
  | none => shortText

/-! ## Numbers -/

/-- Digits to a base with single underscores between them, without the underscores. -/
def digits (base : Nat) : Bool → Text → Option (Text × Text)
  | afterDigit, c :: rest =>
    if isDigitOf base c then (digits base true rest).map fun (ds, rest) => (c :: ds, rest)
    else if c = '_' ∧ afterDigit ∧ (rest.head?.map (isDigitOf base)).getD false then
      digits base false rest
    else if afterDigit then some ([], c :: rest) else none
  | afterDigit, [] => if afterDigit then some ([], []) else none

/-- At least one digit to a base. -/
def digitRun (base : Nat) : Read Text := digits base false

/-- A sign, if there is one; the answer is whether it is a minus. -/
def sign : Read Bool := do
  return (← maybe (char fun c => c = '+' || c = '-')) = some '-'

/-- A whole decimal number without leading zeros: whether it is negative, and its digits. -/
def decimal : Read (Bool × Text) := do
  let negative ← sign
  if (← peek) = some '0' then
    exactly '0'
    return (negative, ['0'])
  else return (negative, ← digitRun 10)

def valueOf (base : Nat) (digits : Text) : Nat :=
  digits.foldl (fun sum c => sum * base + (Octet.hexValue? c.toNat).getD 0) 0

/-- A number that fits into 64 bits. -/
def fitting (n : Int) : Read Int :=
  if -0x8000000000000000 ≤ n ∧ n < 0x8000000000000000 then return n else failure

/-- A whole number, to the base that its first two characters name, or in decimal. -/
def integer : Read Int := do
  match (← get).take 2 with
  | ['0', 'x'] => do word ['0', 'x']; fitting (valueOf 16 (← digitRun 16))
  | ['0', 'o'] => do word ['0', 'o']; fitting (valueOf 8 (← digitRun 8))
  | ['0', 'b'] => do word ['0', 'b']; fitting (valueOf 2 (← digitRun 2))
  | _ =>
    let (negative, digits) ← decimal
    let n : Int := valueOf 10 digits
    fitting (if negative then -n else n)

/-- The least number that double precision rounds to infinity. -/
def overflow : Nat := Nat.pow 2 1024 - Nat.pow 2 970

/-- Whether digits, with the point moved to the right by `exponent` places, are a finite number of
double precision. -/
def isFinite (digits : Text) (exponent : Int) : Bool :=
  let digits := dropLeading '0' digits
  let size := digits.length + exponent
  if digits = [] ∨ size < 300 then true
  else if 400 < size then false
  else if 0 ≤ exponent then valueOf 10 digits * Nat.pow 10 exponent.toNat < overflow
  else valueOf 10 digits < overflow * Nat.pow 10 (-exponent).toNat

def exponent : Read Int := do
  discard (char fun c => c = 'e' || c = 'E')
  let negative ← sign
  let n : Int := valueOf 10 (← digitRun 10)
  return if negative then -n else n

def fraction : Read Text := do
  exactly '.'
  digitRun 10

/-- A number that is not whole: with a fraction, with an exponent, or one of the two names. -/
def float : Read Unit := do
  match ← maybe (do discard sign; if (← peek) = some 'i' then word "inf".toList else word "nan".toList) with
  | some _ => return
  | none =>
    let (negative, whole) ← decimal
    let fraction ← maybe fraction
    let exponent ← maybe exponent
    if fraction = none ∧ exponent = none then failure
    let digits := whole ++ fraction.getD []
    if negative || isFinite digits (exponent.getD 0 - (fraction.getD []).length) then return
    else failure

/-! ## Dates and times -/

/-- A number of exactly `n` digits within bounds. -/
def bounded (n low high : Nat) : Read Nat := do
  let value := valueOf 10 (← (List.range n).mapM fun _ => char isDigit)
  if low ≤ value ∧ value ≤ high then return value else failure

/-- How many days a month has. -/
def daysIn (year month : Nat) : Nat :=
  if month = 2 then
    if year % 4 = 0 ∧ (year % 100 ≠ 0 ∨ year % 400 = 0) then 29 else 28
  else if month = 4 ∨ month = 6 ∨ month = 9 ∨ month = 11 then 30
  else 31

def date : Read Unit := do
  let year ← bounded 4 0 9999
  exactly '-'
  let month ← bounded 2 1 12
  exactly '-'
  discard (bounded 2 1 (daysIn year month))

def time : Read Unit := do
  discard (bounded 2 0 23)
  exactly ':'
  discard (bounded 2 0 59)
  exactly ':'
  discard (bounded 2 0 60)
  discard (maybe do
    exactly '.'
    discard (char isDigit)
    run isDigit)

def offset : Read Unit := do
  if (← char fun c => ['Z', 'z', '+', '-'].contains c).toUpper = 'Z' then return
  discard (bounded 2 0 23)
  exactly ':'
  discard (bounded 2 0 59)

/-- A date, a time, or both with or without an offset. -/
def moment : Read Unit := do
  match ← maybe date with
  | none => time
  | some _ =>
    discard (maybe do
      discard (char fun c => ['T', 't', ' '].contains c)
      time
      discard (maybe offset))

end PageRouter.Toml
