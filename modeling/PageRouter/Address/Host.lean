import PageRouter.Address.Name
import PageRouter.Text.Number

/-!
# Hosts

The host of an address is a name or a number.  Two spellings of one host have to compare equal —
`EXAMPLE.com` and `example.com`, `127.1` and `127.0.0.1`, `[::1]` and `[0:0:0:0:0:0:0:1]`, `ü` and
its Punycode — so a host is read into what it means: a name in lower-case ASCII, the 32 bits of a
version 4 address, or the eight pieces of a version 6 address.

* `Host.parse` reads the host of an address whose scheme gives hosts a meaning.
* `Host.parseAny` reads the host of any other address, where a host is a text without separators.
-/

namespace PageRouter

open Text

inductive Host where
  | name (text : Text)
  | v4 (bits : Nat)
  | v6 (pieces : List Nat)
  deriving DecidableEq, Repr

namespace Host

/-! ## Version 4 -/

/-- A part of a version 4 address: hexadecimal behind `0x`, octal behind `0`, else decimal. -/
def v4Part? : Text → Option Nat
  | [] => none
  | '0' :: 'x' :: digits => number? 16 0 digits
  | '0' :: 'X' :: digits => number? 16 0 digits
  | '0' :: c :: digits => number? 8 0 (c :: digits)
  | digits => number? 10 0 digits

/-- The labels of a name without the empty one behind a final dot. -/
def labelsBeforeDot (labels : List Text) : List Text :=
  if labels.getLast? = some [] then labels.dropLast else labels

/-- Whether the last label of a name is a number, so that the name can only be an address. -/
def endsInNumber (labels : List Text) : Bool :=
  match (labelsBeforeDot labels).getLast? with
  | some label => (label ≠ [] && label.all isDigit) || (v4Part? label).isSome
  | none => false

/-- The bits of parts: each but the last is one octet, and the last fills what is left. -/
def v4Bits? (parts : List Nat) : Option Nat :=
  match parts.getLast? with
  | none => none
  | some last =>
    let leading := parts.dropLast
    let room := Nat.pow 256 (4 - leading.length)
    if parts.length ≤ 4 ∧ last < room ∧ leading.all (· < 256) then
      some (leading.foldl (fun bits part => bits * 256 + part) 0 * room + last)
    else none

/-- A version 4 address from its labels. -/
def parseV4 (labels : List Text) : Option Host :=
  ((labelsBeforeDot labels).mapM v4Part?).bind fun parts => (v4Bits? parts).map .v4

/-! ## Version 6 -/

/-- A piece: one to four hexadecimal digits. -/
def piece? (text : Text) : Option Nat :=
  if text.length = 0 ∨ 4 < text.length then none else number? 16 0 text

/-- An octet in decimal, without leading zeros. -/
def octet? (text : Text) : Option Nat :=
  if text = [] ∨ (text.head? = some '0' ∧ 1 < text.length) then none
  else (number? 10 0 text).bind fun n => if n < 256 then some n else none

/-- The two pieces that a version 4 address in dotted form fills. -/
def dottedPieces? (text : Text) : Option (List Nat) :=
  match (splitOn '.' text).mapM octet? with
  | some [a, b, c, d] => some [a * 256 + b, c * 256 + d]
  | _ => none

/-- Pieces parted by colons, the last of which may be in dotted form if `dotted` says so. -/
def pieces? (dotted : Bool) : List Text → Option (List Nat)
  | [] => some []
  | [last] =>
    match piece? last with
    | some piece => some [piece]
    | none => if dotted then dottedPieces? last else none
  | part :: parts => (piece? part).bind fun piece => (pieces? dotted parts).map (piece :: ·)

/-- A text before and after its first `::`. -/
def cutAtGap? : Text → Option (Text × Text)
  | ':' :: ':' :: rest => some ([], rest)
  | c :: rest => (cutAtGap? rest).map fun (before, after) => (c :: before, after)
  | [] => none

/-- The pieces of a text, none where there is no text. -/
def piecesOf? (dotted : Bool) (text : Text) : Option (List Nat) :=
  if text = [] then some [] else pieces? dotted (splitOn ':' text)

/-- **A version 6 address.**  Eight pieces, or fewer with one `::` in the place of at least one
zero. -/
def parseV6 (text : Text) : Option Host :=
  match cutAtGap? text with
  | none =>
    match pieces? true (splitOn ':' text) with
    | some pieces => if pieces.length = 8 then some (.v6 pieces) else none
    | none => none
  | some (before, after) =>
    match piecesOf? false before, piecesOf? true after with
    | some high, some low =>
      if high.length + low.length < 8 then
        some (.v6 (high ++ List.replicate (8 - high.length - low.length) 0 ++ low))
      else none
    | _, _ => none

/-- What stands between brackets, if they are all there is. -/
def bracketed? : Text → Option Text
  | [] => none
  | c :: rest =>
    if c = '[' ∧ rest.getLast? = some ']' then some rest.dropLast else none

/-! ## Reading -/

/-- **A host with a meaning**: a version 6 address in brackets, or a name, of which some are version
4 addresses. -/
def parse (text : Text) : Option Host :=
  if text.head? = some '[' then (bracketed? text).bind parseV6
  else
    ((decodeComponent? text).bind labels?).bind fun labels =>
      if endsInNumber labels then parseV4 labels else some (.name (joinWith '.' labels))

/-- A host without a meaning: a version 6 address in brackets, or any text without separators. -/
def parseAny (text : Text) : Option Host :=
  if text.head? = some '[' then (bracketed? text).bind parseV6
  else if text.any isForbidden then none
  else some (.name text)

end Host

end PageRouter
