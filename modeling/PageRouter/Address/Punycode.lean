import PageRouter.Text.Basic

/-!
# Punycode

The names of hosts are written in ASCII.  A label with other characters is written as its ASCII
characters, a hyphen, and a list of numbers that say which characters come in where, each a run of
digits to the base 36 whose end is marked by a threshold; the thresholds follow the size of the
numbers seen so far.

Writing goes through the missing characters in the order of their code points and counts the places
passed by; reading counts the same places.  Every loop has its own measure: the number written, the
characters left to place, or the text left to read.
-/

namespace PageRouter.Punycode

open Text

/-! ## Digits and thresholds -/

/-- The digit for a number below 36: letters first. -/
def digit (n : Nat) : Char :=
  if n < 26 then Char.ofNat (0x61 + n) else Char.ofNat (0x30 + n - 26)

def value? (c : Char) : Option Nat :=
  if 'a' ≤ c ∧ c ≤ 'z' then some (c.toNat - 0x61)
  else if 'A' ≤ c ∧ c ≤ 'Z' then some (c.toNat - 0x41)
  else if '0' ≤ c ∧ c ≤ '9' then some (c.toNat - 0x30 + 26)
  else none

/-- The threshold of the digit at place `k`; places are counted in steps of 36. -/
def threshold (k bias : Nat) : Nat :=
  if k ≤ bias then 1 else if bias + 26 ≤ k then 26 else k - bias

theorem threshold_pos (k bias : Nat) : 1 ≤ threshold k bias := by
  unfold threshold
  split
  · omega
  · split <;> omega

/-- The part of the bias that grows with the size of a number. -/
def settle (delta k : Nat) : Nat :=
  if 455 < delta then settle (delta / 35) (k + 36) else k + 36 * delta / (delta + 38)
termination_by delta
decreasing_by exact Nat.div_lt_self (by omega) (by omega)

/-- The bias after a number: `count` characters are placed, and the first number is damped more. -/
def adapt (delta count : Nat) (first : Bool) : Nat :=
  let delta := if first then delta / 700 else delta / 2
  settle (delta + delta / count) 0

/-! ## Writing -/

/-- A number as a run of digits. -/
def writeNumber (bias k n : Nat) : Text :=
  let t := threshold k bias
  if n < t then [digit n]
  else digit (t + (n - t) % (36 - t)) :: writeNumber bias (k + 36) ((n - t) / (36 - t))
termination_by n
decreasing_by
  have := threshold_pos k bias
  exact Nat.lt_of_le_of_lt (Nat.div_le_self _ _) (by omega)

/-- The state of the writer: the digits so far, the places passed since the last number, the bias,
and how many characters are placed. -/
structure Writer where
  digits : Text
  /-- The places passed since the last number. -/
  delta : Nat
  /-- The bias of the next number. -/
  bias : Nat
  placed : Nat

/-- One character of the label seen while the characters with code point `n` are placed. -/
def Writer.see (basic n : Nat) (w : Writer) (c : Char) : Writer :=
  if c.toNat < n then { w with delta := w.delta + 1 }
  else if c.toNat = n then
    ⟨w.digits ++ writeNumber w.bias 36 w.delta, 0,
      adapt w.delta (w.placed + 1) (w.placed = basic), w.placed + 1⟩
  else w

/-- The code points above ASCII in order, each once, from a list of those that are left. -/
def place (label : Text) (basic : Nat) : List Nat → Nat → Writer → Writer
  | [], _, w => w
  | n :: rest, start, w =>
    let w := { w with delta := w.delta + (n - start) * (w.placed + 1) }
    let w := label.foldl (Writer.see basic n) w
    place label basic rest (n + 1) { w with delta := w.delta + 1 }

/-- The code points above ASCII, in order and each once. -/
def codePoints (label : Text) : List Nat :=
  (((label.map Char.toNat).filter (0x80 ≤ ·)).mergeSort).eraseDups

/-- The written form of a label. -/
def encode (label : Text) : Text :=
  let basic := label.filter (·.toNat < 0x80)
  let digits := (place label basic.length (codePoints label) 0x80 ⟨[], 0, 72, basic.length⟩).digits
  (if basic = [] then [] else basic ++ ['-']) ++ digits

/-! ## Reading -/

/-- One number: its value, and the text behind it. -/
def readNumber (bias k weight sum : Nat) : Text → Option (Nat × Text)
  | [] => none
  | c :: rest =>
    match value? c with
    | none => none
    | some d =>
      let t := threshold k bias
      let sum := sum + d * weight
      if d < t then some (sum, rest) else readNumber bias (k + 36) (weight * (36 - t)) sum rest

theorem length_of_readNumber {bias k weight sum : Nat} {text rest : Text} {n : Nat}
    (h : readNumber bias k weight sum text = some (n, rest)) : rest.length < text.length := by
  induction text generalizing k weight sum with
  | nil => simp [readNumber] at h
  | cons c text ih =>
    unfold readNumber at h
    split at h
    · simp at h
    · simp only at h
      split at h
      · simp only [Option.some.injEq, Prod.mk.injEq] at h
        simp [← h.2]
      · exact Nat.lt_trans (ih h) (by simp)

/-- The characters that the numbers of a text put into `label`; `n` is the code point reached, and
`i` the place. -/
def insertAll (label : Text) (n i bias : Nat) (first : Bool) (text : Text) : Option Text :=
  match text with
  | [] => some label
  | c :: more =>
    match h : readNumber bias 36 1 0 (c :: more) with
    | none => none
    | some (delta, rest) =>
      let size := label.length + 1
      let n := n + (i + delta) / size
      let i := (i + delta) % size
      if n < 0xD800 ∨ (0xDFFF < n ∧ n < 0x110000) then
        insertAll (label.take i ++ Char.ofNat n :: label.drop i) n (i + 1) (adapt delta size first)
          false rest
      else none
termination_by text.length
decreasing_by exact length_of_readNumber h

/-- A text before and after its last hyphen; everything is after it where there is none, or nothing
before it. -/
def cutAtLastHyphen (text : Text) : Text × Text :=
  let digits := (text.reverse.takeWhile (· ≠ '-')).reverse
  match text.take (text.length - digits.length - 1) with
  | [] => ([], text)
  | basic => (basic, digits)

/-- The label with this written form. -/
def decode? (text : Text) : Option Text :=
  let (basic, digits) := cutAtLastHyphen text
  insertAll basic 0x80 0 72 true digits

end PageRouter.Punycode
