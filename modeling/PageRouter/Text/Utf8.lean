import PageRouter.Text.Basic

/-!
# UTF-8

Percent escapes name the octets of a text, so texts have to be turned into octets and back.
Octets are natural numbers; `Octet.ofChar` writes only values below 256.

Reading is a machine with one state between characters and one for each lead octet that still
wants continuation octets (`Pending`).  It marks each **maximal ill-formed part** — the longest run
that could still have become a character, or else one octet — with a `none`.  The two readers
differ only in what they make of these marks:

* `Text.ofUtf8?` refuses a list that holds one;
* `Text.ofUtf8Lossy` puts U+FFFD in the place of each.
-/

namespace PageRouter

abbrev Octet := Nat

namespace Octet

/-! ## Writing -/

def ofChar (c : Char) : List Octet :=
  let n := c.toNat
  if n < 0x80 then [n]
  else if n < 0x800 then [0xC0 + n / 0x40, 0x80 + n % 0x40]
  else if n < 0x10000 then [0xE0 + n / 0x1000, 0x80 + n / 0x40 % 0x40, 0x80 + n % 0x40]
  else [0xF0 + n / 0x40000, 0x80 + n / 0x1000 % 0x40, 0x80 + n / 0x40 % 0x40, 0x80 + n % 0x40]

/-! ## Reading -/

/-- A character of which some octets have been read: how many are still wanted after the next one,
the bounds of the next one, and the bits read so far. -/
structure Pending where
  /-- How many octets follow the next one. -/
  wanted : Nat
  /-- The least octet that may come next. -/
  low : Nat
  /-- The greatest octet that may come next. -/
  high : Nat
  bits : Nat
  deriving DecidableEq, Repr

/-- What the first octet of a character announces. -/
inductive Lead where
  | whole (c : Char)
  | opens (pending : Pending)
  | bad
  deriving DecidableEq, Repr

/-- **First octets.**  The bounds on the second octet keep out overlong forms (after E0 and F0),
surrogates (after ED) and everything beyond U+10FFFF (after F4). -/
def lead (b : Nat) : Lead :=
  if b < 0x80 then .whole (Char.ofNat b)
  else if b < 0xC2 then .bad
  else if b < 0xE0 then .opens ⟨0, 0x80, 0xBF, b - 0xC0⟩
  else if b = 0xE0 then .opens ⟨1, 0xA0, 0xBF, 0⟩
  else if b = 0xED then .opens ⟨1, 0x80, 0x9F, 0xD⟩
  else if b < 0xF0 then .opens ⟨1, 0x80, 0xBF, b - 0xE0⟩
  else if b = 0xF0 then .opens ⟨2, 0x90, 0xBF, 0⟩
  else if b < 0xF4 then .opens ⟨2, 0x80, 0xBF, b - 0xF0⟩
  else if b = 0xF4 then .opens ⟨2, 0x80, 0x8F, 4⟩
  else .bad

/-- The characters of a list of octets, read from the given state, with a `none` for each maximal
ill-formed part.  An octet that cannot continue the pending character ends it and is read again as
a first octet. -/
def scan : Option Pending → List Octet → List (Option Char)
  | none, [] => []
  | some _, [] => [none]
  | none, b :: rest =>
    match lead b with
    | .whole c => some c :: scan none rest
    | .opens pending => scan (some pending) rest
    | .bad => none :: scan none rest
  | some p, b :: rest =>
    if p.low ≤ b ∧ b ≤ p.high then
      match p.wanted with
      | 0 => some (Char.ofNat (p.bits * 0x40 + (b - 0x80))) :: scan none rest
      | wanted + 1 => scan (some ⟨wanted, 0x80, 0xBF, p.bits * 0x40 + (b - 0x80)⟩) rest
    else match lead b with
      | .whole c => none :: some c :: scan none rest
      | .opens pending => none :: scan (some pending) rest
      | .bad => none :: none :: scan none rest

end Octet

namespace Text

def utf8 (text : Text) : List Octet :=
  text.flatMap Octet.ofChar

/-- The text with these octets, if they are well formed. -/
def ofUtf8? (octets : List Octet) : Option Text :=
  (Octet.scan none octets).mapM id

/-- The character that stands for an ill-formed part. -/
def replacement : Char := '\uFFFD'

/-- The text with these octets, with U+FFFD in the place of each maximal ill-formed part. -/
def ofUtf8Lossy (octets : List Octet) : Text :=
  (Octet.scan none octets).map (·.getD replacement)

end Text

/-! ## Reading undoes writing -/

namespace Octet

theorem scan_ofChar (c : Char) (rest : List Octet) :
    scan none (ofChar c ++ rest) = some c :: scan none rest := by
  have hv : c.toNat < 0xD800 ∨ (0xDFFF < c.toNat ∧ c.toNat < 0x110000) := c.valid
  have hc : Char.ofNat c.toNat = c := Char.ofNat_toNat c
  unfold ofChar
  generalize c.toNat = n at hv hc
  simp only
  split
  · next h => simp [scan, lead, h, hc]
  split
  · next h =>
    have e : (192 + n / 64 - 192) * 64 + (128 + n % 64 - 128) = n := by omega
    have l : lead (192 + n / 64) = .opens ⟨0, 0x80, 0xBF, 192 + n / 64 - 192⟩ := by
      grind [lead]
    have hr : 128 ≤ 128 + n % 64 ∧ 128 + n % 64 ≤ 191 := by omega
    simp only [List.cons_append, List.nil_append, scan, l, hr, and_self, if_true, e, hc]
  split
  · next h =>
    have e : ((224 + n / 4096 - 224) * 64 + (128 + n / 64 % 64 - 128)) * 64
        + (128 + n % 64 - 128) = n := by omega
    have hr : 128 ≤ 128 + n % 64 ∧ 128 + n % 64 ≤ 191 := by omega
    have hl : ∃ low high : Nat, lead (224 + n / 4096) = .opens ⟨1, low, high, 224 + n / 4096 - 224⟩ ∧
        low ≤ 128 + n / 64 % 64 ∧ 128 + n / 64 % 64 ≤ high := by
      by_cases h0 : n / 4096 = 0
      · exact ⟨0xA0, 0xBF, by simp [lead, h0], by omega, by omega⟩
      by_cases hd : n / 4096 = 13
      · exact ⟨0x80, 0x9F, by simp [lead, hd], by omega, by omega⟩
      · exact ⟨0x80, 0xBF, by grind [lead], by omega, by omega⟩
    obtain ⟨low, high, l, h1, h2⟩ := hl
    simp only [List.cons_append, List.nil_append, scan, l, hr, h1, h2, and_self, if_true, e, hc]
  · next h =>
    have e : (((240 + n / 262144 - 240) * 64 + (128 + n / 4096 % 64 - 128)) * 64
        + (128 + n / 64 % 64 - 128)) * 64 + (128 + n % 64 - 128) = n := by omega
    have hr : 128 ≤ 128 + n % 64 ∧ 128 + n % 64 ≤ 191 := by omega
    have hr' : 128 ≤ 128 + n / 64 % 64 ∧ 128 + n / 64 % 64 ≤ 191 := by omega
    have hl : ∃ low high : Nat, lead (240 + n / 262144) = .opens ⟨2, low, high, 240 + n / 262144 - 240⟩ ∧
        low ≤ 128 + n / 4096 % 64 ∧ 128 + n / 4096 % 64 ≤ high := by
      by_cases h0 : n / 262144 = 0
      · exact ⟨0x90, 0xBF, by simp [lead, h0], by omega, by omega⟩
      by_cases h4 : n / 262144 = 4
      · exact ⟨0x80, 0x8F, by simp [lead, h4], by omega, by omega⟩
      · exact ⟨0x80, 0xBF, by grind [lead], by omega, by omega⟩
    obtain ⟨low, high, l, h1, h2⟩ := hl
    simp only [List.cons_append, List.nil_append, scan, l, hr, hr', h1, h2, and_self, if_true, e, hc]

/-- **Every text is the reading of its own octets.** -/
theorem scan_utf8 (text : Text) : scan none text.utf8 = text.map some := by
  induction text with
  | nil => rfl
  | cons c text ih =>
    simp only [Text.utf8, List.flatMap_cons, List.map_cons] at ih ⊢
    rw [scan_ofChar, ih]

end Octet

end PageRouter
