import PageRouter.Text.Percent

/-!
# Written numbers

A number written as digits to a base of at most sixteen.  Digits beyond nine may be capitals or not.
-/

namespace PageRouter.Text

/-- The number of a digit to a base of at most sixteen. -/
def digitValue? (base : Nat) (c : Char) : Option Nat :=
  match Octet.hexValue? c.toNat with
  | some d => if d < base then some d else none
  | none => none

/-- A run of digits as a number, given what stands in front of it. -/
def number? (base : Nat) (sum : Nat) : Text → Option Nat
  | [] => some sum
  | c :: rest =>
    match digitValue? base c with
    | some d => number? base (sum * base + d) rest
    | none => none

end PageRouter.Text
