-- Numbers in the 64-bit binary format: how to read the three parts of a word, and how to
-- round a fraction to a word. All of it is exact arithmetic on whole numbers, so no step
-- depends on the machine. Powers are written `Nat.pow`, so that they are the core library's own
-- whatever else is imported.

namespace MailSearch

/-- A 64-bit binary number, held as its word: one sign bit, eleven exponent bits and
fifty-two fraction bits. -/
structure Binary64 where
  bits : UInt64
deriving DecidableEq

namespace Binary64

/-! ## The parts of a word -/

def word (x : Binary64) : Nat := x.bits.toNat

def isNegative (x : Binary64) : Bool := decide (Nat.pow 2 63 ≤ x.word)

def exponentField (x : Binary64) : Nat := x.word / Nat.pow 2 52 % Nat.pow 2 11

def fraction (x : Binary64) : Nat := x.word % Nat.pow 2 52

/-- The largest exponent field is kept for the infinities and for what is not a number. -/
def isFinite (x : Binary64) : Bool := decide (x.exponentField ≠ 2047)

def isInfinite (x : Binary64) : Bool := !x.isFinite && decide (x.fraction = 0)

def isNaN (x : Binary64) : Bool := !x.isFinite && decide (x.fraction ≠ 0)

/-- The whole part of a finite number before scaling. The smallest exponent field has no
hidden leading bit. -/
def significand (x : Binary64) : Nat :=
  if x.exponentField = 0 then x.fraction else Nat.pow 2 52 + x.fraction

/-- A finite number has the size `significand * 2 ^ scale`. -/
def scale (x : Binary64) : Int := (max x.exponentField 1 : Nat) - 1075

def isZero (x : Binary64) : Bool := x.isFinite && decide (x.significand = 0)

/-- The size of a finite number as a fraction: numerator and denominator. -/
def magnitude (x : Binary64) : Nat × Nat :=
  if 0 ≤ x.scale then (x.significand * Nat.pow 2 x.scale.toNat, 1)
  else (x.significand, Nat.pow 2 (-x.scale).toNat)

/-- Puts the sign of a number before a size. -/
def signed (x : Binary64) (size : Nat) : Int := if x.isNegative then -(size : Int) else size

/-- The whole number next to a finite number on the side of zero. -/
def truncate? (x : Binary64) : Option Int :=
  if x.isFinite then some (x.signed (x.magnitude.1 / x.magnitude.2)) else none

/-- The whole number that a finite number is, if it is one. -/
def integer? (x : Binary64) : Option Int :=
  if x.isFinite ∧ x.magnitude.1 % x.magnitude.2 = 0 then x.truncate? else none

/-! ## Words from numbers -/

/-- The infinity of a sign. -/
def infinity (negative : Bool) : Binary64 :=
  ⟨if negative then 0xfff0000000000000 else 0x7ff0000000000000⟩

/-- A word that is not a number. Each serial number gives another one. -/
def notANumber (serial : Nat) : Binary64 :=
  ⟨0x7ff8000000000000 + UInt64.ofNat (serial % Nat.pow 2 51)⟩

/-- Not a number, and without a serial number of its own yet. -/
def unnumbered : Binary64 := notANumber 0

/-- The whole number nearest to a fraction. A half goes to the even neighbour. -/
def roundHalfEven (numerator denominator : Nat) : Nat :=
  let low := numerator / denominator
  let rest := numerator % denominator
  if 2 * rest < denominator then low
  else if denominator < 2 * rest then low + 1
  else low + low % 2

/-- The largest `k` such that `2 ^ k` is at most the fraction, for a fraction above zero. -/
def floorLog2 (numerator denominator : Nat) : Int :=
  let k : Int := (numerator.log2 : Int) - denominator.log2
  let reached :=
    if 0 ≤ k then denominator * Nat.pow 2 k.toNat ≤ numerator
    else denominator ≤ numerator * Nat.pow 2 (-k).toNat
  if reached then k else k - 1

/-- The number nearest to a fraction, a half going to the even neighbour. The scale is chosen
so that the significand fills fifty-three bits, or is the least scale. A significand that
rounds up to the next power of two carries into the exponent field by itself. -/
def nearest (negative : Bool) (numerator denominator : Nat) : Binary64 :=
  let sign : Nat := if negative then Nat.pow 2 63 else 0
  if numerator = 0 then ⟨UInt64.ofNat sign⟩
  else
    let scale := max (floorLog2 numerator denominator - 52) (-1074)
    let significand :=
      if 0 ≤ scale then roundHalfEven numerator (denominator * Nat.pow 2 scale.toNat)
      else roundHalfEven (numerator * Nat.pow 2 (-scale).toNat) denominator
    let word := (scale + 1074).toNat * Nat.pow 2 52 + significand
    if 2047 * Nat.pow 2 52 ≤ word then infinity negative else ⟨UInt64.ofNat (sign + word)⟩

/-! ## Sameness -/

/-- Two numbers are the same if they have one word, or are both zero. So a word that is not a
number is the same as itself and as no other word. -/
def same (x y : Binary64) : Bool := decide (x = y) || (x.isZero && y.isZero)

theorem same_refl (x : Binary64) : x.same x = true := by simp [same]

end Binary64

end MailSearch
