-- Decimal numbers `digits * 10 ^ exponent` beside 64-bit binary ones: the nearest binary
-- number of a decimal, and the shortest decimal that reads back as a given binary number.
import MailSearch.Binary64

namespace MailSearch

/-- A decimal number without a sign. -/
structure Decimal where
  digits : Nat
  exponent : Int
deriving DecidableEq

namespace Decimal

/-- How many digits a whole number has. -/
def digitCount (n : Nat) : Nat := (Nat.toDigits 10 n).length

/-- The binary number nearest to a decimal. A decimal of more than 310 places before the
point is beyond every finite number, and one that starts 330 places after it is nearer to
zero than to any other number. -/
def toBinary64 (negative : Bool) (d : Decimal) : Binary64 :=
  let places : Int := digitCount d.digits + d.exponent
  if d.digits = 0 then .nearest negative 0 1
  else if 310 < places then .infinity negative
  else if places < -330 then .nearest negative 0 1
  else if 0 ≤ d.exponent then .nearest negative (d.digits * Nat.pow 10 d.exponent.toNat) 1
  else .nearest negative d.digits (Nat.pow 10 (-d.exponent).toNat)

/-- Drops the zeros at the end of the digits. The fuel bounds how many. -/
def trimmed : Nat → Decimal → Decimal
  | 0, d => d
  | fuel + 1, d =>
    if d.digits ≠ 0 ∧ d.digits % 10 = 0 then trimmed fuel ⟨d.digits / 10, d.exponent + 1⟩ else d

/-- How many digits stand before the point of a fraction above zero. It is zero or less when
the fraction starts with zeros after the point. The factor is larger than the inverse of every
positive number of the binary format. -/
def places (numerator denominator : Nat) : Int :=
  (digitCount (numerator * Nat.pow 10 400 / denominator) : Int) - 400

/-- The better of the two neighbours of a fraction on the grid of multiples of
`10 ^ exponent`, among those that read back as `x`. -/
def neighbour? (x : Binary64) (numerator denominator : Nat) (exponent : Int) : Option Decimal :=
  let top := if 0 ≤ exponent then numerator else numerator * Nat.pow 10 (-exponent).toNat
  let bottom := if 0 ≤ exponent then denominator * Nat.pow 10 exponent.toNat else denominator
  let near := Binary64.roundHalfEven top bottom
  let low := top / bottom
  let far := if near = low then low + 1 else low
  let readsBack (digits : Nat) : Bool := decide (toBinary64 x.isNegative ⟨digits, exponent⟩ = x)
  if readsBack near then some ⟨near, exponent⟩
  else if readsBack far then some ⟨far, exponent⟩
  else none

/-- The shortest decimal that reads back as a finite number: the first grid with a hit wins,
from one digit up. Seventeen digits always suffice. -/
def shortest (x : Binary64) : Decimal :=
  let (numerator, denominator) := x.magnitude
  if numerator = 0 then ⟨0, 0⟩
  else
    let before := places numerator denominator
    let tries := (List.range 17).filterMap fun (n : Nat) =>
      neighbour? x numerator denominator (before - (n + 1))
    trimmed 20 (tries.head?.getD ⟨numerator / denominator, 0⟩)

/-! ## The written form -/

/-- Positional notation is used while the first digit stands at a power of ten from this one
on. -/
def leastPositional : Int := -4

/-- Positional notation ends before this power of ten. -/
def pastPositional : Int := 16

def zeros (n : Nat) : List Char := List.replicate n '0'

/-- An exponent has a sign and at least two digits. -/
def writtenExponent (e : Int) : List Char :=
  let digits := Nat.toDigits 10 e.natAbs
  'e' :: (if e < 0 then '-' else '+') :: (zeros (2 - digits.length) ++ digits)

/-- Writes a decimal, with a digit on both sides of every point in positional notation. -/
def written (d : Decimal) : List Char :=
  let digits := Nat.toDigits 10 d.digits
  let before : Int := digits.length + d.exponent
  let power := before - 1
  if leastPositional ≤ power ∧ power < pastPositional then
    if before ≤ 0 then '0' :: '.' :: (zeros (-before).toNat ++ digits)
    else if 0 ≤ d.exponent then digits ++ zeros d.exponent.toNat ++ ['.', '0']
    else digits.take before.toNat ++ '.' :: digits.drop before.toNat
  else
    let tail := digits.drop 1
    digits.take 1 ++ (if tail.isEmpty then [] else '.' :: tail) ++ writtenExponent power

end Decimal

/-- A binary number is written as its shortest decimal, with a sign also before zero. -/
def Binary64.written (x : Binary64) : String :=
  if x.isNaN then "nan"
  else
    let sign := if x.isNegative then "-" else ""
    if x.isInfinite then sign ++ "inf"
    else sign ++ String.ofList (Decimal.shortest x).written

end MailSearch
