-- Binary numbers written with a set number of places, after the point or in all. The exact value
-- is rounded to the nearest number of that many places, and a half goes to the even neighbour.
import MailSearch.Decimal

namespace MailSearch

namespace Rounded

/-- Where the places are counted from. -/
inductive Layout where
  /-- From the point on. -/
  | fixed
  /-- From the point on, behind a first digit that is no zero, before a power of ten. -/
  | power
  /-- From the first digit on. The power of ten is left out while the number is of middle size. -/
  | general
deriving DecidableEq

/-! ## Digits and a point -/

/-- Puts a point before the last digits of a number, with a digit in front of it. A point that
nothing follows is left out unless the flag is set. -/
def pointed (keepsPoint : Bool) (places n : Nat) : List Char :=
  let digits := Nat.toDigits 10 n
  let digits := Decimal.zeros (places + 1 - digits.length) ++ digits
  let fraction := digits.drop (digits.length - places)
  digits.take (digits.length - places)
    ++ (if keepsPoint ∨ !fraction.isEmpty then '.' :: fraction else [])

/-- Drops the zeros at the end of the places behind a point, and a point that stands last. -/
def withoutEmptyPlaces (s : List Char) : List Char :=
  if s.contains '.' then
    (s.reverse.dropWhile (· = '0')).dropWhile (· = '.') |>.reverse
  else s

/-- The nearest number with so many places behind its first digit, as a whole number and the power
of ten of its first digit. -/
def significant (places numerator denominator : Nat) : Nat × Int :=
  if numerator = 0 then (0, 0)
  else
    let power := Decimal.places numerator denominator - 1
    let shift := places - power
    let n :=
      if 0 ≤ shift then Binary64.roundHalfEven (numerator * Nat.pow 10 shift.toNat) denominator
      else Binary64.roundHalfEven numerator (denominator * Nat.pow 10 (-shift).toNat)
    if n < Nat.pow 10 (places + 1) then (n, power) else (n / 10, power + 1)

/-! ## The layouts -/

/-- Powers of ten below this one are always written. -/
def leastPlainPower : Int := -4

/-- The size of a number in a layout. In full it keeps every place and its point. -/
def writeSize (layout : Layout) (inFull : Bool) (places : Nat) (size : Nat × Nat) : List Char :=
  let (numerator, denominator) := size
  match layout with
  | .fixed =>
    pointed inFull places (Binary64.roundHalfEven (numerator * Nat.pow 10 places) denominator)
  | .power =>
    let (n, power) := significant places numerator denominator
    pointed inFull places n ++ Decimal.writtenExponent power
  | .general =>
    let places := max places 1 - 1
    let (n, power) := significant places numerator denominator
    let trimmed (s : List Char) := if inFull then s else withoutEmptyPlaces s
    if leastPlainPower ≤ power ∧ power ≤ places then
      trimmed (pointed inFull (places - power).toNat n)
    else trimmed (pointed inFull places n) ++ Decimal.writtenExponent power

/-- The size of a number in a layout, or the word for what has no size. -/
def write (layout : Layout) (inFull : Bool) (places : Nat) (x : Binary64) : List Char :=
  if x.isNaN then "nan".toList
  else if x.isInfinite then "inf".toList
  else writeSize layout inFull places x.magnitude

end Rounded

end MailSearch
