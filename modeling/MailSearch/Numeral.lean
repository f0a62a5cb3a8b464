-- Numbers written in text. A numeral is a whole number first and a decimal number second, and
-- the white space around it does not count.
import MailSearch.Decimal
import MailSearch.Text.Blank

namespace MailSearch

/-- A number as a filter tree holds it: whole and of any size, or binary. -/
inductive Number where
  | int (n : Int)
  | float (x : Binary64)
deriving DecidableEq

namespace Number

/-- Two numbers are the same if they have one value. A whole number and a binary one are
compared exactly. -/
def same : Number → Number → Bool
  | .int a, .int b => decide (a = b)
  | .float x, .float y => x.same y
  | .int a, .float y => decide (y.integer? = some a)
  | .float x, .int b => decide (x.integer? = some b)

theorem same_refl (n : Number) : n.same n = true := by
  cases n <;> simp [same, Binary64.same_refl]

end Number

namespace Numeral

/-! ## Pieces of a numeral -/

/-- Takes the sign off: is it negative, and what follows. -/
def splitSign : List Char → Bool × List Char
  | '-' :: rest => (true, rest)
  | '+' :: rest => (false, rest)
  | s => (false, s)

def digitValue (c : Char) : Nat := c.toNat - '0'.toNat

/-- The value of a run of digits. -/
def valueOf (digits : List Char) : Nat :=
  digits.foldl (fun (total : Nat) c => total * 10 + digitValue c) 0

/-! ## Low lines -/

/-- Are there never two low lines in a row? -/
def lowLinesApart : List Char → Bool
  | '_' :: '_' :: _ => false
  | _ :: rest => lowLinesApart rest
  | [] => true

/-- Drops the low lines of a text that has some, none at an end and no two in a row. -/
def withoutLowLines? (s : List Char) : Option (List Char) :=
  if s.contains '_' ∧ s.head? ≠ some '_' ∧ s.getLast? ≠ some '_' ∧ lowLinesApart s then
    some (s.filter (· ≠ '_'))
  else none

/-! ## Whole numbers -/

/-- A whole number of more digits than this is not read as one. Zeros in front do not count. -/
def mostDigits : Nat := 4300

/-- Skips the zeros and low lines behind a zero in front, up to a digit or a minus. The last
character that was skipped stays if nothing or a point follows. -/
def skipZeros? (last : Char) : List Char → Option (List Char)
  | [] => some [last]
  | c :: rest =>
    if c = '0' ∨ c = '_' then skipZeros? c rest
    else if c.isDigit ∨ c = '-' then some (c :: rest)
    else if c = '.' then some (last :: c :: rest)
    else none

/-- A whole number without its zeros in front. It has to begin with a digit. -/
def significant? : List Char → Option (List Char)
  | [] => none
  | c :: rest =>
    if c = '0' then skipZeros? c rest else if c.isDigit then some (c :: rest) else none

/-- Drops a point that only zeros follow, at least one. -/
def withoutZeroFraction (s : List Char) : List Char :=
  let fraction := s.dropWhile (· ≠ '.')
  if 1 < fraction.length ∧ (fraction.drop 1).all (· = '0') then s.takeWhile (· ≠ '.') else s

/-- A run of digits, not too long and without zeros in front. -/
def readDigits? (s : List Char) : Option Nat :=
  if !s.isEmpty ∧ s.all Char.isDigit ∧ (s.length = 1 ∨ s.head? ≠ some '0')
      ∧ s.length ≤ mostDigits then
    some (valueOf s)
  else none

/-- A whole number: a sign or none, zeros in front, digits in groups, then a point and zeros or
none. A minus may stand behind the zeros in front as well, if it is the only one. -/
def readInt? (s : List Char) : Option Int :=
  let (negative, body) := splitSign (trim isWhiteSpace s)
  match (significant? body).map withoutZeroFraction with
  | none => none
  | some groups =>
    match (withoutLowLines? groups).getD groups with
    | '-' :: digits => if negative then none else (readDigits? digits).map fun n => -(n : Int)
    | digits => (readDigits? digits).map fun n => if negative then -(n : Int) else n

/-! ## Decimal numbers -/

/-- A power of ten: `e`, a sign or none, and digits. The empty text is the power zero. -/
def readExponent? : List Char → Option Int
  | [] => some 0
  | c :: rest =>
    let (negative, digits) := splitSign rest
    if (c = 'e' ∨ c = 'E') ∧ !digits.isEmpty ∧ digits.all Char.isDigit then
      some (if negative then -(valueOf digits : Int) else valueOf digits)
    else none

/-- Digits, a point and digits, with a digit on one side at least, then a power of ten. -/
def readDecimal? (s : List Char) : Option Decimal :=
  let whole := s.takeWhile Char.isDigit
  let rest := s.dropWhile Char.isDigit
  let (fraction, tail) :=
    match rest with
    | '.' :: more => (more.takeWhile Char.isDigit, more.dropWhile Char.isDigit)
    | _ => ([], rest)
  if whole.isEmpty ∧ fraction.isEmpty then none
  else
    (readExponent? tail).map fun power =>
      ⟨valueOf (whole ++ fraction), power - fraction.length⟩

/-- The words for what is beyond every number, in any case. -/
def readWord? (negative : Bool) (s : List Char) : Option Binary64 :=
  let word := String.ofList (s.map Char.toLower)
  if word = "inf" ∨ word = "infinity" then some (.infinity negative)
  else if word = "nan" then some .unnumbered
  else none

/-- A decimal number or a word, with a sign or none. -/
def readPlain? (s : List Char) : Option Binary64 :=
  let (negative, body) := splitSign s
  match readWord? negative body with
  | some x => some x
  | none => (readDecimal? body).map (·.toBinary64 negative)

/-- A binary number: the trimmed text, or else the text without its low lines. -/
def readFloat? (s : List Char) : Option Binary64 :=
  match readPlain? (trim isWhiteSpace s) with
  | some x => some x
  | none => (withoutLowLines? s).bind readPlain?

/-- A numeral is a whole number if it can be one, and a binary number otherwise. -/
def read? (s : String) : Option Number :=
  match readInt? s.toList with
  | some n => some (.int n)
  | none => (readFloat? s.toList).map .float

end Numeral

end MailSearch
