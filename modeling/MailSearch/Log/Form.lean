-- Forms of values in messages. A form says how one value is written: as a text, as a whole number
-- in some base, as a number with places, or as a single character, and how it is filled up.
import MailSearch.Filter.Written
import MailSearch.Log.Room
import MailSearch.Rounded

namespace MailSearch

/-- The form of one value. -/
structure Form where
  /-- The marks: `-` for the left side, `0` for zeros, `+` or a blank before numbers that are not
  negative, and `#` for the full form. -/
  marks : List Char
  width : Nat
  precision : Option Nat
  letter : Char

namespace Form

def marked (f : Form) (mark : Char) : Bool := f.marks.contains mark

/-! ## Filling -/

/-- Fills a text up to the width with blanks. -/
def fill (f : Form) (s : List Char) : List Char :=
  let blanks := List.replicate (f.width - s.length) ' '
  if f.marked '-' then s ++ blanks else blanks ++ s

/-- The sign of a number, as the marks ask. -/
def sign (f : Form) (negative : Bool) : List Char :=
  if negative then ['-']
  else if f.marked '+' then ['+']
  else if f.marked ' ' then [' ']
  else []

/-- Fills a number up to the width, with zeros behind what stands in front of its digits if the
marks ask for them. -/
def fillNumber (f : Form) (front digits : List Char) : List Char :=
  if f.marked '0' ∧ !f.marked '-' then
    front ++ List.replicate (f.width - front.length - digits.length) '0' ++ digits
  else f.fill (front ++ digits)

/-! ## Texts -/

/-- A text up to the precision. -/
def writeText (f : Form) (s : List Char) : List Char :=
  f.fill (match f.precision with
    | some most => s.take most
    | none => s)

/-- A text with escapes in place of all characters that are not plain ones. -/
def plainOnly (s : List Char) : List Char :=
  s.flatMap fun c => if c.toNat < 0x80 then [c] else Quoted.escapeUnprintable c

/-- The character that a value is: a text of one character, or the number of one. -/
def character? : Value → Option Char
  | .text s =>
    match s.toList with
    | [c] => some c
    | _ => none
  | .bool b => some (Char.ofNat (if b then 1 else 0))
  | .int n => if 0 ≤ n ∧ n.toNat.isValidChar then some (Char.ofNat n.toNat) else none
  | _ => none

/-! ## Whole numbers -/

/-- The whole number that a value is. -/
def wholeNumber? : Value → Option Int
  | .bool b => some (if b then 1 else 0)
  | .int n => some n
  | _ => none

/-- The whole number that a value is, or has before its point. -/
def truncated? : Value → Option Int
  | .float x => x.truncate?
  | v => wholeNumber? v

/-- Writes a whole number in a base, with as many digits as the precision asks for at least. The
full form has a mark for the base. -/
def writeWhole (f : Form) (base : Nat) (mark : List Char) (n : Int) : List Char :=
  let digits := Nat.toDigits base n.natAbs
  let digits := List.replicate (f.precision.getD 0 - digits.length) '0' ++ digits
  f.fillNumber (f.sign (n < 0) ++ (if f.marked '#' then mark else [])) digits

/-! ## Numbers with places -/

/-- The binary number that a value is, or is nearest to. A whole number may be too large. -/
def binary? : Value → Option Binary64
  | .float x => some x
  | v => (wholeNumber? v).bind fun n =>
    let x := Binary64.nearest (n < 0) n.natAbs 1
    if x.isInfinite then none else some x

/-- How many places a number has if no precision is given. -/
def usualPlaces : Nat := 6

def writeBinary (f : Form) (layout : Rounded.Layout) (x : Binary64) : List Char :=
  f.fillNumber (f.sign (x.isNegative && !x.isNaN))
    (Rounded.write layout (f.marked '#') (f.precision.getD usualPlaces) x)

/-! ## All letters -/

/-- A value as the letter of a form asks. Some values cannot be written so. -/
def write? (f : Form) (v : Value) : Option (List Char) :=
  match f.letter with
  | 's' => some (f.writeText v.shown.toList)
  | 'r' => some (f.writeText v.written.toList)
  | 'a' => some (f.writeText (plainOnly v.written.toList))
  | 'c' => (character? v).map fun c => f.fill [c]
  | 'd' | 'i' | 'u' => (truncated? v).map (f.writeWhole 10 [])
  | 'o' => (wholeNumber? v).map (f.writeWhole 8 ['0', 'o'])
  | 'x' => (wholeNumber? v).map (f.writeWhole 16 ['0', 'x'])
  | 'X' => (wholeNumber? v).map fun n => (f.writeWhole 16 ['0', 'x'] n).map Char.toUpper
  | 'f' => (binary? v).map (f.writeBinary .fixed)
  | 'F' => (binary? v).map fun x => (f.writeBinary .fixed x).map Char.toUpper
  | 'e' => (binary? v).map (f.writeBinary .power)
  | 'E' => (binary? v).map fun x => (f.writeBinary .power x).map Char.toUpper
  | 'g' => (binary? v).map (f.writeBinary .general)
  | 'G' => (binary? v).map fun x => (f.writeBinary .general x).map Char.toUpper
  | _ => none

/-- Does the letter of a form ask for a value in full? This needs room. -/
def needsRoom (f : Form) : Bool := "sradiu".toList.contains f.letter

/-- Writes a value, if it can be written so and there is room for it. -/
def write (f : Form) (room : Room) (v : Value) : Except Unwritten (List Char) :=
  match f.write? v with
  | none => .error .misfit
  | some text => if f.needsRoom then (room.allow v).map fun _ => text else .ok text

end Form

end MailSearch
