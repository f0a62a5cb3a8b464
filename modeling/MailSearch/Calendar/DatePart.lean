-- Parts of a date, as the letters of date formats name them: numbers, names, and whole writings
-- of the date or of the clock, which shows midnight.
import MailSearch.Calendar.WallTime

namespace MailSearch

/-- How the letters of a text answer to the two marks that change case. -/
inductive CaseRule where
  /-- The first mark raises them, the second one does nothing. -/
  | plain
  /-- Both marks raise them. -/
  | name
  /-- The first mark raises them, the second one lowers them. -/
  | half
  /-- Neither mark does anything. -/
  | fixed
deriving DecidableEq

/-- What a letter of a date format stands for. -/
inductive DatePart where
  /-- A number, and how many places it has at least. Empty places hold zeros, or blanks if the
  flag is set. -/
  | number (value : Nat) (least : Nat) (blanks : Bool)
  | text (s : List Char) (rule : CaseRule)
  /-- The name of the zone, which is empty. It is not filled up if a mark forbids that. -/
  | zoneName
  /-- Nothing at all, whatever the width. -/
  | nothing

namespace DatePart

/-! ## Numbers and names -/

def digits (n : Nat) : List Char := Nat.toDigits 10 n

/-- A number filled up to a width with a character. -/
def padded (fill : Char) (width n : Nat) : List Char :=
  List.replicate (width - (digits n).length) fill ++ digits n

/-- A number of two digits at least. -/
def two (n : Nat) : List Char := padded '0' 2 n

/-- The names of the days, Monday first. -/
def dayNames : List String :=
  ["Monday", "Tuesday", "Wednesday", "Thursday", "Friday", "Saturday", "Sunday"]

def monthNames : List String :=
  ["January", "February", "March", "April", "May", "June", "July", "August", "September",
    "October", "November", "December"]

def dayName (d : Date) : List Char := (dayNames.getD d.weekday "").toList

def monthName (d : Date) : List Char := (monthNames.getD (d.month - 1) "").toList

/-- Short names have three letters. -/
def short (name : List Char) : List Char := name.take 3

/-! ## Weeks and seconds -/

/-- The day of the week counted from Sunday on. -/
def fromSunday (d : Date) : Nat := (d.weekday + 1) % 7

/-- The week of the year, when weeks begin on a Sunday and the days before the first Sunday are
in week zero. -/
def sundayWeek (d : Date) : Nat := (d.dayOfYear + 6 - fromSunday d) / 7

/-- The same with weeks that begin on a Monday. -/
def mondayWeek (d : Date) : Nat := (d.dayOfYear + 6 - d.weekday) / 7

/-- The stamp of the first moment of a day, as universal time counts it. -/
def stamp (d : Date) : List Char :=
  let count := startOfDay d.ordinal
  (if count < 0 then ['-'] else []) ++ digits count.natAbs

/-! ## Whole writings -/

/-- The date with slashes, month first and a short year. -/
def slashed (d : Date) : List Char :=
  two d.month ++ '/' :: two d.day ++ '/' :: two (d.year % 100)

/-- The date with dashes, year first. -/
def dashed (d : Date) : List Char := digits d.year ++ '-' :: two d.month ++ '-' :: two d.day

def midnight : List Char := "00:00:00".toList

/-- The date with names, midnight and the year. -/
def full (d : Date) : List Char :=
  short (dayName d) ++ ' ' :: short (monthName d) ++ ' ' :: padded ' ' 2 d.day
    ++ ' ' :: midnight ++ ' ' :: digits d.year

/-! ## Letters -/

/-- What a letter stands for. Years and centuries are written without zeros in front. -/
def ofLetter? (d : Date) : Char → Option DatePart
  | 'Y' => some (.number d.year 1 false)
  | 'C' => some (.number (d.year / 100) 1 false)
  | 'y' => some (.number (d.year % 100) 2 false)
  | 'G' => some (.number d.weekYearAndWeek.1 1 false)
  | 'g' => some (.number (d.weekYearAndWeek.1 % 100) 2 false)
  | 'm' => some (.number d.month 2 false)
  | 'd' => some (.number d.day 2 false)
  | 'e' => some (.number d.day 2 true)
  | 'j' => some (.number d.dayOfYear 3 false)
  | 'u' => some (.number (d.weekday + 1) 1 false)
  | 'w' => some (.number (fromSunday d) 1 false)
  | 'U' => some (.number (sundayWeek d) 2 false)
  | 'W' => some (.number (mondayWeek d) 2 false)
  | 'V' => some (.number d.weekYearAndWeek.2 2 false)
  | 'H' | 'M' | 'S' => some (.number 0 2 false)
  | 'I' => some (.number 12 2 false)
  | 'k' => some (.number 0 2 true)
  | 'l' => some (.number 12 2 true)
  | 's' => some (.text (stamp d) .plain)
  | 'B' => some (.text (monthName d) .name)
  | 'b' | 'h' => some (.text (short (monthName d)) .name)
  | 'A' => some (.text (dayName d) .name)
  | 'a' => some (.text (short (dayName d)) .name)
  | 'p' => some (.text "AM".toList .half)
  | 'P' => some (.text "am".toList .fixed)
  | 'D' | 'x' => some (.text (slashed d) .plain)
  | 'F' => some (.text (dashed d) .plain)
  | 'c' => some (.text (full d) .plain)
  | 'R' => some (.text "00:00".toList .plain)
  | 'T' | 'X' => some (.text midnight .plain)
  | 'r' => some (.text "12:00:00 AM".toList .plain)
  | 'Z' => some .zoneName
  | 'z' => some .nothing
  | 'n' => some (.text ['\n'] .plain)
  | 't' => some (.text ['\t'] .plain)
  | '%' => some (.text ['%'] .plain)
  | _ => none

end DatePart

end MailSearch
