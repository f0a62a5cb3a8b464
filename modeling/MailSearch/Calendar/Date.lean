-- Days of the calendar, from the first of January of year 1 to the last of December of year 9999.
-- Each day has a number, counted from one on, and the calendar is the same in all years: a leap
-- year every four years, but not every hundred, but every four hundred.

namespace MailSearch

/-! ## Years and months -/

def isLeapYear (year : Nat) : Bool :=
  decide (year % 4 = 0 ∧ (year % 100 ≠ 0 ∨ year % 400 = 0))

/-- The lengths of the twelve months of a year. -/
def monthLengths (year : Nat) : List Nat :=
  [31, if isLeapYear year then 29 else 28, 31, 30, 31, 30, 31, 31, 30, 31, 30, 31]

def daysInMonth (year month : Nat) : Nat := (monthLengths year).getD (month - 1) 0

/-- How many days have gone by before a year begins. -/
def daysBeforeYear (year : Nat) : Nat :=
  let past := year - 1
  365 * past + past / 4 - past / 100 + past / 400

/-- How many days of a year have gone by before a month begins. -/
def daysBeforeMonth (year month : Nat) : Nat :=
  ((monthLengths year).take (month - 1)).foldr (· + ·) 0

/-- The last year of the calendar. -/
def lastYear : Nat := 9999

/-! ## Dates -/

/-- Do a year, a month and a day name a day of the calendar? -/
def IsDate (year month day : Nat) : Prop :=
  1 ≤ year ∧ year ≤ lastYear ∧ 1 ≤ month ∧ month ≤ 12 ∧ 1 ≤ day ∧ day ≤ daysInMonth year month

instance (year month day : Nat) : Decidable (IsDate year month day) := by
  unfold IsDate; infer_instance

/-- A day of the calendar. -/
structure Date where
  year : Nat
  month : Nat
  day : Nat
  isDate : IsDate year month day
deriving DecidableEq

namespace Date

def ofParts? (year month day : Nat) : Option Date :=
  if h : IsDate year month day then some ⟨year, month, day, h⟩ else none

/-- The place of a day in its year, counted from one on. -/
def dayOfYear (d : Date) : Nat := daysBeforeMonth d.year d.month + d.day

/-- The number of a day: the first day of the calendar is day one. -/
def ordinal (d : Date) : Nat := daysBeforeYear d.year + d.dayOfYear

/-- The number of the last day of the calendar. -/
def lastOrdinal : Nat := daysBeforeYear (lastYear + 1)

/-! ## From numbers to days -/

/-- The year of a day number. The mean length of a year gives a guess that is at most one year
off. -/
def yearOfOrdinal (n : Nat) : Nat :=
  let guess := (n - 1) * 400 / 146097 + 1
  if n ≤ daysBeforeYear guess then guess - 1
  else if daysBeforeYear (guess + 1) < n then guess + 1
  else guess

/-- Goes through months of the given lengths, and tells the month and the day in it. -/
def monthAndDay : List Nat → Nat → Nat × Nat
  | [], n => (1, n)
  | length :: rest, n =>
    if n ≤ length then (1, n)
    else
      let (month, day) := monthAndDay rest (n - length)
      (month + 1, day)

/-- The day with a number, if the calendar has it. -/
def ofOrdinal? (n : Int) : Option Date :=
  let year := yearOfOrdinal n.toNat
  let (month, day) := monthAndDay (monthLengths year) (n.toNat - daysBeforeYear year)
  if 1 ≤ n ∧ n ≤ lastOrdinal then ofParts? year month day else none

/-- The day after a day. The last day of the calendar has none. -/
def next? (d : Date) : Option Date := ofOrdinal? (d.ordinal + 1)

/-! ## Weeks -/

/-- The day of the week, counted from zero on, Monday first. The first day of the calendar is a
Monday. -/
def weekday (d : Date) : Nat := (d.ordinal + 6) % 7

/-- How many weeks a year has, when a week belongs to the year that holds its Thursday: one more
in a year that begins on a Thursday, and in a leap year that begins on a Wednesday. -/
def weeksInYear (year : Nat) : Nat :=
  let first := daysBeforeYear year % 7
  if first = 3 ∨ (first = 2 ∧ isLeapYear year) then 53 else 52

/-- The year and the number of the week of a day, when a week belongs to the year that holds its
Thursday. -/
def weekYearAndWeek (d : Date) : Nat × Nat :=
  let week := (d.dayOfYear + 9 - d.weekday) / 7
  if week = 0 then (d.year - 1, weeksInYear (d.year - 1))
  else if weeksInYear d.year < week then (d.year + 1, 1)
  else (d.year, week)

end Date

end MailSearch
