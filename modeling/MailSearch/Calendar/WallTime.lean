-- What a clock on the wall shows: a date and a time of day. Seconds are counted from the start of
-- the year 1970 on the same clock, so that two readings of one clock compare as their counts do.
import MailSearch.Calendar.Date

namespace MailSearch

/-- A count of seconds since the start of 1970, on some clock. It may lie outside the calendar. -/
abbrev Stamp := Int

def secondsPerDay : Nat := 86400

/-- The number of the first day of the year 1970. -/
def epochOrdinal : Nat := 719163

/-- The day number of a stamp. -/
def Stamp.dayNumber (s : Stamp) : Int := s / secondsPerDay + epochOrdinal

/-- The date of a stamp, if it lies in the calendar. -/
def Stamp.date? (s : Stamp) : Option Date := Date.ofOrdinal? s.dayNumber

/-- The year of a stamp that lies in the calendar. -/
def Stamp.year (s : Stamp) : Nat := Date.yearOfOrdinal s.dayNumber.toNat

/-- The stamp of the start of a day, given by its number. -/
def startOfDay (dayNumber : Int) : Stamp := (dayNumber - epochOrdinal) * secondsPerDay

/-- A date and a time of that day, to the millionth of a second. -/
structure WallTime where
  date : Date
  second : Nat
  micro : Nat
  second_lt : second < secondsPerDay
  micro_lt : micro < 1000000
deriving DecidableEq

namespace WallTime

/-- A wall time from hours, minutes, seconds and millionths. -/
def ofClock? (date : Date) (hour minute second micro : Nat) : Option WallTime :=
  let total := (hour * 60 + minute) * 60 + second
  if h : total < secondsPerDay ∧ micro < 1000000 then some ⟨date, total, micro, h.1, h.2⟩ else none

/-- The whole seconds of a wall time. -/
def stamp (w : WallTime) : Stamp := startOfDay w.date.ordinal + w.second

/-- A wall time as a count of millionths of a second, from the start of 1970 on its clock. -/
def micros (w : WallTime) : Int := w.stamp * 1000000 + w.micro

end WallTime

end MailSearch
