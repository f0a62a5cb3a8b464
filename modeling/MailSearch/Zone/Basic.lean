-- Time zones. The clock of a zone is read from an instant by the offset in force then; the other way
-- round a reading may be ambiguous or skipped, and the first or the second meaning is chosen. The
-- offsets may be anything. Those of a table change at given instants, and some go on by a yearly
-- rule after the last of them.
import MailSearch.Calendar.WallTime

namespace MailSearch

/-! ## Zones -/

/-- A zone: the offset in force at each instant, and the offset for each reading of its clock, in the
first or in the second meaning of the reading. -/
structure Zone where
  offsetAt (instant : Stamp) : Int
  offsetOf (second : Bool) (reading : Stamp) : Int

/-- A zone with one offset at all times. -/
def Zone.fixed (offset : Int) : Zone := ⟨fun _ => offset, fun _ _ => offset⟩

/-- A zone with the name under which it is known. -/
structure NamedZone where
  name : String
  zone : Zone

/-! ## Yearly rules -/

/-- A change of the clock on a Sunday of a month, at a second of that day on the clock before the
change. Sunday number five means the last one. -/
structure YearlyChange where
  month : Nat
  sunday : Nat
  second : Nat
deriving DecidableEq

/-- The day number of a Sunday of a month. The day number of a Sunday is a multiple of seven. -/
def sundayOfMonth (year month sunday : Nat) : Nat :=
  let before := daysBeforeYear year + daysBeforeMonth year month
  if 5 ≤ sunday then
    let last := before + daysInMonth year month
    last - last % 7
  else
    before + 7 - before % 7 + 7 * (sunday - 1)

/-- When a change happens in a year, on the clock before the change. -/
def YearlyChange.stampIn (c : YearlyChange) (year : Nat) : Stamp :=
  startOfDay (sundayOfMonth year c.month c.sunday) + c.second

/-- A zone with daylight time every year. -/
structure YearlyRule where
  standard : Int
  daylight : Int
  starts : YearlyChange
  ends : YearlyChange
deriving DecidableEq

namespace YearlyRule

/-- Is `s` between the start and the end of daylight time? On the southern half of the earth
daylight time ends earlier in a year than it starts. -/
def within (starts ends s : Stamp) : Bool :=
  if starts < ends then decide (starts ≤ s ∧ s < ends) else !decide (ends ≤ s ∧ s < starts)

/-- The offset in force at an instant. -/
def offsetAt (r : YearlyRule) (s : Stamp) : Int :=
  let starts := r.starts.stampIn s.year - r.standard
  let ends := r.ends.stampIn s.year - r.daylight
  if within starts ends s then r.daylight else r.standard

/-- The offset for a reading of the clock. The first meaning of a reading keeps the old offset
through a skipped hour and daylight time through a repeated one; the second meaning changes as
early as it can. -/
def offsetOf (r : YearlyRule) (second : Bool) (reading : Stamp) : Int :=
  let starts := r.starts.stampIn reading.year
  let ends := r.ends.stampIn reading.year
  let shift := r.daylight - r.standard
  let inForce :=
    if second then within starts (ends - shift) reading else within (starts + shift) ends reading
  if inForce then r.daylight else r.standard

end YearlyRule

/-! ## Tables -/

/-- A table of offsets: the one at first, the instants at which it changes with the offsets from then
on, and the rule for the time after the last of them. -/
structure OffsetTable where
  initial : Int
  changes : List (Stamp × Int)
  rule : Option YearlyRule

namespace OffsetTable

/-- Goes through the changes that an instant is past. None of them is left if the rule takes
over. -/
def advance (offset : Int) (instant : Stamp) : List (Stamp × Int) → Int × Bool
  | [] => (offset, true)
  | (time, next) :: rest =>
    if time ≤ instant then advance next instant rest else (offset, false)

/-- The offset in force at an instant. -/
def offsetAt (t : OffsetTable) (instant : Stamp) : Int :=
  let (offset, pastAll) := advance t.initial instant t.changes
  match t.rule, pastAll with
  | some r, true => r.offsetAt instant
  | _, _ => offset

/-- Goes through the changes that a reading of the clock is past. In its first meaning a reading
is past a change when both clocks are, in its second meaning when one of them is. -/
def advanceReading (second : Bool) (offset : Int) (reading : Stamp) :
    List (Stamp × Int) → Int × Bool
  | [] => (offset, true)
  | (time, next) :: rest =>
    let before := time + offset
    let after := time + next
    let passed := if second then min before after else max before after
    if passed ≤ reading then advanceReading second next reading rest else (offset, false)

/-- The offset for a reading of the clock. -/
def offsetOf (t : OffsetTable) (second : Bool) (reading : Stamp) : Int :=
  let (offset, pastAll) := advanceReading second t.initial reading t.changes
  match t.rule, pastAll with
  | some r, true => r.offsetOf second reading
  | _, _ => offset

/-- The zone with the offsets of a table. -/
def zone (t : OffsetTable) : Zone := ⟨t.offsetAt, t.offsetOf⟩

end OffsetTable

end MailSearch
