-- The ends of a time range. A search knows whole days only, so an end is brought to a day on the
-- clock of the mailbox: a day as it is, a reading without a zone as its date, and a reading with
-- a zone as the date that the clock of the mailbox shows at that instant.
import MailSearch.Filter.Basic
import MailSearch.Zone.Basic

namespace MailSearch

/-- Where the reading of a clock comes from. -/
inductive Clock where
  /-- A fixed offset from universal time, in millionths of a second. -/
  | offset (micros : Int)
  /-- A zone. The flag asks for the second meaning of a reading. -/
  | zone (zone : NamedZone) (second : Bool)

namespace Clock

/-- The offset of a clock for a reading of it, in millionths of a second. -/
def offsetFor (reading : Stamp) : Clock → Int
  | .offset micros => micros
  | .zone z second => z.zone.offsetOf second reading * 1000000

/-- The instant that a reading of a clock stands for, in millionths of a second of universal
time. -/
def instantOf (clock : Clock) (time : WallTime) : Int := time.micros - clock.offsetFor time.stamp

/-- Is this the very clock of the mailbox? -/
def isOf (mailbox : NamedZone) : Clock → Bool
  | .offset _ => false
  | .zone z _ => decide (z.name = mailbox.name)

end Clock

/-- An end of a time range. -/
inductive Bound where
  | day (date : Date)
  | reading (time : WallTime)
  | instant (time : WallTime) (clock : Clock)
  /-- Something that is no date at all. -/
  | other (v : Value)

/-- How an end of a range fails. -/
inductive BoundFault where
  | outOfCalendar
  /-- The start is no date. -/
  | notADay (typeName : String)
  /-- The end is no date, so there is no day after it. -/
  | noDayAfter (v : Value)

namespace Bound

/-! ## Days -/

/-- The day that a zone has at an instant of universal time. Both have to lie in the calendar. -/
def dayAt (z : Zone) (utc : Stamp) : Except BoundFault Date :=
  match utc.date? with
  | none => .error .outOfCalendar
  | some _ =>
    match Stamp.date? (utc + z.offsetAt utc) with
    | none => .error .outOfCalendar
    | some d => .ok d

/-- The day of an instant on the clock of the mailbox. A reading of that very clock is taken as
it is, even if the clock skipped it. -/
def dayOfInstant (mailbox : NamedZone) (time : WallTime) (clock : Clock) :
    Except BoundFault Date :=
  if clock.isOf mailbox then .ok time.date
  else dayAt mailbox.zone (clock.instantOf time / 1000000)

/-- The day at which a range starts. -/
def firstDay (mailbox : NamedZone) : Bound → Except BoundFault Date
  | .day d => .ok d
  | .reading time => .ok time.date
  | .instant time clock => dayOfInstant mailbox time clock
  | .other v => .error (.notADay v.typeName)

def dayAfter (d : Date) : Except BoundFault Date :=
  match d.next? with
  | some next => .ok next
  | none => .error .outOfCalendar

/-- The day after the one at which a range ends. -/
def pastDay (mailbox : NamedZone) : Bound → Except BoundFault Date
  | .other v => .error (.noDayAfter v)
  | b => do dayAfter (← b.firstDay mailbox)

end Bound

end MailSearch
