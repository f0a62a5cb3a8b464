-- The local day of an instant. A reading of a clock with a fixed offset stands for an instant, and
-- as an end of a range it counts by that instant: it gives the day that the clock of the mailbox
-- shows then, and so does a reading of that clock without a zone, and the day alone.
import MailSearch.Proofs.CalendarDays
import MailSearch.Proofs.DayRange
import MailSearch.Zone.America

namespace MailSearch

/-! ## Wall times as counts -/

namespace WallTime

/-- The first wall time of the calendar. -/
def first : WallTime := ⟨⟨1, 1, 1, by decide⟩, 0, 0, by decide, Nat.zero_lt_succ _⟩

/-- The last wall time of the calendar, a millionth before it ends. -/
def last : WallTime := ⟨⟨9999, 12, 31, by decide⟩, 86399, 999999, by decide, by decide⟩

end WallTime

/-- Does a count of millionths on some clock lie in the calendar? -/
def InCalendar (count : Int) : Prop :=
  WallTime.first.micros ≤ count ∧ count ≤ WallTime.last.micros

instance (count : Int) : Decidable (InCalendar count) := by
  unfold InCalendar; infer_instance

theorem Stamp.exists_date?_iff {s : Stamp} :
    (∃ d, s.date? = some d) ↔ 1 ≤ s.dayNumber ∧ s.dayNumber ≤ Date.lastOrdinal := by
  unfold Stamp.date?
  constructor
  · rintro ⟨d, hd⟩
    rw [← Date.ordinal_of_ofOrdinal? hd]
    have := d.one_le_ordinal
    have := d.ordinal_le_last
    omega
  · rintro ⟨low, high⟩
    exact Date.exists_ofOrdinal? low high

/-- A count lies in the calendar if the day of its second does. -/
theorem inCalendar_iff {count : Int} :
    InCalendar count ↔ ∃ d, Stamp.date? (count / 1000000) = some d := by
  have hfirst : WallTime.first.micros = -62135596800000000 := by decide
  have hlast : WallTime.last.micros = 253402300799999999 := by decide
  have hordinal : (Date.lastOrdinal : Int) = 3652059 := by decide
  rw [Stamp.exists_date?_iff, InCalendar, hfirst, hlast, hordinal]
  unfold Stamp.dayNumber epochOrdinal secondsPerDay
  omega

/-- A count whose second is in the calendar is a wall time of the day of this second. -/
theorem WallTime.exists_of_date? {count : Int} {d : Date}
    (h : Stamp.date? (count / 1000000) = some d) :
    ∃ w : WallTime, w.micros = count ∧ w.date = d := by
  have day := Stamp.ordinal_of_date? h
  have second_lt : (count / 1000000 % 86400).toNat < secondsPerDay := by
    unfold secondsPerDay
    omega
  refine ⟨⟨d, (count / 1000000 % 86400).toNat, (count % 1000000).toNat, second_lt, by omega⟩, ?_,
    rfl⟩
  simp only [WallTime.micros, WallTime.stamp, day]
  unfold startOfDay Stamp.dayNumber secondsPerDay Stamp
  omega

theorem WallTime.micros_div (w : WallTime) : w.micros / 1000000 = w.stamp := by
  have := w.micro_lt
  unfold micros Stamp
  omega

theorem WallTime.date?_stamp (w : WallTime) : w.stamp.date? = some w.date := by
  unfold Stamp.date?
  rw [Date.ofOrdinal?_eq_some_iff, dayNumber_stamp]

/-- The counts in the calendar are those of wall times. -/
theorem WallTime.exists_micros_iff {count : Int} :
    (∃ w : WallTime, w.micros = count) ↔ InCalendar count := by
  rw [inCalendar_iff]
  constructor
  · rintro ⟨w, rfl⟩
    exact ⟨w.date, by rw [w.micros_div, w.date?_stamp]⟩
  · rintro ⟨d, hd⟩
    obtain ⟨w, hw, -⟩ := WallTime.exists_of_date? hd
    exact ⟨w, hw⟩

/-! ## What a zone shows -/

namespace Moment

/-- A reading of a clock with a fixed offset, which is given in millionths of a second. -/
def fixed (time : WallTime) (offset : Int) : Moment := ⟨time, .offset offset⟩

/-- What the clock of a zone shows at a moment, as a count of millionths. -/
def countIn (m : Moment) (z : Zone) : Int := m.instant + z.offsetAt m.utc * 1000000

theorem countIn_div (m : Moment) (z : Zone) : m.countIn z / 1000000 = z.clock m.utc := by
  unfold countIn Zone.clock utc Stamp
  omega

theorem utc_eq_of_instant_eq {m other : Moment} (h : m.instant = other.instant) :
    m.utc = other.utc := by
  rw [utc, h, utc]

end Moment

namespace Bound

/-- The end of a range that is a moment has a day if universal time and the clock of the zone are in
the calendar then, and its day is that of the wall time which the clock shows. -/
theorem dayAt_eq_ok_iff {z : Zone} {m : Moment} {d : Date} :
    dayAt z m.utc = .ok d ↔
      InCalendar m.instant ∧ ∃ w : WallTime, w.micros = m.countIn z ∧ w.date = d := by
  constructor
  · intro hday
    obtain ⟨hutc, hlocal⟩ := dayAt_eq_ok hday
    exact ⟨inCalendar_iff.2 hutc, WallTime.exists_of_date? (by rwa [m.countIn_div])⟩
  · rintro ⟨hutc, w, hw, rfl⟩
    obtain ⟨u, hu⟩ := inCalendar_iff.1 hutc
    have hutc' : m.utc.date? = some u := hu
    have hlocal : Stamp.date? (m.utc + z.offsetAt m.utc) = some w.date := by
      rw [← Zone.clock, ← m.countIn_div, ← hw, w.micros_div, w.date?_stamp]
    unfold dayAt
    rw [hutc', hlocal]

/-- A day, a reading without a zone, or a reading of a clock with a fixed offset. -/
def IsPlain : Bound → Prop
  | .day _ | .reading _ | .instant _ (.offset _) => True
  | _ => False

theorem isPlain_day (d : Date) : IsPlain (.day d) := trivial

theorem isPlain_reading (time : WallTime) : IsPlain (.reading time) := trivial

theorem isPlain_fixed (time : WallTime) (offset : Int) : (Moment.fixed time offset).bound.IsPlain :=
  trivial

theorem pastDay_of_isPlain {bound : Bound} (h : bound.IsPlain) (mailbox : NamedZone) :
    bound.pastDay mailbox = bound.firstDay mailbox >>= dayAfter := by
  cases bound with
  | other v => exact h.elim
  | _ => rfl

end Bound

/-! ## The ends of a request -/

/-- One of the two ends of a range. -/
inductive RangeEnd where
  | start
  | stop

/-- A request with another start, or with another stop. -/
def Request.withEnd (request : Request) (bound : Bound) : RangeEnd → Request
  | .start => { request with start := some bound }
  | .stop => { request with stop := some bound }

namespace Builder

/-- Of a plain end of a range nothing but its day counts. -/
theorem build_withEnd_congr {b : Builder} {bound other : Bound} (h : bound.IsPlain)
    (h' : other.IsPlain) (hday : bound.firstDay b.zone = other.firstDay b.zone) (request : Request)
    (place : RangeEnd) :
    b.build (request.withEnd bound place) = b.build (request.withEnd other place) := by
  have hpast : bound.pastDay b.zone = other.pastDay b.zone := by
    rw [Bound.pastDay_of_isPlain h, Bound.pastDay_of_isPlain h', hday]
  cases place with
  | start => simp only [build, Request.withEnd, startPart, endPart, hday]
  | stop => simp only [build, Request.withEnd, stopPart, endPart, hpast]

theorem exists_day_of_endPart {b : Builder} {label : String}
    {dayOf : Bound → Except BoundFault Date} {bound : Bound} {parts : List Part}
    (h : b.endPart label dayOf (some bound) = .ok parts) : ∃ day, dayOf bound = .ok day := by
  rcases hday : dayOf bound with fault | day
  · simp [endPart, hday] at h
  · exact ⟨day, rfl⟩

/-- A search with a plain end in it needs the day of this end. -/
theorem exists_firstDay_of_build {b : Builder} {bound : Bound} (h : bound.IsPlain)
    {request : Request} {place : RangeEnd} {s : Session} {search : String}
    (hsearch : (b.build (request.withEnd bound place) s).result = .ok search) :
    ∃ d, bound.firstDay b.zone = .ok d := by
  rw [result_build_bind] at hsearch
  obtain ⟨words, -, hsearch⟩ := bind_eq_ok_iff.mp hsearch
  obtain ⟨filter, -, hsearch⟩ := bind_eq_ok_iff.mp hsearch
  obtain ⟨start, hstart, hsearch⟩ := bind_eq_ok_iff.mp hsearch
  obtain ⟨stop, hstop, -⟩ := bind_eq_ok_iff.mp hsearch
  cases place with
  | start => exact exists_day_of_endPart hstart
  | stop =>
    obtain ⟨past, hpast⟩ := exists_day_of_endPart hstop
    rw [Bound.pastDay_of_isPlain h] at hpast
    obtain ⟨d, hd, -⟩ := bind_eq_ok_iff.mp hpast
    exact ⟨d, hd⟩

end Builder

/-! ## The law -/

/-- Two readings of clocks with fixed offsets that stand for one instant make one and the same
search, as its start or as its stop, or let it fail alike. And if there is a search, then a reading
without a zone of what the clock of the mailbox shows at that instant makes the same search, and so
does the day of this reading alone. -/
theorem one_instant_gives_one_day (b : Builder) (request : Request) (place : RangeEnd)
    (time : WallTime) (offset : Int) :
    (∀ (other : WallTime) (otherOffset : Int),
      (Moment.fixed other otherOffset).instant = (Moment.fixed time offset).instant →
        b.build (request.withEnd (Moment.fixed other otherOffset).bound place) =
          b.build (request.withEnd (Moment.fixed time offset).bound place)) ∧
    ∀ (s : Session) (search : String),
      (b.build (request.withEnd (Moment.fixed time offset).bound place) s).result = .ok search →
        ∃ shown : WallTime, shown.micros = (Moment.fixed time offset).countIn b.zone.zone ∧
          (b.build (request.withEnd (.reading shown) place) s).result = .ok search ∧
          (b.build (request.withEnd (.day shown.date) place) s).result = .ok search := by
  have hplain := Bound.isPlain_fixed time offset
  constructor
  · intro other otherOffset hinstant
    apply Builder.build_withEnd_congr (Bound.isPlain_fixed other otherOffset) hplain
    exact congrArg (Bound.dayAt b.zone.zone) (Moment.utc_eq_of_instant_eq hinstant)
  · intro s search hsearch
    obtain ⟨d, hd⟩ := Builder.exists_firstDay_of_build hplain hsearch
    obtain ⟨-, shown, hshown, rfl⟩ := Bound.dayAt_eq_ok_iff.mp hd
    refine ⟨shown, hshown, ?_, ?_⟩
    · rw [Builder.build_withEnd_congr (Bound.isPlain_reading shown) hplain hd.symm, hsearch]
    · rw [Builder.build_withEnd_congr (Bound.isPlain_day shown.date) hplain hd.symm, hsearch]

/-- A mailbox on the west coast of America. -/
def westMail : Builder :=
  ⟨Compiler.standard.map Part.text, ⟨"US/Pacific", OffsetTable.pacific.zone⟩, "%Y/%m/%d"⟩

/-- In the last half hour of the year 2024, an hour behind universal time. -/
def lateDecember : WallTime := ⟨⟨2024, 12, 31, by decide⟩, 84660, 250000, by decide, by decide⟩

/-- The same instant fourteen hours ahead, but for a millionth of a second, on a day of the next
year. -/
def earlyJanuary : WallTime := ⟨⟨2025, 1, 1, by decide⟩, 52260, 249999, by decide, by decide⟩

theorem two_years_give_one_day :
    let s := Session.initial (.limited 1000 4300)
    let early := Moment.fixed earlyJanuary 50399999999
    let late := Moment.fixed lateDecember (-3600000000)
    early.instant = late.instant ∧
      (westMail.build ⟨.value .null, .null, none, some early.bound⟩ s).result =
        .ok "before:2025/01/01" ∧
      ∃ shown : WallTime,
        shown.micros = late.countIn westMail.zone.zone ∧
        (westMail.build ⟨.value .null, .null, none, some (.reading shown)⟩ s).result =
          .ok "before:2025/01/01" ∧
        (westMail.build ⟨.value .null, .null, none, some (.day shown.date)⟩ s).result =
          .ok "before:2025/01/01" := by
  intro s early late
  have hinstant : early.instant = late.instant := by decide
  have hsearch : (westMail.build ⟨.value .null, .null, none, some late.bound⟩ s).result =
      .ok "before:2025/01/01" := eq_ok_iff_toOption.2 (by decide +kernel)
  have hlaw := one_instant_gives_one_day westMail ⟨.value .null, .null, none, none⟩ .stop
    lateDecember (-3600000000)
  have hother := hlaw.1 earlyJanuary 50399999999 hinstant
  exact ⟨hinstant, (congrArg (fun work => (work s).result) hother).trans hsearch,
    hlaw.2 s _ hsearch⟩

end MailSearch
