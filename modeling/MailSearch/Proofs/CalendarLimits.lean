-- The limits of the calendar. A range fails to name its days exactly if one of its ends lies outside
-- of the calendar, be it in universal time or on the clock of the mailbox, or if the range ends on
-- the last day. In all other cases it names them.
import MailSearch.Proofs.LocalDays

namespace MailSearch

namespace Bound

/-! ## What an end of a range says -/

/-- An end of a range is a reading of a clock and lies outside of the calendar, in universal time or
on the clock of the zone. -/
def IsOutside (z : Zone) : Bound → Prop
  | .instant time clock =>
    ¬ InCalendar (Moment.instant ⟨time, clock⟩) ∨ ¬ InCalendar (Moment.countIn ⟨time, clock⟩ z)
  | _ => False

/-- An end of a range lies on a day, on the clock of the zone. -/
def HasDay (z : Zone) (d : Date) : Bound → Prop
  | .day own => own = d
  | .reading time => time.date = d
  | .instant time clock =>
    ∃ shown : WallTime, shown.micros = Moment.countIn ⟨time, clock⟩ z ∧ shown.date = d
  | .other _ => False

/-! ## The days of the ends -/

theorem inCalendar_of_hasDay {z : Zone} {time : WallTime} {clock : Clock} {d : Date}
    (h : HasDay z d (.instant time clock)) : InCalendar (Moment.countIn ⟨time, clock⟩ z) := by
  obtain ⟨shown, hshown, -⟩ := h
  exact WallTime.exists_micros_iff.1 ⟨shown, hshown⟩

/-- A plain end of a range in the calendar has the day it lies on. -/
theorem firstDay_eq_ok_iff {bound : Bound} (h : bound.IsPlain) {mailbox : NamedZone} {d : Date} :
    bound.firstDay mailbox = .ok d ↔
      ¬ bound.IsOutside mailbox.zone ∧ bound.HasDay mailbox.zone d := by
  cases bound with
  | day own => simp [firstDay, IsOutside, HasDay]
  | reading time => simp [firstDay, IsOutside, HasDay]
  | instant time clock =>
    cases clock with
    | zone z second => exact h.elim
    | offset seconds =>
      have hday := dayAt_eq_ok_iff (z := mailbox.zone) (m := .fixed time seconds) (d := d)
      refine hday.trans ?_
      unfold IsOutside
      rw [not_or, not_not, not_not]
      constructor
      · rintro ⟨hutc, hlocal⟩
        exact ⟨⟨hutc, inCalendar_of_hasDay hlocal⟩, hlocal⟩
      · rintro ⟨⟨hutc, -⟩, hlocal⟩
        exact ⟨hutc, hlocal⟩
  | other v => exact h.elim

/-- A plain end of a range that is not outside lies on a day. -/
theorem exists_hasDay {bound : Bound} (h : bound.IsPlain) {z : Zone} (hin : ¬ bound.IsOutside z) :
    ∃ d, bound.HasDay z d := by
  cases bound with
  | day own => exact ⟨own, rfl⟩
  | reading time => exact ⟨time.date, rfl⟩
  | instant time clock =>
    unfold IsOutside at hin
    rw [not_or, not_not, not_not] at hin
    obtain ⟨shown, hshown⟩ := WallTime.exists_micros_iff.2 hin.2
    exact ⟨shown.date, shown, hshown, rfl⟩
  | other v => exact h.elim

theorem fault_of_dayAt {z : Zone} {s : Stamp} {fault : BoundFault}
    (h : dayAt z s = .error fault) : fault = .outOfCalendar := by
  unfold dayAt at h
  split at h
  · cases h
    rfl
  · split at h <;> cases h
    rfl

theorem fault_of_firstDay {bound : Bound} (h : bound.IsPlain) {mailbox : NamedZone}
    {fault : BoundFault} (hfault : bound.firstDay mailbox = .error fault) :
    fault = .outOfCalendar := by
  cases bound with
  | day own => cases hfault
  | reading time => cases hfault
  | instant time clock =>
    cases clock with
    | zone z second => exact h.elim
    | offset seconds => exact fault_of_dayAt hfault
  | other v => exact h.elim

/-- A plain end of a range has no day if it lies outside of the calendar, and only then. -/
theorem firstDay_eq_error_iff {bound : Bound} (h : bound.IsPlain) {mailbox : NamedZone}
    {fault : BoundFault} :
    bound.firstDay mailbox = .error fault ↔
      fault = .outOfCalendar ∧ bound.IsOutside mailbox.zone := by
  constructor
  · intro hfault
    refine ⟨fault_of_firstDay h hfault, ?_⟩
    by_contra hin
    obtain ⟨d, hd⟩ := exists_hasDay h hin
    rw [(firstDay_eq_ok_iff h).2 ⟨hin, hd⟩] at hfault
    cases hfault
  · rintro ⟨rfl, hout⟩
    rcases hday : bound.firstDay mailbox with other | d
    · rw [fault_of_firstDay h hday]
    · exact absurd hout ((firstDay_eq_ok_iff h).1 hday).1

theorem dayAfter_eq_ok_iff {d next : Date} : dayAfter d = .ok next ↔ next.Follows d := by
  rw [← Date.next?_eq_some_iff]
  unfold dayAfter
  cases d.next? <;> simp

theorem dayAfter_eq_error_iff {d : Date} {fault : BoundFault} :
    dayAfter d = .error fault ↔ fault = .outOfCalendar ∧ d = Date.last := by
  rw [← Date.next?_eq_none_iff]
  unfold dayAfter
  cases d.next? with
  | none => simp [eq_comm]
  | some next => simp

/-- A plain end of a range has no day after it if it lies outside of the calendar or on the last
day, and only then. -/
theorem pastDay_eq_error_iff {bound : Bound} (h : bound.IsPlain) {mailbox : NamedZone}
    {fault : BoundFault} :
    bound.pastDay mailbox = .error fault ↔
      fault = .outOfCalendar ∧
        (bound.IsOutside mailbox.zone ∨ bound.HasDay mailbox.zone Date.last) := by
  rw [pastDay_of_isPlain h, bind_eq_error_iff, firstDay_eq_error_iff h]
  constructor
  · rintro (⟨rfl, hout⟩ | ⟨d, hd, hafter⟩)
    · exact ⟨rfl, .inl hout⟩
    · obtain ⟨rfl, rfl⟩ := dayAfter_eq_error_iff.1 hafter
      exact ⟨rfl, .inr ((firstDay_eq_ok_iff h).1 hd).2⟩
  · rintro ⟨rfl, hlimit⟩
    by_cases hout : bound.IsOutside mailbox.zone
    · exact .inl ⟨rfl, hout⟩
    · have hlast := hlimit.resolve_left hout
      exact .inr ⟨Date.last, (firstDay_eq_ok_iff h).2 ⟨hout, hlast⟩,
        dayAfter_eq_error_iff.2 ⟨rfl, rfl⟩⟩

end Bound

namespace Builder

/-! ## Ranges at the limits -/

theorem endPart_some_eq_error_iff {b : Builder} {label : String}
    {dayOf : Bound → Except BoundFault Date} {bound : Bound} {fault : BuildFault} :
    b.endPart label dayOf (some bound) = .error fault ↔
      ∃ own, dayOf bound = .error own ∧ fault = .bound own := by
  rcases h : dayOf bound with own | d <;> simp [endPart, h, eq_comm]

/-- The start of a range fails if it lies outside of the calendar, and only then. -/
theorem startPart_eq_error_iff {b : Builder} {start : Option Bound}
    (h : ∀ bound ∈ start, bound.IsPlain) {fault : BuildFault} :
    b.startPart start = .error fault ↔
      fault = .bound .outOfCalendar ∧ ∃ bound ∈ start, bound.IsOutside b.zone.zone := by
  cases start with
  | none => simp
  | some bound =>
    simp only [startPart, endPart_some_eq_error_iff, Bound.firstDay_eq_error_iff (h bound rfl),
      Option.mem_some_iff, exists_eq_left']
    constructor
    · rintro ⟨own, ⟨rfl, hout⟩, rfl⟩
      exact ⟨rfl, hout⟩
    · rintro ⟨rfl, hout⟩
      exact ⟨_, ⟨rfl, hout⟩, rfl⟩

/-- The stop of a range fails if it lies outside of the calendar or on the last day, and only
then. -/
theorem stopPart_eq_error_iff {b : Builder} {stop : Option Bound}
    (h : ∀ bound ∈ stop, bound.IsPlain) {fault : BuildFault} :
    b.stopPart stop = .error fault ↔
      fault = .bound .outOfCalendar ∧ ∃ bound ∈ stop,
        bound.IsOutside b.zone.zone ∨ bound.HasDay b.zone.zone Date.last := by
  cases stop with
  | none => simp
  | some bound =>
    simp only [stopPart, endPart_some_eq_error_iff, Bound.pastDay_eq_error_iff (h bound rfl),
      Option.mem_some_iff, exists_eq_left']
    constructor
    · rintro ⟨own, ⟨rfl, hlimit⟩, rfl⟩
      exact ⟨rfl, hlimit⟩
    · rintro ⟨rfl, hlimit⟩
      exact ⟨_, ⟨rfl, hlimit⟩, rfl⟩

theorem result_build_range_eq_error_iff {b : Builder} {start stop : Option Bound}
    (hstart : ∀ bound ∈ start, bound.IsPlain) (hstop : ∀ bound ∈ stop, bound.IsPlain)
    {s : Session} {fault : BuildFault} :
    (b.build ⟨.value .null, .null, start, stop⟩ s).result = .error fault ↔
      fault = .bound .outOfCalendar ∧
        ((∃ bound ∈ start, bound.IsOutside b.zone.zone) ∨
          ∃ bound ∈ stop, bound.IsOutside b.zone.zone ∨ bound.HasDay b.zone.zone Date.last) := by
  rw [result_build_range, ending, bind_eq_error_iff, startPart_eq_error_iff hstart]
  constructor
  · rintro (⟨rfl, hout⟩ | ⟨first, hfirst, hrest⟩)
    · exact ⟨rfl, .inl hout⟩
    · obtain hfault | ⟨past, hpast, hjoined⟩ := bind_eq_error_iff.1 hrest
      · obtain ⟨rfl, hlimit⟩ := (stopPart_eq_error_iff hstop).1 hfault
        exact ⟨rfl, .inr hlimit⟩
      · obtain ⟨texts, rfl⟩ := exists_texts_of_endPart hfirst
        obtain ⟨more, rfl⟩ := exists_texts_of_endPart hpast
        rw [List.nil_append, ← List.map_append, joinParts_map_text] at hjoined
        cases hjoined
  · rintro ⟨rfl, hlimit⟩
    rcases hfirst : b.startPart start with other | first
    · exact .inl ((startPart_eq_error_iff hstart).1 hfirst |>.imp_left fun _ => rfl)
    · refine .inr ⟨first, rfl, bind_eq_error_iff.2 (.inl ?_)⟩
      rcases hlimit with hout | hlimit
      · have hfault : b.startPart start = .error (.bound .outOfCalendar) :=
          (startPart_eq_error_iff hstart).2 ⟨rfl, hout⟩
        rw [hfault] at hfirst
        cases hfirst
      · exact (stopPart_eq_error_iff hstop).2 ⟨rfl, hlimit⟩

end Builder

/-! ## The law -/

/-- Let the ends of a range be days, readings without a zone, or readings of clocks with fixed
offsets, or not be there at all. Then there is no search for the range if a reading of a clock lies
outside of the calendar, in universal time or on the clock of the mailbox, or if the range stops on
the last day of the calendar. In all other cases there is one, and it may start on the last day. -/
theorem a_range_fails_at_the_limits_only (b : Builder) (s : Session) {start stop : Option Bound}
    (hstart : ∀ bound ∈ start, bound.IsPlain) (hstop : ∀ bound ∈ stop, bound.IsPlain) :
    ((b.build ⟨.value .null, .null, start, stop⟩ s).result = .error (.bound .outOfCalendar) ↔
      (∃ bound ∈ start, bound.IsOutside b.zone.zone) ∨
        ∃ bound ∈ stop, bound.IsOutside b.zone.zone ∨ bound.HasDay b.zone.zone Date.last) ∧
    ((b.build ⟨.value .null, .null, start, stop⟩ s).result = .error (.bound .outOfCalendar) ∨
      ∃ search, (b.build ⟨.value .null, .null, start, stop⟩ s).result = .ok search) ∧
    ∀ bound ∈ start, ¬ bound.IsOutside b.zone.zone → bound.HasDay b.zone.zone Date.last →
      (b.build ⟨.value .null, .null, some bound, none⟩ s).result =
        .ok ("after:" ++ Date.last.format b.dateFormat) := by
  refine ⟨?_, ?_, ?_⟩
  · rw [Builder.result_build_range_eq_error_iff hstart hstop, and_iff_right rfl]
  · rcases hresult : (b.build ⟨.value .null, .null, start, stop⟩ s).result with fault | search
    · left
      rw [((Builder.result_build_range_eq_error_iff hstart hstop).1 hresult).1]
    · exact .inr ⟨search, rfl⟩
  · intro bound hbound hin hlast
    have hday := (Bound.firstDay_eq_ok_iff (hstart bound hbound)).2 ⟨hin, hlast⟩
    rw [Builder.result_build_range, Builder.ending, Builder.startPart]
    simp only [Builder.endPart, Builder.stopPart_none, hday, ok_bind, List.append_nil, List.nil_append]
    exact Builder.joinParts_text _

/-- A mailbox twelve hours behind universal time. -/
def dateLineMail : Builder :=
  ⟨Compiler.standard.map Part.text, ⟨"Etc/GMT+12", .fixed (-43200)⟩, "%Y/%m/%d"⟩

/-- The last wall time of the calendar, in universal time. -/
def lastMoment : Bound := (Moment.fixed WallTime.last 0).bound

theorem a_range_may_start_but_not_stop_on_the_last_day :
    lastMoment.IsPlain ∧ ¬ lastMoment.IsOutside dateLineMail.zone.zone ∧
      lastMoment.HasDay dateLineMail.zone.zone Date.last ∧
      (dateLineMail.build ⟨.value .null, .null, some lastMoment, some lastMoment⟩
        (.initial (.limited 1000 4300))).result = .error (.bound .outOfCalendar) ∧
      (dateLineMail.build ⟨.value .null, .null, some lastMoment, none⟩
        (.initial (.limited 1000 4300))).result =
        .ok ("after:" ++ Date.last.format "%Y/%m/%d") := by
  have hplain : lastMoment.IsPlain := Bound.isPlain_fixed _ _
  have hin : ¬ lastMoment.IsOutside dateLineMail.zone.zone := by
    simp only [lastMoment, Moment.bound, Bound.IsOutside]
    decide
  have hlast : lastMoment.HasDay dateLineMail.zone.zone Date.last :=
    ⟨⟨Date.last, 43199, 999999, by decide, by decide⟩, by decide, rfl⟩
  have hends : ∀ bound ∈ some lastMoment, bound.IsPlain := by
    intro bound hbound
    cases hbound
    exact hplain
  have hlaw := a_range_fails_at_the_limits_only dateLineMail (.initial (.limited 1000 4300)) hends
    hends
  have hlimit := hlaw.1.mpr (.inr ⟨lastMoment, rfl, .inr hlast⟩)
  exact ⟨hplain, hin, hlast, hlimit, hlaw.2.2 lastMoment rfl hin hlast⟩

end MailSearch
