-- Ranges of days. A search from one moment to another names a first day and a day past the last
-- one, on the clock of the mailbox. A message of the time between them has a day from the first
-- one on and before the other one, as long as the clock of the mailbox keeps its days and shows the
-- dates of the ends that are read on it.
import MailSearch.Proofs.BuildSteps
import MailSearch.Proofs.SteadyClock
import MailSearch.Zone.Pacific

namespace MailSearch

/-! ## Moments -/

/-- A reading of a known clock, which stands for an instant. -/
structure Moment where
  time : WallTime
  clock : Clock

namespace Moment

/-- The instant of a moment, in millionths of a second of universal time. -/
def instant (m : Moment) : Int := m.clock.instantOf m.time

/-- The second of universal time in which a moment lies. -/
def utc (m : Moment) : Stamp := m.instant / 1000000

/-- A moment as an end of a range. -/
def bound (m : Moment) : Bound := .instant m.time m.clock

/-- If a moment is read on the clock of the mailbox, then its date is no later one than this clock
shows at its instant. -/
def NotAhead (m : Moment) (mailbox : NamedZone) : Prop :=
  m.clock.isOf mailbox = true → m.time.date.ordinal ≤ (mailbox.zone.clock m.utc).dayNumber

/-- If a moment is read on the clock of the mailbox, then its date is no earlier one than this clock
shows at its instant. -/
def NotBehind (m : Moment) (mailbox : NamedZone) : Prop :=
  m.clock.isOf mailbox = true → (mailbox.zone.clock m.utc).dayNumber ≤ m.time.date.ordinal

/-- A reading that the clock shows, and does not skip, has the right date. -/
theorem dated_of_clock_eq {m : Moment} {mailbox : NamedZone}
    (h : mailbox.zone.clock m.utc = m.time.stamp) :
    m.NotAhead mailbox ∧ m.NotBehind mailbox := by
  unfold NotAhead NotBehind
  rw [h, WallTime.dayNumber_stamp]
  exact ⟨fun _ => le_rfl, fun _ => le_rfl⟩

/-- A reading of the clock of universal time. -/
def universal (time : WallTime) : Moment := ⟨time, .offset 0⟩

theorem instant_universal (time : WallTime) : (universal time).instant = time.micros :=
  Int.sub_zero _

theorem utc_universal (time : WallTime) : (universal time).utc = time.stamp := by
  have := time.micro_lt
  rw [utc, instant_universal, WallTime.micros]
  unfold Stamp
  omega

theorem notAhead_universal (time : WallTime) (mailbox : NamedZone) :
    (universal time).NotAhead mailbox := fun own => by cases own

theorem notBehind_universal (time : WallTime) (mailbox : NamedZone) :
    (universal time).NotBehind mailbox := fun own => by cases own

theorem utc_le_of_instant_le {m later : Moment} (h : m.instant ≤ later.instant) :
    m.utc ≤ later.utc := Int.ediv_le_ediv (by decide) h

end Moment

/-! ## The days of a range -/

namespace Bound

theorem dayAt_eq_ok {z : Zone} {utc : Stamp} {day : Date} (h : dayAt z utc = .ok day) :
    (∃ d, utc.date? = some d) ∧ (z.clock utc).date? = some day := by
  unfold dayAt at h
  split at h
  · contradiction
  · rename_i d hd
    split at h
    · contradiction
    · rename_i d' hd'
      obtain rfl := Except.ok.inj h
      exact ⟨⟨d, hd⟩, hd'⟩

theorem ordinal_of_dayAt {z : Zone} {utc : Stamp} {day : Date} (h : dayAt z utc = .ok day) :
    (day.ordinal : Int) = (z.clock utc).dayNumber :=
  Stamp.ordinal_of_date? (dayAt_eq_ok h).2

theorem firstDay_of_isOf {m : Moment} {mailbox : NamedZone} (h : m.clock.isOf mailbox = true) :
    m.bound.firstDay mailbox = .ok m.time.date := by
  rw [Moment.bound, firstDay, dayOfInstant, if_pos h]

theorem firstDay_of_not_isOf {m : Moment} {mailbox : NamedZone}
    (h : ¬ m.clock.isOf mailbox = true) :
    m.bound.firstDay mailbox = dayAt mailbox.zone m.utc := by
  rw [Moment.bound, firstDay, dayOfInstant, if_neg h]
  rfl

theorem firstDay_universal (mailbox : NamedZone) (time : WallTime) :
    (Moment.universal time).bound.firstDay mailbox = dayAt mailbox.zone time.stamp := by
  have notOwn : ¬ (Moment.universal time).clock.isOf mailbox = true := Bool.false_ne_true
  rw [firstDay_of_not_isOf notOwn, Moment.utc_universal]

theorem pastDay_universal {mailbox : NamedZone} {time : WallTime} {last past : Date}
    (h : dayAt mailbox.zone time.stamp = .ok last) (hnext : last.next? = some past) :
    (Moment.universal time).bound.pastDay mailbox = .ok past := by
  change ((Moment.universal time).bound.firstDay mailbox >>= dayAfter) = _
  rw [firstDay_universal, h, ok_bind, dayAfter, hnext]

/-- The day of a moment is no later one than the clock of the mailbox shows at its instant, exactly
if the moment is not ahead. -/
theorem ordinal_le_iff_notAhead {mailbox : NamedZone} {m : Moment} {day : Date}
    (h : m.bound.firstDay mailbox = .ok day) :
    day.ordinal ≤ (mailbox.zone.clock m.utc).dayNumber ↔ m.NotAhead mailbox := by
  unfold Moment.NotAhead
  by_cases own : m.clock.isOf mailbox = true
  · rw [firstDay_of_isOf own] at h
    obtain rfl := Except.ok.inj h
    simp [own]
  · rw [firstDay_of_not_isOf own] at h
    simp [own, ordinal_of_dayAt h]

theorem le_ordinal_iff_notBehind {mailbox : NamedZone} {m : Moment} {day : Date}
    (h : m.bound.firstDay mailbox = .ok day) :
    (mailbox.zone.clock m.utc).dayNumber ≤ day.ordinal ↔ m.NotBehind mailbox := by
  unfold Moment.NotBehind
  by_cases own : m.clock.isOf mailbox = true
  · rw [firstDay_of_isOf own] at h
    obtain rfl := Except.ok.inj h
    simp [own]
  · rw [firstDay_of_not_isOf own] at h
    simp [own, ordinal_of_dayAt h]

theorem pastDay_eq_ok {mailbox : NamedZone} {b : Bound} {past : Date}
    (h : b.pastDay mailbox = .ok past) :
    ∃ last, b.firstDay mailbox = .ok last ∧ past.ordinal = last.ordinal + 1 := by
  have after : (b.firstDay mailbox >>= dayAfter) = .ok past := by
    cases b with
    | other v => contradiction
    | _ => exact h
  cases hlast : b.firstDay mailbox with
  | error fault => simp [hlast] at after
  | ok last =>
    rw [hlast, ok_bind] at after
    unfold dayAfter at after
    split at after
    · rename_i next hnext
      obtain rfl := Except.ok.inj after
      exact ⟨last, rfl, Date.ordinal_next? hnext⟩
    · contradiction

end Bound

namespace Builder

theorem append_ne_empty {label : String} (h : label ≠ "") (text : String) : label ++ text ≠ "" := by
  simp [h]

theorem joinParts_two_texts {before behind : String} (h : before ≠ "") (h' : behind ≠ "") :
    joinParts [.text before, .text behind] = .ok (before ++ " " ++ behind) := by
  refine (joinParts_map_text [before, behind]).trans ?_
  simp [h, h']

/-- A search for a range alone names its two days. -/
theorem build_range_eq_ok_iff (b : Builder) (start stop : Bound) (s : Session) (search : String) :
    (b.build ⟨.value .null, .null, some start, some stop⟩ s).result = .ok search ↔
      ∃ first past, start.firstDay b.zone = .ok first ∧ stop.pastDay b.zone = .ok past ∧
        search = "after:" ++ first.format b.dateFormat ++ " " ++
          ("before:" ++ past.format b.dateFormat) := by
  rw [result_build_range, ending, startPart, stopPart, endPart, endPart]
  rcases start.firstDay b.zone with fault | first
  · simp
  · rcases stop.pastDay b.zone with fault | past
    · simp
    · have htwo := joinParts_two_texts
        (append_ne_empty (by decide : "after:" ≠ "") (first.format b.dateFormat))
        (append_ne_empty (by decide : "before:" ≠ "") (past.format b.dateFormat))
      simp only [ok_bind, List.nil_append, List.singleton_append, htwo, Except.ok.injEq]
      constructor
      · rintro rfl
        exact ⟨first, past, rfl, rfl, rfl⟩
      · rintro ⟨_, _, rfl, rfl, rfl⟩
        rfl

/-- A search from a start to a stop takes in a message of the time between them: where there is a
search, and the message has a day, it is none before the first day and one before the past day. -/
def Covers (b : Builder) (start message stop : Moment) : Prop :=
  start.instant ≤ message.instant → message.instant ≤ stop.instant →
    ∀ (s : Session) (search : String) (day : Date),
      (b.build ⟨.value .null, .null, some start.bound, some stop.bound⟩ s).result = .ok search →
        Bound.dayAt b.zone.zone message.utc = .ok day →
          ∃ first past, search = "after:" ++ first.format b.dateFormat ++ " " ++
              ("before:" ++ past.format b.dateFormat) ∧
            start.bound.firstDay b.zone = .ok first ∧ stop.bound.pastDay b.zone = .ok past ∧
            ¬ day.Before first ∧ day.Before past

/-- Where the clock of the mailbox keeps its days from the start to the stop, the start is not
ahead, and the stop is not behind, the search takes in all messages. -/
theorem covers_of_keepsDayAt {b : Builder} {start message stop : Moment}
    (keeps : ∀ s, start.utc ≤ s → s < stop.utc → b.zone.zone.KeepsDayAt s)
    (notAhead : start.NotAhead b.zone) (notBehind : stop.NotBehind b.zone) :
    b.Covers start message stop := by
  intro after before s search day hsearch hday
  obtain ⟨first, past, hfirst, hpast, text⟩ := (build_range_eq_ok_iff _ _ _ _ _).1 hsearch
  obtain ⟨last, hlast, next⟩ := Bound.pastDay_eq_ok hpast
  have low := Moment.utc_le_of_instant_le after
  have high := Moment.utc_le_of_instant_le before
  have fromFirst := Zone.dayNumber_clock_le low
    fun s hs hs' => keeps s hs (hs'.trans_le high)
  have toLast := Zone.dayNumber_clock_le high
    fun s hs hs' => keeps s (low.trans hs) hs'
  have atFirst := (Bound.ordinal_le_iff_notAhead hfirst).mpr notAhead
  have atLast := (Bound.le_ordinal_iff_notBehind hlast).mpr notBehind
  have atDay := Bound.ordinal_of_dayAt hday
  refine ⟨first, past, text, hfirst, hpast, ?_, ?_⟩
  · rw [Date.before_iff]
    omega
  · rw [Date.before_iff]
    omega

theorem Covers.between {b : Builder} {start message stop : Moment} {first day past : Date}
    (h : b.Covers start message stop) (after : start.instant ≤ message.instant)
    (before : message.instant ≤ stop.instant) (hfirst : start.bound.firstDay b.zone = .ok first)
    (hday : Bound.dayAt b.zone.zone message.utc = .ok day)
    (hpast : stop.bound.pastDay b.zone = .ok past) : ¬ day.Before first ∧ day.Before past := by
  obtain ⟨first', past', -, hfirst', hpast', inside⟩ :=
    h after before (.initial (.limited 0 0)) _ day
      ((build_range_eq_ok_iff _ _ _ _ _).2 ⟨first, past, hfirst, hpast, rfl⟩) hday
  obtain rfl := Except.ok.inj (hfirst.symm.trans hfirst')
  obtain rfl := Except.ok.inj (hpast.symm.trans hpast')
  exact inside

/-! ## What a range needs -/

/-- A range that takes in a message at its start does not start ahead. -/
theorem notAhead_of_covers {b : Builder} {start stop : Moment} {first past day : Date}
    (covers : b.Covers start start stop) (inOrder : start.instant ≤ stop.instant)
    (hfirst : start.bound.firstDay b.zone = .ok first)
    (hpast : stop.bound.pastDay b.zone = .ok past)
    (hday : Bound.dayAt b.zone.zone start.utc = .ok day) : start.NotAhead b.zone := by
  have inside := covers.between le_rfl inOrder hfirst hday hpast
  rw [Date.before_iff] at inside
  rw [← Bound.ordinal_le_iff_notAhead hfirst, ← Bound.ordinal_of_dayAt hday]
  omega

/-- A range that takes in a message at its end does not end behind. -/
theorem notBehind_of_covers {b : Builder} {start stop : Moment} {first past day : Date}
    (covers : b.Covers start stop stop) (inOrder : start.instant ≤ stop.instant)
    (hfirst : start.bound.firstDay b.zone = .ok first)
    (hpast : stop.bound.pastDay b.zone = .ok past)
    (hday : Bound.dayAt b.zone.zone stop.utc = .ok day) : stop.NotBehind b.zone := by
  have inside := covers.between inOrder le_rfl hfirst hday hpast
  obtain ⟨last, hlast, next⟩ := Bound.pastDay_eq_ok hpast
  rw [Date.before_iff, Date.before_iff] at inside
  rw [← Bound.le_ordinal_iff_notBehind hlast, ← Bound.ordinal_of_dayAt hday]
  omega

/-- A clock that is set back to an earlier day leaves messages out: only if the next second does
not lead back do ranges of universal time take in their messages. -/
theorem keepsDayAt_of_covers {b : Builder} {s : Stamp} {first last : Date}
    (covers : ∀ start stop, b.Covers (.universal start) (.universal stop) (.universal stop))
    (hfirst : Bound.dayAt b.zone.zone s = .ok first)
    (hlast : Bound.dayAt b.zone.zone (s + 1) = .ok last) (hnext : last.next?.isSome) :
    b.zone.zone.KeepsDayAt s := by
  obtain ⟨⟨d, hd⟩, -⟩ := Bound.dayAt_eq_ok hfirst
  obtain ⟨⟨d', hd'⟩, -⟩ := Bound.dayAt_eq_ok hlast
  obtain ⟨start, rfl, startMicro⟩ := Stamp.exists_wallTime hd
  obtain ⟨stop, hstop, stopMicro⟩ := Stamp.exists_wallTime hd'
  obtain ⟨past, hpast⟩ := Option.isSome_iff_exists.1 hnext
  rw [← hstop] at hlast
  have inOrder : (Moment.universal start).instant ≤ (Moment.universal stop).instant := by
    rw [Moment.instant_universal, Moment.instant_universal, WallTime.micros, WallTime.micros, hstop,
      startMicro, stopMicro]
    unfold Stamp
    omega
  have inside := (covers start stop).between inOrder le_rfl
    ((Bound.firstDay_universal _ _).trans hfirst) (by rwa [Moment.utc_universal])
    (Bound.pastDay_universal hlast hpast)
  have notBefore := inside.1
  rw [Date.before_iff] at notBefore
  unfold Zone.KeepsDayAt
  rw [← Bound.ordinal_of_dayAt hfirst, ← hstop, ← Bound.ordinal_of_dayAt hlast]
  omega

end Builder

/-- The days of a range take in its messages, with any zone at all, if the clock of the mailbox is
not set back to an earlier day from the start to the stop, the start is not ahead of its day, and
the stop is not behind its day. All of this is needed. A range with two days that takes in its
messages neither starts ahead nor ends behind, as far as its ends have days on that clock. And if
all ranges of universal time take in their messages, then no second within the calendar leads the
clock back. -/
theorem a_range_takes_in_its_messages (b : Builder) :
    (∀ start stop : Moment,
      (∀ s, start.utc ≤ s → s < stop.utc → b.zone.zone.KeepsDayAt s) →
        start.NotAhead b.zone → stop.NotBehind b.zone →
          ∀ message, b.Covers start message stop) ∧
    (∀ (start stop : Moment) (first past startDay stopDay : Date),
      start.instant ≤ stop.instant → start.bound.firstDay b.zone = .ok first →
        stop.bound.pastDay b.zone = .ok past → Bound.dayAt b.zone.zone start.utc = .ok startDay →
          Bound.dayAt b.zone.zone stop.utc = .ok stopDay →
            (∀ message, b.Covers start message stop) →
              start.NotAhead b.zone ∧ stop.NotBehind b.zone) ∧
    ∀ (s : Stamp) (day nextDay : Date),
      Bound.dayAt b.zone.zone s = .ok day → Bound.dayAt b.zone.zone (s + 1) = .ok nextDay →
        nextDay.next?.isSome →
          (∀ start stop message : WallTime,
            b.Covers (.universal start) (.universal message) (.universal stop)) →
            b.zone.zone.KeepsDayAt s := by
  refine ⟨?_, ?_, ?_⟩
  · exact fun start stop keeps ahead behind message =>
      Builder.covers_of_keepsDayAt keeps ahead behind
  · intro start stop first past startDay stopDay inOrder hfirst hpast hstart hstop covers
    exact ⟨Builder.notAhead_of_covers (covers start) inOrder hfirst hpast hstart,
      Builder.notBehind_of_covers (covers stop) inOrder hfirst hpast hstop⟩
  · intro s day nextDay hday hnextDay hnext covers
    exact Builder.keepsDayAt_of_covers (fun start stop => covers start stop stop) hday hnextDay
      hnext

/-! ## Over the date line -/

/-- A mailbox on Kiritimati, where the last day of the year 1994 was skipped. -/
def kiritimatiMail : Builder :=
  ⟨Compiler.standard.map Part.text, ⟨"Pacific/Kiritimati", OffsetTable.kiritimati.zone⟩, "%Y/%m/%d"⟩

/-- Half an hour before the skipped day, on the clock of the mailbox. -/
def beforeTheSkip : Moment :=
  ⟨⟨⟨1994, 12, 30, by decide⟩, 84600, 0, by decide, by decide⟩, .zone kiritimatiMail.zone false⟩

/-- Half an hour after the skipped day, on the clock of the mailbox. -/
def afterTheSkip : Moment :=
  ⟨⟨⟨1995, 1, 1, by decide⟩, 1800, 0, by decide, by decide⟩, .zone kiritimatiMail.zone false⟩

/-- The instant between them at which the clock goes ahead by a day. -/
def atTheSkip : Moment :=
  .universal ⟨⟨1994, 12, 31, by decide⟩, 36000, 0, by decide, by decide⟩

theorem a_range_over_a_skipped_day_takes_in_its_messages :
    ∃ search first past day,
      beforeTheSkip.instant ≤ atTheSkip.instant ∧ atTheSkip.instant ≤ afterTheSkip.instant ∧
      (kiritimatiMail.build
        ⟨.value .null, .null, some beforeTheSkip.bound, some afterTheSkip.bound⟩
        (.initial (.limited 1000 4300))).result = .ok search ∧
      beforeTheSkip.bound.firstDay kiritimatiMail.zone = .ok first ∧
      afterTheSkip.bound.pastDay kiritimatiMail.zone = .ok past ∧
      Bound.dayAt kiritimatiMail.zone.zone atTheSkip.utc = .ok day ∧
      ¬ day.Before first ∧ day.Before past ∧
      beforeTheSkip.NotAhead kiritimatiMail.zone ∧ afterTheSkip.NotBehind kiritimatiMail.zone ∧
      kiritimatiMail.zone.zone.KeepsDayAt (atTheSkip.utc - 1) := by
  have hfirst : beforeTheSkip.bound.firstDay kiritimatiMail.zone = .ok ⟨1994, 12, 30, by decide⟩ :=
    eq_ok_iff_toOption.2 (by decide +kernel)
  have hpast : afterTheSkip.bound.pastDay kiritimatiMail.zone = .ok ⟨1995, 1, 2, by decide⟩ :=
    eq_ok_iff_toOption.2 (by decide +kernel)
  have hday : Bound.dayAt kiritimatiMail.zone.zone atTheSkip.utc = .ok ⟨1995, 1, 1, by decide⟩ :=
    eq_ok_iff_toOption.2 (by decide +kernel)
  have hstart : Bound.dayAt kiritimatiMail.zone.zone beforeTheSkip.utc =
      .ok ⟨1994, 12, 30, by decide⟩ := eq_ok_iff_toOption.2 (by decide +kernel)
  have hstop : Bound.dayAt kiritimatiMail.zone.zone afterTheSkip.utc =
      .ok ⟨1995, 1, 1, by decide⟩ := eq_ok_iff_toOption.2 (by decide +kernel)
  have hbefore : Bound.dayAt kiritimatiMail.zone.zone (atTheSkip.utc - 1) =
      .ok ⟨1994, 12, 30, by decide⟩ := eq_ok_iff_toOption.2 (by decide +kernel)
  have after : beforeTheSkip.instant ≤ atTheSkip.instant := by decide +kernel
  have before : atTheSkip.instant ≤ afterTheSkip.instant := by decide +kernel
  have hday' : Bound.dayAt kiritimatiMail.zone.zone (atTheSkip.utc - 1 + 1) =
      .ok ⟨1995, 1, 1, by decide⟩ :=
    (congrArg (Bound.dayAt _) (Int.sub_add_cancel atTheSkip.utc 1)).trans hday
  have dated : kiritimatiMail.zone.zone.clock beforeTheSkip.utc = beforeTheSkip.time.stamp := by
    decide +kernel
  have dated' : kiritimatiMail.zone.zone.clock afterTheSkip.utc = afterTheSkip.time.stamp := by
    decide +kernel
  -- the table of the zone is looked through once, and tells of all seconds
  have keeps : ∀ s, kiritimatiMail.zone.zone.KeepsDayAt s :=
    OffsetTable.keepsDayAt_of_changesKeepDays (by decide +kernel)
  obtain ⟨enough, needed, kept⟩ := a_range_takes_in_its_messages kiritimatiMail
  have covers := enough beforeTheSkip afterTheSkip (fun s _ _ => keeps s)
    (Moment.dated_of_clock_eq dated).1 (Moment.dated_of_clock_eq dated').2
  have universal : ∀ start stop message : WallTime, kiritimatiMail.Covers (.universal start)
      (.universal message) (.universal stop) := fun start stop message =>
    enough _ _ (fun s _ _ => keeps s) (Moment.notAhead_universal start _)
      (Moment.notBehind_universal stop _) _
  obtain ⟨inside, inside'⟩ := (covers atTheSkip).between after before hfirst hday hpast
  obtain ⟨notAhead, notBehind⟩ := needed _ _ _ _ _ _ (after.trans before) hfirst hpast hstart hstop
    covers
  exact ⟨_, _, _, _, after, before,
    (Builder.build_range_eq_ok_iff _ _ _ _ _).2 ⟨_, _, hfirst, hpast, rfl⟩, hfirst, hpast, hday,
    inside, inside', notAhead, notBehind,
    kept _ _ _ hbefore hday' (by decide +kernel) universal⟩

/-! ## What falls outside -/

/-- A mailbox in Apia, where the thirtieth of December of 2011 was skipped. -/
def apiaMail : Builder :=
  ⟨Compiler.standard.map Part.text, ⟨"Pacific/Apia", OffsetTable.apia.zone⟩, "%Y/%m/%d"⟩

/-- A day before the noon that was skipped. -/
def noonBefore : Moment :=
  .universal ⟨⟨2011, 12, 29, by decide⟩, 43200, 0, by decide, by decide⟩

/-- The noon that was skipped. -/
def skippedNoon : Moment :=
  ⟨⟨⟨2011, 12, 30, by decide⟩, 43200, 0, by decide, by decide⟩, .zone apiaMail.zone false⟩

/-- A mailbox in a zone whose clock was set back by an hour one minute past midnight, to the day
before. -/
def stJohnsMail : Builder :=
  ⟨Compiler.standard.map Part.text,
    ⟨"America/St_Johns", OffsetTable.zone ⟨-9000, [(1289097060, -12600)], none⟩⟩, "%Y/%m/%d"⟩

/-- Half a minute before the clock is set back. -/
def pastMidnight : Moment :=
  .universal ⟨⟨2010, 11, 7, by decide⟩, 9030, 0, by decide, by decide⟩

/-- Nine minutes after the clock was set back. -/
def againBeforeMidnight : Moment :=
  .universal ⟨⟨2010, 11, 7, by decide⟩, 9600, 0, by decide, by decide⟩

/-- A reading that the clock of the mailbox skipped keeps its date, which may be a day before the
day of its instant. And a clock that is set back to an earlier day shows days that are before the
first day of the range. -/
theorem a_range_may_leave_out_its_messages :
    ¬ apiaMail.Covers noonBefore skippedNoon skippedNoon ∧
      ¬ stJohnsMail.Covers pastMidnight againBeforeMidnight againBeforeMidnight := by
  constructor
  · intro covers
    have hfirst : noonBefore.bound.firstDay apiaMail.zone = .ok ⟨2011, 12, 29, by decide⟩ :=
      eq_ok_iff_toOption.2 (by decide +kernel)
    have hday : Bound.dayAt apiaMail.zone.zone skippedNoon.utc = .ok ⟨2011, 12, 31, by decide⟩ :=
      eq_ok_iff_toOption.2 (by decide +kernel)
    have hpast : skippedNoon.bound.pastDay apiaMail.zone = .ok ⟨2011, 12, 31, by decide⟩ :=
      eq_ok_iff_toOption.2 (by decide +kernel)
    have inside := covers.between (by decide +kernel) le_rfl hfirst hday hpast
    exact absurd inside.2 (by decide)
  · intro covers
    have hfirst : pastMidnight.bound.firstDay stJohnsMail.zone = .ok ⟨2010, 11, 7, by decide⟩ :=
      eq_ok_iff_toOption.2 (by decide +kernel)
    have hday : Bound.dayAt stJohnsMail.zone.zone againBeforeMidnight.utc =
        .ok ⟨2010, 11, 6, by decide⟩ :=
      eq_ok_iff_toOption.2 (by decide +kernel)
    have hpast : againBeforeMidnight.bound.pastDay stJohnsMail.zone =
        .ok ⟨2010, 11, 7, by decide⟩ :=
      eq_ok_iff_toOption.2 (by decide +kernel)
    have inside := covers.between (by decide +kernel) le_rfl hfirst hday hpast
    exact absurd (by decide) inside.1

end MailSearch
