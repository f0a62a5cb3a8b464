-- Ranges of days, one behind the other. The text that one range ends before is the text that the
-- next one begins after, whatever the date format is, so no day between them is lost and none comes
-- twice. In the default format the texts can be read back, and the days of a range be counted.
import MailSearch.Proofs.CalendarLimits
import MailSearch.Proofs.WrittenDays
import Mathlib.Data.Set.Card
import Mathlib.Order.Interval.Finset.Nat

namespace MailSearch

/-! ## The days from one day on and before another one -/

namespace Date

/-- The days from a first one on that are before another one. -/
def span (first past : Date) : Set Date := {d | ¬ d.Before first ∧ d.Before past}

/-- There is one day for each number from that of the first day on. -/
theorem image_ordinal_span (first past : Date) :
    ordinal '' span first past = Finset.Ico first.ordinal past.ordinal := by
  ext n
  simp only [span, Set.mem_image, Set.mem_ofPred_eq, before_iff, Finset.coe_Ico, Set.mem_Ico]
  constructor
  · rintro ⟨d, ⟨hfirst, hpast⟩, rfl⟩
    exact ⟨by omega, hpast⟩
  · rintro ⟨hfirst, hpast⟩
    have := first.one_le_ordinal
    have := past.ordinal_le_last
    obtain ⟨d, hd⟩ := exists_ofOrdinal? (n := n) (by omega) (by omega)
    have hordinal : (d.ordinal : Int) = n := ofOrdinal?_eq_some_iff.1 hd
    exact ⟨d, by omega, by omega⟩

theorem ncard_span (first past : Date) :
    (span first past).ncard = past.ordinal - first.ordinal := by
  have hinjective : Function.Injective ordinal := fun _ _ => eq_of_ordinal_eq
  rw [← Set.ncard_image_of_injective _ hinjective, image_ordinal_span, Set.ncard_coe_finset,
    Nat.card_Ico]

end Date

/-! ## Searches for days -/

namespace Builder

/-- The search for the days from a first one to a last one. -/
def searchDays (b : Builder) (s : Session) (first last : Date) : Except BuildFault String :=
  (b.build ⟨.value .null, .null, some (.day first), some (.day last)⟩ s).result

/-- A search with its two days as they are written. -/
def between (after before : String) : String := "after:" ++ after ++ " " ++ ("before:" ++ before)

/-- A search for days names the first one, and the one that follows the last one. -/
theorem searchDays_eq_ok_iff {b : Builder} {s : Session} {first last : Date} {search : String} :
    b.searchDays s first last = .ok search ↔
      ∃ past : Date, past.Follows last ∧
        search = between (first.format b.dateFormat) (past.format b.dateFormat) := by
  have hpast (past : Date) :
      (Bound.day last).pastDay b.zone = .ok past ↔ past.Follows last := by
    rw [Bound.pastDay_of_isPlain (Bound.isPlain_day last), Bound.firstDay, ok_bind,
      Bound.dayAfter_eq_ok_iff]
  unfold searchDays between
  rw [build_range_eq_ok_iff]
  constructor
  · rintro ⟨_, past, hfirst, hstop, rfl⟩
    cases hfirst
    exact ⟨past, (hpast past).1 hstop, rfl⟩
  · rintro ⟨past, hfollows, rfl⟩
    exact ⟨first, past, rfl, (hpast past).2 hfollows, rfl⟩

/-- Two ranges join: the second one starts on the day after the last one of the first, and the text
that the first one ends before is the text that the second one begins after. -/
def Joins (b : Builder) (s : Session) (first middle last : Date) : Prop :=
  ∃ (next past : Date) (text : String), next.Follows middle ∧ past.Follows last ∧
    b.searchDays s first middle = .ok (between (first.format b.dateFormat) text) ∧
    b.searchDays s next last = .ok (between text (past.format b.dateFormat))

theorem joins (b : Builder) (s : Session) (first : Date) {middle last : Date}
    (h : middle ≠ Date.last) (h' : last ≠ Date.last) : b.Joins s first middle last := by
  obtain ⟨next, hnext⟩ := Date.exists_follows h
  obtain ⟨past, hpast⟩ := Date.exists_follows h'
  exact ⟨next, past, next.format b.dateFormat, hnext, hpast,
    searchDays_eq_ok_iff.2 ⟨next, hnext, rfl⟩, searchDays_eq_ok_iff.2 ⟨past, hpast, rfl⟩⟩

end Builder

/-! ## The law -/

/-- Ranges of days, one behind the other, join in every date format, if the second one does not stop
on the last day of the calendar. In the default format different days have different texts, the text
that a range ends before is that of the day which follows its last one, and from the first day on
and before that day there are as many days as their numbers tell. -/
theorem ranges_of_days_join (b : Builder) (s : Session) :
    (∀ first middle last : Date, ¬ middle.Before first → middle.Before last → last ≠ Date.last →
      b.Joins s first middle last) ∧
    (∀ d other : Date, d.format Setting.dateFormat.default =
      other.format Setting.dateFormat.default → d = other) ∧
    (b.dateFormat = Setting.dateFormat.default →
      ∀ first last : Date, ¬ last.Before first → last ≠ Date.last →
        ∃ (next : Date) (text : String),
          b.searchDays s first last = .ok (Builder.between (first.format b.dateFormat) text) ∧
          Date.read? text = some next ∧ next.Follows last ∧
          (Date.span first next).ncard = last.ordinal - first.ordinal + 1) := by
  refine ⟨?_, ?_, ?_⟩
  · intro first middle last _ hbefore hlast
    exact b.joins s first (Date.ne_last_of_before hbefore) hlast
  · intro d other htext
    have hread := Date.read?_format other
    rw [← htext, Date.read?_format] at hread
    exact Option.some.inj hread
  · intro hformat first last hfirst hlast
    obtain ⟨next, hnext⟩ := Date.exists_follows hlast
    rw [Date.before_iff] at hfirst
    refine ⟨next, next.format b.dateFormat, Builder.searchDays_eq_ok_iff.2 ⟨next, hnext, rfl⟩, ?_,
      hnext, ?_⟩
    · rw [hformat, Date.read?_format]
    · rw [Date.ncard_span, hnext.ordinal]
      omega

/-- A mailbox in universal time, with days in the default format. -/
def universalMail : Builder :=
  ⟨Compiler.standard.map Part.text, ⟨"UTC", .fixed 0⟩, Setting.dateFormat.default⟩

/-- A century that begins without a leap day. -/
theorem the_days_from_new_year_to_a_february_without_leap_day :
    let newYear : Date := ⟨2100, 1, 1, by decide⟩
    let february : Date := ⟨2100, 2, 28, by decide⟩
    let march : Date := ⟨2100, 3, 1, by decide⟩
    let s := Session.initial (.limited 1000 4300)
    ¬ february.Before newYear ∧ february.Before march ∧ march ≠ Date.last ∧
      universalMail.dateFormat = Setting.dateFormat.default ∧
      universalMail.Joins s newYear february march ∧
      (∃ text, universalMail.searchDays s newYear february =
          .ok (Builder.between (newYear.format universalMail.dateFormat) text) ∧
        Date.read? text = some march) ∧
      (Date.span newYear march).ncard = 59 := by
  intro newYear february march s
  have hfirst : ¬ february.Before newYear := by decide
  have hbefore : february.Before march := by decide
  have hlast : march ≠ Date.last := by decide
  obtain ⟨hjoins, -, hdefault⟩ := ranges_of_days_join universalMail s
  obtain ⟨next, text, hsearch, hread, hfollows, hcount⟩ :=
    hdefault rfl newYear february hfirst (by decide)
  obtain rfl : next = march := hfollows.unique (by decide)
  have hnumbers : february.ordinal - newYear.ordinal + 1 = 59 := by decide
  exact ⟨hfirst, hbefore, hlast, rfl, hjoins _ _ _ hfirst hbefore hlast, ⟨text, hsearch, hread⟩,
    hcount.trans hnumbers⟩

/-- Up to the last day of the calendar there is no range: no day follows it that the search could
end before. -/
theorem no_range_joins_up_to_the_last_day :
    let eve : Date := ⟨9999, 12, 30, by decide⟩
    let s := Session.initial (.limited 1000 4300)
    ¬ eve.Before eve ∧ eve.Before Date.last ∧ Date.last.Follows eve ∧
      universalMail.searchDays s Date.last Date.last = .error (.bound .outOfCalendar) ∧
      ¬ universalMail.Joins s eve eve Date.last := by
  refine ⟨by decide, by decide, by decide, ?_, ?_⟩
  · have hlast : ∀ bound ∈ some (Bound.day Date.last), bound.IsPlain := by
      rintro bound ⟨⟩
      exact Bound.isPlain_day _
    exact (Builder.result_build_range_eq_error_iff hlast hlast).2
      ⟨rfl, .inr ⟨.day Date.last, rfl, .inr rfl⟩⟩
  · rintro ⟨next, past, text, -, hpast, -⟩
    exact Date.not_follows_last past hpast

end MailSearch
