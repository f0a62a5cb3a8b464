-- The days of the calendar, one after another. Every number from one to that of the last day is the
-- number of exactly one day, and the day with the next number is the one that follows in its month,
-- or else the first one of the next month or of the next year.
import MailSearch.Proofs.DayNumbers

namespace MailSearch

namespace Date

/-! ## From days to numbers and back -/

theorem eq_of_ordinal_eq {d other : Date} (h : d.ordinal = other.ordinal) : d = other := by
  have hnot : ¬ d.Before other := by
    rw [before_iff]
    omega
  have hnot' : ¬ other.Before d := by
    rw [before_iff]
    omega
  obtain ⟨year, month, day, _⟩ := d
  obtain ⟨year', month', day', _⟩ := other
  simp only [Before, not_or, not_and] at hnot hnot'
  simp only [mk.injEq]
  omega

/-- A day that is counted off in a row of months lies in one of them. -/
theorem monthAndDay_bounds {lengths : List Nat} {n : Nat} (h : 1 ≤ n)
    (h' : n ≤ lengths.foldr (· + ·) 0) :
    (monthAndDay lengths n).1 ≤ lengths.length ∧ 1 ≤ (monthAndDay lengths n).2 ∧
      (monthAndDay lengths n).2 ≤ lengths.getD ((monthAndDay lengths n).1 - 1) 0 := by
  induction lengths generalizing n with
  | nil =>
    rw [List.foldr_nil] at h'
    omega
  | cons length rest ih =>
    rw [List.foldr_cons] at h'
    unfold monthAndDay
    split
    · rename_i hfirst
      exact ⟨by simp, h, by simpa using hfirst⟩
    · obtain ⟨hmonth, hday, hday'⟩ := ih (n := n - length) (by omega) (by omega)
      obtain ⟨month, hm⟩ := Nat.exists_eq_add_of_le' (monthAndDay_law rest (n - length)).1
      simp only [hm, Nat.add_sub_cancel] at hmonth hday' ⊢
      exact ⟨by simpa using hmonth, hday, by simpa using hday'⟩

theorem sum_monthLengths (year : Nat) :
    (monthLengths year).foldr (· + ·) 0 = if isLeapYear year then 366 else 365 :=
  daysBeforeMonth_thirteen year

/-- Every number from one to the last one is that of a day. -/
theorem exists_ofOrdinal? {n : Int} (h : 1 ≤ n) (h' : n ≤ lastOrdinal) :
    ∃ d, ofOrdinal? n = some d := by
  obtain ⟨hyear, before, upTo⟩ := yearOfOrdinal_bounds (n := n.toNat) (by omega)
  generalize hy : yearOfOrdinal n.toNat = year at hyear before upTo
  have hlast : year ≤ lastYear := by
    by_contra hlate
    have : lastOrdinal ≤ daysBeforeYear year := daysBeforeYear_mono (by omega)
    omega
  have hin : n.toNat - daysBeforeYear year ≤ (monthLengths year).foldr (· + ·) 0 := by
    obtain ⟨past, rfl⟩ := Nat.exists_eq_add_of_le' hyear
    rw [daysBeforeYear_succ] at upTo
    rw [sum_monthLengths]
    omega
  obtain ⟨hmonth, hday, hday'⟩ := monthAndDay_bounds (by omega) hin
  have hdate : IsDate year (monthAndDay (monthLengths year) (n.toNat - daysBeforeYear year)).1
      (monthAndDay (monthLengths year) (n.toNat - daysBeforeYear year)).2 :=
    ⟨hyear, hlast, (monthAndDay_law _ _).1, hmonth, hday, hday'⟩
  unfold ofOrdinal?
  simp only [hy]
  rw [if_pos ⟨h, h'⟩, ofParts?, dif_pos hdate]
  exact ⟨_, rfl⟩

theorem one_le_ordinal (d : Date) : 1 ≤ d.ordinal :=
  Nat.one_le_of_lt d.ordinal_bounds.1

theorem ordinal_le_last (d : Date) : d.ordinal ≤ lastOrdinal := by
  have hyear : d.year + 1 ≤ lastYear + 1 := Nat.succ_le_succ d.isDate.2.1
  exact d.ordinal_bounds.2.trans (daysBeforeYear_mono hyear)

/-- The day with a number is the one that has this number. -/
theorem ofOrdinal?_eq_some_iff {n : Int} {d : Date} :
    ofOrdinal? n = some d ↔ (d.ordinal : Int) = n := by
  refine ⟨ordinal_of_ofOrdinal?, ?_⟩
  rintro rfl
  have := d.one_le_ordinal
  have := d.ordinal_le_last
  obtain ⟨other, hother⟩ := exists_ofOrdinal? (n := d.ordinal) (by omega) (by omega)
  have hsame : other.ordinal = d.ordinal := by
    have := ordinal_of_ofOrdinal? hother
    omega
  rw [hother, eq_of_ordinal_eq hsame]

theorem ofOrdinal?_eq_none_iff {n : Int} : ofOrdinal? n = none ↔ n < 1 ∨ lastOrdinal < n := by
  constructor
  · intro hnone
    by_contra hin
    obtain ⟨d, hd⟩ := exists_ofOrdinal? (n := n) (by omega) (by omega)
    rw [hnone] at hd
    cases hd
  · intro hout
    unfold ofOrdinal?
    exact if_neg (by omega)

/-! ## The day after -/

/-- One day follows another one: it is the next one of the same month, or it is the first one of the
next month, of this year or of the next, and the other day is the last one of its month. -/
def Follows (next d : Date) : Prop :=
  next.year = d.year ∧ next.month = d.month ∧ next.day = d.day + 1 ∨
    d.day = daysInMonth d.year d.month ∧ next.day = 1 ∧
      (next.year = d.year ∧ next.month = d.month + 1 ∨
        next.year = d.year + 1 ∧ d.month = 12 ∧ next.month = 1)

instance (next d : Date) : Decidable (next.Follows d) := by
  unfold Follows; infer_instance

theorem Follows.ordinal {next d : Date} (h : next.Follows d) : next.ordinal = d.ordinal + 1 := by
  obtain ⟨hyear, -, hmonth, hmonth', -⟩ := d.isDate
  unfold Date.ordinal dayOfYear
  rcases h with ⟨sameYear, sameMonth, hday⟩ | ⟨hlast, hfirst, ⟨sameYear, nextMonth⟩ | hnext⟩
  · rw [sameYear, sameMonth, hday]
    omega
  · rw [sameYear, nextMonth, hfirst, hlast, daysBeforeMonth_succ d.year hmonth hmonth']
    omega
  · obtain ⟨nextYear, december, january⟩ := hnext
    have length : daysBeforeMonth d.year 12 + daysInMonth d.year 12 =
        if isLeapYear d.year then 366 else 365 := by
      rw [← daysBeforeMonth_succ d.year (by omega) le_rfl, daysBeforeMonth_thirteen]
    obtain ⟨past, hpast⟩ := Nat.exists_eq_add_of_le' hyear
    have begins : daysBeforeYear (d.year + 1) =
        daysBeforeYear d.year + if isLeapYear d.year then 366 else 365 := by
      rw [hpast, daysBeforeYear_succ]
    have newYear : daysBeforeMonth (d.year + 1) 1 = 0 := rfl
    rw [nextYear, january, hfirst, hlast, december, begins, newYear]
    omega

theorem Follows.unique {next other d : Date} (h : next.Follows d) (h' : other.Follows d) :
    next = other :=
  eq_of_ordinal_eq (h.ordinal.trans h'.ordinal.symm)

/-- The last day of the calendar. -/
def last : Date := ⟨lastYear, 12, 31, by decide⟩

theorem ordinal_last : last.ordinal = lastOrdinal := by decide

theorem ne_last_of_before {d later : Date} (h : d.Before later) : d ≠ last := by
  rintro rfl
  have := later.ordinal_le_last
  rw [before_iff, ordinal_last] at h
  omega

theorem not_follows_last (next : Date) : ¬ next.Follows last := by
  intro hfollows
  have := hfollows.ordinal
  have := next.ordinal_le_last
  rw [ordinal_last] at *
  omega

/-- Every day but the last one is followed by a day. -/
theorem exists_follows {d : Date} (h : d ≠ last) : ∃ next : Date, next.Follows d := by
  obtain ⟨hyear, hyear', hmonth, hmonth', hday, hday'⟩ := d.isDate
  by_cases inMonth : d.day < daysInMonth d.year d.month
  · exact ⟨⟨d.year, d.month, d.day + 1, hyear, hyear', hmonth, hmonth', by omega, inMonth⟩,
      .inl ⟨rfl, rfl, rfl⟩⟩
  have endOfMonth : d.day = daysInMonth d.year d.month := by omega
  by_cases inYear : d.month < 12
  · have length := daysInMonth_bounds d.year (d.month + 1) (by omega) inYear
    exact ⟨⟨d.year, d.month + 1, 1, hyear, hyear', by omega, inYear, le_rfl, by omega⟩,
      .inr ⟨endOfMonth, rfl, .inl ⟨rfl, rfl⟩⟩⟩
  have december : d.month = 12 := by omega
  have inCalendar : d.year < lastYear := by
    by_contra hlate
    apply h
    have hlast : d.year = lastYear := by omega
    obtain ⟨year, month, day, _⟩ := d
    simp only at hlast december endOfMonth
    subst hlast december endOfMonth
    rfl
  have length := daysInMonth_bounds (d.year + 1) 1 le_rfl (by omega)
  exact ⟨⟨d.year + 1, 1, 1, by omega, inCalendar, le_rfl, by omega, le_rfl, by omega⟩,
    .inr ⟨endOfMonth, rfl, .inr ⟨rfl, december, rfl⟩⟩⟩

/-- The day with the next number is the day that follows. -/
theorem next?_eq_some_iff {d next : Date} : d.next? = some next ↔ next.Follows d := by
  unfold next?
  rw [ofOrdinal?_eq_some_iff]
  constructor
  · intro hnumber
    have notLast : d ≠ last := by
      rintro rfl
      have := next.ordinal_le_last
      rw [ordinal_last] at hnumber
      omega
    obtain ⟨other, hother⟩ := exists_follows notLast
    have hsame : next.ordinal = other.ordinal := by
      rw [hother.ordinal]
      omega
    rw [eq_of_ordinal_eq hsame]
    exact hother
  · intro hfollows
    rw [hfollows.ordinal]
    omega

theorem next?_eq_none_iff {d : Date} : d.next? = none ↔ d = last := by
  unfold next?
  rw [ofOrdinal?_eq_none_iff, ← ordinal_last]
  have hle := d.ordinal_le_last
  rw [← ordinal_last] at hle
  constructor
  · intro hout
    exact eq_of_ordinal_eq (by omega)
  · rintro rfl
    omega

end Date

end MailSearch
