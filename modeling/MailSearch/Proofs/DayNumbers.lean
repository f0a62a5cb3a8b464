-- Days and their numbers. The day with a number has that number, so that days stand in the order
-- of their numbers, and the year of a stamp is the one whose days it lies in.
import Mathlib.Algebra.Order.Group.Nat
import Mathlib.Tactic.IntervalCases
import Mathlib.Tactic.SplitIfs
import MailSearch.Calendar.WallTime

namespace MailSearch

/-! ## Years -/

theorem daysBeforeYear_succ (past : Nat) :
    daysBeforeYear (past + 2) =
      daysBeforeYear (past + 1) + if isLeapYear (past + 1) then 366 else 365 := by
  have less : past / 100 ≤ past / 4 := by omega
  simp only [daysBeforeYear, isLeapYear, decide_eq_true_eq, Nat.add_sub_cancel,
    show past + 2 - 1 = past + 1 from rfl, Nat.succ_div, Nat.dvd_iff_mod_eq_zero]
  -- the quotients are at most one larger than before, by the remainders that the leap year asks for
  generalize past / 4 = fours, past / 100 = hundreds, past / 400 = fourHundreds at *
  split_ifs <;> omega

theorem daysBeforeYear_lt_succ {year : Nat} (h : 1 ≤ year) :
    daysBeforeYear year + 365 ≤ daysBeforeYear (year + 1) := by
  obtain ⟨past, rfl⟩ := Nat.exists_eq_add_of_le' h
  rw [daysBeforeYear_succ]
  split <;> omega

theorem daysBeforeYear_mono {year later : Nat} (h : year ≤ later) :
    daysBeforeYear year ≤ daysBeforeYear later := by
  induction later, h using Nat.le_induction with
  | base => exact Nat.le_refl _
  | succ later _ ih =>
    refine ih.trans ?_
    rcases Nat.eq_zero_or_pos later with rfl | hpos
    · exact Nat.le_refl _
    · exact Nat.le_of_add_right_le (daysBeforeYear_lt_succ hpos)

/-- A year has 365.2425 days in the mean, and about that many days go by before a year for each
year before it. -/
theorem daysBeforeYear_near (past : Nat) :
    146097 * past ≤ 400 * daysBeforeYear (past + 1) + 699 ∧
      400 * daysBeforeYear (past + 1) ≤ 146097 * past + 396 := by
  simp only [daysBeforeYear, Nat.add_sub_cancel]
  omega

namespace Date

/-- The year of a day number is the one among whose days it is. -/
theorem yearOfOrdinal_bounds {n : Nat} (h : 1 ≤ n) :
    1 ≤ yearOfOrdinal n ∧ daysBeforeYear (yearOfOrdinal n) < n ∧
      n ≤ daysBeforeYear (yearOfOrdinal n + 1) := by
  obtain ⟨guess, hguess⟩ : ∃ guess, (n - 1) * 400 / 146097 = guess := ⟨_, rfl⟩
  unfold yearOfOrdinal
  simp only [hguess]
  split
  · rename_i early
    -- the guess is too late, and the year before it begins early enough
    cases guess with
    | zero => exact absurd early (by rw [daysBeforeYear]; omega)
    | succ guess =>
      have := daysBeforeYear_near guess
      exact ⟨by omega, by simp only [Nat.add_sub_cancel]; omega, early⟩
  · split
    · rename_i late
      have : 146097 * (guess + 2) ≤ 400 * daysBeforeYear (guess + 1 + 1 + 1) + 699 :=
        (daysBeforeYear_near (guess + 2)).1
      exact ⟨by omega, late, by omega⟩
    · exact ⟨by omega, by omega, by omega⟩

theorem yearOfOrdinal_eq {n year : Nat} (h : daysBeforeYear year < n)
    (h' : n ≤ daysBeforeYear (year + 1)) : yearOfOrdinal n = year := by
  obtain ⟨-, low, high⟩ := yearOfOrdinal_bounds (n := n) (by omega)
  rcases Nat.lt_trichotomy (yearOfOrdinal n) year with hlt | heq | hgt
  · have : daysBeforeYear (yearOfOrdinal n + 1) ≤ daysBeforeYear year := daysBeforeYear_mono hlt
    omega
  · exact heq
  · have : daysBeforeYear (year + 1) ≤ daysBeforeYear (yearOfOrdinal n) := daysBeforeYear_mono hgt
    omega

end Date

/-! ## Months -/

theorem daysInMonth_bounds (year month : Nat) (h : 1 ≤ month) (h' : month ≤ 12) :
    28 ≤ daysInMonth year month ∧ daysInMonth year month ≤ 31 := by
  unfold daysInMonth monthLengths
  cases isLeapYear year <;> interval_cases month <;> decide

theorem daysBeforeMonth_succ (year : Nat) {month : Nat} (h : 1 ≤ month) (h' : month ≤ 12) :
    daysBeforeMonth year (month + 1) = daysBeforeMonth year month + daysInMonth year month := by
  unfold daysInMonth daysBeforeMonth monthLengths
  cases isLeapYear year <;> interval_cases month <;> rfl

theorem daysBeforeMonth_thirteen (year : Nat) :
    daysBeforeMonth year 13 = if isLeapYear year then 366 else 365 := by
  unfold daysBeforeMonth monthLengths
  cases isLeapYear year <;> rfl

/-- A month that is not the first one begins a month's length after the year at least, and one
that is not the last one ends as long before the end of the year. -/
theorem daysBeforeMonth_bounds (year : Nat) {month : Nat} (h : 2 ≤ month) (h' : month ≤ 11) :
    31 ≤ daysBeforeMonth year month ∧ daysBeforeMonth year month ≤ 305 := by
  unfold daysBeforeMonth monthLengths
  cases isLeapYear year <;> interval_cases month <;> decide

theorem daysBeforeMonth_mono (year : Nat) {month later : Nat} (h : 1 ≤ month) (h' : month ≤ later)
    (h'' : later ≤ 13) : daysBeforeMonth year month ≤ daysBeforeMonth year later := by
  induction later, h' using Nat.le_induction with
  | base => exact Nat.le_refl _
  | succ later _ ih =>
    rw [daysBeforeMonth_succ year (by omega) (by omega)]
    exact Nat.le_add_right_of_le (ih (by omega))

/-! ## The order of days -/

namespace Date

/-- One day is before another one: its year is, or else its month, or else the day itself. -/
def Before (d later : Date) : Prop :=
  d.year < later.year ∨
    d.year = later.year ∧ (d.month < later.month ∨ d.month = later.month ∧ d.day < later.day)

instance (d later : Date) : Decidable (d.Before later) := by
  unfold Before; infer_instance

theorem dayOfYear_bounds (d : Date) :
    daysBeforeMonth d.year d.month < d.dayOfYear ∧
      d.dayOfYear ≤ daysBeforeMonth d.year (d.month + 1) := by
  obtain ⟨-, -, hmonth, hmonth', hday, hday'⟩ := d.isDate
  rw [daysBeforeMonth_succ d.year hmonth hmonth']
  unfold dayOfYear
  omega

theorem ordinal_bounds (d : Date) :
    daysBeforeYear d.year < d.ordinal ∧ d.ordinal ≤ daysBeforeYear (d.year + 1) := by
  obtain ⟨hyear, -, hmonth, hmonth', -⟩ := d.isDate
  have inYear := d.dayOfYear_bounds
  have inAll : daysBeforeMonth d.year (d.month + 1) ≤ daysBeforeMonth d.year 13 :=
    daysBeforeMonth_mono d.year (by omega) (by omega) le_rfl
  rw [daysBeforeMonth_thirteen] at inAll
  obtain ⟨past, hpast⟩ := Nat.exists_eq_add_of_le' hyear
  rw [hpast, daysBeforeYear_succ, ← hpast]
  unfold ordinal
  omega

theorem ordinal_lt_of_before {d later : Date} (h : d.Before later) : d.ordinal < later.ordinal := by
  rcases h with hyear | ⟨hyear, hmonth | ⟨hmonth, hday⟩⟩
  · have : daysBeforeYear (d.year + 1) ≤ daysBeforeYear later.year := daysBeforeYear_mono hyear
    have := d.ordinal_bounds
    have := later.ordinal_bounds
    omega
  · obtain ⟨-, -, -, hlast, -⟩ := later.isDate
    have : daysBeforeMonth d.year (d.month + 1) ≤ daysBeforeMonth d.year later.month :=
      daysBeforeMonth_mono d.year (by omega) hmonth (by omega)
    have := d.dayOfYear_bounds
    have := later.dayOfYear_bounds
    unfold ordinal
    rw [← hyear] at *
    omega
  · unfold ordinal dayOfYear
    rw [hyear, hmonth]
    omega

/-- The numbers of two days tell which one is before the other. -/
theorem before_iff {d later : Date} : d.Before later ↔ d.ordinal < later.ordinal := by
  refine ⟨ordinal_lt_of_before, fun h => ?_⟩
  by_contra hnot
  -- then the days are the same, or the other one is before
  have : later.Before d ∨ d.ordinal = later.ordinal := by
    unfold Before at *
    by_cases same : d.year = later.year ∧ d.month = later.month ∧ d.day = later.day
    · exact .inr (by simp only [ordinal, dayOfYear, same])
    · exact .inl (by omega)
  rcases this with hlater | hsame
  · have := ordinal_lt_of_before hlater
    omega
  · omega

end Date

/-! ## From numbers to days -/

namespace Date

theorem monthAndDay_law (lengths : List Nat) (n : Nat) :
    1 ≤ (monthAndDay lengths n).1 ∧
      (lengths.take ((monthAndDay lengths n).1 - 1)).foldr (· + ·) 0 + (monthAndDay lengths n).2
        = n := by
  induction lengths generalizing n with
  | nil => simp [monthAndDay]
  | cons length rest ih =>
    unfold monthAndDay
    split
    · simp
    · obtain ⟨hmonth, hsum⟩ := ih (n - length)
      obtain ⟨month, hm⟩ := Nat.exists_eq_add_of_le' hmonth
      simp only [hm, Nat.add_sub_cancel] at hsum ⊢
      simp only [List.take_succ_cons, List.foldr_cons]
      omega

/-- The day with a number has that number. -/
theorem ordinal_of_ofOrdinal? {n : Int} {d : Date} (h : ofOrdinal? n = some d) :
    (d.ordinal : Int) = n := by
  unfold ofOrdinal? at h
  simp only [Option.ite_none_right_eq_some] at h
  obtain ⟨⟨low, -⟩, h⟩ := h
  unfold ofParts? at h
  split at h
  · obtain ⟨rfl⟩ := h
    obtain ⟨-, before, -⟩ := yearOfOrdinal_bounds (n := n.toNat) (by omega)
    have sum := (monthAndDay_law (monthLengths (yearOfOrdinal n.toNat))
      (n.toNat - daysBeforeYear (yearOfOrdinal n.toNat))).2
    simp only [ordinal, dayOfYear, daysBeforeMonth, sum]
    omega
  · contradiction

theorem ordinal_next? {d next : Date} (h : d.next? = some next) :
    next.ordinal = d.ordinal + 1 := by
  have := ordinal_of_ofOrdinal? h
  omega

end Date

/-! ## Stamps -/

theorem dayNumber_startOfDay_add (day : Int) (second : Nat) (h : second < secondsPerDay) :
    Stamp.dayNumber (startOfDay day + second) = day := by
  unfold Stamp.dayNumber startOfDay secondsPerDay at *
  omega

theorem WallTime.dayNumber_stamp (time : WallTime) :
    time.stamp.dayNumber = time.date.ordinal :=
  dayNumber_startOfDay_add _ _ time.second_lt

theorem dayNumber_mono {s later : Stamp} (h : s ≤ later) : s.dayNumber ≤ later.dayNumber := by
  unfold Stamp at h
  unfold Stamp.dayNumber secondsPerDay
  omega

theorem startOfDay_le_iff {day : Int} {s : Stamp} : startOfDay day ≤ s ↔ day ≤ s.dayNumber := by
  unfold Stamp at *
  unfold Stamp.dayNumber startOfDay secondsPerDay
  omega

theorem Stamp.ordinal_of_date? {s : Stamp} {d : Date} (h : s.date? = some d) :
    (d.ordinal : Int) = s.dayNumber :=
  Date.ordinal_of_ofOrdinal? h

/-- A stamp in the calendar is the one of a whole second. -/
theorem Stamp.exists_wallTime {s : Stamp} {d : Date} (h : s.date? = some d) :
    ∃ time : WallTime, time.stamp = s ∧ time.micro = 0 := by
  have day := Stamp.ordinal_of_date? h
  unfold Stamp at s
  have second_lt : (s % 86400).toNat < secondsPerDay := by
    unfold secondsPerDay
    omega
  refine ⟨⟨d, (s % 86400).toNat, 0, second_lt, by decide⟩, ?_, rfl⟩
  simp only [WallTime.stamp, day]
  unfold startOfDay Stamp.dayNumber secondsPerDay Stamp
  omega

/-- The stamp at which a year begins. -/
def startOfYear (year : Nat) : Stamp := startOfDay (daysBeforeYear year + 1)

theorem startOfYear_lt_succ {year : Nat} (h : 1 ≤ year) :
    startOfYear year < startOfYear (year + 1) := by
  have := daysBeforeYear_lt_succ h
  unfold startOfYear startOfDay secondsPerDay Stamp
  omega

theorem Stamp.year_bounds {s : Stamp} (h : 0 ≤ s) :
    1 ≤ s.year ∧ startOfYear s.year ≤ s ∧ s < startOfYear (s.year + 1) := by
  have positive : 1 ≤ s.dayNumber := by
    unfold Stamp at h
    unfold Stamp.dayNumber epochOrdinal secondsPerDay
    omega
  obtain ⟨one, low, high⟩ := Date.yearOfOrdinal_bounds (n := s.dayNumber.toNat) (by omega)
  refine ⟨one, ?_, ?_⟩
  · rw [startOfYear, startOfDay_le_iff, Stamp.year]
    omega
  · rw [startOfYear, ← not_le, startOfDay_le_iff, Stamp.year]
    omega

theorem Stamp.year_eq {s : Stamp} {year : Nat} (h : startOfYear year ≤ s)
    (h' : s < startOfYear (year + 1)) : s.year = year := by
  rw [startOfYear, startOfDay_le_iff] at h
  rw [startOfYear, ← not_le, startOfDay_le_iff] at h'
  exact Date.yearOfOrdinal_eq (by omega) (by omega)

/-- A second later the year is the same, or it has just begun. -/
theorem Stamp.year_succ {s : Stamp} (h : 0 ≤ s) :
    (s + 1).year = s.year ∨
      s + 1 = startOfYear (s.year + 1) ∧ (s + 1).year = s.year + 1 := by
  obtain ⟨one, low, high⟩ := Stamp.year_bounds h
  by_cases new : s + 1 = startOfYear (s.year + 1)
  · refine .inr ⟨new, Stamp.year_eq new.ge ?_⟩
    rw [new]
    exact startOfYear_lt_succ (by omega)
  · exact .inl (Stamp.year_eq (Int.le_add_one low) (lt_of_le_of_ne high new))

end MailSearch
