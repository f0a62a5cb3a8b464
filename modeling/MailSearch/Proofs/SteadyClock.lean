-- Clocks that keep their days. A clock may be set back, but if it is never set back to an earlier
-- day, then a later instant never has an earlier day. For a zone with a table of offsets this can
-- be seen from the changes of the table and from its yearly rule.
import MailSearch.Proofs.DayNumbers
import MailSearch.Zone.Basic

namespace MailSearch

namespace Zone

/-- What the clock of a zone shows at an instant. -/
def clock (z : Zone) (instant : Stamp) : Stamp := instant + z.offsetAt instant

/-- The next second does not lead the clock back to an earlier day. -/
def KeepsDayAt (z : Zone) (s : Stamp) : Prop :=
  (z.clock s).dayNumber ≤ (z.clock (s + 1)).dayNumber

/-- What holds for each second of a time holds for all of it: the day at its end is not an earlier
one than the day at its start. -/
theorem dayNumber_clock_le {z : Zone} {s later : Stamp} (hle : s ≤ later)
    (h : ∀ i, s ≤ i → i < later → z.KeepsDayAt i) :
    (z.clock s).dayNumber ≤ (z.clock later).dayNumber := by
  induction later, hle using Int.leInduction with
  | base => exact le_rfl
  | succ later hle ih =>
    exact (ih fun i low high => h i low (high.trans (Int.lt_succ later))).trans
      (h later hle (Int.lt_succ later))

end Zone

/-- A second later the day is no earlier one, if the offset is no smaller. -/
theorem dayNumber_le_of_offset_le {s : Stamp} {offset offset' : Int} (h : offset ≤ offset') :
    Stamp.dayNumber (s + offset) ≤ Stamp.dayNumber (s + 1 + offset') :=
  dayNumber_mono (Int.add_le_add (Int.le_add_one le_rfl) h)

/-! ## Yearly changes -/

theorem sundayOfMonth_bounds (year month sunday : Nat) (h : 1 ≤ month) (h' : month ≤ 12) :
    daysBeforeYear year + daysBeforeMonth year month < sundayOfMonth year month sunday ∧
      sundayOfMonth year month sunday ≤
        daysBeforeYear year + daysBeforeMonth year (month + 1) := by
  have := daysInMonth_bounds year month h h'
  rw [daysBeforeMonth_succ year h h']
  unfold sundayOfMonth
  dsimp only
  split <;> omega

namespace YearlyChange

/-- Neither in the first month of a year nor in the last one, and on one day. -/
def Inside (c : YearlyChange) : Prop := 2 ≤ c.month ∧ c.month ≤ 11 ∧ c.second ≤ secondsPerDay

instance (c : YearlyChange) : Decidable c.Inside := by
  unfold Inside; infer_instance

/-- A change inside a year is inside that year in universal time as well. -/
theorem Inside.instant_bounds {c : YearlyChange} (h : c.Inside) {year : Nat} (hyear : 1 ≤ year)
    {offset : Int} (low : -secondsPerDay ≤ offset) (high : offset ≤ secondsPerDay) :
    startOfYear year < c.stampIn year - offset ∧
      c.stampIn year - offset < startOfYear (year + 1) := by
  obtain ⟨hmonth, hmonth', hsecond⟩ := h
  have day := sundayOfMonth_bounds year c.month c.sunday (by omega) (by omega)
  have length := daysInMonth_bounds year c.month (by omega) (by omega)
  have begins := daysBeforeMonth_bounds year hmonth hmonth'
  have next := daysBeforeYear_lt_succ hyear
  rw [daysBeforeMonth_succ year (by omega) (by omega)] at day
  unfold stampIn startOfYear startOfDay secondsPerDay Stamp at *
  omega

/-- If whole months are between two changes of a year, they are in the same order in universal
time. -/
theorem instant_lt_instant {c later : YearlyChange} (h : c.Inside) (h' : later.Inside)
    (apart : c.month + 2 ≤ later.month) (year : Nat) {offset offset' : Int}
    (high : -secondsPerDay ≤ offset) (low : offset' ≤ secondsPerDay) :
    c.stampIn year - offset < later.stampIn year - offset' := by
  obtain ⟨hmonth, hmonth', hsecond⟩ := h
  obtain ⟨-, hlater, -⟩ := h'
  have day := sundayOfMonth_bounds year c.month c.sunday (by omega) (by omega)
  have day' := sundayOfMonth_bounds year later.month later.sunday (by omega) (by omega)
  have length := daysInMonth_bounds year (c.month + 1) (by omega) (by omega)
  have between := daysBeforeMonth_mono year (by omega) apart (by omega)
  rw [show c.month + 2 = c.month + 1 + 1 from rfl,
    daysBeforeMonth_succ year (by omega) (by omega)] at between
  unfold stampIn startOfDay secondsPerDay Stamp at *
  omega

end YearlyChange

/-! ## Yearly rules -/

namespace YearlyRule

/-- A rule by which the clock keeps its days. The two changes are months apart, daylight time is
ahead, and when it ends the clock goes back to a time of the same day. -/
def Regular (r : YearlyRule) : Prop :=
  r.starts.Inside ∧ r.ends.Inside ∧
    (r.starts.month + 2 ≤ r.ends.month ∨ r.ends.month + 2 ≤ r.starts.month) ∧
    -secondsPerDay ≤ r.standard ∧ r.standard ≤ r.daylight ∧ r.daylight ≤ secondsPerDay ∧
    1 ≤ r.ends.second ∧ r.daylight - r.standard ≤ r.ends.second

instance (r : YearlyRule) : Decidable r.Regular := by
  unfold Regular; infer_instance

/-- The instant at which daylight time starts in a year. -/
def startIn (r : YearlyRule) (year : Nat) : Stamp := r.starts.stampIn year - r.standard

/-- The instant at which daylight time ends in a year. -/
def endIn (r : YearlyRule) (year : Nat) : Stamp := r.ends.stampIn year - r.daylight

/-- Is daylight time in force at an instant? -/
def inForce (r : YearlyRule) (s : Stamp) : Bool := within (r.startIn s.year) (r.endIn s.year) s

theorem offsetAt_eq (r : YearlyRule) (s : Stamp) :
    r.offsetAt s = if r.inForce s then r.daylight else r.standard := rfl

/-- Between two fixed instants, daylight time passes at its end only. -/
theorem eq_end_of_within {starts ends s : Int} (h : within starts ends s = true)
    (h' : within starts ends (s + 1) = false) : s + 1 = ends := by
  unfold within at *
  unfold Stamp at *
  by_cases order : starts < ends
  · rw [if_pos order, decide_eq_true_eq] at h
    rw [if_pos order, decide_eq_false_iff_not] at h'
    omega
  · rw [if_neg order, Bool.not_eq_true', decide_eq_false_iff_not] at h
    rw [if_neg order, Bool.not_eq_false', decide_eq_true_eq] at h'
    omega

theorem Regular.endIn_bounds {r : YearlyRule} (h : r.Regular) (year : Nat) (hyear : 1 ≤ year) :
    startOfYear year < r.endIn year ∧ r.endIn year < startOfYear (year + 1) := by
  obtain ⟨-, hends, -, low, ahead, high, -⟩ := h
  exact hends.instant_bounds hyear (by omega) high

/-- Daylight time starts and ends in the same order in all years. -/
theorem Regular.order {r : YearlyRule} (h : r.Regular) :
    (∀ year, r.startIn year < r.endIn year) ∨ ∀ year, r.endIn year < r.startIn year := by
  obtain ⟨hstarts, hends, apart | apart, low, ahead, high, -⟩ := h
  · exact .inl fun year =>
      YearlyChange.instant_lt_instant hstarts hends apart year (by omega) (by omega)
  · exact .inr fun year =>
      YearlyChange.instant_lt_instant hends hstarts apart year (by omega) (by omega)

/-- Daylight time that is in force at the end of a year is in force at the start of the next. -/
theorem Regular.inForce_new_year {r : YearlyRule} (h : r.Regular) {s : Stamp} (hs : 0 ≤ s)
    (new : s + 1 = startOfYear (s.year + 1)) (year : (s + 1).year = s.year + 1)
    (hforce : r.inForce s = true) : r.inForce (s + 1) = true := by
  have one := (Stamp.year_bounds hs).1
  have ended := (h.endIn_bounds s.year one).2
  have starting := (h.endIn_bounds (s.year + 1) (by omega)).1
  rw [← new] at ended starting
  unfold inForce within at *
  rw [year]
  rcases h.order with order | order
  · rw [if_pos (order _), decide_eq_true_eq] at hforce
    exact absurd hforce.2 (not_lt.mpr (Int.le_of_lt_add_one ended))
  · rw [if_neg (not_lt.mpr (order _).le)]
    simp only [Bool.not_eq_true', decide_eq_false_iff_not]
    exact fun inside => absurd inside.1 (not_le.mpr starting)

/-- Daylight time passes at its end only. -/
theorem Regular.eq_endIn {r : YearlyRule} (h : r.Regular) {s : Stamp} (hs : 0 ≤ s)
    (hforce : r.inForce s = true) (hforce' : r.inForce (s + 1) = false) :
    s + 1 = r.endIn s.year := by
  rcases Stamp.year_succ hs with same | ⟨new, year⟩
  · unfold inForce at *
    rw [same] at hforce'
    exact eq_end_of_within hforce hforce'
  · have := h.inForce_new_year hs new year hforce
    simp [hforce'] at this

/-- The last second of daylight time and the next one have the same day on the clock. -/
theorem Regular.dayNumber_endIn {r : YearlyRule} (h : r.Regular) (year : Nat) :
    Stamp.dayNumber (r.endIn year - 1 + r.daylight) ≤
      Stamp.dayNumber (r.endIn year + r.standard) := by
  obtain ⟨-, ⟨-, -, hsecond⟩, -, -, -, -, hlast, hback⟩ := h
  have before : r.endIn year - 1 + r.daylight =
      startOfDay (sundayOfMonth year r.ends.month r.ends.sunday) +
        (r.ends.second - 1 : Nat) := by
    unfold endIn YearlyChange.stampIn Stamp
    omega
  rw [before, dayNumber_startOfDay_add _ _ (by omega), ← startOfDay_le_iff]
  unfold endIn YearlyChange.stampIn Stamp at *
  omega

/-- By a regular rule no second leads back to an earlier day. -/
theorem Regular.dayNumber_le {r : YearlyRule} (h : r.Regular) {s : Stamp} (hs : 0 ≤ s) :
    Stamp.dayNumber (s + r.offsetAt s) ≤ Stamp.dayNumber (s + 1 + r.offsetAt (s + 1)) := by
  have ahead : r.standard ≤ r.daylight := h.2.2.2.2.1
  rw [offsetAt_eq, offsetAt_eq]
  cases hforce : r.inForce s with
  | false =>
    -- standard time goes on, or the clock goes ahead
    refine dayNumber_le_of_offset_le ?_
    rw [if_neg Bool.false_ne_true]
    split
    · exact ahead
    · exact le_rfl
  | true =>
    cases hforce' : r.inForce (s + 1) with
    | true => exact dayNumber_le_of_offset_le le_rfl
    | false =>
      have same := h.dayNumber_endIn s.year
      rw [← h.eq_endIn hs hforce hforce', Int.add_sub_cancel] at same
      exact same

end YearlyRule

/-! ## Tables of offsets -/

namespace OffsetTable

theorem offsetAt_cons (offset : Int) (time : Stamp) (next : Int) (rest : List (Stamp × Int))
    (rule : Option YearlyRule) (s : Stamp) :
    offsetAt ⟨offset, (time, next) :: rest, rule⟩ s =
      if time ≤ s then offsetAt ⟨next, rest, rule⟩ s else offset := by
  by_cases past : time ≤ s
  · simp only [offsetAt, advance, if_pos past]
  · simp only [offsetAt, advance, if_neg past]

/-- The clock of a table keeps its days if it does at the first change and the rest of the table
does from then on. -/
theorem keepsDayAt_cons {offset : Int} {time : Stamp} {next : Int} {rest : List (Stamp × Int)}
    {rule : Option YearlyRule}
    (change : Stamp.dayNumber (time - 1 + offset) ≤
      ((zone ⟨next, rest, rule⟩).clock time).dayNumber)
    (hrest : ∀ s, time ≤ s → (zone ⟨next, rest, rule⟩).KeepsDayAt s) (s : Stamp) :
    (zone ⟨offset, (time, next) :: rest, rule⟩).KeepsDayAt s := by
  unfold Zone.KeepsDayAt Zone.clock zone at *
  dsimp only at *
  rw [offsetAt_cons, offsetAt_cons]
  rcases lt_trichotomy (s + 1) time with before | now | after
  · rw [if_neg (not_le.mpr ((Int.lt_succ s).trans before)), if_neg (not_le.mpr before)]
    exact dayNumber_le_of_offset_le le_rfl
  · subst now
    rw [Int.add_sub_cancel] at change
    rw [if_neg (not_le.mpr (Int.lt_succ s)), if_pos le_rfl]
    exact change
  · rw [if_pos (Int.le_of_lt_add_one after), if_pos after.le]
    exact hrest s (Int.le_of_lt_add_one after)

/-- Do the changes of a table, each one with the offset before it, lead to no earlier day? The rule
for the time after them has to be a regular one, and to take over in the year 1970 or later. -/
def changesKeepDays (rule : Option YearlyRule) : Int → List (Stamp × Int) → Bool
  | _, [] => rule.isNone
  | offset, (time, next) :: rest =>
    decide (Stamp.dayNumber (time - 1 + offset) ≤
        ((zone ⟨next, rest, rule⟩).clock time).dayNumber) &&
      (changesKeepDays rule next rest ||
        rest.isEmpty && decide (0 ≤ time) && rule.all fun r => decide r.Regular)

/-- If they do, then the clock of the table keeps its days for ever. -/
theorem keepsDayAt_of_changesKeepDays {offset : Int} {changes : List (Stamp × Int)}
    {rule : Option YearlyRule} (h : changesKeepDays rule offset changes = true) (s : Stamp) :
    (zone ⟨offset, changes, rule⟩).KeepsDayAt s := by
  induction changes generalizing offset s with
  | nil =>
    obtain rfl := Option.isNone_iff_eq_none.1 h
    exact dayNumber_le_of_offset_le le_rfl
  | cons change rest ih =>
    obtain ⟨time, next⟩ := change
    simp only [changesKeepDays, Bool.and_eq_true, Bool.or_eq_true, decide_eq_true_eq] at h
    obtain ⟨hchange, hrest | ⟨⟨hlast, hlate⟩, hrule⟩⟩ := h
    · exact keepsDayAt_cons hchange (fun i _ => ih hrest i) s
    · obtain rfl := List.isEmpty_iff.1 hlast
      refine keepsDayAt_cons hchange (fun i hi => ?_) s
      cases rule with
      | none => exact dayNumber_le_of_offset_le le_rfl
      | some r => exact YearlyRule.Regular.dayNumber_le (by simpa using hrule) (hlate.trans hi)

end OffsetTable

end MailSearch
