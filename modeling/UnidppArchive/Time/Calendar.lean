import UnidppArchive.Foundations.Gregorian
import UnidppArchive.Time.Timestamp
import Mathlib.Order.Monotone.Basic

/-
  The calendar functions of `time.rs` are inverse.

  `civilFromDays` yields a date that exists, and
  `daysFromCivil` takes that date back to the same day.  The
  days whose year has at most four digits are an interval.

  Key theorems include:
    * `daysFromCivil_civilFromDays`
    * `civilFromDays_exists`
    * `year_civilFromDays_iff`
    * `daysFromCivil_bounds`
-/

------------------------------------------------------------
-- Civil Dates
------------------------------------------------------------

namespace UnidppArchive

/- The date exists in the proleptic Gregorian calendar. -/
structure CivilDate
    (y : Int)
    (m d : Nat) : Prop where
  month : 1 ≤ m ∧ m ≤ 12
  day : 1 ≤ d ∧ d ≤ daysInMonth y m

theorem isLeapYear_iff
    (y : Int) :
    isLeapYear y = true ↔
      (y % 4 = 0 ∧ y % 100 ≠ 0) ∨ y % 400 = 0 := by
  have hRem :
      ∀ k : Int, y.tmod k = 0 ↔ y % k = 0 := by
    intro k
    rw [← Int.dvd_iff_tmod_eq_zero,
      ← Int.dvd_iff_emod_eq_zero]
  simp [isLeapYear, hRem]

/- No month is longer than 31 days. -/
theorem daysInMonth_le
    (y : Int)
    (m : Nat) :
    daysInMonth y m ≤ 31 := by
  unfold daysInMonth
  split
  all_goals try split
  all_goals omega

/- A day that no month is too short for. -/
theorem le_daysInMonth
    {y : Int}
    {m d : Nat}
    (hMonth : 1 ≤ m ∧ m ≤ 12)
    (hDay : d ≤ 31)
    (hShort : m = 4 ∨ m = 6 ∨ m = 9 ∨ m = 11 → d ≤ 30)
    (hFeb : m = 2 →
      d ≤ 28 ∨ (d ≤ 29 ∧ isLeapYear y = true)) :
    d ≤ daysInMonth y m := by
  unfold daysInMonth
  split
  · exact hDay
  · exact hDay
  · exact hDay
  · exact hDay
  · exact hDay
  · exact hDay
  · exact hDay
  · exact hShort (by omega)
  · exact hShort (by omega)
  · exact hShort (by omega)
  · exact hShort (by omega)
  · rcases hFeb rfl with h | ⟨h, hLeap⟩
    · split <;> omega
    · rw [if_pos hLeap]
      exact h
  · simp only [imp_false] at *
    omega

/- Truncated division after the shift rounds down. -/
private theorem era_eq
    (x : Int) :
    (if x ≥ 0 then x else x - 399).tdiv 400 = x / 400 := by
  have hSign : Int.sign 400 = 1 := rfl
  split <;> rw [Int.tdiv_eq_ediv] <;> omega

theorem eraOfDay_eq
    (x : Int) :
    (if x ≥ 0 then x else x - 146096).tdiv 146097 =
      x / 146097 := by
  have hSign : Int.sign 146097 = 1 := rfl
  split <;> rw [Int.tdiv_eq_ediv] <;> omega

end UnidppArchive

------------------------------------------------------------
-- Days From Dates
------------------------------------------------------------

namespace UnidppArchive

/- Days before the year that begins in March of year `y`. -/
def marchYearStart
    (y : Int) : Int :=
  365 * y + y / 4 - y / 100 + y / 400

/- Whole eras before the years of the last one. -/
theorem marchYearStart_eq
    (yoe era : Int) :
    marchYearStart (yoe + era * 400) =
      146097 * era + (365 * yoe + yoe / 4 - yoe / 100 +
        yoe / 400) := by
  have hCycles : (yoe + era * 400) / 4 = yoe / 4 + era * 100 := by
    omega
  have hCenturies :
      (yoe + era * 400) / 100 = yoe / 100 + era * 4 := by
    omega
  have hEras : (yoe + era * 400) / 400 = yoe / 400 + era := by
    omega
  unfold marchYearStart
  omega

/- Every year has at least 365 days. -/
theorem marchYearStart_succ
    (y : Int) :
    marchYearStart y + 365 ≤ marchYearStart (y + 1) := by
  unfold marchYearStart
  omega

theorem marchYearStart_mono
    {y z : Int}
    (h : y ≤ z) :
    marchYearStart y ≤ marchYearStart z := by
  apply monotone_int_of_le_succ _ h
  intro x
  have hYear := marchYearStart_succ x
  omega

/- The day number, with the year beginning in March. -/
theorem daysFromCivil_eq
    (y : Int)
    {m d : Nat}
    (hMonth : 1 ≤ m ∧ m ≤ 12) :
    daysFromCivil y m d =
      marchYearStart (if m ≤ 2 then y - 1 else y) +
        ((153 * (if m > 2 then (m : Int) - 3 else m + 9) + 2) /
          5 + d - 1) - 719468 := by
  unfold daysFromCivil marchYearStart
  generalize (if m ≤ 2 then y - 1 else y) = x
  have hMarch :
      (0 : Int) ≤ if m > 2 then (m : Int) - 3 else m + 9 := by
    split <;> omega
  generalize
    (if m > 2 then (m : Int) - 3 else m + 9) = mp at *
  have hYear : 0 ≤ x - x / 400 * 400 := by omega
  simp only [era_eq]
  rw [Int.tdiv_eq_ediv_of_nonneg hYear,
    Int.tdiv_eq_ediv_of_nonneg hYear,
    Int.tdiv_eq_ediv_of_nonneg (by omega)]
  omega

/- Dates with four-digit years lie in a fixed interval. -/
theorem daysFromCivil_bounds
    {y : Int}
    {m d : Nat}
    (hDate : CivilDate y m d)
    (hYear : 0 ≤ y ∧ y ≤ 9999) :
    -719528 ≤ daysFromCivil y m d ∧
      daysFromCivil y m d ≤ 2932896 := by
  have hDay := hDate.day
  have hLength := daysInMonth_le y m
  have hMonth := hDate.month
  rw [daysFromCivil_eq y hDate.month]
  unfold marchYearStart
  by_cases hEarly : m ≤ 2
  · rw [if_pos hEarly, if_neg (by omega)]
    omega
  · rw [if_neg hEarly, if_pos (by omega)]
    omega

end UnidppArchive

------------------------------------------------------------
-- Dates From Days
------------------------------------------------------------

namespace UnidppArchive

/-
  Day `z` is day `doy` of the March-based year `Y`, and day
  `d` of month `mp` of that year.
-/
structure MarchDay
    (z Y doy mp d : Int) : Prop where
  day : z + 719468 = marchYearStart Y + doy
  month : Gregorian.MonthDay doy mp d
  last : doy ≤ 364 ∨ isLeapYear (Y + 1) = true
  range : 0 ≤ doy ∧ doy ≤ 365

/- The calendar date of day `d` of March-based month `mp`. -/
def civilOfMarch
    (Y mp d : Int) : Int × Nat × Nat :=
  if mp < 10 then
    (Y, (mp + 3).toNat, d.toNat)
  else
    (Y + 1, (mp - 9).toNat, d.toNat)

/- Year and day that the code computes of a day of an era. -/
theorem exists_eraDay_of_code
    {doe yoe : Int}
    (hLow : 0 ≤ doe)
    (hHigh : doe ≤ 146096)
    (hYoe :
      (doe - doe.tdiv 1460 + doe.tdiv 36524 -
        doe.tdiv 146096).tdiv 365 = yoe) :
    ∃ c q r,
      Gregorian.EraDay doe c q r
          (doe - (365 * yoe + yoe.tdiv 4 - yoe.tdiv 100)) ∧
        yoe = 100 * c + 4 * q + r := by
  rcases Gregorian.exists_eraDay hLow hHigh with
    ⟨c, q, r, doy, hEraDay⟩
  have hFirst := hEraDay.firstDay rfl
  have hCentury := hEraDay.century
  have hCycle := hEraDay.cycle
  have hYear := hEraDay.year
  simp only [Int.tdiv_eq_ediv_of_nonneg hLow] at hYoe
  rw [Int.tdiv_eq_ediv_of_nonneg (by omega),
    hEraDay.yearOfEra] at hYoe
  have hYoeLow : 0 ≤ yoe := by omega
  have hDoy :
      doe - (365 * yoe + yoe.tdiv 4 - yoe.tdiv 100) = doy := by
    simp only [Int.tdiv_eq_ediv_of_nonneg hYoeLow]
    subst hYoe
    omega
  rw [hDoy]
  exact ⟨c, q, r, hEraDay, hYoe.symm⟩

/- The code computes the date of the March-based day. -/
theorem exists_marchDay
    (z : Int) :
    ∃ Y doy mp d,
      MarchDay z Y doy mp d ∧
        civilFromDays z = civilOfMarch Y mp d := by
  unfold civilFromDays
  simp only [eraOfDay_eq]
  generalize hShift : z + 719468 = x
  generalize hEra : x / 146097 = era
  generalize hDoe : x - era * 146097 = doe
  generalize hYoe :
    (doe - doe.tdiv 1460 + doe.tdiv 36524 -
      doe.tdiv 146096).tdiv 365 = yoe
  rcases exists_eraDay_of_code (by omega) (by omega) hYoe with
    ⟨c, q, r, hEraDay, hYear⟩
  generalize
    doe - (365 * yoe + yoe.tdiv 4 - yoe.tdiv 100) = doy at *
  have hFirst := hEraDay.firstDay hYear
  have hCentury := hEraDay.century
  have hCycle := hEraDay.cycle
  have hRest := hEraDay.year
  have hDay := hEraDay.day
  have hMonth := Gregorian.monthDay hDay.1 hDay.2
  have hRange := hMonth.month
  rw [Int.tdiv_eq_ediv_of_nonneg
    (show (0 : Int) ≤ 5 * doy + 2 by omega)]
  generalize (5 * doy + 2) / 153 = mp at *
  rw [Int.tdiv_eq_ediv_of_nonneg
    (show (0 : Int) ≤ 153 * mp + 2 by omega)]
  refine ⟨yoe + era * 400, doy, mp, _, ⟨?_, hMonth, ?_, hDay⟩,
    ?_⟩
  · have hNoEra : yoe / 400 = 0 := by omega
    rw [marchYearStart_eq]
    omega
  · by_cases hLast : doy = 365
    · have hLeap := hEraDay.leap_of_last hYear hLast
      rw [isLeapYear_iff]
      omega
    · omega
  · unfold civilOfMarch
    by_cases hMarch : mp < 10
    · rw [if_pos hMarch, if_pos hMarch, if_neg (by omega)]
    · rw [if_neg hMarch, if_neg hMarch, if_pos (by omega)]

end UnidppArchive

------------------------------------------------------------
-- Inverse Functions
------------------------------------------------------------

namespace UnidppArchive

/- The date of a day exists. -/
theorem civilDate_civilFromDays
    {z y : Int}
    {m d : Nat}
    (h : civilFromDays z = (y, m, d)) :
    CivilDate y m d := by
  rcases exists_marchDay z with
    ⟨Y, doy, mp, day, ⟨hDay, hMonth, hLast, hRange⟩, hCivil⟩
  rw [h] at hCivil
  unfold civilOfMarch at hCivil
  rcases hMonth with ⟨hMp, hDayRange, hShort, hFeb, hDoy⟩
  split at hCivil
  all_goals
    simp only [Prod.mk.injEq] at hCivil
    rcases hCivil with ⟨rfl, rfl, rfl⟩
    refine ⟨by omega, by omega, ?_⟩
  · exact le_daysInMonth (by omega) (by omega) (by omega)
      (by omega)
  · refine le_daysInMonth (by omega) (by omega) (by omega) ?_
    intro hFebruary
    rcases hLast with hLast | hLeap
    · exact Or.inl (by omega)
    · exact Or.inr ⟨by omega, hLeap⟩

/- The date of a day leads back to the day. -/
theorem daysFromCivil_civilFromDays
    {z y : Int}
    {m d : Nat}
    (h : civilFromDays z = (y, m, d)) :
    daysFromCivil y m d = z := by
  have hDate := civilDate_civilFromDays h
  rw [daysFromCivil_eq y hDate.month]
  rcases exists_marchDay z with
    ⟨Y, doy, mp, day, ⟨hDay, hMonth, -, -⟩, hCivil⟩
  rw [h] at hCivil
  unfold civilOfMarch at hCivil
  rcases hMonth with ⟨hMp, hDayRange, -, -, hDoy⟩
  split at hCivil
  all_goals
    simp only [Prod.mk.injEq] at hCivil
    rcases hCivil with ⟨rfl, rfl, rfl⟩
  · rw [if_neg (by omega), if_pos (by omega)]
    omega
  · rw [if_pos (by omega), if_neg (by omega),
      Int.add_sub_cancel]
    omega

/- Exactly the days of one interval have four-digit years. -/
theorem year_civilFromDays_iff
    {z y : Int}
    {m d : Nat}
    (h : civilFromDays z = (y, m, d)) :
    0 ≤ y ∧ y ≤ 9999 ↔ -719528 ≤ z ∧ z ≤ 2932896 := by
  rcases exists_marchDay z with
    ⟨Y, doy, mp, day, ⟨hDay, hMonth, -, hRange⟩, hCivil⟩
  rw [h] at hCivil
  unfold civilOfMarch at hCivil
  rcases hMonth with ⟨hMp, hDayRange, -, -, hDoy⟩
  -- the years before, at and after both ends of the interval
  have hBelow : Y ≤ -2 → marchYearStart Y + 365 ≤ -366 := by
    intro hYear
    have hNext :=
      marchYearStart_mono (show Y + 1 ≤ -1 by omega)
    have hSucc := marchYearStart_succ Y
    have hValue : marchYearStart (-1) = -366 := by decide
    omega
  have hFrom : 0 ≤ Y → 0 ≤ marchYearStart Y := by
    intro hYear
    have hNext := marchYearStart_mono hYear
    have hValue : marchYearStart 0 = 0 := by decide
    omega
  have hTo : Y ≤ 9998 → marchYearStart Y + 365 ≤ 3652059 := by
    intro hYear
    have hNext :=
      marchYearStart_mono (show Y + 1 ≤ 9999 by omega)
    have hSucc := marchYearStart_succ Y
    have hValue : marchYearStart 9999 = 3652059 := by decide
    omega
  have hAbove : 10000 ≤ Y → 3652425 ≤ marchYearStart Y := by
    intro hYear
    have hNext := marchYearStart_mono hYear
    have hValue : marchYearStart 10000 = 3652425 := by decide
    omega
  have hFirst : Y = -1 → marchYearStart Y = -366 := by
    rintro rfl
    decide
  have hLast : Y = 9999 → marchYearStart Y = 3652059 := by
    rintro rfl
    decide
  split at hCivil
  all_goals
    simp only [Prod.mk.injEq] at hCivil
    rcases hCivil with ⟨rfl, rfl, rfl⟩
    omega

end UnidppArchive
