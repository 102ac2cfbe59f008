import UnidppArchive.Foundations.Proleptic
import UnidppArchive.Time.Calendar
import Mathlib.Tactic.IntervalCases
import Mathlib.Tactic.Zify

/-
  Dates and their day numbers (`time.rs`).

  The day number of the source numbers the dates of the
  proleptic Gregorian calendar: the next date has the next
  number.  The calendar functions are therefore mutually
  inverse and keep the order of time.

  Key definitions include:
    * `Gregorian.Date.toDays`
    * `Gregorian.Date.ofDays`
    * `Gregorian.Date.daysIso`

  Key theorems include:
    * `Gregorian.Date.numbering_toDays`
    * `civilFromDays_daysFromCivil`
-/

------------------------------------------------------------
-- Dates That Exist
------------------------------------------------------------

namespace UnidppArchive

open Gregorian

theorem isLeapYear_iff_leap
    (y : Int) :
    isLeapYear y = true ↔ Leap y := by
  rw [isLeapYear_iff]
  unfold Leap
  omega

/- The months of the source are those of the calendar. -/
theorem daysInMonth_eq_monthDays
    (y : Int)
    {m : Nat}
    (h : 1 ≤ m ∧ m ≤ 12) :
    daysInMonth y m = monthDays y m := by
  unfold daysInMonth monthDays
  simp only [isLeapYear_iff_leap]
  rcases h with ⟨hLow, hHigh⟩
  interval_cases m
  all_goals simp

theorem civilDate_iff
    {y : Int}
    {m d : Nat} :
    CivilDate y m d ↔
      ∃ x : Date, x.year = y ∧ x.month = m ∧ x.day = d := by
  constructor
  · intro h
    have hDay := h.day
    rw [daysInMonth_eq_monthDays y h.month] at hDay
    exact ⟨⟨y, m, d, h.month, hDay⟩, rfl, rfl, rfl⟩
  · rintro ⟨x, rfl, rfl, rfl⟩
    refine ⟨x.month_range, ?_⟩
    rw [daysInMonth_eq_monthDays x.year x.month_range]
    exact x.day_range

end UnidppArchive

------------------------------------------------------------
-- Day Numbers
------------------------------------------------------------

namespace UnidppArchive

open Gregorian

/- The year that begins in March, behind a February. -/
theorem marchYearStart_eq_february
    (y : Int) :
    marchYearStart y =
      marchYearStart (y - 1) + 337 + monthDays y 2 := by
  unfold marchYearStart
  by_cases hLeap : Leap y
  · have hFeb : monthDays y 2 = 29 := if_pos hLeap
    rw [hFeb]
    unfold Leap at hLeap
    omega
  · have hFeb : monthDays y 2 = 28 := if_neg hLeap
    rw [hFeb]
    unfold Leap at hLeap
    omega

namespace Gregorian

namespace Date

/- The day number of the source. -/
def toDays
    (x : Date) : Int :=
  daysFromCivil x.year x.month x.day

theorem toDays_epoch :
    epoch.toDays = 0 := by
  decide

theorem toDays_eq
    (x : Date) :
    x.toDays =
      marchYearStart
          (if x.month ≤ 2 then x.year - 1 else x.year) +
        ((153 *
            (if x.month > 2 then (x.month : Int) - 3
              else x.month + 9) + 2) / 5 + x.day - 1) -
        719468 :=
  daysFromCivil_eq x.year x.month_range

/- The next date has the next day number. -/
theorem toDays_next
    (x : Date) :
    x.next.toDays = x.toDays + 1 := by
  rw [toDays_eq, toDays_eq]
  have hMonth := x.month_range
  rcases next_cases x with
    ⟨-, hy, hm, hd⟩ | ⟨hEnd, hInside, hy, hm, hd⟩ |
      ⟨hEnd, hDecember, hy, hm, hd⟩
  · rw [hy, hm, hd]
    omega
  · rw [hy, hm, hd, hEnd]
    rcases lt_trichotomy x.month 2 with hJan | hFeb | hMarch
    · -- February begins behind January
      have hOne : x.month = 1 := by omega
      have hLength : monthDays x.year 1 = 31 := rfl
      rw [hOne, hLength]
      simp
      omega
    · -- March begins a new year
      have hStart := marchYearStart_eq_february x.year
      rw [hFeb]
      simp
      omega
    · rcases Nat.exists_eq_add_of_le' hMarch with ⟨k, hk⟩
      have hPattern :=
        monthDays_of_march x.year (k := k) (by omega)
      have hBack : (x.month : Int) - 3 = k := by omega
      have hNext : (x.month : Int) + 1 - 3 = k + 1 := by omega
      rw [← hk] at hPattern
      zify at hPattern
      rw [if_neg (by omega), if_pos (by omega),
        if_neg (by omega), if_pos (by omega)]
      push_cast
      rw [hBack, hNext]
      omega
  · -- January belongs to the year that began in March
    have hLength : monthDays x.year 12 = 31 := rfl
    rw [hy, hm, hd, hEnd, hDecember, hLength]
    simp
    omega

theorem numbering_toDays :
    Numbering toDays :=
  toDays_next

end Date

end Gregorian

end UnidppArchive

------------------------------------------------------------
-- Inverse Functions
------------------------------------------------------------

namespace UnidppArchive

open Gregorian

namespace Gregorian

namespace Date

/- The date of a day number, from the source. -/
def ofDays
    (z : Int) : Date :=
  let civil := civilFromDays z
  have hCivil : CivilDate civil.1 civil.2.1 civil.2.2 :=
    civilDate_civilFromDays rfl
  { year := civil.1
    month := civil.2.1
    day := civil.2.2
    month_range := hCivil.month
    day_range := by
      rw [← daysInMonth_eq_monthDays civil.1 hCivil.month]
      exact hCivil.day }

theorem civilFromDays_eq_ofDays
    (z : Int) :
    civilFromDays z =
      ((ofDays z).year, (ofDays z).month, (ofDays z).day) := by
  rfl

theorem toDays_ofDays
    (z : Int) :
    (ofDays z).toDays = z :=
  daysFromCivil_civilFromDays (civilFromDays_eq_ofDays z)

/- Dates and day numbers correspond, in the order of time. -/
noncomputable def daysIso :
    Date ≃o Int :=
  numbering_toDays.orderIso ofDays toDays_ofDays

theorem ofDays_toDays
    (x : Date) :
    ofDays x.toDays = x :=
  daysIso.symm_apply_apply x

theorem ofDays_strictMono :
    StrictMono ofDays :=
  daysIso.symm.strictMono

end Date

end Gregorian

/- The day number of a date leads back to the date. -/
theorem civilFromDays_daysFromCivil
    {y : Int}
    {m d : Nat}
    (h : CivilDate y m d) :
    civilFromDays (daysFromCivil y m d) = (y, m, d) := by
  rcases civilDate_iff.mp h with ⟨x, rfl, rfl, rfl⟩
  have hBack := Date.civilFromDays_eq_ofDays x.toDays
  rw [Date.ofDays_toDays] at hBack
  exact hBack

end UnidppArchive
