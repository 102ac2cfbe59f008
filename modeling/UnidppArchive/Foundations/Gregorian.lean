import Mathlib.Tactic.Common
import Mathlib.Tactic.IntervalCases

/-
  The months of a Gregorian year, and the days and years of
  a 400-year era.

  An era begins on the first of March, so that a leap day is
  the last day of its year.  Day `n` of an era lies in
  century `c`, in the four-year cycle `q` of it, in year `r`
  of that cycle and on day `doy` of that year.

  Key definitions include:
    * `Gregorian.Leap`
    * `Gregorian.monthDays`
    * `Gregorian.EraDay`

  Key theorems include:
    * `Gregorian.monthDays_of_march`
    * `Gregorian.exists_eraDay`
    * `Gregorian.EraDay.yearOfEra`
    * `Gregorian.EraDay.firstDay`
    * `Gregorian.EraDay.leap_of_last`
-/

------------------------------------------------------------
-- Months
------------------------------------------------------------

namespace UnidppArchive

namespace Gregorian

/- Every fourth year, and of the centuries every fourth. -/
def Leap
    (y : Int) : Prop :=
  4 ∣ y ∧ (100 ∣ y → 400 ∣ y)

instance : DecidablePred Leap :=
  fun y => inferInstanceAs (Decidable (4 ∣ y ∧ _))

/- The days of a month. -/
def monthDays
    (y : Int)
    (m : Nat) : Nat :=
  if m = 2 then
    if Leap y then 29 else 28
  else if m = 4 ∨ m = 6 ∨ m = 9 ∨ m = 11 then
    30
  else
    31

theorem monthDays_bounds
    (y : Int)
    (m : Nat) :
    28 ≤ monthDays y m ∧ monthDays y m ≤ 31 := by
  unfold monthDays
  split
  · split <;> omega
  · split <;> omega

/- From March on the months follow a pattern of five. -/
theorem monthDays_of_march
    (y : Int)
    {k : Nat}
    (h : k ≤ 9) :
    (153 * k + 2) / 5 + monthDays y (k + 3) =
      (153 * (k + 1) + 2) / 5 := by
  rw [monthDays, if_neg (by omega)]
  interval_cases k
  all_goals rfl

end Gregorian

end UnidppArchive

------------------------------------------------------------
-- Days of an Era
------------------------------------------------------------

namespace UnidppArchive

namespace Gregorian

/- Day `n` of an era, by century, cycle, year and day. -/
structure EraDay
    (n c q r doy : Int) : Prop where
  century : 0 ≤ c ∧ c ≤ 3
  cycle : 0 ≤ q ∧ q ≤ 24
  year : 0 ≤ r ∧ r ≤ 3
  day : 0 ≤ doy ∧ doy ≤ 365
  last : doy = 365 → r = 3 ∧ (q < 24 ∨ c = 3)
  eq : n = 36524 * c + 1461 * q + 365 * r + doy

/- Every day of an era has such coordinates. -/
theorem exists_eraDay
    {n : Int}
    (hLow : 0 ≤ n)
    (hHigh : n ≤ 146096) :
    ∃ c q r doy, EraDay n c q r doy := by
  -- the last day of the era belongs to the fourth century
  have hCentury :
      ∃ c, 0 ≤ c ∧ c ≤ 3 ∧ 36524 * c ≤ n ∧
        n ≤ 36524 * c + 36524 ∧
          (n = 36524 * c + 36524 → c = 3) := by
    by_cases hLast : n = 146096
    · exact ⟨3, by omega, by omega, by omega, by omega,
        by omega⟩
    · exact ⟨n / 36524, by omega, by omega, by omega,
        by omega, by omega⟩
  rcases hCentury with ⟨c, hc₀, hc₃, hFrom, hTo, hEnd⟩
  generalize hRest : n - 36524 * c = x at *
  -- the last day of a cycle belongs to its fourth year
  have hYear :
      ∃ r, 0 ≤ r ∧ r ≤ 3 ∧ 365 * r ≤ x % 1461 ∧
        x % 1461 ≤ 365 * r + 365 ∧
          (x % 1461 = 365 * r + 365 → r = 3) := by
    by_cases hLast : x % 1461 = 1460
    · exact ⟨3, by omega, by omega, by omega, by omega,
        by omega⟩
    · exact ⟨(x % 1461) / 365, by omega, by omega,
        by omega, by omega, by omega⟩
  rcases hYear with ⟨r, hr₀, hr₃, hrFrom, hrTo, hrEnd⟩
  refine ⟨c, x / 1461, r, x % 1461 - 365 * r, ?_⟩
  constructor
  · exact ⟨hc₀, hc₃⟩
  · omega
  · exact ⟨hr₀, hr₃⟩
  · omega
  · intro hDay
    exact ⟨hrEnd (by omega), by omega⟩
  · omega

namespace EraDay

variable {n c q r doy : Int}

/- The year number follows from the day number alone. -/
theorem yearOfEra
    (h : EraDay n c q r doy) :
    (n - n / 1460 + n / 36524 - n / 146096) / 365 =
      100 * c + 4 * q + r := by
  rcases h with ⟨⟨hc₀, hc₃⟩, ⟨hq₀, hq₂₄⟩, ⟨hr₀, hr₃⟩,
    ⟨hd₀, hd₃₆₅⟩, hLast, hDay⟩
  have hCycles :
      n / 1460 = 25 * c + q ∨ n / 1460 = 25 * c + q + 1 := by
    omega
  have hCentury :
      n / 36524 = c ∨ (n / 36524 = 4 ∧ n = 146096) := by
    omega
  have hEra :
      n / 146096 = 0 ∨ (n / 146096 = 1 ∧ n = 146096) := by
    omega
  have hCarry :
      n / 1460 = 25 * c + q + 1 ↔
        1460 ≤ q + 24 * c + 365 * r + doy := by
    omega
  omega

/- The number of days before the year of a day. -/
theorem firstDay
    (h : EraDay n c q r doy)
    {y : Int}
    (hYear : y = 100 * c + 4 * q + r) :
    365 * y + y / 4 - y / 100 = n - doy := by
  have hCycle := h.cycle
  have hRest := h.year
  have hDay := h.eq
  omega

/- A 366th day ends a year before a leap year begins. -/
theorem leap_of_last
    (h : EraDay n c q r doy)
    {y : Int}
    (hYear : y = 100 * c + 4 * q + r)
    (hDoy : doy = 365) :
    (y + 1) % 4 = 0 ∧
      ((y + 1) % 100 ≠ 0 ∨ y + 1 = 400) := by
  have hCentury := h.century
  have hCycle := h.cycle
  have hLast := h.last hDoy
  omega

end EraDay

end Gregorian

end UnidppArchive

------------------------------------------------------------
-- Months From March
------------------------------------------------------------

namespace UnidppArchive

namespace Gregorian

/- Month number and day of a day of the March-based year. -/
structure MonthDay
    (doy mp d : Int) : Prop where
  month : 0 ≤ mp ∧ mp ≤ 11
  day : 1 ≤ d ∧ d ≤ 31
  short : mp = 1 ∨ mp = 3 ∨ mp = 6 ∨ mp = 8 → d ≤ 30
  last : mp = 11 → d = doy - 336
  eq : doy = (153 * mp + 2) / 5 + d - 1

theorem monthDay
    {doy : Int}
    (hLow : 0 ≤ doy)
    (hHigh : doy ≤ 365) :
    MonthDay doy ((5 * doy + 2) / 153)
      (doy - (153 * ((5 * doy + 2) / 153) + 2) / 5 + 1) := by
  constructor <;> omega

end Gregorian

end UnidppArchive
