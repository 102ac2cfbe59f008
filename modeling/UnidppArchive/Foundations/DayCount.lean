import UnidppArchive.Foundations.Gregorian
import Mathlib.Algebra.BigOperators.Intervals

/-
  Days of the proleptic Gregorian calendar, counted.

  A date is numbered by the lengths of the years and months
  before it, from the first of January of year zero on.

  Key definitions include:
    * `Gregorian.dayNumber`
    * `Gregorian.IsDate`

  Key theorems include:
    * `Gregorian.yearLength_eq`
    * `Gregorian.daysBeforeYear_eq`
-/

------------------------------------------------------------
-- Lengths
------------------------------------------------------------

namespace UnidppArchive

namespace Gregorian

/- Days of a year before the first of a month. -/
def daysBeforeMonth
    (y m : Nat) : Nat :=
  ∑ k ∈ Finset.Ico 1 m, monthDays y k

/- The twelve months of a year. -/
def yearLength
    (y : Nat) : Nat :=
  daysBeforeMonth y 13

def daysBeforeYear
    (y : Nat) : Nat :=
  ∑ k ∈ Finset.range y, yearLength k

/- Days from the first day of year zero to a date. -/
def dayNumber
    (y m d : Nat) : Nat :=
  daysBeforeYear y + daysBeforeMonth y m + (d - 1)

/- The month and the day exist in the year. -/
structure IsDate
    (y m d : Nat) : Prop where
  month : 1 ≤ m ∧ m ≤ 12
  day : 1 ≤ d ∧ d ≤ monthDays y m

end Gregorian

end UnidppArchive

------------------------------------------------------------
-- Counting
------------------------------------------------------------

namespace UnidppArchive

namespace Gregorian

@[simp] theorem daysBeforeMonth_one
    (y : Nat) :
    daysBeforeMonth y 1 = 0 := by
  rfl

theorem daysBeforeMonth_succ
    (y : Nat)
    {m : Nat}
    (h : 1 ≤ m) :
    daysBeforeMonth y (m + 1) =
      daysBeforeMonth y m + monthDays y m :=
  Finset.sum_Ico_succ_top h _

theorem daysBeforeYear_succ
    (y : Nat) :
    daysBeforeYear (y + 1) =
      daysBeforeYear y + yearLength y :=
  Finset.sum_range_succ _ _

/- The months before March, and those of the pattern. -/
theorem daysBeforeMonth_eq
    (y : Nat)
    {m : Nat}
    (h : 3 ≤ m ∧ m ≤ 13) :
    daysBeforeMonth y m =
      31 + monthDays y 2 + (153 * (m - 3) + 2) / 5 := by
  rcases h with ⟨hLow, hHigh⟩
  induction m, hLow using Nat.le_induction with
  | base =>
      rw [daysBeforeMonth_succ y (by omega),
        daysBeforeMonth_succ y (by omega)]
      simp [monthDays]
  | succ m hm ih =>
      rcases Nat.exists_eq_add_of_le' hm with ⟨k, rfl⟩
      have hPattern := monthDays_of_march y (k := k) (by omega)
      have hBack : k + 3 - 3 = k := by omega
      have hNext : k + 3 + 1 - 3 = k + 1 := by omega
      rw [daysBeforeMonth_succ y (by omega), ih (by omega),
        hBack, hNext]
      omega

theorem yearLength_eq
    (y : Nat) :
    yearLength y = if Leap (y : Int) then 366 else 365 := by
  rw [yearLength, daysBeforeMonth_eq y (by omega)]
  simp only [monthDays, if_true]
  split <;> rfl

/- One leap day for every leap year that has passed. -/
theorem daysBeforeYear_eq
    (y : Nat) :
    daysBeforeYear y + (y + 99) / 100 =
      365 * y + (y + 3) / 4 + (y + 399) / 400 := by
  induction y with
  | zero => rfl
  | succ y ih =>
      rw [daysBeforeYear_succ, yearLength_eq]
      by_cases hLeap : Leap (y : Int)
      · rw [if_pos hLeap]
        unfold Leap at hLeap
        omega
      · have hCommon :
            ¬ 4 ∣ (y : Int) ∨
              (100 ∣ (y : Int) ∧ ¬ 400 ∣ (y : Int)) := by
          unfold Leap at hLeap
          tauto
        rw [if_neg hLeap]
        rcases hCommon with hYear | hCentury
        · omega
        · omega

end Gregorian

end UnidppArchive
