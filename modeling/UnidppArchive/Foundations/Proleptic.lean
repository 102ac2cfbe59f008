import UnidppArchive.Foundations.Gregorian
import UnidppArchive.Foundations.Numbering
import Mathlib.Data.Prod.Lex

/-
  Dates of the proleptic Gregorian calendar.

  A date is an integer year with a month and a day that
  exist in it.  Dates are ordered by year, month and day,
  and every date has a next one: the next day of its month,
  else the first day of the next month, else the first of
  January of the next year.

  Key definitions include:
    * `Gregorian.Date`
    * `Gregorian.Date.epoch`
    * `Gregorian.Date.next`

  Key theorems include:
    * `Gregorian.Date.next_cases`
    * `Gregorian.Date.next_le_iff`
-/

------------------------------------------------------------
-- Dates
------------------------------------------------------------

namespace UnidppArchive

namespace Gregorian

/- A month and a day that exist in the year. -/
@[ext]
structure Date where
  year : Int
  month : Nat
  day : Nat
  month_range : 1 ≤ month ∧ month ≤ 12
  day_range : 1 ≤ day ∧ day ≤ monthDays year month

end Gregorian

end UnidppArchive

------------------------------------------------------------
-- The Order of Dates
------------------------------------------------------------

namespace UnidppArchive

namespace Gregorian

namespace Date

/- Year, month and day, in the order of their weight. -/
def key
    (x : Date) : Int ×ₗ Nat ×ₗ Nat :=
  toLex (x.year, toLex (x.month, x.day))

theorem key_injective :
    Function.Injective key := by
  intro x y h
  simp only [key, EmbeddingLike.apply_eq_iff_eq,
    Prod.mk.injEq] at h
  exact Date.ext h.1 h.2.1 h.2.2

instance : LinearOrder Date :=
  LinearOrder.lift' key key_injective

variable {x y : Date}

theorem lt_iff :
    x < y ↔
      x.year < y.year ∨
        (x.year = y.year ∧
          (x.month < y.month ∨
            (x.month = y.month ∧ x.day < y.day))) := by
  have hKey : x < y ↔ key x < key y := Iff.rfl
  rw [hKey]
  simp only [key, Prod.Lex.toLex_lt_toLex]

/- Months of the same name are equally long in one year. -/
theorem day_le_of_same_month
    (hYear : y.year = x.year)
    (hMonth : y.month = x.month) :
    y.day ≤ monthDays x.year x.month := by
  rw [← hYear, ← hMonth]
  exact y.day_range.2

/- A number that is larger for every later date. -/
def weight
    (x : Date) : Int :=
  372 * x.year + 31 * x.month + x.day

theorem weight_strictMono :
    StrictMono weight := by
  intro x y h
  rw [lt_iff] at h
  have hx := x.month_range
  have hy := y.month_range
  have hxDay := x.day_range
  have hyDay := y.day_range
  have hBounds := monthDays_bounds x.year x.month
  unfold weight
  omega

end Date

end Gregorian

end UnidppArchive

------------------------------------------------------------
-- The Next Date
------------------------------------------------------------

namespace UnidppArchive

namespace Gregorian

namespace Date

/- The first day of a month. -/
def firstOf
    (y : Int)
    (m : Nat)
    (h : 1 ≤ m ∧ m ≤ 12) : Date where
  year := y
  month := m
  day := 1
  month_range := h
  day_range := by
    have hLength := monthDays_bounds y m
    omega

/- The first of January 1970. -/
def epoch : Date :=
  firstOf 1970 1 (by omega)

/- The day after a date. -/
def next
    (x : Date) : Date :=
  if hDay : x.day < monthDays x.year x.month then
    { x with
      day := x.day + 1
      day_range := ⟨by omega, hDay⟩ }
  else if hMonth : x.month < 12 then
    firstOf x.year (x.month + 1) ⟨by omega, hMonth⟩
  else
    firstOf (x.year + 1) 1 (by omega)

/- All that the next date can be. -/
theorem next_cases
    (x : Date) :
    (x.day < monthDays x.year x.month ∧
        x.next.year = x.year ∧ x.next.month = x.month ∧
          x.next.day = x.day + 1) ∨
      (x.day = monthDays x.year x.month ∧ x.month < 12 ∧
        x.next.year = x.year ∧
          x.next.month = x.month + 1 ∧ x.next.day = 1) ∨
      (x.day = monthDays x.year x.month ∧ x.month = 12 ∧
        x.next.year = x.year + 1 ∧ x.next.month = 1 ∧
          x.next.day = 1) := by
  have hLast := x.day_range.2
  have hYear := x.month_range.2
  by_cases hDay : x.day < monthDays x.year x.month
  · have hNext : x.next = _ := dif_pos hDay
    rw [hNext]
    exact Or.inl ⟨hDay, rfl, rfl, rfl⟩
  · by_cases hMonth : x.month < 12
    · have hNext : x.next = _ :=
        (dif_neg hDay).trans (dif_pos hMonth)
      rw [hNext]
      exact Or.inr (Or.inl
        ⟨by omega, hMonth, rfl, rfl, rfl⟩)
    · have hNext : x.next = _ :=
        (dif_neg hDay).trans (dif_neg hMonth)
      rw [hNext]
      exact Or.inr (Or.inr
        ⟨by omega, by omega, rfl, rfl, rfl⟩)

/- No date lies between a date and the next one. -/
theorem next_le_iff
    {x y : Date} :
    x.next ≤ y ↔ x < y := by
  rw [← not_lt, lt_iff, lt_iff]
  have hMonth := y.month_range
  have hDay := y.day_range
  have hSame := day_le_of_same_month (x := x) (y := y)
  have hLast := x.month_range
  rcases next_cases x with
    ⟨hInside, hy, hm, hd⟩ | ⟨hEnd, hInside, hy, hm, hd⟩ |
      ⟨hEnd, hEndMonth, hy, hm, hd⟩
  · omega
  · omega
  · omega

instance : SuccOrder Date :=
  SuccOrder.ofSuccLeIff next next_le_iff

instance : IsSuccArchimedean Date :=
  isSuccArchimedean_of_strictMono weight_strictMono

end Date

end Gregorian

end UnidppArchive
