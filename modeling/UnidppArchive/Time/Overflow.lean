import UnidppArchive.Foundations.Checked
import UnidppArchive.Time.Dates

/-
  The calendar in signed 64-bit words (`time.rs`).

  `civilFromDays` computes with integers; the source
  computes with `i64`, where a result out of range panics,
  and casts month and day to `u32`.  Here every result is
  checked.  No check fails for the days of any instant.

  Key definitions include:
    * `civilFromDaysChecked`

  Key theorems include:
    * `civilFromDaysChecked_eq`
    * `calendar_is_gregorian`
-/

------------------------------------------------------------
-- The Calendar With Checked Arithmetic
------------------------------------------------------------

namespace UnidppArchive

open Checked

variable {ε : Type}

/- `as u32` keeps the low 32 bits. -/
def asU32
    (n : Int) : Nat :=
  (n % 2 ^ 32).toNat

/-
  `civil_from_days`, one word operation after the other.  No
  quotient by a constant is larger than its dividend.
-/
def civilFromDaysChecked
    (z : Int) : Checked ε (Int × Nat × Nat) := do
  let z ← i64 (z + 719468)
  let shifted ← i64 (if z ≥ 0 then z else z - 146096)
  let era := shifted.tdiv 146097
  let eraDays ← i64 (era * 146097)
  let doe ← i64 (z - eraDays)
  let yoe ← i64 (doe - doe.tdiv 1460)
  let yoe ← i64 (yoe + doe.tdiv 36524)
  let yoe ← i64 (yoe - doe.tdiv 146096)
  let yoe := yoe.tdiv 365
  let eraYears ← i64 (era * 400)
  let y ← i64 (yoe + eraYears)
  let before ← i64 (365 * yoe)
  let before ← i64 (before + yoe.tdiv 4)
  let before ← i64 (before - yoe.tdiv 100)
  let doy ← i64 (doe - before)
  let mp ← i64 (5 * doy)
  let mp ← i64 (mp + 2)
  let mp := mp.tdiv 153
  let first ← i64 (153 * mp)
  let first ← i64 (first + 2)
  let d ← i64 (doy - first.tdiv 5)
  let d ← i64 (d + 1)
  let m ← i64 (if mp < 10 then mp + 3 else mp - 9)
  let d := asU32 d
  let m := asU32 m
  let y ← i64 (if m ≤ 2 then y + 1 else y)
  .ok (y, m, d)

end UnidppArchive

------------------------------------------------------------
-- No Word Overflows
------------------------------------------------------------

namespace UnidppArchive

open Checked

variable {ε : Type}

theorem asU32_of_fits
    {n : Int}
    (hLow : 0 ≤ n)
    (hHigh : n < 2 ^ 32) :
    asU32 n = n.toNat := by
  unfold asU32
  rw [Int.emod_eq_of_lt hLow hHigh]

/- The next step goes on with a result that fits. -/
theorem i64_bind
    {α : Type}
    {n : Int}
    (hLow : -2 ^ 63 ≤ n)
    (hHigh : n < 2 ^ 63)
    (f : Int → Checked ε α) :
    (i64 n >>= f) = f n := by
  rw [i64_of_fits hLow hHigh]
  rfl

/- Every result is in range, far from the ends of the words. -/
theorem civilFromDaysChecked_eq
    {z : Int}
    (hLow : -2 ^ 62 ≤ z)
    (hHigh : z ≤ 2 ^ 62) :
    (civilFromDaysChecked z : Checked ε (Int × Nat × Nat)) =
      .ok (civilFromDays z) := by
  unfold civilFromDaysChecked civilFromDays
  generalize hShift : z + 719468 = x
  have hShifted :
      -2 ^ 63 ≤ (if x ≥ 0 then x else x - 146096) ∧
        (if x ≥ 0 then x else x - 146096) < 2 ^ 63 := by
    split <;> omega
  rw [i64_bind (by omega) (by omega),
    i64_bind hShifted.1 hShifted.2]
  -- the era, and the day in it
  simp only [eraOfDay_eq]
  generalize hEra : x / 146097 = era
  rw [i64_bind (by omega) (by omega),
    i64_bind (by omega) (by omega)]
  generalize hDoe : x - era * 146097 = doe
  have hDoeLow : 0 ≤ doe := by omega
  have hDoeHigh : doe ≤ 146096 := by omega
  -- the year of the era
  generalize hYoe :
    (doe - doe.tdiv 1460 + doe.tdiv 36524 -
      doe.tdiv 146096).tdiv 365 = yoe
  rcases exists_eraDay_of_code hDoeLow hDoeHigh hYoe with
    ⟨c, q, r, hEraDay, hYear⟩
  have hCentury := hEraDay.century
  have hCycle := hEraDay.cycle
  have hRest := hEraDay.year
  have hDay := hEraDay.day
  have hYoeLow : 0 ≤ yoe := by omega
  simp only [Int.tdiv_eq_ediv_of_nonneg hDoeLow] at hYoe ⊢
  rw [i64_bind (by omega) (by omega),
    i64_bind (by omega) (by omega),
    i64_bind (by omega) (by omega), hYoe]
  clear hYoe
  rw [i64_bind (by omega) (by omega),
    i64_bind (by omega) (by omega)]
  -- the day of the year that begins in March
  simp only [Int.tdiv_eq_ediv_of_nonneg hYoeLow] at hDay ⊢
  rw [i64_bind (by omega) (by omega),
    i64_bind (by omega) (by omega),
    i64_bind (by omega) (by omega),
    i64_bind (by omega) (by omega)]
  generalize hDoy :
    doe - (365 * yoe + yoe / 4 - yoe / 100) = doy at *
  rw [i64_bind (by omega) (by omega),
    i64_bind (by omega) (by omega)]
  simp only [Int.tdiv_eq_ediv_of_nonneg
    (show (0 : Int) ≤ 5 * doy + 2 by omega)]
  -- the month and its day
  have hMonth := Gregorian.monthDay hDay.1 hDay.2
  have hMonthRange := hMonth.month
  have hDayRange := hMonth.day
  generalize (5 * doy + 2) / 153 = mp at *
  rw [i64_bind (by omega) (by omega),
    i64_bind (by omega) (by omega)]
  simp only [Int.tdiv_eq_ediv_of_nonneg
    (show (0 : Int) ≤ 153 * mp + 2 by omega)]
  rw [i64_bind (by omega) (by omega),
    i64_bind (by omega) (by omega)]
  have hCivilMonth :
      1 ≤ (if mp < 10 then mp + 3 else mp - 9) ∧
        (if mp < 10 then mp + 3 else mp - 9) ≤ 12 := by
    split <;> omega
  generalize (if mp < 10 then mp + 3 else mp - 9) = m at *
  rw [i64_bind (by omega) (by omega),
    asU32_of_fits (n := m) (by omega) (by omega),
    asU32_of_fits (by omega) (by omega)]
  have hCivilYear :
      -2 ^ 63 ≤ (if m.toNat ≤ 2 then yoe + era * 400 + 1
          else yoe + era * 400) ∧
        (if m.toNat ≤ 2 then yoe + era * 400 + 1
          else yoe + era * 400) < 2 ^ 63 := by
    split <;> omega
  rw [i64_bind hCivilYear.1 hCivilYear.2]

end UnidppArchive

------------------------------------------------------------
-- The Proleptic Gregorian Calendar
------------------------------------------------------------

namespace UnidppArchive

open Gregorian

/- The days of an instant are far fewer than its seconds. -/
theorem civilFromDaysChecked_of_secs
    {ε : Type}
    (secs : Int64) :
    (civilFromDaysChecked (secs.toInt / 86400) :
        Checked ε (Int × Nat × Nat)) =
      .ok (civilFromDays (secs.toInt / 86400)) := by
  have hLow := secs.le_toInt
  have hHigh := secs.toInt_lt
  exact civilFromDaysChecked_eq (by omega) (by omega)

/-
  The calendar functions are those of the calendar, and
  printing an instant overflows nowhere in them.
-/
theorem calendar_is_gregorian :
    (∀ y m d, CivilDate y m d →
      civilFromDays (daysFromCivil y m d) = (y, m, d)) ∧
    (∀ z, ∃ y m d,
      civilFromDays z = (y, m, d) ∧ CivilDate y m d ∧
        daysFromCivil y m d = z) ∧
    daysFromCivil 1970 1 1 = 0 ∧
    (∀ y m d, CivilDate y m d ↔
      ∃ x : Date, x.year = y ∧ x.month = m ∧ x.day = d) ∧
    (∀ x : Date,
      daysFromCivil x.next.year x.next.month x.next.day =
        daysFromCivil x.year x.month x.day + 1) ∧
    (∀ f : Date → Int,
      Numbering f → f Date.epoch = 0 → f = Date.toDays) ∧
    ∀ secs : Int64, ∃ y m d,
      (civilFromDaysChecked (secs.toInt / 86400) :
          Checked Empty (Int × Nat × Nat)) = .ok (y, m, d) ∧
        civilFromDays (secs.toInt / 86400) = (y, m, d) ∧
        (1 ≤ m ∧ m ≤ 12) ∧ 1 ≤ d ∧ d ≤ daysInMonth y m := by
  refine ⟨fun y m d h => civilFromDays_daysFromCivil h, ?_,
    Date.toDays_epoch, fun y m d => civilDate_iff,
    Date.toDays_next, ?_, ?_⟩
  · intro z
    exact ⟨_, _, _, rfl, civilDate_civilFromDays rfl,
      daysFromCivil_civilFromDays rfl⟩
  · intro f hNumbering hEpoch
    apply hNumbering.eq_of_apply_eq Date.numbering_toDays
    rw [hEpoch, Date.toDays_epoch]
  · intro secs
    have hDate : CivilDate _ _ _ :=
      civilDate_civilFromDays
        (z := secs.toInt / 86400) rfl
    exact ⟨_, _, _, civilFromDaysChecked_of_secs secs, rfl,
      hDate.month, hDate.day⟩

end UnidppArchive
