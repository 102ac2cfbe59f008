import UnidppArchive.Time.Calendar
import Mathlib.Data.List.Forall2

/-
  Which printed instants can be read back.

  `Timestamp.parse` reads a year of exactly four digits, so
  a printed instant is read back exactly when its calendar
  year lies between 0 and 9999.  Parsing itself can leave
  that range, by a zone offset at one of its ends.

  Key definitions include:
    * `Timestamp.Printable`
    * `Timestamp.CanonicalForm`

  Key theorems include:
    * `digitsFrom_lt_iff`
    * `Timestamp.parse_toString`
    * `Timestamp.parse_toString_eq_ok_iff`
    * `Timestamp.toString_injective`
    * `Timestamp.printable_of_canonicalForm`
    * `Timestamp.secs_bounds_of_parse`
-/

------------------------------------------------------------
-- Digits
------------------------------------------------------------

namespace UnidppArchive

theorem isAsciiDigit_ascii
    {c : Char}
    (h : c.isDigit = true) :
    isAsciiDigit (ascii c) = true ∧
      (ascii c).toNat - 48 = c.toNat - '0'.toNat := by
  have hRange : 48 ≤ c.toNat ∧ c.toNat ≤ 57 :=
    Char.isDigit_iff_toNat.mp h
  have hByte : (ascii c).toNat = c.toNat := by
    unfold ascii
    rw [UInt8.toNat_ofNat']
    omega
  have hZero : '0'.toNat = 48 := rfl
  refine ⟨?_, by omega⟩
  simp only [isAsciiDigit, UInt8.le_iff_toNat_le, hByte,
    Bool.and_eq_true, decide_eq_true_eq]
  exact hRange

theorem isAsciiDigit_bounds
    {c : UInt8}
    (h : isAsciiDigit c = true) :
    48 ≤ c.toNat ∧ c.toNat ≤ 57 := by
  simpa [isAsciiDigit, UInt8.le_iff_toNat_le] using h

/- ASCII digits are read with their decimal value. -/
theorem digitsFrom_map_ascii
    {cs : List Char}
    (hDigits : ∀ c ∈ cs, c.isDigit = true)
    (v : Nat) :
    digitsFrom v (cs.map ascii) =
      some (Nat.ofDigitChars 10 cs v : Nat) := by
  induction cs generalizing v with
  | nil => rfl
  | cons c cs ih =>
      have hHead := isAsciiDigit_ascii (hDigits c (by simp))
      have hTail := ih (fun d hd => hDigits d (by simp [hd]))
        (10 * v + (c.toNat - '0'.toNat))
      rw [List.map_cons, digitsFrom, if_pos hHead.1,
        Nat.ofDigitChars_cons, ← hTail, hHead.2]
      congr 1
      push_cast
      omega

/- A padded number is read with its value. -/
theorem digitsFrom_padZero
    (w n : Nat) :
    digitsFrom 0 ((Text.padZero w n).toList.map ascii) =
      some (n : Int) := by
  have hDigits :
      ∀ c ∈ (Text.padZero w n).toList, c.isDigit = true := by
    intro c hc
    exact Text.isDigit_of_mem_padZero hc
  have hRead := digitsFrom_map_ascii hDigits 0
  rw [Text.ofDigitChars_padZero] at hRead
  exact hRead

/- Digits are read as a number of as many places. -/
theorem digitsFrom_bounds
    {b : Bytes}
    {v n : Int}
    (hStart : 0 ≤ v)
    (h : digitsFrom v b = some n) :
    0 ≤ n ∧ n < (v + 1) * 10 ^ b.length := by
  induction b generalizing v with
  | nil =>
      simp only [digitsFrom, Option.some.injEq] at h
      simp
      omega
  | cons c cs ih =>
      unfold digitsFrom at h
      split at h
      · rename_i hDigit
        have hHigh := (isAsciiDigit_bounds hDigit).2
        rcases ih (by omega) h with ⟨hLow, hBelow⟩
        refine ⟨hLow, lt_of_lt_of_le hBelow ?_⟩
        rw [List.length_cons, Int.pow_succ', ← Int.mul_assoc]
        apply Int.mul_le_mul_of_nonneg_right
        · omega
        · exact Int.le_of_lt (Int.pow_pos (by omega))
      · cases h

/- A larger start outweighs all the digits behind it. -/
theorem digitsFrom_lt_of_start
    {b b' : Bytes}
    {v v' n n' : Int}
    (hLength : b.length = b'.length)
    (h : digitsFrom v b = some n)
    (h' : digitsFrom v' b' = some n')
    (hStart : v < v') :
    n < n' := by
  induction b generalizing v v' b' with
  | nil =>
      have hNil : b' = [] := by
        simpa using hLength.symm
      subst hNil
      simp only [digitsFrom, Option.some.injEq] at h h'
      omega
  | cons c b ih =>
      cases b' with
      | nil => simp at hLength
      | cons c' b' =>
          rw [digitsFrom, Option.ite_none_right_eq_some]
            at h h'
          have hDigit := isAsciiDigit_bounds h.1
          have hDigit' := isAsciiDigit_bounds h'.1
          apply ih (by simpa using hLength) h.2 h'.2
          omega

/- Equally long digits are ordered as their values. -/
theorem digitsFrom_lt_iff
    {b b' : Bytes}
    {v n n' : Int}
    (hLength : b.length = b'.length)
    (h : digitsFrom v b = some n)
    (h' : digitsFrom v b' = some n') :
    b < b' ↔ n < n' := by
  induction b generalizing v b' with
  | nil =>
      have hNil : b' = [] := by
        simpa using hLength.symm
      subst hNil
      rw [h, Option.some.injEq] at h'
      simp [h']
  | cons c b ih =>
      cases b' with
      | nil => simp at hLength
      | cons c' b' =>
          have hTail : b.length = b'.length := by
            simpa using hLength
          rw [digitsFrom, Option.ite_none_right_eq_some]
            at h h'
          have hDigit := isAsciiDigit_bounds h.1
          have hDigit' := isAsciiDigit_bounds h'.1
          rw [List.cons_lt_cons_iff, ← UInt8.toNat_inj,
            UInt8.lt_iff_toNat_lt]
          rcases lt_trichotomy c.toNat c'.toNat with
            hLt | hEq | hGt
          · have hValue :=
              digitsFrom_lt_of_start hTail h.2 h'.2 (by omega)
            simp [hLt, hValue]
          · rw [hEq] at h ⊢
            rw [← ih hTail h.2 h'.2]
            simp
          · have hValue :=
              digitsFrom_lt_of_start hTail.symm h'.2 h.2
                (by omega)
            simp [hGt.not_gt, hGt.ne', hValue.not_gt]

/- Equally long digits of one value are the same digits. -/
theorem digitsFrom_inj
    {b b' : Bytes}
    {v n : Int}
    (hLength : b.length = b'.length)
    (h : digitsFrom v b = some n)
    (h' : digitsFrom v b' = some n) :
    b = b' := by
  apply Std.Trichotomous.trichotomous (r := (· < ·))
  · rw [digitsFrom_lt_iff hLength h h']
    exact lt_irrefl n
  · rw [digitsFrom_lt_iff hLength.symm h' h]
    exact lt_irrefl n

theorem digits_bounds
    {b : Bytes}
    {pos len : Nat}
    {n : Int}
    (h : digits b pos len = some n) :
    0 ≤ n ∧ n < 10 ^ len := by
  unfold digits at h
  split at h
  · cases h
  · have hBounds := digitsFrom_bounds (by omega) h
    have hLength : ((b.drop pos).take len).length = len := by
      simp
      omega
    rw [hLength] at hBounds
    simpa using hBounds

end UnidppArchive

------------------------------------------------------------
-- What Parsing Yields
------------------------------------------------------------

namespace UnidppArchive

namespace Timestamp

theorem parse_eq_ok_iff
    {s : String}
    {t : Timestamp} :
    parse s = .ok t ↔ parseBytes (Utf8.encode s) = some t := by
  unfold parse
  cases parseBytes (Utf8.encode s) <;> simp

/- The date, the time and the zone of what is read. -/
theorem parts_of_parseBytes
    {b : Bytes}
    {t : Timestamp}
    (h : parseBytes b = some t) :
    ∃ y m d hour min sec pos offset,
      parseDate b = some (y, m, d) ∧
        parseClock b 10 = some (hour, min, sec, pos) ∧
        parseZone b pos = some offset ∧
        t.secs =
          daysFromCivil y m d * 86400 + hour * 3600 +
            min * 60 + sec - offset := by
  unfold parseBytes at h
  rcases Option.bind_eq_some_iff.mp h with
    ⟨⟨y, m, d⟩, hDate, h⟩
  rcases Option.bind_eq_some_iff.mp h with
    ⟨⟨hour, min, sec, pos⟩, hClock, h⟩
  rcases Option.bind_eq_some_iff.mp h with
    ⟨offset, hZone, h⟩
  cases h
  exact ⟨y, m, d, hour, min, sec, pos, offset, hDate, hClock,
    hZone, rfl⟩

theorem parseDate_spec
    {b : Bytes}
    {y : Int}
    {m d : Nat}
    (h : parseDate b = some (y, m, d)) :
    (0 ≤ y ∧ y ≤ 9999) ∧ CivilDate y m d := by
  unfold parseDate at h
  split at h
  · cases h
  cases hYear : digits b 0 4 with
  | none => simp [hYear] at h
  | some year =>
  cases hMonth : digits b 5 2 with
  | none => simp [hYear, hMonth] at h
  | some month =>
  cases hDay : digits b 8 2 with
  | none => simp [hYear, hMonth, hDay] at h
  | some day =>
  simp only [hYear, hMonth, hDay, Option.bind_eq_bind,
    Option.bind_some] at h
  have hYearRange := digits_bounds hYear
  split at h
  · cases h
  split at h
  · cases h
  split at h
  · cases h
  rename_i hMonthRange
  split at h
  · cases h
  rename_i hDayRange
  simp only [Option.some.injEq, Prod.mk.injEq] at h
  rcases h with ⟨rfl, rfl, rfl⟩
  exact ⟨by omega, by omega, by omega⟩

theorem parseClock_spec
    {b : Bytes}
    {pos pos' : Nat}
    {hour min sec : Int}
    (h : parseClock b pos = some (hour, min, sec, pos')) :
    (0 ≤ hour ∧ hour ≤ 23) ∧ (0 ≤ min ∧ min ≤ 59) ∧
      (0 ≤ sec ∧ sec ≤ 59) := by
  unfold parseClock at h
  split at h
  · split at h
    · cases h
    cases hHour : digits b (pos + 1) 2 with
    | none => simp [hHour] at h
    | some hh =>
    cases hMin : digits b (pos + 4) 2 with
    | none => simp [hHour, hMin] at h
    | some mm =>
    cases hSec : digits b (pos + 7) 2 with
    | none => simp [hHour, hMin, hSec] at h
    | some ss =>
    simp only [hHour, hMin, hSec, Option.bind_eq_bind,
      Option.bind_some] at h
    have hHourLow := (digits_bounds hHour).1
    have hMinLow := (digits_bounds hMin).1
    have hSecLow := (digits_bounds hSec).1
    split at h
    · cases h
    split at h
    · cases h
    split at h
    · cases h
    rename_i hRange
    split at h
    all_goals
      simp only [Option.some.injEq, Prod.mk.injEq] at h
      omega
  · simp only [Option.some.injEq, Prod.mk.injEq] at h
    omega

/- A zone offset is shorter than a day. -/
theorem parseZone_spec
    {b : Bytes}
    {pos : Nat}
    {offset : Int}
    (h : parseZone b pos = some offset) :
    -86340 ≤ offset ∧ offset ≤ 86340 := by
  unfold parseZone at h
  split at h
  · split at h
    · split at h
      · cases h
      · cases h
        omega
    · split at h
      · simp only [Option.bind_eq_bind] at h
        cases hHour : digits b (pos + 1) 2 with
        | none => simp [hHour] at h
        | some oh =>
        simp only [hHour, Option.bind_some] at h
        generalize
          (if pos + 1 + 2 < List.length b ∧
              byteAt b (pos + 1 + 2) = ascii ':' then
            pos + 1 + 2 + 1
          else
            pos + 1 + 2) = pos' at h
        rcases Option.bind_eq_some_iff.mp h with
          ⟨om, hMin, h⟩
        have hHourLow := (digits_bounds hHour).1
        have hMinLow := (digits_bounds hMin).1
        split at h
        · cases h
        rename_i hRange
        split at h
        · cases h
        simp only [Option.some.injEq] at h
        subst h
        split <;> omega
      · cases h
  · cases h
    omega

end Timestamp

end UnidppArchive

------------------------------------------------------------
-- The Canonical Form
------------------------------------------------------------

namespace UnidppArchive

/- The places of `YYYY-MM-DDThh:mm:ssZ` that vary. -/
structure Places where
  y₁ : UInt8
  y₂ : UInt8
  y₃ : UInt8
  y₄ : UInt8
  m₁ : UInt8
  m₂ : UInt8
  d₁ : UInt8
  d₂ : UInt8
  hh₁ : UInt8
  hh₂ : UInt8
  mm₁ : UInt8
  mm₂ : UInt8
  ss₁ : UInt8
  ss₂ : UInt8

namespace Places

/- The octets of the canonical form. -/
def bytes
    (p : Places) : Bytes :=
  [p.y₁, p.y₂, p.y₃, p.y₄, ascii '-', p.m₁, p.m₂, ascii '-',
    p.d₁, p.d₂, ascii 'T', p.hh₁, p.hh₂, ascii ':', p.mm₁,
    p.mm₂, ascii ':', p.ss₁, p.ss₂, ascii 'Z']

variable (p : Places)

theorem parseDate_bytes
    {y : Int}
    {m d : Nat}
    (hYear : digitsFrom 0 [p.y₁, p.y₂, p.y₃, p.y₄] = some y)
    (hMonth : digitsFrom 0 [p.m₁, p.m₂] = some (m : Int))
    (hDay : digitsFrom 0 [p.d₁, p.d₂] = some (d : Int))
    (hDate : CivilDate y m d) :
    Timestamp.parseDate p.bytes = some (y, m, d) := by
  have hMonthRange := hDate.month
  have hDayRange := hDate.day
  have hMonth' : ¬ (m = 0 ∨ 12 < m) := by omega
  have hDay' : ¬ (d = 0 ∨ daysInMonth y m < d) := by omega
  simp [Timestamp.parseDate, bytes, byteAt, digits, hYear,
    hMonth, hDay]
  omega

/- The time part ends before the zone. -/
theorem parseClock_bytes :
    Timestamp.parseClock p.bytes 10 =
      (do
        let hour ← digitsFrom 0 [p.hh₁, p.hh₂]
        let min ← digitsFrom 0 [p.mm₁, p.mm₂]
        let sec ← digitsFrom 0 [p.ss₁, p.ss₂]
        if hour > 23 ∨ min > 59 ∨ sec > 59 then
          none
        else
          some (hour, min, sec, 19)) := by
  have hDot : ascii 'Z' ≠ ascii '.' := by decide
  simp [Timestamp.parseClock, bytes, byteAt, digits, hDot]

/- The final `Z` is a zone of no offset. -/
theorem parseZone_bytes :
    Timestamp.parseZone p.bytes 19 = some 0 := by
  simp [Timestamp.parseZone, bytes, byteAt]

end Places

end UnidppArchive

------------------------------------------------------------
-- Printed Numbers
------------------------------------------------------------

namespace UnidppArchive

theorem encode_padZero
    (w n : Nat) :
    Utf8.encode (Text.padZero w n) =
      (Text.padZero w n).toList.map ascii := by
  apply Utf8.encode_ascii
  intro c hc
  have hDigit :=
    Char.isDigit_iff_toNat.mp (Text.isDigit_of_mem_padZero hc)
  have hNine : '9'.toNat = 57 := rfl
  omega

theorem exists_encode_padZero_two
    {n : Nat}
    (hn : n < 100) :
    ∃ b₁ b₂,
      Utf8.encode (Text.padZero 2 n) = [b₁, b₂] ∧
        digitsFrom 0 [b₁, b₂] = some (n : Int) := by
  have hLength : (Text.padZero 2 n).toList.length = 2 :=
    Text.length_padZero (by omega) hn
  have hRead := digitsFrom_padZero 2 n
  rw [encode_padZero]
  rcases List.length_eq_two.mp hLength with ⟨c₁, c₂, hList⟩
  rw [hList] at hRead ⊢
  exact ⟨ascii c₁, ascii c₂, rfl, hRead⟩

theorem exists_encode_padZero_four
    {n : Nat}
    (hn : n < 10000) :
    ∃ b₁ b₂ b₃ b₄,
      Utf8.encode (Text.padZero 4 n) = [b₁, b₂, b₃, b₄] ∧
        digitsFrom 0 [b₁, b₂, b₃, b₄] = some (n : Int) := by
  have hLength : (Text.padZero 4 n).toList.length = 4 :=
    Text.length_padZero (by omega) hn
  have hRead := digitsFrom_padZero 4 n
  rw [encode_padZero]
  rcases List.length_eq_four.mp hLength with
    ⟨c₁, c₂, c₃, c₄, hList⟩
  rw [hList] at hRead ⊢
  exact ⟨ascii c₁, ascii c₂, ascii c₃, ascii c₄, rfl, hRead⟩

end UnidppArchive

------------------------------------------------------------
-- Dates That Are Refused
------------------------------------------------------------

namespace UnidppArchive

namespace Timestamp

theorem parseDate_minus
    (b : Bytes) :
    parseDate (ascii '-' :: b) = none := by
  have hDigits : digits (ascii '-' :: b) 0 4 = none := by
    have hMinus : isAsciiDigit (ascii '-') = false := by decide
    unfold digits
    split
    · rfl
    · simp [digitsFrom, hMinus]
  simp [parseDate, hDigits]

/- A number beyond four places has a digit in the fifth. -/
theorem isAsciiDigit_fifth
    {n : Nat}
    (hn : 10000 ≤ n)
    (rest : Bytes) :
    isAsciiDigit
      (byteAt (Utf8.encode (Text.padZero 4 n) ++ rest) 4) =
        true := by
  have hLong : ¬ (Nat.toDigits 10 n).length ≤ 4 := by
    rw [Nat.length_toDigits_le_iff (by omega) (by omega)]
    omega
  have hLength : 4 < (Text.padZero 4 n).toList.length := by
    simp [Text.padZero]
    omega
  have hByte :
      byteAt (Utf8.encode (Text.padZero 4 n) ++ rest) 4 =
        ascii (Text.padZero 4 n).toList[4] := by
    have hBefore :
        4 < ((Text.padZero 4 n).toList.map ascii).length := by
      simpa using hLength
    rw [encode_padZero, byteAt, List.getD_eq_getElem?_getD,
      List.getElem?_append_left hBefore]
    simp [hLength]
  rw [hByte]
  exact (isAsciiDigit_ascii
    (Text.isDigit_of_mem_padZero
      (List.getElem_mem hLength))).1

theorem parseDate_five_digits
    {b : Bytes}
    (hFifth : isAsciiDigit (byteAt b 4) = true) :
    parseDate b = none := by
  have hDash : byteAt b 4 ≠ ascii '-' := by
    intro hEq
    rw [hEq] at hFifth
    revert hFifth
    decide
  unfold parseDate
  split
  · rfl
  · cases digits b 0 4 with
    | none => rfl
    | some year => rfl

end Timestamp

end UnidppArchive

------------------------------------------------------------
-- The Round Trip
------------------------------------------------------------

namespace UnidppArchive

namespace Timestamp

/- The calendar year of the instant has at most four digits. -/
@[reducible]
def Printable
    (t : Timestamp) : Prop :=
  -62167219200 ≤ t.secs ∧ t.secs ≤ 253402300799

theorem year_iff_printable
    {t : Timestamp}
    {y : Int}
    {m d : Nat}
    (h : civilFromDays (t.secs / 86400) = (y, m, d)) :
    0 ≤ y ∧ y ≤ 9999 ↔ t.Printable := by
  rw [year_civilFromDays_iff h]
  unfold Printable
  omega

/- The printed form of a four-digit instant, and its parts. -/
theorem exists_places
    {t : Timestamp}
    {y : Int}
    {m d : Nat}
    (hCivil : civilFromDays (t.secs / 86400) = (y, m, d))
    (hYear : 0 ≤ y ∧ y ≤ 9999) :
    ∃ p : Places,
      Utf8.encode t.toString = p.bytes ∧
        digitsFrom 0 [p.y₁, p.y₂, p.y₃, p.y₄] = some y ∧
        digitsFrom 0 [p.m₁, p.m₂] = some (m : Int) ∧
        digitsFrom 0 [p.d₁, p.d₂] = some (d : Int) ∧
        digitsFrom 0 [p.hh₁, p.hh₂] =
          some (((t.secs % 86400).toNat / 3600 : Nat) : Int) ∧
        digitsFrom 0 [p.mm₁, p.mm₂] =
          some
            (((t.secs % 86400).toNat % 3600 / 60 : Nat) : Int) ∧
        digitsFrom 0 [p.ss₁, p.ss₂] =
          some (((t.secs % 86400).toNat % 60 : Nat) : Int) := by
  have hDate := civilDate_civilFromDays hCivil
  have hMonthRange := hDate.month
  have hDayRange := hDate.day
  have hLength := daysInMonth_le y m
  rcases exists_encode_padZero_four
      (show y.toNat < 10000 by omega) with
    ⟨y₁, y₂, y₃, y₄, hYearText, hYearRead⟩
  rcases exists_encode_padZero_two (show m < 100 by omega) with
    ⟨m₁, m₂, hMonthText, hMonthRead⟩
  rcases exists_encode_padZero_two (show d < 100 by omega) with
    ⟨d₁, d₂, hDayText, hDayRead⟩
  rcases exists_encode_padZero_two
      (show (t.secs % 86400).toNat / 3600 < 100 by omega) with
    ⟨hh₁, hh₂, hHourText, hHourRead⟩
  rcases exists_encode_padZero_two
      (show (t.secs % 86400).toNat % 3600 / 60 < 100 by
        omega) with
    ⟨mm₁, mm₂, hMinText, hMinRead⟩
  rcases exists_encode_padZero_two
      (show (t.secs % 86400).toNat % 60 < 100 by omega) with
    ⟨ss₁, ss₂, hSecText, hSecRead⟩
  rw [Int.toNat_of_nonneg hYear.1] at hYearRead
  refine ⟨⟨y₁, y₂, y₃, y₄, m₁, m₂, d₁, d₂, hh₁, hh₂, mm₁,
    mm₂, ss₁, ss₂⟩, ?_, hYearRead, hMonthRead, hDayRead,
    hHourRead, hMinRead, hSecRead⟩
  have hDash : Utf8.encode "-" = [ascii '-'] := by decide
  have hTee : Utf8.encode "T" = [ascii 'T'] := by decide
  have hColon : Utf8.encode ":" = [ascii ':'] := by decide
  have hZed : Utf8.encode "Z" = [ascii 'Z'] := by decide
  have hSign : ¬ y < 0 := by omega
  simp only [Timestamp.toString, hCivil, padYear,
    if_neg hSign, Utf8.encode_append, hYearText, hMonthText,
    hDayText, hHourText, hMinText, hSecText, hDash, hTee,
    hColon, hZed]
  rfl

/- A four-digit instant is read back from its printed form. -/
theorem parse_toString
    {t : Timestamp}
    (h : t.Printable) :
    parse t.toString = .ok t := by
  rcases hCivil : civilFromDays (t.secs / 86400) with ⟨y, m, d⟩
  have hYear := (year_iff_printable hCivil).mpr h
  rcases exists_places hCivil hYear with
    ⟨p, hText, hYearRead, hMonthRead, hDayRead, hHourRead,
      hMinRead, hSecRead⟩
  have hDateRead :=
    p.parseDate_bytes hYearRead hMonthRead hDayRead
      (civilDate_civilFromDays hCivil)
  have hClock := p.parseClock_bytes
  rw [hHourRead, hMinRead, hSecRead] at hClock
  simp only [Option.bind_eq_bind, Option.bind_some]
    at hClock
  rw [if_neg (by omega)] at hClock
  have hSecs :
      t.secs / 86400 * 86400 +
        (((t.secs % 86400).toNat / 3600 : Nat) : Int) * 3600 +
        (((t.secs % 86400).toNat % 3600 / 60 : Nat) : Int) * 60 +
        (((t.secs % 86400).toNat % 60 : Nat) : Int) - 0 =
          t.secs := by
    omega
  have hRead : parseBytes p.bytes = some t := by
    simp only [parseBytes, hDateRead, Option.bind_eq_bind,
      Option.bind_some, hClock, p.parseZone_bytes,
      daysFromCivil_civilFromDays hCivil, hSecs]
  rw [parse_eq_ok_iff, hText, hRead]

/- A year of any other width is not read back. -/
theorem parse_toString_of_not_printable
    {t : Timestamp}
    (h : ¬ t.Printable) :
    parse t.toString = .error ⟨t.toString⟩ := by
  rcases hCivil : civilFromDays (t.secs / 86400) with ⟨y, m, d⟩
  have hYear : ¬ (0 ≤ y ∧ y ≤ 9999) := by
    rw [year_iff_printable hCivil]
    exact h
  have hText :
      ∃ rest,
        Utf8.encode t.toString =
          Utf8.encode (padYear y) ++ rest := by
    simp only [Timestamp.toString, hCivil, Utf8.encode_append,
      List.append_assoc]
    exact ⟨_, rfl⟩
  have hDate : parseDate (Utf8.encode t.toString) = none := by
    rcases hText with ⟨rest, hText⟩
    rw [hText]
    by_cases hSign : y < 0
    · -- the sign stands where the first digit is expected
      have hMinus : Utf8.encode "-" = [ascii '-'] := by decide
      simp only [padYear, if_pos hSign, Utf8.encode_append,
        hMinus, List.cons_append, List.nil_append]
      exact parseDate_minus _
    · -- a fifth digit stands where the dash is expected
      rw [padYear, if_neg hSign]
      exact parseDate_five_digits
        (isAsciiDigit_fifth (by omega) rest)
  simp [parse, parseBytes, hDate]

theorem parse_toString_eq_ok_iff
    {t : Timestamp} :
    parse t.toString = .ok t ↔ t.Printable := by
  constructor
  · intro h
    by_contra hPrintable
    rw [parse_toString_of_not_printable hPrintable] at h
    cases h
  · exact parse_toString

end Timestamp

end UnidppArchive

------------------------------------------------------------
-- Different Instants Are Printed Differently
------------------------------------------------------------

namespace UnidppArchive

/- A sign is no digit, so the years fall apart by their sign. -/
theorem padYear_injective :
    Function.Injective padYear := by
  have hSign :
      ∀ (k n : Nat), "-" ++ Text.padZero 3 k ≠
        Text.padZero 4 n := by
    intro k n hEq
    have hMem : '-' ∈ (Text.padZero 4 n).toList := by
      rw [← hEq]
      simp
    have hDigit := Text.isDigit_of_mem_padZero hMem
    simp at hDigit
  intro y y' h
  unfold padYear at h
  split at h <;> split at h
  · have hText := congrArg String.toList h
    rw [String.toList_append, String.toList_append,
      List.append_cancel_left_eq, String.toList_inj] at hText
    have hAbs := Text.padZero_injective 3 hText
    omega
  · exact (hSign _ _ h).elim
  · exact (hSign _ _ h.symm).elim
  · have hNat := Text.padZero_injective 4 h
    omega

namespace Timestamp

/- The fields of a printed instant are read off its end. -/
theorem toString_injective :
    Function.Injective toString := by
  intro t t' h
  rcases hCivil : civilFromDays (t.secs / 86400) with ⟨y, m, d⟩
  rcases hCivil' : civilFromDays (t'.secs / 86400) with
    ⟨y', m', d'⟩
  have hDate := civilDate_civilFromDays hCivil
  have hDate' := civilDate_civilFromDays hCivil'
  have hDay := daysInMonth_le y m
  have hDay' := daysInMonth_le y' m'
  have hWidth :
      ∀ {n n' : Nat}, n < 100 → n' < 100 →
        (Text.padZero 2 n).toList.length =
          (Text.padZero 2 n').toList.length := by
    intro n n' hn hn'
    rw [Text.length_padZero (by omega) hn,
      Text.length_padZero (by omega) hn']
  simp only [toString, hCivil, hCivil'] at h
  rcases Text.append_inj_of_length rfl h with ⟨h, -⟩
  rcases Text.append_inj_of_length
    (hWidth (by omega) (by omega)) h with ⟨h, hSec⟩
  rcases Text.append_inj_of_length rfl h with ⟨h, -⟩
  rcases Text.append_inj_of_length
    (hWidth (by omega) (by omega)) h with ⟨h, hMin⟩
  rcases Text.append_inj_of_length rfl h with ⟨h, -⟩
  rcases Text.append_inj_of_length
    (hWidth (by omega) (by omega)) h with ⟨h, hHour⟩
  rcases Text.append_inj_of_length rfl h with ⟨h, -⟩
  rcases Text.append_inj_of_length
    (hWidth (by have := hDate.day; omega)
      (by have := hDate'.day; omega)) h with ⟨h, hDayText⟩
  rcases Text.append_inj_of_length rfl h with ⟨h, -⟩
  rcases Text.append_inj_of_length
    (hWidth (by have := hDate.month; omega)
      (by have := hDate'.month; omega)) h with ⟨h, hMonthText⟩
  rcases Text.append_inj_of_length rfl h with ⟨h, -⟩
  have hSame : (y, m, d) = (y', m', d') := by
    rw [padYear_injective h,
      Text.padZero_injective 2 hMonthText,
      Text.padZero_injective 2 hDayText]
  simp only [Prod.mk.injEq] at hSame
  rcases hSame with ⟨rfl, rfl, rfl⟩
  have hDays : t.secs / 86400 = t'.secs / 86400 := by
    rw [← daysFromCivil_civilFromDays hCivil,
      ← daysFromCivil_civilFromDays hCivil']
  have hHours := Text.padZero_injective 2 hHour
  have hMins := Text.padZero_injective 2 hMin
  have hSecs := Text.padZero_injective 2 hSec
  have hTotal : t.secs = t'.secs := by omega
  cases t
  cases t'
  exact congrArg Timestamp.mk hTotal

end Timestamp

end UnidppArchive

------------------------------------------------------------
-- Instants That Parsing Yields
------------------------------------------------------------

namespace UnidppArchive

namespace Timestamp

/- Parsed instants fit in the 64-bit field they are kept in. -/
theorem secs_bounds_of_parse
    {s : String}
    {t : Timestamp}
    (h : parse s = .ok t) :
    -2 ^ 63 ≤ t.secs ∧ t.secs < 2 ^ 63 := by
  rcases parts_of_parseBytes (parse_eq_ok_iff.mp h) with
    ⟨y, m, d, hour, min, sec, pos, offset, hDate, hClock,
      hZone, hSecs⟩
  have hDays := daysFromCivil_bounds (parseDate_spec hDate).2
    (parseDate_spec hDate).1
  have hTime := parseClock_spec hClock
  have hOffset := parseZone_spec hZone
  rw [hSecs]
  constructor <;> omega

/- The text has the form `YYYY-MM-DDThh:mm:ssZ`. -/
def CanonicalForm
    (s : String) : Prop :=
  List.Forall₂
    (fun p c => if p = '0' then c.isDigit = true else c = p)
    "0000-00-00T00:00:00Z".toList s.toList

theorem ascii_of_canonicalForm
    {ps cs : List Char}
    (hForm : List.Forall₂
      (fun p c => if p = '0' then c.isDigit = true else c = p)
      ps cs)
    (hTemplate : ∀ p ∈ ps, p.toNat < 128) :
    ∀ c ∈ cs, c.toNat < 128 := by
  induction hForm with
  | nil => simp
  | @cons p c ps cs hPlace hRest ih =>
      have hHead : c.toNat < 128 := by
        split at hPlace
        · have hDigit := Char.isDigit_iff_toNat.mp hPlace
          have hNine : '9'.toNat = 57 := rfl
          omega
        · rw [hPlace]
          exact hTemplate p (by simp)
      intro d hd
      rcases List.mem_cons.mp hd with rfl | hd
      · exact hHead
      · exact ih (fun q hq => hTemplate q (by simp [hq])) d hd

theorem exists_places_of_canonicalForm
    {s : String}
    (hForm : CanonicalForm s) :
    ∃ p : Places, Utf8.encode s = p.bytes := by
  have hPlaces :
      ∀ p ∈ "0000-00-00T00:00:00Z".toList, p.toNat < 128 :=
    List.all_iff_forall_prop.mp (by decide)
  have hAscii : ∀ c ∈ s.toList, c.toNat < 128 :=
    ascii_of_canonicalForm hForm hPlaces
  have hTemplate :
      "0000-00-00T00:00:00Z".toList =
        ['0', '0', '0', '0', '-', '0', '0', '-', '0', '0', 'T',
          '0', '0', ':', '0', '0', ':', '0', '0', 'Z'] := by
    decide
  rw [Utf8.encode_ascii hAscii]
  unfold CanonicalForm at hForm
  rw [hTemplate] at hForm
  generalize s.toList = cs at hForm
  -- one pair of a place and a character after the other
  rcases hForm with
    _ | ⟨-, _ | ⟨-, _ | ⟨-, _ | ⟨-, _ | ⟨hDash, _ | ⟨-,
    _ | ⟨-, _ | ⟨hDash', _ | ⟨-, _ | ⟨-, _ | ⟨hTee, _ | ⟨-,
    _ | ⟨-, _ | ⟨hColon, _ | ⟨-, _ | ⟨-, _ | ⟨hColon', _ | ⟨-,
    _ | ⟨-, _ | ⟨hZed, _ | _⟩⟩⟩⟩⟩⟩⟩⟩⟩⟩⟩⟩⟩⟩⟩⟩⟩⟩⟩⟩
  simp only [Char.reduceEq, if_false]
    at hDash hDash' hTee hColon hColon' hZed
  subst hDash hDash' hTee hColon hColon' hZed
  exact ⟨⟨_, _, _, _, _, _, _, _, _, _, _, _, _, _⟩, rfl⟩

/- The instant of the canonical form, and its parts. -/
theorem exists_of_parseBytes
    {p : Places}
    {t : Timestamp}
    (h : parseBytes p.bytes = some t) :
    ∃ y m d hour min sec,
      parseDate p.bytes = some (y, m, d) ∧
        digitsFrom 0 [p.hh₁, p.hh₂] = some hour ∧
        digitsFrom 0 [p.mm₁, p.mm₂] = some min ∧
        digitsFrom 0 [p.ss₁, p.ss₂] = some sec ∧
        (0 ≤ hour ∧ hour ≤ 23) ∧ (0 ≤ min ∧ min ≤ 59) ∧
        (0 ≤ sec ∧ sec ≤ 59) ∧
        t.secs =
          daysFromCivil y m d * 86400 + hour * 3600 +
            min * 60 + sec := by
  rcases parts_of_parseBytes h with
    ⟨y, m, d, hour, min, sec, pos, offset, hDate, hClock,
      hZone, hSecs⟩
  have hTime := parseClock_spec hClock
  rw [p.parseClock_bytes] at hClock
  rcases Option.bind_eq_some_iff.mp hClock with
    ⟨hour', hHour, hClock⟩
  rcases Option.bind_eq_some_iff.mp hClock with
    ⟨min', hMin, hClock⟩
  rcases Option.bind_eq_some_iff.mp hClock with
    ⟨sec', hSec, hClock⟩
  split at hClock
  · cases hClock
  · simp only [Option.some.injEq, Prod.mk.injEq] at hClock
    rcases hClock with ⟨rfl, rfl, rfl, rfl⟩
    rw [p.parseZone_bytes, Option.some.injEq] at hZone
    exact ⟨y, m, d, hour', min', sec', hDate, hHour, hMin,
      hSec, hTime.1, hTime.2.1, hTime.2.2, by omega⟩

/- An instant in canonical form has a four-digit year. -/
theorem printable_of_canonicalForm
    {s : String}
    {t : Timestamp}
    (hForm : CanonicalForm s)
    (h : parse s = .ok t) :
    t.Printable := by
  rcases exists_places_of_canonicalForm hForm with ⟨p, hText⟩
  rw [parse_eq_ok_iff, hText] at h
  rcases exists_of_parseBytes h with
    ⟨y, m, d, hour, min, sec, hDate, -, -, -, hHour, hMin,
      hSec, hSecs⟩
  have hDays := daysFromCivil_bounds (parseDate_spec hDate).2
    (parseDate_spec hDate).1
  unfold Printable
  omega

end Timestamp

end UnidppArchive
