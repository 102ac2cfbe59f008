import UnidppArchive.Foundations.DayCount
import UnidppArchive.Time.Dates
import UnidppArchive.Time.Indexed
import UnidppArchive.Time.RoundTrip

/-
  The grammar of timestamps.

  A timestamp is a date, an optional time of day and an
  optional zone; its instant is counted from the lengths of
  the years and months of the calendar.  The parser accepts
  these texts and no others.

  Key definitions include:
    * `Timestamp.ClockText`
    * `Timestamp.ZoneText`
    * `Timestamp.InstantText`

  Key theorems include:
    * `daysFromCivil_eq_dayNumber`
    * `Timestamp.parse_follows_grammar`
-/

------------------------------------------------------------
-- Texts of Instants
------------------------------------------------------------

namespace UnidppArchive

namespace Timestamp

open Gregorian

/- `YYYY-MM-DD`. -/
def dateText
    (y m d : Nat) : String :=
  Text.padZero 4 y ++ "-" ++ Text.padZero 2 m ++ "-" ++
    Text.padZero 2 d

/- Nothing, or a point with any number of digits. -/
inductive FractionText :
    String → Prop where
  | none : FractionText ""
  | digits
      {cs : List Char}
      (hDigits : ∀ c ∈ cs, c.isDigit = true) :
      FractionText ("." ++ String.ofList cs)

/- Nothing, or `hh:mm:ss` after a separator. -/
inductive ClockText :
    String → Nat → Nat → Nat → Prop where
  | none : ClockText "" 0 0 0
  | given
      {sep fraction : String}
      {hh mm ss : Nat}
      (hSep : sep = "T" ∨ sep = "t" ∨ sep = " ")
      (hHour : hh ≤ 23)
      (hMin : mm ≤ 59)
      (hSec : ss ≤ 59)
      (hFraction : FractionText fraction) :
      ClockText
        (sep ++ Text.padZero 2 hh ++ ":" ++
          Text.padZero 2 mm ++ ":" ++ Text.padZero 2 ss ++
          fraction)
        hh mm ss

/- Nothing, `Z`, `z`, or a signed `hh:mm` or `hhmm`. -/
inductive ZoneText :
    String → Int → Prop where
  | none : ZoneText "" 0
  | utc
      {z : String}
      (hUtc : z = "Z" ∨ z = "z") :
      ZoneText z 0
  | offset
      {sign colon : String}
      {σ : Int}
      {hh mm : Nat}
      (hSign : (sign = "+" ∧ σ = 1) ∨ (sign = "-" ∧ σ = -1))
      (hColon : colon = ":" ∨ colon = "")
      (hHour : hh ≤ 23)
      (hMin : mm ≤ 59) :
      ZoneText
        (sign ++ Text.padZero 2 hh ++ colon ++
          Text.padZero 2 mm)
        (σ * (hh * 3600 + mm * 60))

/- Days from 1970-01-01 to a date. -/
def epochDays
    (y m d : Nat) : Int :=
  (dayNumber y m d : Int) - dayNumber 1970 1 1

/- A text of the grammar, and the instant that it names. -/
def InstantText
    (s : String)
    (t : Timestamp) : Prop :=
  ∃ y m d hh mm ss offset clock zone,
    y ≤ 9999 ∧ IsDate y m d ∧ ClockText clock hh mm ss ∧
      ZoneText zone offset ∧
      s = dateText y m d ++ clock ++ zone ∧
      t.secs =
        epochDays y m d * 86400 + hh * 3600 + mm * 60 + ss -
          offset

end Timestamp

end UnidppArchive

------------------------------------------------------------
-- The Calendar
------------------------------------------------------------

namespace UnidppArchive

open Gregorian

theorem civilDate_natCast_iff
    (y m d : Nat) :
    CivilDate y m d ↔ IsDate y m d := by
  constructor
  · intro h
    have hDay := h.day
    rw [daysInMonth_eq_monthDays y h.month] at hDay
    exact ⟨h.month, hDay⟩
  · intro h
    have hDay := h.day
    rw [← daysInMonth_eq_monthDays y h.month] at hDay
    exact ⟨h.month, hDay⟩

theorem dayNumber_epoch :
    dayNumber 1970 1 1 = 719528 := by
  have hYears := daysBeforeYear_eq 1970
  rw [dayNumber, daysBeforeMonth_one]
  omega

/- The year that begins in March, before January's. -/
theorem marchYearStart_before
    (y : Nat) :
    marchYearStart ((y : Int) - 1) + 366 =
      daysBeforeYear y := by
  have hYears := daysBeforeYear_eq y
  unfold marchYearStart
  omega

/- The year that begins in March, behind February. -/
theorem marchYearStart_behind
    (y : Nat) :
    marchYearStart y + 29 =
      daysBeforeYear y + monthDays y 2 := by
  have hBefore := marchYearStart_before y
  have hFeb := marchYearStart_eq_february y
  omega

/- The day number of the source counts calendar days. -/
theorem daysFromCivil_eq_dayNumber
    {y m d : Nat}
    (h : IsDate y m d) :
    daysFromCivil y m d = Timestamp.epochDays y m d := by
  have hMonth := h.month
  have hDay := h.day
  rw [Timestamp.epochDays, dayNumber_epoch, dayNumber,
    daysFromCivil_eq (y : Int) h.month]
  by_cases hEarly : m ≤ 2
  · have hStart := marchYearStart_before y
    have hBefore : daysBeforeMonth y m = 31 * (m - 1) := by
      have hCases : m = 1 ∨ m = 2 := by omega
      rcases hCases with rfl | rfl
      · rfl
      · rfl
    rw [if_pos hEarly, if_neg (by omega), hBefore]
    omega
  · have hStart := marchYearStart_behind y
    rw [if_neg hEarly, if_pos (by omega),
      daysBeforeMonth_eq y (by omega)]
    omega

end UnidppArchive

------------------------------------------------------------
-- Digits
------------------------------------------------------------

namespace UnidppArchive

/- Digits are the padded form of their value. -/
theorem eq_encode_of_digitsFrom
    {b : Bytes}
    {n : Int}
    (hLength : 0 < b.length)
    (h : digitsFrom 0 b = some n) :
    ∃ k : Nat,
      n = k ∧ k < 10 ^ b.length ∧
        b = Utf8.encode (Text.padZero b.length k) := by
  rcases digitsFrom_bounds (by omega) h with ⟨hLow, hHigh⟩
  have hBound : n.toNat < 10 ^ b.length := by
    rw [Int.toNat_lt hLow]
    push_cast
    simpa using hHigh
  have hWidth :
      (Text.padZero b.length n.toNat).toList.length =
        b.length :=
    Text.length_padZero hLength hBound
  have hRead := digitsFrom_padZero b.length n.toNat
  rw [Int.toNat_of_nonneg hLow] at hRead
  refine ⟨n.toNat, (Int.toNat_of_nonneg hLow).symm, hBound,
    ?_⟩
  rw [encode_padZero]
  have hLength' :
      b.length =
        ((Text.padZero b.length n.toNat).toList.map
          ascii).length := by
    rw [List.length_map, hWidth]
  exact digitsFrom_inj hLength' h hRead

end UnidppArchive

------------------------------------------------------------
-- What Is Left at a Position
------------------------------------------------------------

namespace UnidppArchive

/- The octets from a position on. -/
def Left
    (b : Bytes)
    (pos : Nat)
    (xs : Bytes) : Prop :=
  ∃ front, b = front ++ xs ∧ front.length = pos

namespace Left

variable {b xs ys : Bytes}
variable {pos : Nat}
variable {c : UInt8}

theorem start
    (b : Bytes) :
    Left b 0 b :=
  ⟨[], rfl, rfl⟩

theorem length
    (h : Left b pos xs) :
    b.length = pos + xs.length := by
  rcases h with ⟨front, rfl, rfl⟩
  exact List.length_append

theorem drop
    (h : Left b pos xs) :
    b.drop pos = xs := by
  rcases h with ⟨front, rfl, rfl⟩
  exact List.drop_left

theorem skip
    (h : Left b pos (ys ++ xs)) :
    Left b (pos + ys.length) xs := by
  rcases h with ⟨front, rfl, rfl⟩
  exact ⟨front ++ ys, by simp, by simp⟩

theorem next
    (h : Left b pos (c :: xs)) :
    Left b (pos + 1) xs := by
  rcases h with ⟨front, rfl, rfl⟩
  exact ⟨front ++ [c], by simp, by simp⟩

theorem byteAt
    (h : Left b pos (c :: xs)) :
    UnidppArchive.byteAt b pos = c := by
  rcases h with ⟨front, rfl, rfl⟩
  simp [UnidppArchive.byteAt]

/- The octet at a position before the end. -/
theorem cons
    (h : Left b pos xs)
    (hPos : pos < b.length) :
    ∃ rest, xs = UnidppArchive.byteAt b pos :: rest ∧
      Left b (pos + 1) rest := by
  cases xs with
  | nil =>
      have hLength := h.length
      simp only [List.length_nil] at hLength
      omega
  | cons c rest =>
      rw [h.byteAt]
      exact ⟨rest, rfl, h.next⟩

theorem digits_eq
    (h : Left b pos xs)
    (len : Nat) :
    UnidppArchive.digits b pos len =
      if len > xs.length then
        none
      else
        digitsFrom 0 (xs.take len) := by
  have hLength := h.length
  rw [UnidppArchive.digits, h.drop]
  split
  · rw [if_pos (by omega)]
  · rw [if_neg (by omega)]

/- Digits that are read are a padded number. -/
theorem padded
    {len : Nat}
    {v : Int}
    (h : Left b pos xs)
    (hLen : 0 < len)
    (hDigits : UnidppArchive.digits b pos len = some v) :
    ∃ (k : Nat) (rest : Bytes),
      v = k ∧ k < 10 ^ len ∧
        xs = Utf8.encode (Text.padZero len k) ++ rest ∧
        Left b (pos + len) rest := by
  rw [h.digits_eq] at hDigits
  split at hDigits
  · cases hDigits
  · have hTake : (xs.take len).length = len := by
      rw [List.length_take]
      omega
    rcases eq_encode_of_digitsFrom (by omega) hDigits with
      ⟨k, hValue, hBound, hText⟩
    rw [hTake] at hBound hText
    have hSplit := (List.take_append_drop len xs).symm
    have hLeft :
        Left b (pos + (xs.take len).length) (xs.drop len) := by
      apply skip
      rw [← hSplit]
      exact h
    rw [hTake] at hLeft
    refine ⟨k, xs.drop len, hValue, hBound, ?_, hLeft⟩
    rw [← hText]
    exact hSplit

/- A padded number is read, and the rest is left. -/
theorem digits
    {len k : Nat}
    (h : Left b pos (Utf8.encode (Text.padZero len k) ++ xs))
    (hLen : 0 < len)
    (hBound : k < 10 ^ len) :
    UnidppArchive.digits b pos len = some (k : Int) ∧
      Left b (pos + len) xs := by
  have hWidth :
      (Utf8.encode (Text.padZero len k)).length = len := by
    rw [encode_padZero, List.length_map]
    exact Text.length_padZero hLen hBound
  have hRest := h.skip
  rw [hWidth] at hRest
  refine ⟨?_, hRest⟩
  rw [h.digits_eq, if_neg (by rw [List.length_append]; omega),
    List.take_append_of_le_length (by omega),
    List.take_of_length_le (by omega), encode_padZero]
  exact digitsFrom_padZero len k

end Left

end UnidppArchive

------------------------------------------------------------
-- What Is Parsed Is a Text of the Grammar
------------------------------------------------------------

namespace UnidppArchive

open Gregorian

namespace Timestamp

variable {b xs : Bytes}
variable {pos pos' : Nat}

theorem encode_empty :
    Utf8.encode "" = [] := by
  decide

theorem encode_dash :
    Utf8.encode "-" = [ascii '-'] := by
  decide

theorem encode_colon :
    Utf8.encode ":" = [ascii ':'] := by
  decide

theorem dateText_of_parseDate
    {y : Int}
    {m d : Nat}
    (h : parseDate b = some (y, m, d)) :
    ∃ year : Nat,
      y = year ∧ year ≤ 9999 ∧ IsDate year m d ∧
        ∃ rest, b = Utf8.encode (dateText year m d) ++ rest ∧
          Left b 10 rest := by
  have hSpec := parseDate_spec h
  have hLeft := Left.start b
  unfold parseDate at h
  split at h
  · cases h
  rename_i hLength
  rcases Option.bind_eq_some_iff.mp h with ⟨year, hYear, h⟩
  rcases hLeft.padded (by omega) hYear with
    ⟨y', xs₁, rfl, hBound, hText, hLeft⟩
  rcases hLeft.cons (by omega) with ⟨xs₂, hText₁, hLeft⟩
  split at h
  · cases h
  rename_i hDash
  rcases Option.bind_eq_some_iff.mp h with ⟨month, hMonth, h⟩
  rcases hLeft.padded (by omega) hMonth with
    ⟨m', xs₃, rfl, -, hText₂, hLeft⟩
  rcases hLeft.cons (by omega) with ⟨xs₄, hText₃, hLeft⟩
  split at h
  · cases h
  rename_i hDash'
  rcases Option.bind_eq_some_iff.mp h with ⟨day, hDay, h⟩
  rcases hLeft.padded (by omega) hDay with
    ⟨d', rest, rfl, -, hText₄, hLeft⟩
  split at h
  · cases h
  split at h
  · cases h
  simp only [Option.some.injEq, Prod.mk.injEq,
    Int.toNat_natCast] at h
  rcases h with ⟨rfl, rfl, rfl⟩
  refine ⟨y', rfl, by omega,
    (civilDate_natCast_iff y' m' d').mp hSpec.2, rest, ?_,
    hLeft⟩
  have hFirst : byteAt b (0 + 4) = ascii '-' := by
    simpa using hDash
  have hSecond : byteAt b (0 + 4 + 1 + 2) = ascii '-' := by
    simpa using hDash'
  rw [hText, hText₁, hText₂, hText₃, hText₄, hFirst, hSecond]
  simp [dateText, encode_dash]

/- A digit octet is the only octet of a digit character. -/
theorem charOf_asciiDigit
    {c : UInt8}
    (h : isAsciiDigit c = true) :
    (Char.ofNat c.toNat).isDigit = true ∧
      String.utf8EncodeChar (Char.ofNat c.toNat) = [c] := by
  have hRange := isAsciiDigit_bounds h
  have hAll :
      ∀ k : Fin 10,
        (Char.ofNat (48 + k)).isDigit = true ∧
          String.utf8EncodeChar (Char.ofNat (48 + k)) =
            [UInt8.ofNat (48 + k)] := by
    decide
  have hDigit := hAll ⟨c.toNat - 48, by omega⟩
  have hCode : 48 + (c.toNat - 48) = c.toNat := by omega
  simp only [hCode, UInt8.ofNat_toNat] at hDigit
  exact hDigit

/- Digits of a fraction are text. -/
theorem exists_text_of_digits
    {cs : Bytes}
    (h : ∀ c ∈ cs, isAsciiDigit c = true) :
    ∃ ds : List Char,
      (∀ d ∈ ds, d.isDigit = true) ∧
        cs = Utf8.encode (String.ofList ds) := by
  refine ⟨cs.map fun c => Char.ofNat c.toNat, ?_, ?_⟩
  · intro d hd
    rcases List.mem_map.mp hd with ⟨c, hc, rfl⟩
    exact (charOf_asciiDigit (h c hc)).1
  · rw [Utf8.encode, String.toList_ofList]
    induction cs with
    | nil => rfl
    | cons c cs ih =>
        have hHead := (charOf_asciiDigit (h c (by simp))).2
        have hTail := ih (fun d hd => h d (by simp [hd]))
        rw [List.map_cons, Utf8.encodeChars_cons, hHead,
          ← hTail]
        rfl

theorem fractionText_of_skip
    (hLeft : Left b pos xs) :
    ∃ fraction rest,
      FractionText fraction ∧
        xs = Utf8.encode fraction ++ rest ∧
        Left b
          (if b.length > pos ∧ byteAt b pos = ascii '.' then
            skipDigits b (pos + 1)
          else
            pos) rest := by
  by_cases hPoint :
      b.length > pos ∧ byteAt b pos = ascii '.'
  · rw [if_pos hPoint]
    rcases hLeft.cons hPoint.1 with ⟨tail, hText, hTail⟩
    have hSplit :=
      (List.takeWhile_append_dropWhile
        (p := isAsciiDigit) (l := tail)).symm
    have hDigits :
        ∀ c ∈ tail.takeWhile isAsciiDigit,
          isAsciiDigit c = true := by
      intro c hc
      exact List.mem_takeWhile_imp hc
    rcases exists_text_of_digits hDigits with
      ⟨ds, hDs, hEncode⟩
    refine ⟨"." ++ String.ofList ds,
      tail.dropWhile isAsciiDigit, .digits hDs, ?_, ?_⟩
    · have hDot : Utf8.encode "." = [ascii '.'] := by decide
      rw [hText, hPoint.2, Utf8.encode_append, hDot, ← hEncode,
        List.append_assoc, List.takeWhile_append_dropWhile]
      rfl
    · unfold skipDigits
      rw [hTail.drop]
      apply Left.skip
      rw [← hSplit]
      exact hTail
  · rw [if_neg hPoint]
    exact ⟨"", xs, .none, rfl, hLeft⟩

/- One of three octets separates date and time. -/
theorem exists_separator
    {c : UInt8}
    (h : c = ascii 'T' ∨ c = ascii 't' ∨ c = ascii ' ') :
    ∃ sep,
      [c] = Utf8.encode sep ∧
        (sep = "T" ∨ sep = "t" ∨ sep = " ") := by
  rcases h with rfl | rfl | rfl
  · exact ⟨"T", by decide, by simp⟩
  · exact ⟨"t", by decide, by simp⟩
  · exact ⟨" ", by decide, by simp⟩

theorem clockText_of_parseClock
    {hour min sec : Int}
    (hLeft : Left b pos xs)
    (h : parseClock b pos = some (hour, min, sec, pos')) :
    ∃ (clock : String) (hh mm ss : Nat) (rest : Bytes),
      ClockText clock hh mm ss ∧ hour = hh ∧ min = mm ∧
        sec = ss ∧ xs = Utf8.encode clock ++ rest ∧
        Left b pos' rest := by
  unfold parseClock at h
  split at h
  · rename_i hSep
    split at h
    · cases h
    rename_i hLength
    rcases hLeft.cons hSep.1 with ⟨xs₁, hText, hLeft⟩
    rcases Option.bind_eq_some_iff.mp h with ⟨hour', hHour, h⟩
    rcases hLeft.padded (by omega) hHour with
      ⟨hh, xs₂, rfl, -, hText₁, hLeft⟩
    rcases hLeft.cons (by omega) with ⟨xs₃, hText₂, hLeft⟩
    split at h
    · cases h
    rename_i hColon
    rcases Option.bind_eq_some_iff.mp h with ⟨min', hMin, h⟩
    rcases hLeft.padded (by omega) hMin with
      ⟨mm, xs₄, rfl, -, hText₃, hLeft⟩
    rcases hLeft.cons (by omega) with ⟨xs₅, hText₄, hLeft⟩
    split at h
    · cases h
    rename_i hColon'
    rcases Option.bind_eq_some_iff.mp h with ⟨sec', hSec, h⟩
    rcases hLeft.padded (by omega) hSec with
      ⟨ss, xs₆, rfl, -, hText₅, hLeft⟩
    split at h
    · cases h
    rename_i hRange
    rcases fractionText_of_skip hLeft with
      ⟨fraction, rest, hFraction, hText₆, hLeft⟩
    rcases exists_separator hSep.2 with ⟨sep, hSepText, hSep'⟩
    have hFirst : byteAt b (pos + 1 + 2) = ascii ':' := by
      simpa using hColon
    have hSecond :
        byteAt b (pos + 1 + 2 + 1 + 2) = ascii ':' := by
      simpa using hColon'
    refine ⟨_, hh, mm, ss, rest,
      .given hSep' (by omega) (by omega) (by omega) hFraction,
      ?_⟩
    have hWhole :
        xs =
          Utf8.encode
            (sep ++ Text.padZero 2 hh ++ ":" ++
              Text.padZero 2 mm ++ ":" ++ Text.padZero 2 ss ++
              fraction) ++ rest := by
      rw [hText, hText₁, hText₂, hText₃, hText₄, hText₅,
        hText₆, hFirst, hSecond]
      simp [encode_colon, ← hSepText]
    simp only at h
    split at h
    · rename_i hPoint
      rw [if_pos hPoint] at hLeft
      simp only [Option.some.injEq, Prod.mk.injEq] at h
      rcases h with ⟨rfl, rfl, rfl, rfl⟩
      exact ⟨rfl, rfl, rfl, hWhole, hLeft⟩
    · rename_i hPoint
      rw [if_neg hPoint] at hLeft
      simp only [Option.some.injEq, Prod.mk.injEq] at h
      rcases h with ⟨rfl, rfl, rfl, rfl⟩
      exact ⟨rfl, rfl, rfl, hWhole, hLeft⟩
  · simp only [Option.some.injEq, Prod.mk.injEq] at h
    rcases h with ⟨rfl, rfl, rfl, rfl⟩
    exact ⟨"", 0, 0, 0, xs, .none, rfl, rfl, rfl, rfl, hLeft⟩

/- A sign octet, and the factor that it stands for. -/
theorem exists_sign
    {c : UInt8}
    (h : c = ascii '+' ∨ c = ascii '-') :
    ∃ sign,
      [c] = Utf8.encode sign ∧
        ((sign = "+" ∧
            (if c = ascii '-' then (-1 : Int) else 1) = 1) ∨
          (sign = "-" ∧
            (if c = ascii '-' then (-1 : Int) else 1) =
              -1)) := by
  rcases h with rfl | rfl
  · exact ⟨"+", by decide, Or.inl ⟨rfl, by decide⟩⟩
  · exact ⟨"-", by decide, Or.inr ⟨rfl, by decide⟩⟩

/- An optional colon, and what is left behind it. -/
theorem exists_colon
    (hLeft : Left b pos xs) :
    ∃ colon rest,
      (colon = ":" ∨ colon = "") ∧
        xs = Utf8.encode colon ++ rest ∧
        Left b
          (if pos < b.length ∧ byteAt b pos = ascii ':' then
            pos + 1
          else
            pos) rest := by
  split
  · rename_i hColon
    rcases hLeft.cons hColon.1 with ⟨rest, hText, hRest⟩
    refine ⟨":", rest, Or.inl rfl, ?_, hRest⟩
    rw [hText, hColon.2, encode_colon]
    rfl
  · exact ⟨"", xs, Or.inr rfl, rfl, hLeft⟩

/- Nothing is left at the end. -/
theorem eq_nil_of_left
    (hLeft : Left b pos xs)
    (hEnd : pos = b.length) :
    xs = [] := by
  have hLength := hLeft.length
  apply List.eq_nil_of_length_eq_zero
  omega

theorem zoneText_of_parseZone
    {offset : Int}
    (hLeft : Left b pos xs)
    (h : parseZone b pos = some offset) :
    ∃ zone, ZoneText zone offset ∧ xs = Utf8.encode zone := by
  unfold parseZone at h
  split at h
  · rename_i hPos
    rcases hLeft.cons hPos with ⟨xs₁, hText, hLeft₁⟩
    split at h
    · rename_i hUtc
      split at h
      · cases h
      rename_i hEnd
      cases h
      have hNil := eq_nil_of_left hLeft₁ (by simpa using hEnd)
      subst hNil
      rcases hUtc with hUtc | hUtc
      · refine ⟨"Z", .utc (Or.inl rfl), ?_⟩
        rw [hText, hUtc]
        decide
      · refine ⟨"z", .utc (Or.inr rfl), ?_⟩
        rw [hText, hUtc]
        decide
    split at h
    · rename_i hSign
      rcases exists_sign hSign with ⟨sign, hSignText, hFactor⟩
      rcases Option.bind_eq_some_iff.mp h with ⟨oh, hHour, h⟩
      rcases hLeft₁.padded (by omega) hHour with
        ⟨hh, xs₂, rfl, -, hText₁, hLeft₂⟩
      rcases exists_colon hLeft₂ with
        ⟨colon, xs₃, hColon, hText₂, hLeft₃⟩
      rcases Option.bind_eq_some_iff.mp h with ⟨om, hMin, h⟩
      rcases hLeft₃.padded (by omega) hMin with
        ⟨mm, xs₄, rfl, -, hText₃, hLeft₄⟩
      generalize
        (if byteAt b pos = ascii '-' then (-1 : Int) else 1) =
          σ at h hFactor
      generalize
        (if pos + 1 + 2 < b.length ∧
            byteAt b (pos + 1 + 2) = ascii ':' then
          pos + 1 + 2 + 1
        else
          pos + 1 + 2) = pos' at h hLeft₄
      simp only at h
      split at h
      · cases h
      rename_i hRange
      split at h
      · cases h
      rename_i hEnd
      cases h
      have hNil := eq_nil_of_left hLeft₄ (by simpa using hEnd)
      subst hNil
      refine ⟨_, .offset hFactor hColon (by omega) (by omega),
        ?_⟩
      rw [hText, hText₁, hText₂, hText₃]
      simp [← hSignText]
    · cases h
  · rename_i hPos
    cases h
    have hLength := hLeft.length
    have hNil := eq_nil_of_left hLeft (by omega)
    exact ⟨"", .none, by rw [hNil]; rfl⟩

/- A parsed text is a text of the grammar. -/
theorem instantText_of_parse
    {s : String}
    {t : Timestamp}
    (h : parse s = .ok t) :
    InstantText s t := by
  rcases parts_of_parseBytes (parse_eq_ok_iff.mp h) with
    ⟨y, m, d, hour, min, sec, pos, offset, hDate, hClock,
      hZone, hSecs⟩
  rcases dateText_of_parseDate hDate with
    ⟨year, rfl, hYear, hIsDate, xs, hText, hLeft⟩
  rcases clockText_of_parseClock hLeft hClock with
    ⟨clock, hh, mm, ss, rest, hClockText, rfl, rfl, rfl,
      hText₁, hLeft₁⟩
  rcases zoneText_of_parseZone hLeft₁ hZone with
    ⟨zone, hZoneText, hText₂⟩
  refine ⟨year, m, d, hh, mm, ss, offset, clock, zone, hYear,
    hIsDate, hClockText, hZoneText, ?_, ?_⟩
  · apply Utf8.encode_injective
    rw [hText, hText₁, hText₂]
    simp
  · rw [hSecs, ← daysFromCivil_eq_dayNumber hIsDate]

end Timestamp

end UnidppArchive

------------------------------------------------------------
-- Every Text of the Grammar Is Parsed
------------------------------------------------------------

namespace UnidppArchive

open Gregorian

namespace Timestamp

variable {b xs : Bytes}
variable {pos : Nat}

theorem parseDate_dateText
    {y m d : Nat}
    (hYear : y ≤ 9999)
    (hDate : IsDate y m d)
    (hLeft : Left b 0 (Utf8.encode (dateText y m d) ++ xs)) :
    parseDate b = some ((y : Int), m, d) ∧
      Left b 10 xs := by
  have hCivil := (civilDate_natCast_iff y m d).mpr hDate
  have hMonth := hCivil.month
  have hDay := hCivil.day
  have hDayLe := daysInMonth_le y m
  simp only [dateText, Utf8.encode_append, encode_dash,
    List.append_assoc, List.cons_append, List.nil_append]
    at hLeft
  rcases hLeft.digits (by omega) (by omega) with
    ⟨hYearRead, hLeft₁⟩
  rcases hLeft₁.next.digits (by omega) (by omega) with
    ⟨hMonthRead, hLeft₂⟩
  rcases hLeft₂.next.digits (by omega) (by omega) with
    ⟨hDayRead, hLeft₃⟩
  have hLength := hLeft₃.length
  have hDash := hLeft₁.byteAt
  have hDash' := hLeft₂.byteAt
  simp only [Nat.zero_add, Nat.reduceAdd] at *
  refine ⟨?_, hLeft₃⟩
  unfold parseDate
  rw [if_neg (by omega)]
  simp only [hYearRead, hMonthRead, hDayRead, hDash, hDash',
    Option.bind_eq_bind, Option.bind_some, ne_eq,
    not_true_eq_false, if_false, Int.toNat_natCast]
  rw [if_neg (by omega), if_neg (by omega)]

/- Octets with which a zone can start. -/
def ZoneStart
    (xs : Bytes) : Prop :=
  ∀ c rest, xs = c :: rest →
    c = ascii 'Z' ∨ c = ascii 'z' ∨ c = ascii '+' ∨
      c = ascii '-'

theorem zoneStart_of_zoneText
    {zone : String}
    {offset : Int}
    (h : ZoneText zone offset) :
    ZoneStart (Utf8.encode zone) := by
  intro c rest hText
  cases h with
  | none => cases hText
  | utc hUtc =>
      rcases hUtc with rfl | rfl
      · have hZed : Utf8.encode "Z" = [ascii 'Z'] := by decide
        rw [hZed] at hText
        cases hText
        exact Or.inl rfl
      · have hZed : Utf8.encode "z" = [ascii 'z'] := by decide
        rw [hZed] at hText
        cases hText
        exact Or.inr (Or.inl rfl)
  | offset hSign hColon hHour hMin =>
      rcases hSign with ⟨rfl, -⟩ | ⟨rfl, -⟩
      · have hPlus : Utf8.encode "+" = [ascii '+'] := by decide
        simp only [Utf8.encode_append, hPlus,
          List.append_assoc, List.cons_append,
          List.cons.injEq] at hText
        exact Or.inr (Or.inr (Or.inl hText.1.symm))
      · simp only [Utf8.encode_append, encode_dash,
          List.append_assoc, List.cons_append,
          List.cons.injEq] at hText
        exact Or.inr (Or.inr (Or.inr hText.1.symm))

/- A zone starts with no octet that the time part may have. -/
theorem ZoneStart.head
    {c : UInt8}
    (hStart : ZoneStart (c :: xs)) :
    isAsciiDigit c = false ∧ c ≠ ascii '.' ∧
      c ≠ ascii 'T' ∧ c ≠ ascii 't' ∧ c ≠ ascii ' ' := by
  rcases hStart c xs rfl with rfl | rfl | rfl | rfl
  all_goals decide

theorem skip_fractionText
    {fraction : String}
    (hFraction : FractionText fraction)
    (hStart : ZoneStart xs)
    (hLeft : Left b pos (Utf8.encode fraction ++ xs)) :
    Left b
      (if b.length > pos ∧ byteAt b pos = ascii '.' then
        skipDigits b (pos + 1)
      else
        pos) xs := by
  cases hFraction with
  | none =>
      rw [if_neg]
      · exact hLeft
      · rintro ⟨hPos, hPoint⟩
        rcases hLeft.cons hPos with ⟨rest, hText, -⟩
        have hText' : xs = byteAt b pos :: rest := hText
        rw [hText'] at hStart
        exact hStart.head.2.1 hPoint
  | @digits cs hDigits =>
      have hDot : Utf8.encode "." = [ascii '.'] := by decide
      have hText :
          Utf8.encode (String.ofList cs) = cs.map ascii := by
        rw [Utf8.encode_ascii]
        · rw [String.toList_ofList]
          rfl
        · intro c hc
          rw [String.toList_ofList] at hc
          have hDigit := Char.isDigit_iff_toNat.mp (hDigits c hc)
          have hNine : '9'.toNat = 57 := rfl
          omega
      rw [Utf8.encode_append, hDot, hText,
        List.append_assoc] at hLeft
      have hPoint : byteAt b pos = ascii '.' := hLeft.byteAt
      have hRest : Left b (pos + 1) (cs.map ascii ++ xs) :=
        hLeft.next
      have hLength := hRest.length
      have hTake :
          (cs.map ascii ++ xs).takeWhile isAsciiDigit =
            cs.map ascii := by
        rw [List.takeWhile_append_of_pos]
        · cases xs with
          | nil => simp
          | cons c xs =>
              rw [List.takeWhile_cons_of_neg]
              · simp
              · simp [hStart.head.1]
        · intro c hc
          rcases List.mem_map.mp hc with ⟨d, hd, rfl⟩
          exact (isAsciiDigit_ascii (hDigits d hd)).1
      rw [if_pos ⟨by omega, hPoint⟩, skipDigits, hRest.drop,
        hTake]
      exact hRest.skip

theorem parseClock_clockText
    {clock : String}
    {hh mm ss : Nat}
    (hClock : ClockText clock hh mm ss)
    (hStart : ZoneStart xs)
    (hLeft : Left b pos (Utf8.encode clock ++ xs)) :
    ∃ pos',
      parseClock b pos =
          some ((hh : Int), (mm : Int), (ss : Int), pos') ∧
        Left b pos' xs := by
  unfold parseClock
  cases hClock with
  | none =>
      refine ⟨pos, ?_, hLeft⟩
      rw [if_neg]
      · rfl
      · rintro ⟨hPos, hSep⟩
        rcases hLeft.cons hPos with ⟨rest, hText, -⟩
        have hText' : xs = byteAt b pos :: rest := hText
        rw [hText'] at hStart
        rcases hStart.head with ⟨-, -, hTee, hTee', hBlank⟩
        rcases hSep with hSep | hSep | hSep
        · exact hTee hSep
        · exact hTee' hSep
        · exact hBlank hSep
  | @given sep fraction hh mm ss hSep hHour hMin hSec
      hFraction =>
      have hSepText :
          ∃ c, Utf8.encode sep = [c] ∧
            (c = ascii 'T' ∨ c = ascii 't' ∨
              c = ascii ' ') := by
        rcases hSep with rfl | rfl | rfl
        · exact ⟨ascii 'T', by decide, by simp⟩
        · exact ⟨ascii 't', by decide, by simp⟩
        · exact ⟨ascii ' ', by decide, by simp⟩
      rcases hSepText with ⟨c, hSepText, hSepOctet⟩
      simp only [Utf8.encode_append, hSepText, encode_colon,
        List.append_assoc, List.cons_append,
        List.nil_append] at hLeft
      have hHere := hLeft.byteAt
      rcases hLeft.next.digits (by omega) (by omega) with
        ⟨hHourRead, hLeft₁⟩
      rcases hLeft₁.next.digits (by omega) (by omega) with
        ⟨hMinRead, hLeft₂⟩
      rcases hLeft₂.next.digits (by omega) (by omega) with
        ⟨hSecRead, hLeft₃⟩
      have hLength := hLeft₃.length
      have hColon := hLeft₁.byteAt
      have hColon' := hLeft₂.byteAt
      have hEnd := skip_fractionText hFraction hStart hLeft₃
      simp only [Nat.add_assoc, Nat.reduceAdd] at *
      refine ⟨_, ?_, hEnd⟩
      rw [hHere, if_pos ⟨by omega, hSepOctet⟩,
        if_neg (by omega)]
      simp only [hHourRead, hMinRead, hSecRead, hColon,
        hColon', Option.bind_eq_bind, Option.bind_some, ne_eq,
        not_true_eq_false, if_false]
      rw [if_neg (by omega)]
      split
      · rfl
      · rfl

/- The minutes do not start with a colon. -/
theorem head_padZero_two
    {n : Nat}
    (hn : n < 100) :
    ∃ c rest,
      Utf8.encode (Text.padZero 2 n) = c :: rest ∧
        c ≠ ascii ':' := by
  rcases exists_encode_padZero_two hn with
    ⟨c, c', hText, hRead⟩
  refine ⟨c, [c'], hText, ?_⟩
  rintro rfl
  have hColon : isAsciiDigit (ascii ':') = false := by decide
  simp [digitsFrom, hColon] at hRead

/- The optional colon before the minutes is skipped. -/
theorem skip_colon
    {colon : String}
    {mm : Nat}
    (hColon : colon = ":" ∨ colon = "")
    (hMin : mm < 100)
    (hLeft : Left b pos
      (Utf8.encode colon ++ Utf8.encode (Text.padZero 2 mm))) :
    Left b
      (if pos < b.length ∧ byteAt b pos = ascii ':' then
        pos + 1
      else
        pos) (Utf8.encode (Text.padZero 2 mm)) := by
  have hLength := hLeft.length
  rcases hColon with rfl | rfl
  · rw [encode_colon, List.singleton_append] at hLeft hLength
    have hHere : byteAt b pos = ascii ':' := hLeft.byteAt
    rw [List.length_cons] at hLength
    rw [if_pos ⟨by omega, hHere⟩]
    exact hLeft.next
  · rcases head_padZero_two hMin with ⟨c, rest, hText, hDigit⟩
    rw [encode_empty, List.nil_append] at hLeft
    rw [if_neg]
    · exact hLeft
    · rintro ⟨-, hHere⟩
      rw [hText] at hLeft
      rw [hLeft.byteAt] at hHere
      exact hDigit hHere

theorem parseZone_zoneText
    {zone : String}
    {offset : Int}
    (hZone : ZoneText zone offset)
    (hLeft : Left b pos (Utf8.encode zone)) :
    parseZone b pos = some offset := by
  have hLength := hLeft.length
  unfold parseZone
  cases hZone with
  | none =>
      rw [encode_empty, List.length_nil] at hLength
      rw [if_neg (by omega)]
  | utc hUtc =>
      have hOctet :
          ∃ c, Utf8.encode zone = [c] ∧
            (c = ascii 'Z' ∨ c = ascii 'z') := by
        rcases hUtc with rfl | rfl
        · exact ⟨ascii 'Z', by decide, Or.inl rfl⟩
        · exact ⟨ascii 'z', by decide, Or.inr rfl⟩
      rcases hOctet with ⟨c, hText, hOctet⟩
      rw [hText] at hLeft hLength
      have hHere : byteAt b pos = c := hLeft.byteAt
      simp only [List.length_singleton] at hLength
      rw [if_pos (by omega), hHere, if_pos hOctet,
        if_neg (by omega)]
  | @offset sign colon σ hh mm hSign hColon hHour hMin =>
      have hSignText :
          ∃ c, Utf8.encode sign = [c] ∧
            (c = ascii '+' ∨ c = ascii '-') ∧
            (if c = ascii '-' then (-1 : Int) else 1) = σ := by
        rcases hSign with ⟨rfl, rfl⟩ | ⟨rfl, rfl⟩
        · exact ⟨ascii '+', by decide, by simp, by decide⟩
        · exact ⟨ascii '-', by decide, by simp, by decide⟩
      rcases hSignText with ⟨c, hSignText, hOctet, hFactor⟩
      have hNotUtc : ¬ (c = ascii 'Z' ∨ c = ascii 'z') := by
        rcases hOctet with rfl | rfl
        · decide
        · decide
      simp only [Utf8.encode_append, hSignText,
        List.append_assoc, List.cons_append,
        List.nil_append] at hLeft
      have hHere := hLeft.byteAt
      rcases hLeft.next.digits (by omega) (by omega) with
        ⟨hHourRead, hLeft₁⟩
      have hLeft₂ := skip_colon hColon (by omega) hLeft₁
      have hPos := hLeft₁.length
      rw [if_pos (by omega), hHere, if_neg hNotUtc,
        if_pos hOctet, hFactor]
      simp only [hHourRead, Option.bind_eq_bind,
        Option.bind_some]
      generalize
        (if pos + 1 + 2 < b.length ∧
            byteAt b (pos + 1 + 2) = ascii ':' then
          pos + 1 + 2 + 1
        else
          pos + 1 + 2) = pos' at hLeft₂ ⊢
      rw [← List.append_nil
        (Utf8.encode (Text.padZero 2 mm))] at hLeft₂
      rcases hLeft₂.digits (by omega) (by omega) with
        ⟨hMinRead, hLeft₃⟩
      have hEnd := hLeft₃.length
      simp only [List.length_nil, Nat.add_zero] at hEnd
      simp only [hMinRead, Option.bind_some]
      rw [if_neg (by omega), if_neg (by omega)]

/- A text of the grammar is parsed to its instant. -/
theorem parse_of_instantText
    {s : String}
    {t : Timestamp}
    (h : InstantText s t) :
    parse s = .ok t := by
  rcases h with ⟨y, m, d, hh, mm, ss, offset, clock, zone,
    hYear, hDate, hClock, hZone, rfl, hSecs⟩
  generalize hText :
    Utf8.encode (dateText y m d ++ clock ++ zone) = b
  have hLeft :
      Left b 0
        (Utf8.encode (dateText y m d) ++
          (Utf8.encode clock ++ Utf8.encode zone)) := by
    rw [← List.append_assoc, ← Utf8.encode_append,
      ← Utf8.encode_append, hText]
    exact Left.start b
  rcases parseDate_dateText hYear hDate hLeft with
    ⟨hDateRead, hLeft₁⟩
  rcases parseClock_clockText hClock
      (zoneStart_of_zoneText hZone) hLeft₁ with
    ⟨pos, hClockRead, hLeft₂⟩
  have hZoneRead := parseZone_zoneText hZone hLeft₂
  have hRead : parseBytes b = some t := by
    simp only [parseBytes, hDateRead, hClockRead, hZoneRead,
      Option.bind_eq_bind, Option.bind_some,
      daysFromCivil_eq_dayNumber hDate, ← hSecs]
  rw [parse_eq_ok_iff, hText, hRead]

/-
  The parser never indexes out of bounds, and it accepts the
  texts of the grammar, each with its instant, and no others.
-/
theorem parse_follows_grammar
    (s : String)
    (t : Timestamp) :
    parseIndexed s ≠ .error .panicked ∧
      (parseIndexed s = .ok t ↔ InstantText s t) := by
  refine ⟨parseIndexed_ne_panicked s, ?_⟩
  rw [parseIndexed_eq_ok_iff]
  exact ⟨instantText_of_parse, parse_of_instantText⟩

end Timestamp

end UnidppArchive
