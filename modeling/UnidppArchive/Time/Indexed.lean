import UnidppArchive.Foundations.Checked
import UnidppArchive.Time.Timestamp

/-
  The timestamp parser with its indices (`time.rs`).

  `Timestamp.parse` reads positions of a byte slice, where a
  position beyond the end would panic.  Here every index and
  slice is checked; none of the checks ever fails.

  Key definitions include:
    * `Timestamp.parseIndexed`

  Key theorems include:
    * `Timestamp.parseIndexed_eq`
    * `Timestamp.parseIndexed_ne_panicked`
-/

------------------------------------------------------------
-- The Parser With Checked Indices
------------------------------------------------------------

namespace UnidppArchive

variable {ε : Type}

/- `digits`, with the slice that it takes. -/
def digitsIndexed
    (b : Bytes)
    (pos len : Nat) : Checked ε (Option Int) :=
  if pos + len > b.length then
    .ok none
  else do
    let cs ← Checked.slice b pos (pos + len)
    .ok (digitsFrom 0 cs)

/- `digits(..).ok_or_else(err)?`. -/
def digitsOr
    (e : ε)
    (b : Bytes)
    (pos len : Nat) : Checked ε Int := do
  let v ← digitsIndexed b pos len
  Checked.orRefuse v e

/- The loop over fractional digits. -/
def skipDigitsIndexed
    (b : Bytes)
    (pos : Nat) : Checked ε Nat :=
  if pos < b.length then do
    let c ← Checked.index b pos
    if isAsciiDigit c then
      skipDigitsIndexed b (pos + 1)
    else
      .ok pos
  else
    .ok pos
termination_by b.length - pos

namespace Timestamp

def parseDateIndexed
    (e : ε)
    (b : Bytes) : Checked ε (Int × Nat × Nat) :=
  if b.length < 10 then
    .error (.refused e)
  else do
    let year ← digitsOr e b 0 4
    let c ← Checked.index b 4
    if c ≠ ascii '-' then .error (.refused e) else
    let month ← digitsOr e b 5 2
    let c ← Checked.index b 7
    if c ≠ ascii '-' then .error (.refused e) else
    let day ← digitsOr e b 8 2
    if ¬ (1 ≤ month ∧ month ≤ 12) then
      .error (.refused e)
    else if day < 1 ∨
        day > daysInMonth year month.toNat then
      .error (.refused e)
    else
      .ok (year, month.toNat, day.toNat)

/- The fraction after the seconds, if there is one. -/
def skipFractionIndexed
    (b : Bytes)
    (pos : Nat) : Checked ε Nat :=
  if b.length > pos then do
    let c ← Checked.index b pos
    if c = ascii '.' then
      skipDigitsIndexed b (pos + 1)
    else
      .ok pos
  else
    .ok pos

/- Hour, minute and second after the separator. -/
def parseHmsIndexed
    (e : ε)
    (b : Bytes)
    (pos : Nat) : Checked ε (Int × Int × Int × Nat) :=
  if b.length < pos + 9 then
    .error (.refused e)
  else do
    let hour ← digitsOr e b (pos + 1) 2
    let c ← Checked.index b (pos + 3)
    if c ≠ ascii ':' then .error (.refused e) else
    let min ← digitsOr e b (pos + 4) 2
    let c ← Checked.index b (pos + 6)
    if c ≠ ascii ':' then .error (.refused e) else
    let sec ← digitsOr e b (pos + 7) 2
    if hour > 23 ∨ min > 59 ∨ sec > 59 then
      .error (.refused e)
    else do
      let pos ← skipFractionIndexed b (pos + 9)
      .ok (hour, min, sec, pos)

def parseClockIndexed
    (e : ε)
    (b : Bytes)
    (pos : Nat) : Checked ε (Int × Int × Int × Nat) :=
  if b.length > pos then do
    let c ← Checked.index b pos
    if c = ascii 'T' ∨ c = ascii 't' ∨ c = ascii ' ' then
      parseHmsIndexed e b pos
    else
      .ok (0, 0, 0, pos)
  else
    .ok (0, 0, 0, pos)

/- The colon of an offset, if there is one. -/
def skipColonIndexed
    (b : Bytes)
    (pos : Nat) : Checked ε Nat :=
  if pos < b.length then do
    let c ← Checked.index b pos
    .ok (if c = ascii ':' then pos + 1 else pos)
  else
    .ok pos

def parseZoneIndexed
    (e : ε)
    (b : Bytes)
    (pos : Nat) : Checked ε Int :=
  if pos < b.length then do
    let c ← Checked.index b pos
    if c = ascii 'Z' ∨ c = ascii 'z' then
      if pos + 1 ≠ b.length then
        .error (.refused e)
      else
        .ok 0
    else if c = ascii '+' ∨ c = ascii '-' then do
      let c ← Checked.index b pos
      let sign : Int := if c = ascii '-' then -1 else 1
      let oh ← digitsOr e b (pos + 1) 2
      let pos ← skipColonIndexed b (pos + 1 + 2)
      let om ← digitsOr e b pos 2
      let pos := pos + 2
      if oh > 23 ∨ om > 59 then .error (.refused e) else
      if pos ≠ b.length then .error (.refused e) else
      .ok (sign * (oh * 3600 + om * 60))
    else
      .error (.refused e)
  else
    .ok 0

def parseIndexed
    (input : String) : Checked TimeParseError Timestamp := do
  let e : TimeParseError := ⟨input⟩
  let b := Utf8.encode input
  let (year, month, day) ← parseDateIndexed e b
  let (hour, min, sec, pos) ← parseClockIndexed e b 10
  let offsetSecs ← parseZoneIndexed e b pos
  let days := daysFromCivil year month day
  .ok ⟨days * 86400 + hour * 3600 + min * 60 + sec -
    offsetSecs⟩

end Timestamp

end UnidppArchive

------------------------------------------------------------
-- Every Index Is in Bounds
------------------------------------------------------------

namespace UnidppArchive

variable {ε : Type}

theorem index_byteAt
    {b : Bytes}
    {pos : Nat}
    (h : pos < b.length) :
    (Checked.index b pos : Checked ε UInt8) =
      .ok (byteAt b pos) :=
  Checked.index_of_lt h 0

@[simp] theorem digitsIndexed_eq
    (b : Bytes)
    (pos len : Nat) :
    (digitsIndexed b pos len : Checked ε (Option Int)) =
      .ok (digits b pos len) := by
  unfold digitsIndexed digits
  split
  · rfl
  · rw [Checked.slice_of_le (by omega) (by omega)]
    rw [Nat.add_sub_cancel_left]
    rfl

@[simp] theorem digitsOr_eq
    (e : ε)
    (b : Bytes)
    (pos len : Nat) :
    digitsOr e b pos len =
      Checked.orRefuse (digits b pos len) e := by
  rw [digitsOr, digitsIndexed_eq]
  rfl

namespace Timestamp

theorem skipDigits_of_lt
    {b : Bytes}
    {pos : Nat}
    (h : pos < b.length) :
    skipDigits b pos =
      if isAsciiDigit (byteAt b pos) then
        skipDigits b (pos + 1)
      else
        pos := by
  have hByte : byteAt b pos = b[pos] := by
    simp [byteAt, h]
  unfold skipDigits
  rw [List.drop_eq_getElem_cons h, List.takeWhile_cons, hByte]
  split
  · rw [List.length_cons]
    omega
  · rfl

theorem skipDigits_of_le
    {b : Bytes}
    {pos : Nat}
    (h : b.length ≤ pos) :
    skipDigits b pos = pos := by
  rw [skipDigits, List.drop_eq_nil_of_le h]
  rfl

/- The loop stays inside the text, by its distance to the end. -/
theorem skipDigitsIndexed_eq
    (b : Bytes)
    (pos : Nat) :
    (skipDigitsIndexed b pos : Checked ε Nat) =
      .ok (skipDigits b pos) := by
  fun_induction skipDigitsIndexed (ε := ε) b pos with
  | case1 pos hPos ih =>
      rw [index_byteAt hPos, skipDigits_of_lt hPos]
      simp only [bind, Except.bind]
      split
      · exact ih
      · rfl
  | case2 pos hPos =>
      rw [skipDigits_of_le (by omega)]

theorem parseDateIndexed_eq
    (e : ε)
    (b : Bytes) :
    parseDateIndexed e b = Checked.orRefuse (parseDate b) e := by
  unfold parseDateIndexed parseDate
  split
  · rfl
  · rename_i hLength
    have hFirst : 4 < b.length := by omega
    have hSecond : 7 < b.length := by omega
    simp only [digitsOr_eq, index_byteAt hFirst,
      index_byteAt hSecond]
    cases digits b 0 4 with
    | none => rfl
    | some year =>
    simp only [Checked.orRefuse_some, bind, Except.bind,
      Option.bind]
    split
    · rfl
    cases digits b 5 2 with
    | none => rfl
    | some month =>
    simp only [Checked.orRefuse_some]
    split
    · rfl
    cases digits b 8 2 with
    | none => rfl
    | some day =>
    simp only [Checked.orRefuse_some]
    split
    · rfl
    split
    · rfl
    · rfl

theorem skipFractionIndexed_eq
    (b : Bytes)
    (pos : Nat) :
    (skipFractionIndexed b pos : Checked ε Nat) =
      .ok
        (if b.length > pos ∧ byteAt b pos = ascii '.' then
          skipDigits b (pos + 1)
        else
          pos) := by
  unfold skipFractionIndexed
  by_cases hPos : b.length > pos
  · rw [if_pos hPos, index_byteAt hPos]
    simp only [bind, Except.bind, hPos, true_and]
    split
    · exact skipDigitsIndexed_eq b (pos + 1)
    · rfl
  · simp [hPos]

theorem parseClockIndexed_eq
    (e : ε)
    (b : Bytes)
    (pos : Nat) :
    parseClockIndexed e b pos =
      Checked.orRefuse (parseClock b pos) e := by
  unfold parseClockIndexed parseClock
  by_cases hPos : b.length > pos
  · rw [if_pos hPos, index_byteAt hPos]
    simp only [bind, Except.bind, hPos, true_and, Option.bind]
    split
    · unfold parseHmsIndexed
      split
      · rfl
      rename_i hLength
      have hFirst : pos + 3 < b.length := by omega
      have hSecond : pos + 6 < b.length := by omega
      simp only [digitsOr_eq, index_byteAt hFirst,
        index_byteAt hSecond, skipFractionIndexed_eq]
      cases digits b (pos + 1) 2 with
      | none => rfl
      | some hour =>
      simp only [Checked.orRefuse_some, bind, Except.bind]
      split
      · rfl
      cases digits b (pos + 4) 2 with
      | none => rfl
      | some min =>
      simp only [Checked.orRefuse_some]
      split
      · rfl
      cases digits b (pos + 7) 2 with
      | none => rfl
      | some sec =>
      simp only [Checked.orRefuse_some]
      split
      · rfl
      split
      · rfl
      · rfl
    · rfl
  · simp [hPos]

theorem skipColonIndexed_eq
    (b : Bytes)
    (pos : Nat) :
    (skipColonIndexed b pos : Checked ε Nat) =
      .ok
        (if pos < b.length ∧ byteAt b pos = ascii ':' then
          pos + 1
        else
          pos) := by
  unfold skipColonIndexed
  by_cases hPos : pos < b.length
  · rw [if_pos hPos, index_byteAt hPos]
    simp [bind, Except.bind, hPos]
  · simp [hPos]

theorem parseZoneIndexed_eq
    (e : ε)
    (b : Bytes)
    (pos : Nat) :
    parseZoneIndexed e b pos =
      Checked.orRefuse (parseZone b pos) e := by
  unfold parseZoneIndexed parseZone
  by_cases hPos : pos < b.length
  · rw [if_pos hPos, if_pos hPos, index_byteAt hPos]
    simp only [bind, Except.bind, Option.bind, digitsOr_eq,
      skipColonIndexed_eq]
    split
    · split
      · rfl
      · rfl
    split
    · cases digits b (pos + 1) 2 with
      | none => rfl
      | some oh =>
      simp only [Checked.orRefuse_some]
      generalize
        (if pos + 1 + 2 < b.length ∧
            byteAt b (pos + 1 + 2) = ascii ':' then
          pos + 1 + 2 + 1
        else
          pos + 1 + 2) = pos'
      cases digits b pos' 2 with
      | none => rfl
      | some om =>
      simp only [Checked.orRefuse_some]
      split
      · rfl
      split
      · rfl
      · rfl
    · rfl
  · rw [if_neg hPos, if_neg hPos]
    rfl

/- With all its checks the parser is the parser without. -/
theorem parseIndexed_eq
    (input : String) :
    parseIndexed input =
      Checked.orRefuse (parseBytes (Utf8.encode input))
        ⟨input⟩ := by
  simp only [parseIndexed, parseBytes, parseDateIndexed_eq,
    parseClockIndexed_eq, parseZoneIndexed_eq]
  cases parseDate (Utf8.encode input) with
  | none => rfl
  | some date =>
  simp only [Checked.orRefuse_some, bind, Except.bind,
    Option.bind]
  cases parseClock (Utf8.encode input) 10 with
  | none => rfl
  | some clock =>
  simp only [Checked.orRefuse_some]
  cases parseZone (Utf8.encode input) clock.2.2.2 with
  | none => rfl
  | some offset => rfl

/- No input makes the parser index out of bounds. -/
theorem parseIndexed_ne_panicked
    (input : String) :
    parseIndexed input ≠ .error .panicked := by
  rw [parseIndexed_eq]
  apply Checked.orRefuse_ne_panicked

theorem parseIndexed_eq_ok_iff
    {input : String}
    {t : Timestamp} :
    parseIndexed input = .ok t ↔ parse input = .ok t := by
  rw [parseIndexed_eq, parse]
  cases parseBytes (Utf8.encode input) with
  | none => simp
  | some t => simp

end Timestamp

end UnidppArchive
