import UnidppArchive.Foundations.Text

/-
  Second-resolution UTC timestamps (`time.rs`).

  `Timestamp.parse` reads RFC 3339 text by byte positions,
  and `Timestamp.toString` prints the canonical form with a
  trailing `Z`.

  Key definitions include:
    * `Timestamp`
    * `daysFromCivil`
    * `civilFromDays`
    * `Timestamp.parse`
    * `Timestamp.toString`
-/

------------------------------------------------------------
-- Calendar
------------------------------------------------------------

namespace UnidppArchive

/- Seconds since the UNIX epoch. -/
structure Timestamp where
  secs : Int
  deriving DecidableEq

/- The text that could not be read. -/
structure TimeParseError where
  input : String
  deriving DecidableEq

/- The message of a parse error. -/
def TimeParseError.message
    (e : TimeParseError) : String :=
  s!"invalid timestamp `{e.input}` (expected RFC 3339 UTC)"

def isLeapYear
    (y : Int) : Bool :=
  (y.tmod 4 == 0 && y.tmod 100 != 0) || y.tmod 400 == 0

def daysInMonth
    (y : Int)
    (m : Nat) : Nat :=
  match m with
  | 1 | 3 | 5 | 7 | 8 | 10 | 12 => 31
  | 4 | 6 | 9 | 11 => 30
  | 2 => if isLeapYear y then 29 else 28
  | _ => 0

/- Division truncates, as for `i64`. -/
def daysFromCivil
    (y : Int)
    (m d : Nat) : Int :=
  let y := if m ≤ 2 then y - 1 else y
  let era := (if y ≥ 0 then y else y - 399).tdiv 400
  let yoe := y - era * 400
  let mp : Int := if m > 2 then m - 3 else m + 9
  let doy := (153 * mp + 2).tdiv 5 + d - 1
  let doe := yoe * 365 + yoe.tdiv 4 - yoe.tdiv 100 + doy
  era * 146097 + doe - 719468

/- Division truncates, as for `i64`. -/
def civilFromDays
    (z : Int) : Int × Nat × Nat :=
  let z := z + 719468
  let era := (if z ≥ 0 then z else z - 146096).tdiv 146097
  let doe := z - era * 146097
  let yoe :=
    (doe - doe.tdiv 1460 + doe.tdiv 36524 -
      doe.tdiv 146096).tdiv 365
  let y := yoe + era * 400
  let doy := doe - (365 * yoe + yoe.tdiv 4 - yoe.tdiv 100)
  let mp := (5 * doy + 2).tdiv 153
  let d := (doy - (153 * mp + 2).tdiv 5 + 1).toNat
  let m := (if mp < 10 then mp + 3 else mp - 9).toNat
  (if m ≤ 2 then y + 1 else y, m, d)

end UnidppArchive

------------------------------------------------------------
-- Parsing
------------------------------------------------------------

namespace UnidppArchive

/- A byte literal such as `b'-'`. -/
def ascii
    (c : Char) : UInt8 :=
  UInt8.ofNat c.toNat

def isAsciiDigit
    (c : UInt8) : Bool :=
  48 ≤ c && c ≤ 57

/- The byte at a position. -/
def byteAt
    (b : Bytes)
    (pos : Nat) : UInt8 :=
  b.getD pos 0

/- The value of ASCII digits after those read so far. -/
def digitsFrom
    (v : Int) :
    Bytes → Option Int
| [] => some v
| c :: cs =>
    if isAsciiDigit c then
      digitsFrom (v * 10 + (c.toNat - 48 : Nat)) cs
    else
      none

def digits
    (b : Bytes)
    (pos len : Nat) : Option Int :=
  if pos + len > b.length then
    none
  else
    digitsFrom 0 ((b.drop pos).take len)

namespace Timestamp

/- The date part: year, month and day. -/
def parseDate
    (b : Bytes) : Option (Int × Nat × Nat) :=
  if b.length < 10 then
    none
  else do
    let year ← digits b 0 4
    if byteAt b 4 ≠ ascii '-' then none else
    let month ← digits b 5 2
    if byteAt b 7 ≠ ascii '-' then none else
    let day ← digits b 8 2
    if ¬ (1 ≤ month ∧ month ≤ 12) then none else
    if day < 1 ∨ day > daysInMonth year month.toNat then
      none
    else
      some (year, month.toNat, day.toNat)

/- `while pos < b.len() && b[pos].is_ascii_digit()`. -/
def skipDigits
    (b : Bytes)
    (pos : Nat) : Nat :=
  pos + ((b.drop pos).takeWhile isAsciiDigit).length

/- The optional time part, and the position after it. -/
def parseClock
    (b : Bytes)
    (pos : Nat) : Option (Int × Int × Int × Nat) :=
  if b.length > pos ∧
      (byteAt b pos = ascii 'T' ∨ byteAt b pos = ascii 't' ∨
        byteAt b pos = ascii ' ') then
    if b.length < pos + 9 then
      none
    else do
      let hour ← digits b (pos + 1) 2
      if byteAt b (pos + 3) ≠ ascii ':' then none else
      let min ← digits b (pos + 4) 2
      if byteAt b (pos + 6) ≠ ascii ':' then none else
      let sec ← digits b (pos + 7) 2
      if hour > 23 ∨ min > 59 ∨ sec > 59 then none else
      let pos := pos + 9
      -- fractional seconds are accepted and discarded
      if b.length > pos ∧ byteAt b pos = ascii '.' then
        some (hour, min, sec, skipDigits b (pos + 1))
      else
        some (hour, min, sec, pos)
  else
    some (0, 0, 0, pos)

/- The zone `Z`, `z`, a signed offset, or nothing. -/
def parseZone
    (b : Bytes)
    (pos : Nat) : Option Int :=
  if pos < b.length then
    if byteAt b pos = ascii 'Z' ∨ byteAt b pos = ascii 'z' then
      if pos + 1 ≠ b.length then none else some 0
    else if
        byteAt b pos = ascii '+' ∨ byteAt b pos = ascii '-' then
      do
        let sign : Int :=
          if byteAt b pos = ascii '-' then -1 else 1
        let pos := pos + 1
        let oh ← digits b pos 2
        let pos := pos + 2
        let pos :=
          if pos < b.length ∧ byteAt b pos = ascii ':' then
            pos + 1
          else
            pos
        let om ← digits b pos 2
        let pos := pos + 2
        if oh > 23 ∨ om > 59 then none else
        if pos ≠ b.length then none else
        some (sign * (oh * 3600 + om * 60))
    else
      none
  else
    some 0

def parseBytes
    (b : Bytes) : Option Timestamp := do
  let (year, month, day) ← parseDate b
  let (hour, min, sec, pos) ← parseClock b 10
  let offsetSecs ← parseZone b pos
  let days := daysFromCivil year month day
  some ⟨days * 86400 + hour * 3600 + min * 60 + sec -
    offsetSecs⟩

def parse
    (input : String) : Except TimeParseError Timestamp :=
  match parseBytes (Utf8.encode input) with
  | some t => .ok t
  | none => .error ⟨input⟩

end Timestamp

end UnidppArchive

------------------------------------------------------------
-- Printing
------------------------------------------------------------

namespace UnidppArchive

/- `{:04}` of a signed number: the sign takes one place. -/
def padYear
    (y : Int) : String :=
  if y < 0 then
    "-" ++ Text.padZero 3 y.natAbs
  else
    Text.padZero 4 y.toNat

namespace Timestamp

def toString
    (t : Timestamp) : String :=
  let days := t.secs / 86400
  let rem := (t.secs % 86400).toNat
  let (year, month, day) := civilFromDays days
  padYear year ++ "-" ++ Text.padZero 2 month ++ "-" ++
    Text.padZero 2 day ++ "T" ++
    Text.padZero 2 (rem / 3600) ++ ":" ++
    Text.padZero 2 (rem % 3600 / 60) ++ ":" ++
    Text.padZero 2 (rem % 60) ++ "Z"

example :
    (⟨1900000000⟩ : Timestamp).toString =
      "2030-03-17T17:46:40Z" := by
  decide

end Timestamp

end UnidppArchive
