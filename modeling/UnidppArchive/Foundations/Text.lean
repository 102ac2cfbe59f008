import UnidppArchive.Foundations.Utf8
import Mathlib.Algebra.Order.Ring.Int
import Mathlib.Data.Bool.AllAny
import Mathlib.Data.List.TakeWhile

/-
  Text operations of the Rust standard library.

  `trim` removes the Unicode `White_Space` characters at
  both ends, `isControl` is the Unicode category `Cc`, and
  `parseU64` reads what `str::parse::<u64>` reads.  Decimal
  printing is `Nat.repr`; `padZero` is the `{:0w}` format.

  Key definitions include:
    * `Text.isWhitespace`
    * `Text.trim`
    * `Text.parseU64`
    * `Text.padZero`

  Key theorems include:
    * `Text.parseU64_repr`
    * `Text.padZero_injective`
-/

------------------------------------------------------------
-- Characters
------------------------------------------------------------

namespace UnidppArchive

namespace Text

/- The Unicode property `White_Space`. -/
def isWhitespace
    (c : Char) : Bool :=
  (9 ≤ c.toNat && c.toNat ≤ 13) || c.toNat == 0x20 ||
    c.toNat == 0x85 || c.toNat == 0xa0 ||
    c.toNat == 0x1680 ||
    (0x2000 ≤ c.toNat && c.toNat ≤ 0x200a) ||
    c.toNat == 0x2028 || c.toNat == 0x2029 ||
    c.toNat == 0x202f || c.toNat == 0x205f ||
    c.toNat == 0x3000

/- The Unicode category `Cc`. -/
def isControl
    (c : Char) : Bool :=
  c.toNat < 0x20 || (0x7f ≤ c.toNat && c.toNat ≤ 0x9f)

end Text

end UnidppArchive

------------------------------------------------------------
-- Trimming
------------------------------------------------------------

namespace UnidppArchive

namespace Text

/- `str::trim`. -/
def trim
    (s : String) : String :=
  String.ofList
    ((s.toList.dropWhile isWhitespace).reverse.dropWhile
      isWhitespace).reverse

/- `s.trim().is_empty()`. -/
def isBlank
    (s : String) : Bool :=
  s.toList.all isWhitespace

/- `str::trim_end_matches` with one character. -/
def trimEndMatches
    (s : String)
    (c : Char) : String :=
  String.ofList
    (s.toList.reverse.dropWhile (· == c)).reverse

/- The length of a string in octets, `str::len`. -/
def byteLen
    (s : String) : Nat :=
  (Utf8.encode s).length

/- The number of characters of a string. -/
def charLen
    (s : String) : Nat :=
  s.toList.length

/- Every character takes an octet or more. -/
theorem charLen_le_byteLen
    (s : String) :
    charLen s ≤ byteLen s := by
  unfold charLen byteLen Utf8.encode
  induction s.toList with
  | nil => simp
  | cons c cs ih =>
      have hPos := Char.utf8Size_pos c
      rw [Utf8.encodeChars_cons, List.length_append,
        String.length_utf8EncodeChar, List.length_cons]
      omega

theorem charLen_pos_iff
    {s : String} :
    1 ≤ charLen s ↔ s ≠ "" := by
  rw [charLen, Nat.one_le_iff_ne_zero, Ne,
    List.length_eq_zero_iff, String.toList_eq_nil_iff]

theorem byteLen_pos_iff
    {s : String} :
    1 ≤ byteLen s ↔ s ≠ "" := by
  constructor
  · rintro h rfl
    exact absurd h (by decide)
  · intro h
    exact (charLen_pos_iff.mpr h).trans (charLen_le_byteLen s)

/- Text without white space is not trimmed. -/
theorem trim_eq_self
    {s : String}
    (h : ∀ c ∈ s.toList, isWhitespace c = false) :
    trim s = s := by
  have hDrop :
      ∀ cs : List Char,
        (∀ c ∈ cs, isWhitespace c = false) →
          cs.dropWhile isWhitespace = cs := by
    intro cs hcs
    cases cs with
    | nil => rfl
    | cons c cs =>
        rw [List.dropWhile_cons_of_neg]
        simp [hcs c (by simp)]
  unfold trim
  rw [hDrop s.toList h,
    hDrop s.toList.reverse (by simpa using h)]
  simp

/- Trimming leaves nothing exactly of blank text. -/
theorem trim_eq_empty_iff
    (s : String) :
    trim s = "" ↔ isBlank s = true := by
  unfold trim isBlank
  rw [String.ofList_eq_empty_iff, List.reverse_eq_nil_iff,
    List.dropWhile_eq_nil_iff]
  constructor
  · intro h
    have hAll :
        ∀ c ∈ s.toList.dropWhile isWhitespace,
          isWhitespace c = true := by
      intro c hMem
      exact h c (List.mem_reverse.mpr hMem)
    cases hDrop : s.toList.dropWhile isWhitespace with
    | nil =>
        rw [List.dropWhile_eq_nil_iff] at hDrop
        exact List.all_eq_true.mpr hDrop
    | cons c cs =>
        have hHead :=
          List.head?_dropWhile_not isWhitespace s.toList
        rw [hDrop] at hHead hAll
        have hSpace := hAll c (by simp)
        simp [hSpace] at hHead
  · intro h
    have hNil : s.toList.dropWhile isWhitespace = [] :=
      List.dropWhile_eq_nil_iff.mpr
        (List.all_eq_true.mp h)
    simp [hNil]

/- A character that is no space is not trimmed away. -/
theorem trim_ne_empty_of_mem
    {s : String}
    {c : Char}
    (hMem : c ∈ s.toList)
    (hSpace : isWhitespace c = false) :
    trim s ≠ "" := by
  intro hEmpty
  have hBlank := (trim_eq_empty_iff s).mp hEmpty
  have hAll := List.all_eq_true.mp hBlank c hMem
  rw [hSpace] at hAll
  cases hAll

end Text

end UnidppArchive

------------------------------------------------------------
-- Splitting
------------------------------------------------------------

namespace UnidppArchive

namespace Text

/- `str::split` at each `\r\n`. -/
def splitLineEnds :
    List Char → List (List Char)
| [] => [[]]
| '\r' :: '\n' :: cs => [] :: splitLineEnds cs
| c :: cs => (splitLineEnds cs).modifyHead (c :: ·)

/- `str::split_whitespace`. -/
def splitWhitespace
    (cs : List Char) : List (List Char) :=
  (cs.splitOnP isWhitespace).filter (· ≠ [])

/- `str::split_once` at one character. -/
def splitOnce
    (c : Char)
    (cs : List Char) : Option (List Char × List Char) :=
  if c ∈ cs then
    some (cs.takeWhile (· ≠ c), (cs.dropWhile (· ≠ c)).tail)
  else
    none

/- `str::to_ascii_lowercase`. -/
def toAsciiLowercase
    (s : String) : String :=
  String.ofList (s.toList.map Char.toLower)

/- `str::eq_ignore_ascii_case`. -/
def eqIgnoreAsciiCase
    (s t : String) : Prop :=
  toAsciiLowercase s = toAsciiLowercase t

instance
    (s t : String) : Decidable (eqIgnoreAsciiCase s t) :=
  inferInstanceAs (Decidable (_ = _))

end Text

end UnidppArchive

------------------------------------------------------------
-- Numbers
------------------------------------------------------------

namespace UnidppArchive

namespace Text

/- The value of a nonempty digit sequence. -/
def digitsValue?
    (cs : List Char) : Option Nat :=
  if cs ≠ [] ∧ cs.all Char.isDigit then
    some (Nat.ofDigitChars 10 cs 0)
  else
    none

/-
  `str::parse::<u64>`: an optional plus sign, then digits
  whose value fits in 64 bits.
-/
def parseU64
    (s : String) : Option UInt64 :=
  let digits :=
    match s.toList with
    | '+' :: cs => cs
    | cs => cs
  match digitsValue? digits with
  | some n => if n < 2 ^ 64 then some (UInt64.ofNat n) else none
  | none => none

/- `u64::to_string`. -/
def u64ToString
    (n : UInt64) : String :=
  Nat.repr n.toNat

/- `{:0w}` of an unsigned number. -/
def padZero
    (w n : Nat) : String :=
  let digits := Nat.toDigits 10 n
  String.ofList
    (List.replicate (w - digits.length) '0' ++ digits)

theorem isDigit_of_mem_toDigits
    {n : Nat}
    {c : Char}
    (h : c ∈ Nat.toDigits 10 n) :
    c.isDigit = true :=
  Nat.isDigit_of_mem_toDigits (by omega) (by omega) h

theorem digitsValue?_toDigits
    (n : Nat) :
    digitsValue? (Nat.toDigits 10 n) = some n := by
  have hAll : (Nat.toDigits 10 n).all Char.isDigit = true := by
    rw [List.all_eq_true]
    intro c hc
    exact isDigit_of_mem_toDigits hc
  unfold digitsValue?
  rw [if_pos ⟨Nat.toDigits_ne_nil, hAll⟩,
    Nat.ofDigitChars_ten_toDigits]

/- A printed number is read back. -/
@[simp] theorem parseU64_repr
    (n : UInt64) :
    parseU64 (u64ToString n) = some n := by
  have hDigits :
      (u64ToString n).toList = Nat.toDigits 10 n.toNat := by
    simp [u64ToString]
  have hNoSign :
      (match Nat.toDigits 10 n.toNat with
        | '+' :: cs => cs
        | cs => cs) = Nat.toDigits 10 n.toNat := by
    split
    · rename_i cs hEq
      have hMem : '+' ∈ Nat.toDigits 10 n.toNat := by
        rw [hEq]
        simp
      have hPlus := isDigit_of_mem_toDigits hMem
      simp at hPlus
    · rfl
  unfold parseU64
  simp only [hDigits, hNoSign, digitsValue?_toDigits]
  rw [if_pos n.toNat_lt]
  simp

theorem u64ToString_injective :
    Function.Injective u64ToString := by
  intro m n h
  have hRead := congrArg parseU64 h
  simpa using hRead

/- Texts are split where their ends are equally long. -/
theorem append_inj_of_length
    {front front' back back' : String}
    (hLength : back.toList.length = back'.toList.length)
    (h : front ++ back = front' ++ back') :
    front = front' ∧ back = back' := by
  have hText := congrArg String.toList h
  rw [String.toList_append, String.toList_append] at hText
  rcases List.append_inj' hText hLength with
    ⟨hFront, hBack⟩
  exact ⟨String.toList_inj.mp hFront,
    String.toList_inj.mp hBack⟩

end Text

end UnidppArchive

------------------------------------------------------------
-- Zero Padding
------------------------------------------------------------

namespace UnidppArchive

namespace Text

private theorem ofDigitChars_zeros
    (k : Nat)
    (cs : List Char) :
    Nat.ofDigitChars 10 (List.replicate k '0' ++ cs) 0 =
      Nat.ofDigitChars 10 cs 0 := by
  induction k with
  | zero => simp
  | succ k ih =>
      rw [List.replicate_succ, List.cons_append,
        Nat.ofDigitChars_cons]
      simpa using ih

/- Padding does not change the value that is read. -/
theorem ofDigitChars_padZero
    (w n : Nat) :
    Nat.ofDigitChars 10 (padZero w n).toList 0 = n := by
  simp [padZero, ofDigitChars_zeros]

/- Different numbers are printed differently. -/
theorem padZero_injective
    (w : Nat) :
    Function.Injective (padZero w) := by
  intro m n h
  have hValue :=
    congrArg (fun s => Nat.ofDigitChars 10 s.toList 0) h
  simpa [ofDigitChars_padZero] using hValue

/- A number that fits is printed at exactly the width. -/
theorem length_padZero
    {w n : Nat}
    (hw : 0 < w)
    (hn : n < 10 ^ w) :
    (padZero w n).toList.length = w := by
  have hLength : (Nat.toDigits 10 n).length ≤ w :=
    (Nat.length_toDigits_le_iff (by omega) hw).mpr hn
  simp [padZero]
  omega

theorem isDigit_of_mem_padZero
    {w n : Nat}
    {c : Char}
    (h : c ∈ (padZero w n).toList) :
    c.isDigit = true := by
  simp only [padZero, String.toList_ofList,
    List.mem_append, List.mem_replicate] at h
  rcases h with ⟨-, rfl⟩ | h
  · rfl
  · exact isDigit_of_mem_toDigits h

end Text

end UnidppArchive
