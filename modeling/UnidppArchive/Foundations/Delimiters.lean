import UnidppArchive.Foundations.Radix
import UnidppArchive.Foundations.Subslice
import UnidppArchive.Foundations.Text

/-
  Cutting text at a delimiter, and decimal numbers.

  A text is cut once, at the first place where a needle
  stands or at the last place of a character.  A decimal
  number is digits after an optional plus sign.

  Key definitions include:
    * `Text.splitOnceAt`
    * `Text.rsplitOnce`
    * `Text.Decimal`

  Key theorems include:
    * `Text.splitOnceAt_eq_some_iff`
    * `Text.rsplitOnce_eq_some_iff`
    * `Text.fromStrRadix_ten_iff`
-/

------------------------------------------------------------
-- Delimiters
------------------------------------------------------------

namespace UnidppArchive

namespace Text

/- `str::split_once` at a text. -/
def splitOnceAt
    (needle cs : List Char) : Option (List Char × List Char) :=
  (findSubslice needle cs).map
    (fun i => (cs.take i, cs.drop (i + needle.length)))

/- `str::rsplit_once` at one character. -/
def rsplitOnce
    (c : Char)
    (cs : List Char) : Option (List Char × List Char) :=
  if c ∈ cs then
    some
      ((cs.reverse.dropWhile (· ≠ c)).tail.reverse,
        (cs.reverse.takeWhile (· ≠ c)).reverse)
  else
    none

theorem splitOnceAt_eq_some_iff
    {needle cs front back : List Char}
    (hNeedle : needle ≠ []) :
    splitOnceAt needle cs = some (front, back) ↔
      cs = front ++ needle ++ back ∧
        FirstAt needle cs front.length := by
  simp only [splitOnceAt, Option.map_eq_some_iff,
    findSubslice_eq_some_iff hNeedle, Prod.mk.injEq]
  constructor
  · rintro ⟨i, hFirst, rfl, rfl⟩
    have hInside : i ≤ cs.length := by
      have hLength := hFirst.here.length_le
      have hPos := List.length_pos_of_ne_nil hNeedle
      rw [List.length_drop] at hLength
      omega
    rcases hFirst.exists_split hInside with
      ⟨rest, hSplit, hLength⟩
    generalize cs.take i = front at hSplit hLength
    subst hLength
    have hDrop :
        cs.drop (front.length + needle.length) = rest := by
      rw [hSplit, ← List.length_append, List.drop_left]
    rw [hDrop]
    exact ⟨hSplit, hFirst⟩
  · rintro ⟨hSplit, hFirst⟩
    refine ⟨front.length, hFirst, ?_, ?_⟩
    · simp [hSplit]
    · rw [hSplit, ← List.length_append, List.drop_left]

/- The cut is at the last place of the character. -/
theorem rsplitOnce_eq_some_iff
    {c : Char}
    {cs front back : List Char} :
    rsplitOnce c cs = some (front, back) ↔
      cs = front ++ c :: back ∧ c ∉ back := by
  unfold rsplitOnce
  constructor
  · intro h
    split at h
    · rename_i hMem
      simp only [Option.some.injEq, Prod.mk.injEq] at h
      rcases h with ⟨rfl, rfl⟩
      have hBehind :
          ∀ d ∈ cs.reverse.takeWhile (· ≠ c), d ≠ c := by
        intro d hd
        have hTaken := List.mem_takeWhile_imp hd
        simpa using hTaken
      refine ⟨?_, ?_⟩
      · cases hDrop : cs.reverse.dropWhile (· ≠ c) with
        | nil =>
            have hNone :=
              List.dropWhile_eq_nil_iff.mp hDrop c
                (List.mem_reverse.mpr hMem)
            simp at hNone
        | cons d rest =>
            have hHead :=
              List.head?_dropWhile_not (fun d => decide (d ≠ c))
                cs.reverse
            rw [hDrop] at hHead
            have hSame : d = c := by simpa using hHead
            subst hSame
            have hWhole :=
              List.takeWhile_append_dropWhile
                (p := fun e => decide (e ≠ d)) (l := cs.reverse)
            rw [hDrop] at hWhole
            have hReverse := congrArg List.reverse hWhole
            simpa using hReverse.symm
      · intro hc
        exact hBehind c (List.mem_reverse.mp hc) rfl
    · cases h
  · rintro ⟨rfl, hNot⟩
    have hAll :
        ∀ d ∈ back.reverse, decide (d ≠ c) = true := by
      intro d hd
      rw [decide_eq_true_eq]
      rintro rfl
      exact hNot (List.mem_reverse.mp hd)
    rw [if_pos (by simp)]
    have hReverse :
        (front ++ c :: back).reverse =
          back.reverse ++ c :: front.reverse := by
      simp
    rw [hReverse, List.dropWhile_append_of_pos hAll,
      List.takeWhile_append_of_pos hAll]
    simp

theorem rsplitOnce_eq_none_iff
    {c : Char}
    {cs : List Char} :
    rsplitOnce c cs = none ↔ c ∉ cs := by
  simp [rsplitOnce]

end Text

end UnidppArchive

------------------------------------------------------------
-- Decimal Numbers
------------------------------------------------------------

namespace UnidppArchive

namespace Text

/- Digits after an optional plus sign. -/
def Decimal
    (cs : List Char)
    (n : Nat) : Prop :=
  ∃ ds, (cs = ds ∨ cs = '+' :: ds) ∧ ds ≠ [] ∧
    (∀ c ∈ ds, c.isDigit = true) ∧
    Nat.ofDigitChars 10 ds 0 = n

/- No digit is white space. -/
theorem isWhitespace_of_isDigit
    {c : Char}
    (h : c.isDigit = true) :
    isWhitespace c = false := by
  have hRange := Char.isDigit_iff_toNat.mp h
  have hZero : '0'.toNat = 48 := rfl
  have hNine : '9'.toNat = 57 := rfl
  simp only [isWhitespace, Bool.or_eq_false_iff,
    Bool.and_eq_false_iff, decide_eq_false_iff_not,
    beq_eq_false_iff_ne]
  omega

theorem toDigit_ten
    (c : Char) :
    toDigit 10 c =
      if c.isDigit then some (c.toNat - 48) else none := by
  have hDigit := Char.isDigit_iff_toNat (c := c)
  have hZero : '0'.toNat = 48 := rfl
  have hNine : '9'.toNat = 57 := rfl
  rw [hZero, hNine] at hDigit
  unfold toDigit
  by_cases h : c.isDigit = true
  · have hRange := hDigit.mp h
    simp only [h, if_true, hRange, and_self]
    exact Option.filter_eq_some_iff.mpr
      ⟨rfl, by simp; omega⟩
  · have hRange : ¬ (48 ≤ c.toNat ∧ c.toNat ≤ 57) :=
      fun hIn => h (hDigit.mpr hIn)
    rw [if_neg h]
    simp only [hRange, if_false]
    split
    · simp
    · split
      · simp
      · rfl

/- The value of digits, after those read so far. -/
theorem radixValue?_ten_iff
    {cs : List Char}
    {v n : Nat} :
    radixValue? 10 v cs = some n ↔
      (∀ c ∈ cs, c.isDigit = true) ∧
        Nat.ofDigitChars 10 cs v = n := by
  induction cs generalizing v with
  | nil => simp [radixValue?]
  | cons c cs ih =>
      rw [radixValue?, toDigit_ten]
      by_cases h : c.isDigit = true
      · have hZero : '0'.toNat = 48 := rfl
        rw [if_pos h, Option.bind_some, ih,
          Nat.ofDigitChars_cons, hZero, Nat.mul_comm v 10]
        simp [h]
      · rw [if_neg h]
        simp [h]

theorem stripPlus_cases
    (cs : List Char) :
    (∃ ds, cs = '+' :: ds ∧ stripPlus cs = ds) ∨
      stripPlus cs = cs := by
  unfold stripPlus
  split
  · exact Or.inl ⟨_, rfl, rfl⟩
  · exact Or.inr rfl

/- Digits have no sign before them. -/
theorem stripPlus_of_digits
    {ds : List Char}
    (h : ∀ c ∈ ds, c.isDigit = true) :
    stripPlus ds = ds := by
  rcases stripPlus_cases ds with ⟨rest, rfl, -⟩ | hSame
  · exact absurd (h '+' (by simp)) (by decide)
  · exact hSame

/- Exactly the decimal numbers of the word are read. -/
theorem fromStrRadix_ten_iff
    {width : Nat}
    {cs : List Char}
    {n : Nat} :
    fromStrRadix 10 width cs = some n ↔
      Decimal cs n ∧ n < 2 ^ width := by
  have hDigits :
      fromStrRadix 10 width cs = some n ↔
        stripPlus cs ≠ [] ∧
          ((∀ c ∈ stripPlus cs, c.isDigit = true) ∧
            Nat.ofDigitChars 10 (stripPlus cs) 0 = n) ∧
          n < 2 ^ width := by
    unfold fromStrRadix
    by_cases hNil : stripPlus cs = []
    · simp [hNil]
    · rw [if_neg hNil, Option.filter_eq_some_iff,
        radixValue?_ten_iff]
      simp [hNil]
  rw [hDigits]
  constructor
  · rintro ⟨hSome, ⟨hAll, hValue⟩, hFits⟩
    refine ⟨⟨stripPlus cs, ?_, hSome, hAll, hValue⟩, hFits⟩
    rcases stripPlus_cases cs with ⟨ds, rfl, hStrip⟩ | hSame
    · exact Or.inr (by rw [hStrip])
    · exact Or.inl hSame.symm
  · rintro ⟨⟨ds, hText, hSome, hAll, hValue⟩, hFits⟩
    have hStrip : stripPlus cs = ds := by
      rcases hText with rfl | rfl
      · exact stripPlus_of_digits hAll
      · rfl
    rw [hStrip]
    exact ⟨hSome, ⟨hAll, hValue⟩, hFits⟩

/- A printed number is a decimal number. -/
theorem decimal_repr
    (n : Nat) :
    Decimal (Nat.repr n).toList n := by
  have hText : (Nat.repr n).toList = Nat.toDigits 10 n := by
    simp
  rw [hText]
  exact ⟨_, Or.inl rfl, Nat.toDigits_ne_nil,
    fun c hc => isDigit_of_mem_toDigits hc,
    Nat.ofDigitChars_ten_toDigits⟩

theorem fromStrRadix_ten_repr
    {width n : Nat}
    (h : n < 2 ^ width) :
    fromStrRadix 10 width (Nat.repr n).toList = some n :=
  fromStrRadix_ten_iff.mpr ⟨decimal_repr n, h⟩

end Text

end UnidppArchive
