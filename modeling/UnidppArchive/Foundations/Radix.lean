import Mathlib.Data.List.Forall2
import Mathlib.Data.Nat.Digits.Defs

/-
  Numbers read in a radix, as the Rust standard library
  reads them.

  An optional plus sign is followed by digits of either
  case, and a value beyond the machine word is refused.

  Key definitions include:
    * `Text.toDigit`
    * `Text.fromStrRadix`
    * `Text.HexSpelling`

  Key theorems include:
    * `Text.hexSpelling_digitChar`
    * `Text.fromStrRadix_hexSpelling`
-/

------------------------------------------------------------
-- Reading
------------------------------------------------------------

namespace UnidppArchive

namespace Text

/- `char::to_digit`. -/
def toDigit
    (radix : Nat)
    (c : Char) : Option Nat :=
  let n := c.toNat
  let d :=
    if 48 ≤ n ∧ n ≤ 57 then
      some (n - 48)
    else if 97 ≤ n ∧ n ≤ 122 then
      some (n - 97 + 10)
    else if 65 ≤ n ∧ n ≤ 90 then
      some (n - 65 + 10)
    else
      none
  d.filter (· < radix)

/- The value of digits after those read so far. -/
def radixValue?
    (radix : Nat)
    (v : Nat) :
    List Char → Option Nat
| [] => some v
| c :: cs =>
    (toDigit radix c).bind
      (fun d => radixValue? radix (v * radix + d) cs)

/- The digits after an optional plus sign. -/
def stripPlus :
    List Char → List Char
| '+' :: cs => cs
| cs => cs

/- `from_str_radix` of an unsigned word of this width. -/
def fromStrRadix
    (radix width : Nat)
    (cs : List Char) : Option Nat :=
  if stripPlus cs = [] then
    none
  else
    (radixValue? radix 0 (stripPlus cs)).filter
      (· < 2 ^ width)

end Text

end UnidppArchive

------------------------------------------------------------
-- Hexadecimal Spellings
------------------------------------------------------------

namespace UnidppArchive

namespace Text

/- A hex digit in either case. -/
def SpellsDigit
    (c : Char)
    (d : Nat) : Prop :=
  d < 16 ∧
    (c = Nat.digitChar d ∨ c = (Nat.digitChar d).toUpper)

/- Digits of any case, with any number of leading zeros. -/
def HexSpelling
    (cs : List Char)
    (n : Nat) : Prop :=
  cs ≠ [] ∧
    ∃ ds, List.Forall₂ SpellsDigit cs ds ∧
      Nat.ofDigits 16 ds.reverse = n

/- Every list of digit values is spelled in lower case. -/
theorem hexSpelling_digitChar
    (ds : List Nat)
    (hSome : ds ≠ [])
    (hDigits : ∀ d ∈ ds, d < 16) :
    HexSpelling (ds.map Nat.digitChar)
      (Nat.ofDigits 16 ds.reverse) := by
  refine ⟨by simpa using hSome, ds, ?_, rfl⟩
  rw [List.forall₂_map_left_iff, List.forall₂_same]
  intro d hd
  exact ⟨hDigits d hd, Or.inl rfl⟩

theorem toDigit_of_spells
    {c : Char}
    {d : Nat}
    (h : SpellsDigit c d) :
    toDigit 16 c = some d := by
  have hAll :
      ∀ d : Fin 16,
        toDigit 16 (Nat.digitChar d) = some d.val ∧
          toDigit 16 (Nat.digitChar d).toUpper =
            some d.val := by
    decide
  rcases h with ⟨hd, rfl | rfl⟩
  · exact (hAll ⟨d, hd⟩).1
  · exact (hAll ⟨d, hd⟩).2

/- A digit is an ASCII letter or numeral. -/
theorem code_of_spells
    {c : Char}
    {d : Nat}
    (h : SpellsDigit c d) :
    48 ≤ c.toNat ∧ c.toNat ≤ 102 ∧
      (c.toNat ≤ 57 ∨ 65 ≤ c.toNat) := by
  have hAll :
      ∀ d : Fin 16,
        (48 ≤ (Nat.digitChar d).toNat ∧
            (Nat.digitChar d).toNat ≤ 102 ∧
            ((Nat.digitChar d).toNat ≤ 57 ∨
              65 ≤ (Nat.digitChar d).toNat)) ∧
          48 ≤ (Nat.digitChar d).toUpper.toNat ∧
            (Nat.digitChar d).toUpper.toNat ≤ 102 ∧
            ((Nat.digitChar d).toUpper.toNat ≤ 57 ∨
              65 ≤ (Nat.digitChar d).toUpper.toNat) := by
    decide
  rcases h with ⟨hd, rfl | rfl⟩
  · exact (hAll ⟨d, hd⟩).1
  · exact (hAll ⟨d, hd⟩).2

/- Digits are read after those before them. -/
theorem radixValue?_of_spells
    {cs : List Char}
    {ds : List Nat}
    (h : List.Forall₂ SpellsDigit cs ds)
    (v : Nat) :
    radixValue? 16 v cs =
      some (Nat.ofDigits 16 (ds.reverse ++ [v])) := by
  induction h generalizing v with
  | nil => simp [radixValue?]
  | @cons c d cs ds hDigit hRest ih =>
      rw [radixValue?, toDigit_of_spells hDigit,
        Option.bind_some, ih, List.reverse_cons]
      simp only [Nat.ofDigits_append, Nat.ofDigits_singleton,
        List.length_append, List.length_reverse,
        List.length_singleton, Option.some.injEq]
      ring

/- No spelling starts with a sign. -/
theorem stripPlus_of_spells
    {cs : List Char}
    {ds : List Nat}
    (h : List.Forall₂ SpellsDigit cs ds) :
    stripPlus cs = cs := by
  cases h with
  | nil => rfl
  | @cons c d cs ds hDigit hRest =>
      have hCode := code_of_spells hDigit
      have hPlus : '+'.toNat = 43 := rfl
      unfold stripPlus
      split
      · rename_i heq
        cases heq
        omega
      · rfl

/- A spelled number that fits is read with its value. -/
theorem fromStrRadix_hexSpelling
    {width n : Nat}
    {cs : List Char}
    (h : HexSpelling cs n)
    (hFits : n < 2 ^ width) :
    fromStrRadix 16 width cs = some n := by
  rcases h with ⟨hSome, ds, hDigits, hValue⟩
  have hRead := radixValue?_of_spells hDigits 0
  rw [Nat.ofDigits_append, Nat.ofDigits_singleton, Nat.mul_zero,
    Nat.add_zero, hValue] at hRead
  rw [fromStrRadix, stripPlus_of_spells hDigits, if_neg hSome,
    hRead]
  simpa using hFits

end Text

end UnidppArchive
