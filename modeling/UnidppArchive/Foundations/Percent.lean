import UnidppArchive.Foundations.Lossy
import UnidppArchive.Foundations.Radix

/-
  Percent coding.

  An octet that is kept is written as its character, and any
  other as a percent sign with two upper-case hex digits.  A
  text of kept characters and of triplets spells octets, and
  a reader that takes triplets for octets finds these.

  Key definitions include:
    * `Percent.encode`
    * `Percent.decode`
    * `Percent.Spells`

  Key theorems include:
    * `Percent.spells_encode`
    * `Percent.Spells.decode`
    * `Percent.mem_encode`
-/

------------------------------------------------------------
-- Encoding and Decoding
------------------------------------------------------------

namespace UnidppArchive

namespace Percent

/- `{:02X}`. -/
def upperByte
    (b : UInt8) : List Char :=
  [(Nat.digitChar (b.toNat / 16)).toUpper,
    (Nat.digitChar (b.toNat % 16)).toUpper]

def encodeOctet
    (keep : UInt8 → Bool)
    (b : UInt8) : List Char :=
  if keep b then
    [Char.ofNat b.toNat]
  else
    '%' :: upperByte b

def encode
    (keep : UInt8 → Bool)
    (bytes : Bytes) : List Char :=
  bytes.flatMap (encodeOctet keep)

/- The octet of two hex digits. -/
def octet?
    (hi lo : Char) : Option UInt8 :=
  match Text.toDigit 16 hi, Text.toDigit 16 lo with
  | some h, some l => some (UInt8.ofNat (h * 16 + l))
  | _, _ => none

/- The octets that a text stands for. -/
def decode :
    List Char → Bytes
| '%' :: hi :: lo :: cs =>
    match octet? hi lo with
    | some b => b :: decode cs
    | none => String.utf8EncodeChar '%' ++ decode (hi :: lo :: cs)
| c :: cs => String.utf8EncodeChar c ++ decode cs
| [] => []

/- Characters that are kept, and triplets, in either case. -/
inductive Spells
    (keep : UInt8 → Bool) :
    List Char → Bytes → Prop where
  | nil : Spells keep [] []
  | kept
      {b : UInt8}
      {cs : List Char}
      {bytes : Bytes}
      (hKeep : keep b = true)
      (hRest : Spells keep cs bytes) :
      Spells keep (Char.ofNat b.toNat :: cs) (b :: bytes)
  | triplet
      {hi lo : Char}
      {b : UInt8}
      {cs : List Char}
      {bytes : Bytes}
      (hOctet : octet? hi lo = some b)
      (hRest : Spells keep cs bytes) :
      Spells keep ('%' :: hi :: lo :: cs) (b :: bytes)

/- What is kept is ASCII, and no percent sign. -/
def Safe
    (keep : UInt8 → Bool) : Prop :=
  ∀ b, keep b = true → b.toNat < 128 ∧ b ≠ 37

end Percent

end UnidppArchive

------------------------------------------------------------
-- Reading Back
------------------------------------------------------------

namespace UnidppArchive

namespace Percent

variable {keep : UInt8 → Bool}

/- The digits of an octet are read as the octet. -/
theorem octet?_upperByte
    (b : UInt8) :
    octet? (Nat.digitChar (b.toNat / 16)).toUpper
        (Nat.digitChar (b.toNat % 16)).toUpper =
      some b := by
  have hb := b.toNat_lt
  have hDigit :
      ∀ n, n < 16 →
        Text.toDigit 16 (Nat.digitChar n).toUpper = some n :=
    fun n hn => Text.toDigit_of_spells ⟨hn, Or.inr rfl⟩
  have hValue : b.toNat / 16 * 16 + b.toNat % 16 = b.toNat := by
    omega
  unfold octet?
  rw [hDigit _ (by omega), hDigit _ (by omega)]
  simp only [hValue, UInt8.ofNat_toNat]

theorem decode_cons_of_ne
    {c : Char}
    (h : c ≠ '%')
    (cs : List Char) :
    decode (c :: cs) = String.utf8EncodeChar c ++ decode cs := by
  rw [decode]
  intro hi lo rest hc
  exact (h hc).elim

/- The character of an ASCII code has that code. -/
theorem toNat_ofNat_ascii
    {n : Nat}
    (h : n < 128) :
    (Char.ofNat n).toNat = n := by
  have hAll :
      ∀ n : Fin 128, (Char.ofNat n.val).toNat = n.val := by
    decide
  exact hAll ⟨n, h⟩

/- What is written spells what it was written for. -/
theorem spells_encode
    (bytes : Bytes) :
    Spells keep (encode keep bytes) bytes := by
  unfold encode
  induction bytes with
  | nil => exact .nil
  | cons b bytes ih =>
      rw [List.flatMap_cons, encodeOctet]
      cases hKeep : keep b with
      | false => exact .triplet (octet?_upperByte b) ih
      | true => exact .kept hKeep ih

/- What is spelled is read. -/
theorem Spells.decode
    {cs : List Char}
    {bytes : Bytes}
    (h : Spells keep cs bytes)
    (hSafe : Safe keep) :
    decode cs = bytes := by
  induction h with
  | nil => rfl
  | @kept b cs bytes hKeep hRest ih =>
      rcases hSafe b hKeep with ⟨hAscii, hPercent⟩
      have hCode := toNat_ofNat_ascii hAscii
      have hNe : Char.ofNat b.toNat ≠ '%' := by
        intro hSame
        rw [hSame] at hCode
        apply hPercent
        apply UInt8.toNat_inj.mp
        exact hCode.symm
      rw [decode_cons_of_ne hNe, ih,
        Utf8.utf8EncodeChar_ascii (by omega), hCode,
        UInt8.ofNat_toNat]
      rfl
  | triplet hOctet hRest ih =>
      rw [Percent.decode, hOctet]
      simp only [ih]

/- A sign that is not kept, and no digit, is not written. -/
theorem Spells.not_mem
    {cs : List Char}
    {bytes : Bytes}
    {c : Char}
    (h : Spells keep cs bytes)
    (hKeep : ∀ b, keep b = true → Char.ofNat b.toNat ≠ c)
    (hPercent : '%' ≠ c)
    (hDigit : Text.toDigit 16 c = none) :
    c ∉ cs := by
  induction h with
  | nil => exact List.not_mem_nil
  | kept hKept hRest ih =>
      intro hMem
      rcases List.mem_cons.mp hMem with hFirst | hLater
      · exact hKeep _ hKept hFirst.symm
      · exact ih hLater
  | @triplet hi lo b cs bytes hOctet hRest ih =>
      have hNot {d : Char}
          (hSome : Text.toDigit 16 d ≠ none) : c ≠ d := by
        rintro rfl
        exact hSome hDigit
      have hDigits :
          Text.toDigit 16 hi ≠ none ∧
            Text.toDigit 16 lo ≠ none := by
        unfold octet? at hOctet
        split at hOctet
        · rename_i hHi hLo
          rw [hHi, hLo]
          exact ⟨nofun, nofun⟩
        · cases hOctet
      simp only [List.mem_cons, not_or]
      exact ⟨hPercent.symm, hNot hDigits.1, hNot hDigits.2, ih⟩

@[simp] theorem encode_append
    (b b' : Bytes) :
    encode keep (b ++ b') =
      encode keep b ++ encode keep b' := by
  simp [encode]

end Percent

end UnidppArchive

------------------------------------------------------------
-- The Alphabet
------------------------------------------------------------

namespace UnidppArchive

namespace Percent

variable {keep : UInt8 → Bool}

/- An upper-case hex digit. -/
def IsUpperHex
    (c : Char) : Prop :=
  (48 ≤ c.toNat ∧ c.toNat ≤ 57) ∨
    (65 ≤ c.toNat ∧ c.toNat ≤ 70)

theorem isUpperHex_of_mem
    {b : UInt8}
    {c : Char}
    (h : c ∈ upperByte b) :
    IsUpperHex c := by
  have hAll :
      ∀ n : Fin 16,
        IsUpperHex (Nat.digitChar n).toUpper := by
    unfold IsUpperHex
    decide
  have hb := b.toNat_lt
  simp only [upperByte, List.mem_cons, List.not_mem_nil,
    or_false] at h
  rcases h with rfl | rfl
  · exact hAll ⟨b.toNat / 16, by omega⟩
  · exact hAll ⟨b.toNat % 16, by omega⟩

/- What is written is kept, or part of a triplet. -/
theorem mem_encode
    {bytes : Bytes}
    {c : Char}
    (h : c ∈ encode keep bytes) :
    (∃ b ∈ bytes, keep b = true ∧ c = Char.ofNat b.toNat) ∨
      c = '%' ∨ IsUpperHex c := by
  rcases List.mem_flatMap.mp h with ⟨b, hMem, hc⟩
  unfold encodeOctet at hc
  split at hc
  · rename_i hKept
    exact Or.inl ⟨b, hMem, hKept, List.mem_singleton.mp hc⟩
  · rcases List.mem_cons.mp hc with rfl | hDigit
    · exact Or.inr (Or.inl rfl)
    · exact Or.inr (Or.inr (isUpperHex_of_mem hDigit))

/- Each octet takes one character or three. -/
theorem length_encode
    (bytes : Bytes) :
    (encode keep bytes).length =
      bytes.length + 2 * bytes.countP (!keep ·) := by
  unfold encode
  induction bytes with
  | nil => rfl
  | cons b bytes ih =>
      rw [List.flatMap_cons, List.length_append, ih,
        List.countP_cons]
      unfold encodeOctet
      cases keep b <;> simp [upperByte] <;> omega

end Percent

end UnidppArchive
