import UnidppArchive.Foundations.Utf8

/-
  Lossy decoding of UTF-8, as the Rust standard library does
  it.

  Whatever is no character is replaced, one replacement for
  each longest beginning of a character.

  Key definitions include:
    * `Utf8.decodeLossy`

  Key theorems include:
    * `Utf8.decodeLossy_encode`
-/

------------------------------------------------------------
-- Lossy Decoding
------------------------------------------------------------

namespace UnidppArchive

namespace Utf8

/- The number of octets that a lead octet announces. -/
def charWidth
    (a : Nat) : Nat :=
  if 0xc2 ≤ a ∧ a ≤ 0xdf then 2
  else if 0xe0 ≤ a ∧ a ≤ 0xef then 3
  else if 0xf0 ≤ a ∧ a ≤ 0xf4 then 4
  else 0

def isContinuation
    (b : Nat) : Prop :=
  0x80 ≤ b ∧ b ≤ 0xbf

instance
    (b : Nat) : Decidable (isContinuation b) :=
  inferInstanceAs (Decidable (_ ∧ _))

/-
  The octets that may come second: no overlong spellings, no
  surrogates, and nothing beyond the last code point.
-/
def isSecond
    (a b : Nat) : Prop :=
  charWidth a ≠ 0 ∧ isContinuation b ∧
    (a = 0xe0 → 0xa0 ≤ b) ∧ (a = 0xed → b ≤ 0x9f) ∧
    (a = 0xf0 → 0x90 ≤ b) ∧ (a = 0xf4 → b ≤ 0x8f)

instance
    (a b : Nat) : Decidable (isSecond a b) :=
  inferInstanceAs (Decidable (_ ∧ _))

/- `char::REPLACEMENT_CHARACTER`. -/
def replacement : Char :=
  Char.ofNat 0xfffd

/- What is followed by a second octet is not ASCII. -/
theorem lead_of_second
    {a b : Nat}
    (h : isSecond a b) :
    ¬ a < 0x80 := by
  intro ha
  apply h.1
  unfold charWidth
  split
  · omega
  split
  · omega
  split
  · omega
  · rfl

theorem charWidth_eq_two
    {a : Nat}
    (h : 0xc2 ≤ a ∧ a ≤ 0xdf) :
    charWidth a = 2 :=
  if_pos h

theorem charWidth_eq_three
    {a : Nat}
    (h : 0xe0 ≤ a ∧ a ≤ 0xef) :
    charWidth a = 3 := by
  rw [charWidth, if_neg (by omega), if_pos h]

theorem charWidth_eq_four
    {a : Nat}
    (h : 0xf0 ≤ a ∧ a ≤ 0xf4) :
    charWidth a = 4 := by
  rw [charWidth, if_neg (by omega), if_neg (by omega), if_pos h]

/- The payload of a continuation octet. -/
def low
    (b : UInt8) : Nat :=
  b.toNat % 0x40

/- The characters that lossy decoding finds. -/
def decodeLossyChars :
    Bytes → List Char
| [] => []
| a :: bs =>
    if a.toNat < 0x80 then
      Char.ofNat a.toNat :: decodeLossyChars bs
    else
      match bs with
      | [] => [replacement]
      | b :: cs =>
        if ¬ isSecond a.toNat b.toNat then
          replacement :: decodeLossyChars (b :: cs)
        else if charWidth a.toNat = 2 then
          Char.ofNat (a.toNat % 0x20 * 0x40 + low b) ::
            decodeLossyChars cs
        else
          match cs with
          | [] => [replacement]
          | c :: ds =>
            if ¬ isContinuation c.toNat then
              replacement :: decodeLossyChars (c :: ds)
            else if charWidth a.toNat = 3 then
              Char.ofNat
                  (a.toNat % 0x10 * 0x1000 + low b * 0x40 +
                    low c) ::
                decodeLossyChars ds
            else
              match ds with
              | [] => [replacement]
              | d :: es =>
                if ¬ isContinuation d.toNat then
                  replacement :: decodeLossyChars (d :: es)
                else
                  Char.ofNat
                      (a.toNat % 0x08 * 0x40000 +
                        low b * 0x1000 + low c * 0x40 +
                        low d) ::
                    decodeLossyChars es

/- `String::from_utf8_lossy`. -/
def decodeLossy
    (b : Bytes) : String :=
  String.ofList (decodeLossyChars b)

end Utf8

end UnidppArchive

------------------------------------------------------------
-- Well-Formed Text Is Not Changed
------------------------------------------------------------

namespace UnidppArchive

namespace Utf8

variable {a b c d : UInt8}
variable {bs : Bytes}

theorem decodeLossyChars_one
    (ha : a.toNat < 0x80) :
    decodeLossyChars (a :: bs) =
      Char.ofNat a.toNat :: decodeLossyChars bs := by
  rw [decodeLossyChars.eq_def]
  simp only [if_pos ha]

theorem decodeLossyChars_two
    (hSecond : isSecond a.toNat b.toNat)
    (hWidth : charWidth a.toNat = 2) :
    decodeLossyChars (a :: b :: bs) =
      Char.ofNat (a.toNat % 0x20 * 0x40 + low b) ::
        decodeLossyChars bs := by
  have ha := lead_of_second hSecond
  rw [decodeLossyChars.eq_def]
  simp [if_neg ha, hSecond, hWidth]

theorem decodeLossyChars_three
    (hSecond : isSecond a.toNat b.toNat)
    (hWidth : charWidth a.toNat = 3)
    (hc : isContinuation c.toNat) :
    decodeLossyChars (a :: b :: c :: bs) =
      Char.ofNat
          (a.toNat % 0x10 * 0x1000 + low b * 0x40 + low c) ::
        decodeLossyChars bs := by
  have ha := lead_of_second hSecond
  rw [decodeLossyChars.eq_def]
  simp [if_neg ha, hSecond, hWidth, hc]

theorem decodeLossyChars_four
    (hSecond : isSecond a.toNat b.toNat)
    (hWidth : charWidth a.toNat = 4)
    (hc : isContinuation c.toNat)
    (hd : isContinuation d.toNat) :
    decodeLossyChars (a :: b :: c :: d :: bs) =
      Char.ofNat
          (a.toNat % 0x08 * 0x40000 + low b * 0x1000 +
            low c * 0x40 + low d) ::
        decodeLossyChars bs := by
  have ha := lead_of_second hSecond
  rw [decodeLossyChars.eq_def]
  simp [if_neg ha, hSecond, hWidth, hc, hd]

/- An octet behind the first one, and the bits it carries. -/
theorem isContinuation_ofNat
    (n : Nat) :
    isContinuation (UInt8.ofNat (n % 64 + 128)).toNat := by
  simp only [isContinuation, UInt8.toNat_ofNat']
  omega

theorem low_ofNat
    (n : Nat) :
    low (UInt8.ofNat (n % 64 + 128)) = n % 64 := by
  simp only [low, UInt8.toNat_ofNat']
  omega

/- One character, in each of its four lengths. -/
theorem decodeLossyChars_char
    (c : Char)
    (bs : Bytes) :
    decodeLossyChars (String.utf8EncodeChar c ++ bs) =
      c :: decodeLossyChars bs := by
  have hSelf : Char.ofNat c.val.toNat = c := Char.ofNat_toNat c
  have hScalar :
      c.val.toNat < 0xd800 ∨
        0xdfff < c.val.toNat ∧ c.val.toNat < 0x110000 :=
    c.valid
  unfold String.utf8EncodeChar
  simp only
  generalize c.val.toNat = v at hSelf hScalar ⊢
  split
  · rw [List.singleton_append, decodeLossyChars_one]
    · rw [UInt8.toNat_ofNat', Nat.mod_eq_of_lt (by omega),
        hSelf]
    · rw [UInt8.toNat_ofNat']
      omega
  split
  · have hWidth :
        charWidth (UInt8.ofNat (v / 64 % 32 + 192)).toNat = 2 := by
      apply charWidth_eq_two
      rw [UInt8.toNat_ofNat']
      omega
    rw [List.cons_append, List.singleton_append,
      decodeLossyChars_two _ hWidth]
    · congr 1
      rw [← hSelf]
      congr 1
      simp only [low_ofNat, UInt8.toNat_ofNat']
      omega
    · refine ⟨by rw [hWidth]; decide,
        isContinuation_ofNat _, ?_⟩
      simp only [UInt8.toNat_ofNat']
      omega
  split
  · have hWidth :
        charWidth (UInt8.ofNat (v / 4096 % 16 + 224)).toNat =
          3 := by
      apply charWidth_eq_three
      rw [UInt8.toNat_ofNat']
      omega
    rw [List.cons_append, List.cons_append,
      List.singleton_append,
      decodeLossyChars_three _ hWidth]
    · congr 1
      rw [← hSelf]
      congr 1
      simp only [low_ofNat, UInt8.toNat_ofNat']
      omega
    · exact isContinuation_ofNat _
    · refine ⟨by rw [hWidth]; decide,
        isContinuation_ofNat _, ?_⟩
      simp only [UInt8.toNat_ofNat']
      omega
  · have hWidth :
        charWidth (UInt8.ofNat (v / 262144 % 8 + 240)).toNat =
          4 := by
      apply charWidth_eq_four
      rw [UInt8.toNat_ofNat']
      omega
    rw [List.cons_append, List.cons_append, List.cons_append,
      List.singleton_append, decodeLossyChars_four _ hWidth]
    · congr 1
      rw [← hSelf]
      congr 1
      simp only [low_ofNat, UInt8.toNat_ofNat']
      omega
    · exact isContinuation_ofNat _
    · exact isContinuation_ofNat _
    · refine ⟨by rw [hWidth]; decide,
        isContinuation_ofNat _, ?_⟩
      simp only [UInt8.toNat_ofNat']
      omega

theorem decodeLossyChars_encodeChars
    (cs : List Char) :
    decodeLossyChars (encodeChars cs) = cs := by
  induction cs with
  | nil => rfl
  | cons c cs ih =>
      rw [encodeChars_cons, decodeLossyChars_char, ih]

/- Lossy decoding inverts encoding. -/
@[simp] theorem decodeLossy_encode
    (s : String) :
    decodeLossy (encode s) = s := by
  rw [decodeLossy, encode, decodeLossyChars_encodeChars,
    String.ofList_toList]

end Utf8

end UnidppArchive
