import UnidppArchive.Foundations.Checked
import UnidppArchive.Hex

/-
  What the hex decoder accepts (`hex.rs`).

  A text is decoded exactly when it consists of hex digits,
  two for every octet, after white space around it and one
  `0x` are dropped; its octets are encoded as that text in
  lower case.  The loop of the source reads two positions a
  round; here both are checked, and no check ever fails.

  Key definitions include:
    * `hexBody`
    * `hexDecodeIndexed`

  Key theorems include:
    * `hexDecode_ok_iff`
    * `hexEncode_of_hexDecode`
    * `hexDecodeIndexed_eq`
-/

------------------------------------------------------------
-- Hex Digits
------------------------------------------------------------

namespace UnidppArchive

theorem hexNibble_ok_iff
    (b : UInt8) :
    (∃ n, hexNibble b = .ok n) ↔ IsHexCode b.toNat := by
  simp only [hexNibble, IsHexCode, UInt8.le_iff_toNat_le,
    UInt8.reduceToNat]
  by_cases hDigit : 48 ≤ b.toNat ∧ b.toNat ≤ 57
  · simp [hDigit]
  · by_cases hLower : 97 ≤ b.toNat ∧ b.toNat ≤ 102
    · simp [hDigit, hLower]
    · by_cases hUpper : 65 ≤ b.toNat ∧ b.toNat ≤ 70
      · simp [hDigit, hLower, hUpper]
      · simp [hDigit, hLower, hUpper]

/- An even number of octets decodes exactly as hex digits. -/
theorem hexPairs_ok_iff :
    (b : Bytes) → b.length % 2 = 0 →
      ((∃ out, hexPairs b = .ok out) ↔
        ∀ x ∈ b, IsHexCode x.toNat)
| [], _ => by simp [hexPairs]
| [x], h => by simp at h
| hi :: lo :: rest, h => by
    have hEven : rest.length % 2 = 0 := by
      simp at h
      omega
    have ih := hexPairs_ok_iff rest hEven
    rw [List.forall_mem_cons, List.forall_mem_cons, ← ih,
      ← hexNibble_ok_iff, ← hexNibble_ok_iff]
    simp only [hexPairs, bind_eq_ok_iff, Except.ok.injEq]
    constructor
    · rintro ⟨out, m, hHigh, n, hLow, tail, hTail, -⟩
      exact ⟨⟨m, hHigh⟩, ⟨n, hLow⟩, ⟨tail, hTail⟩⟩
    · rintro ⟨⟨m, hHigh⟩, ⟨n, hLow⟩, ⟨tail, hTail⟩⟩
      exact ⟨_, m, hHigh, n, hLow, tail, hTail, rfl⟩

/- Characters whose octets are hex digits are hex digits. -/
theorem hexCode_of_encodeChars
    {cs : List Char}
    (h : ∀ x ∈ Utf8.encodeChars cs, IsHexCode x.toNat) :
    ∀ c ∈ cs, IsHexCode c.toNat := by
  intro c hc
  cases hBytes : String.utf8EncodeChar c with
  | nil =>
      have hLength := String.length_utf8EncodeChar c
      have hPos := Char.utf8Size_pos c
      rw [hBytes] at hLength
      simp only [List.length_nil] at hLength
      omega
  | cons x rest =>
      have hMem : x ∈ String.utf8EncodeChar c := by
        simp [hBytes]
      have hCode : IsHexCode x.toNat :=
        h x (List.mem_flatMap.mpr ⟨c, hc, hMem⟩)
      have hAscii : x.toNat < 128 := by
        unfold IsHexCode at hCode
        omega
      rw [Utf8.toNat_of_ascii_mem hAscii hMem]
      exact hCode

/- Hex digits are their own octets. -/
theorem encodeChars_hexCodes
    {cs : List Char}
    (h : ∀ c ∈ cs, IsHexCode c.toNat) :
    Utf8.encodeChars cs =
      cs.map (fun c => UInt8.ofNat c.toNat) := by
  have hAscii :
      ∀ c ∈ (String.ofList cs).toList, c.toNat < 128 := by
    intro c hc
    have hCode := h c (by simpa using hc)
    unfold IsHexCode at hCode
    omega
  simpa [Utf8.encode] using Utf8.encode_ascii hAscii

theorem hexDigit_of_hexCode
    {c : Char}
    (h : IsHexCode c.toNat) :
    HexDigit c := by
  have hLower : 'x'.toNat = 120 := rfl
  have hUpper : 'X'.toNat = 88 := rfl
  unfold IsHexCode at h
  refine ⟨by omega, ?_, ?_, ?_⟩
  · simp only [Text.isWhitespace, Bool.or_eq_false_iff,
      Bool.and_eq_false_iff, decide_eq_false_iff_not,
      beq_eq_false_iff_ne]
    omega
  · rintro rfl
    omega
  · rintro rfl
    omega

end UnidppArchive

------------------------------------------------------------
-- Accepted Texts
------------------------------------------------------------

namespace UnidppArchive

/- Hex text is hex octets. -/
theorem hexCode_encodeChars_iff
    {cs : List Char} :
    (∀ x ∈ Utf8.encodeChars cs, IsHexCode x.toNat) ↔
      ∀ c ∈ cs, IsHexCode c.toNat := by
  constructor
  · exact hexCode_of_encodeChars
  · intro h
    rw [encodeChars_hexCodes h]
    intro x hx
    rcases List.mem_map.mp hx with ⟨c, hc, rfl⟩
    have hCode := h c hc
    rw [UInt8.toNat_ofNat', Nat.mod_eq_of_lt]
    · exact hCode
    · unfold IsHexCode at hCode
      omega

/- The trimmed text without one `0x` or `0X`. -/
def hexBody
    (s : String) : String :=
  String.ofList (stripHexPrefix (Text.trim s).toList)

theorem hexBody_of_hexDigits
    {s : String}
    (h : ∀ c ∈ s.toList, HexDigit c) :
    hexBody s = s := by
  rw [hexBody, Text.trim_eq_self fun c hc => (h c hc).space,
    stripHexPrefix_hexDigits h, String.ofList_toList]

/- No encoding is mistaken for one with a prefix. -/
theorem hexBody_hexEncode
    (b : Bytes) :
    hexBody (hexEncode b) = hexEncode b :=
  hexBody_of_hexDigits fun _ hc => hexDigit_of_mem_hexEncode hc

theorem hexDecode_eq
    (s : String) :
    hexDecode s =
      if Text.byteLen (hexBody s) % 2 ≠ 0 then
        .error
          s!"hex string of odd length `{Text.byteLen (hexBody s)}`"
      else
        hexPairs (Utf8.encode (hexBody s)) := by
  simp only [hexDecode, hexBody, Text.byteLen, Utf8.encode,
    String.toList_ofList]

theorem hexDecode_ok_iff
    (s : String) :
    (∃ b, hexDecode s = .ok b) ↔
      Text.byteLen (hexBody s) % 2 = 0 ∧
        ∀ c ∈ (hexBody s).toList, IsHexCode c.toNat := by
  rw [hexDecode_eq, ← hexCode_encodeChars_iff]
  by_cases hEven : Text.byteLen (hexBody s) % 2 = 0
  · rw [if_neg (not_not.mpr hEven), hexPairs_ok_iff _ hEven]
    exact (and_iff_right hEven).symm
  · simp [hEven]

/- A digit is read as the value that its lower case prints. -/
theorem digitChar_of_hexNibble
    {c : Char}
    {n : UInt8}
    (hCode : IsHexCode c.toNat)
    (h : hexNibble (UInt8.ofNat c.toNat) = .ok n) :
    n.toNat < 16 ∧ Nat.digitChar n.toNat = c.toLower := by
  have hAll :
      ∀ k : Fin 128,
        ∀ n ∈ (hexNibble (UInt8.ofNat k)).toOption,
          n.toNat < 16 ∧
            Nat.digitChar n.toNat = (Char.ofNat k).toLower := by
    decide +kernel
  have hAscii : c.toNat < 128 := by
    unfold IsHexCode at hCode
    omega
  have hDigit := hAll ⟨c.toNat, hAscii⟩ n (by rw [h]; rfl)
  rw [Char.ofNat_toNat] at hDigit
  exact hDigit

theorem hexByte_of_nibbles
    {hi lo : UInt8}
    (hHigh : hi.toNat < 16)
    (hLow : lo.toNat < 16) :
    hexByte (hi <<< 4 ||| lo) =
      [Nat.digitChar hi.toNat, Nat.digitChar lo.toNat] := by
  have hAll :
      ∀ h l : Fin 16,
        hexByte (UInt8.ofNat h <<< 4 ||| UInt8.ofNat l) =
          [Nat.digitChar h, Nat.digitChar l] := by
    decide +kernel
  have hPair := hAll ⟨hi.toNat, hHigh⟩ ⟨lo.toNat, hLow⟩
  simpa using hPair

/- Decoded digits are encoded in lower case. -/
theorem flatMap_hexByte_of_hexPairs :
    (cs : List Char) → {b : Bytes} →
      cs.length % 2 = 0 →
      (∀ c ∈ cs, IsHexCode c.toNat) →
      hexPairs (cs.map fun c => UInt8.ofNat c.toNat) = .ok b →
      b.flatMap hexByte = cs.map Char.toLower
| [], b, _, _, h => by
    cases h
    rfl
| [c], b, hEven, _, _ => by simp at hEven
| c₁ :: c₂ :: cs, b, hEven, hCodes, h => by
    have hRest : cs.length % 2 = 0 := by
      simp at hEven
      omega
    have hTail : ∀ c ∈ cs, IsHexCode c.toNat :=
      fun c hc => hCodes c (by simp [hc])
    simp only [List.map_cons, hexPairs, bind_eq_ok_iff,
      Except.ok.injEq] at h
    rcases h with ⟨hi, hHigh, lo, hLow, out, hOut, rfl⟩
    have hFirst :=
      digitChar_of_hexNibble (hCodes c₁ (by simp)) hHigh
    have hSecond :=
      digitChar_of_hexNibble (hCodes c₂ (by simp)) hLow
    have ih := flatMap_hexByte_of_hexPairs cs hRest hTail hOut
    rw [List.flatMap_cons, ih,
      hexByte_of_nibbles hFirst.1 hSecond.1, hFirst.2,
      hSecond.2]
    rfl

/- The encoded octets are the text in lower case. -/
theorem hexEncode_of_hexDecode
    {s : String}
    {b : Bytes}
    (h : hexDecode s = .ok b) :
    hexEncode b = Text.toAsciiLowercase (hexBody s) := by
  rcases (hexDecode_ok_iff s).mp ⟨b, h⟩ with ⟨hEven, hCodes⟩
  have hBytes := encodeChars_hexCodes hCodes
  have hLength : (hexBody s).toList.length % 2 = 0 := by
    rw [Text.byteLen, Utf8.encode, hBytes,
      List.length_map] at hEven
    exact hEven
  rw [hexDecode_eq, if_neg (not_not.mpr hEven), Utf8.encode,
    hBytes] at h
  rw [hexEncode, Text.toAsciiLowercase,
    flatMap_hexByte_of_hexPairs _ hLength hCodes h]

theorem length_of_hexDecode
    {s : String}
    {b : Bytes}
    (h : hexDecode s = .ok b) :
    (hexBody s).toList.length = 2 * b.length := by
  rw [← length_hexEncode, hexEncode_of_hexDecode h]
  simp [Text.toAsciiLowercase]

end UnidppArchive

------------------------------------------------------------
-- The Loop With Its Indices
------------------------------------------------------------

namespace UnidppArchive

open Checked

/- `while i < bytes.len()`, two positions a round. -/
def hexLoopIndexed
    (bytes : Bytes)
    (i : Nat)
    (out : Bytes) : Checked String Bytes :=
  if i < bytes.length then do
    let c ← index bytes i
    let hi ← ofExcept (hexNibble c)
    let c ← index bytes (i + 1)
    let lo ← ofExcept (hexNibble c)
    hexLoopIndexed bytes (i + 2) (out ++ [hi <<< 4 ||| lo])
  else
    .ok out
termination_by bytes.length - i

def hexDecodeIndexed
    (s : String) : Checked String Bytes :=
  let body := hexBody s
  if Text.byteLen body % 2 ≠ 0 then
    .error (.refused
      s!"hex string of odd length `{Text.byteLen body}`")
  else
    hexLoopIndexed (Utf8.encode body) 0 []

/- The loop does with the octets left what the pairs do. -/
theorem hexLoopIndexed_eq
    {bytes : Bytes}
    (hEven : bytes.length % 2 = 0)
    {i : Nat}
    (hi : i % 2 = 0)
    (out : Bytes) :
    hexLoopIndexed bytes i out =
      ofExcept ((hexPairs (bytes.drop i)).map (out ++ ·)) := by
  fun_induction hexLoopIndexed bytes i out with
  | case1 i out hInside ih =>
      have hBoth : i + 1 < bytes.length := by omega
      have hDrop :
          bytes.drop i =
            bytes[i] :: bytes[i + 1] :: bytes.drop (i + 2) := by
        rw [List.drop_eq_getElem_cons hInside,
          List.drop_eq_getElem_cons hBoth]
      have hFirst :
          (index bytes i : Checked String UInt8) =
            .ok bytes[i] := by
        simp [index, hInside]
      have hSecond :
          (index bytes (i + 1) : Checked String UInt8) =
            .ok bytes[i + 1] := by
        simp [index, hBoth]
      rw [hFirst, hSecond, hDrop, hexPairs]
      simp only [ok_bind]
      cases hexNibble bytes[i] with
      | error e => rfl
      | ok hi =>
          cases hexNibble bytes[i + 1] with
          | error e => rfl
          | ok lo =>
              simp only [ofExcept_ok, ok_bind]
              rw [ih hi lo (by omega)]
              cases hexPairs (bytes.drop (i + 2)) with
              | error e => rfl
              | ok rest =>
                  simp [Except.map, ok_bind]
  | case2 i out hEnd =>
      rw [List.drop_eq_nil_of_le (by omega)]
      simp [hexPairs, Except.map]

/- With all its checks the decoder is the decoder without. -/
theorem hexDecodeIndexed_eq
    (s : String) :
    hexDecodeIndexed s = ofExcept (hexDecode s) := by
  rw [hexDecode_eq, hexDecodeIndexed]
  by_cases hEven : Text.byteLen (hexBody s) % 2 = 0
  · rw [if_neg (not_not.mpr hEven),
      if_neg (not_not.mpr hEven),
      hexLoopIndexed_eq hEven rfl, List.drop_zero]
    cases hexPairs (Utf8.encode (hexBody s)) with
    | error e => rfl
    | ok b => simp [Except.map]
  · rw [if_pos hEven, if_pos hEven, ofExcept_error]

/-
  Decoding inverts encoding, accepts hex digits only and
  indexes no octet that is not there.
-/
theorem hex_codec_is_exact :
    (∀ b, hexBody (hexEncode b) = hexEncode b ∧
      hexDecode (hexEncode b) = .ok b) ∧
    (∀ s, (∃ b, hexDecode s = .ok b) ↔
      Text.byteLen (hexBody s) % 2 = 0 ∧
        ∀ c ∈ (hexBody s).toList, IsHexCode c.toNat) ∧
    (∀ s b, hexDecode s = .ok b →
      hexEncode b = Text.toAsciiLowercase (hexBody s)) ∧
    ∀ s,
      hexDecodeIndexed s ≠ .error .panicked ∧
        ∀ b, hexDecodeIndexed s = .ok b ↔
          hexDecode s = .ok b := by
  refine ⟨fun b => ⟨hexBody_hexEncode b, hexDecode_hexEncode b⟩,
    hexDecode_ok_iff,
    fun s b h => hexEncode_of_hexDecode h, ?_⟩
  intro s
  rw [hexDecodeIndexed_eq]
  exact ⟨ofExcept_ne_panicked _, fun b => ofExcept_eq_ok_iff⟩

end UnidppArchive
