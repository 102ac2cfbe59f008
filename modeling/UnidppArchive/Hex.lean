import UnidppArchive.Foundations.Text

/-
  The hex codec of `hex.rs`.

  Encoding is lower-case; decoding accepts both cases, white
  space around the text and one `0x` prefix.

  Key definitions include:
    * `hexEncode`
    * `hexDecode`

  Key theorems include:
    * `hexDecode_hexEncode`
-/

------------------------------------------------------------
-- Encoding and Decoding
------------------------------------------------------------

namespace UnidppArchive

/- `{b:02x}`. -/
def hexByte
    (b : UInt8) : List Char :=
  [Nat.digitChar (b.toNat / 16), Nat.digitChar (b.toNat % 16)]

def hexEncode
    (bytes : Bytes) : String :=
  String.ofList (bytes.flatMap hexByte)

def hexNibble
    (b : UInt8) : Except String UInt8 :=
  if 48 ≤ b ∧ b ≤ 57 then
    .ok (b - 48)
  else if 97 ≤ b ∧ b ≤ 102 then
    .ok (b - 97 + 10)
  else if 65 ≤ b ∧ b ≤ 70 then
    .ok (b - 65 + 10)
  else
    .error s!"not a hex digit `{Char.ofNat b.toNat}`"

/- The text after one `0x` or `0X`. -/
def stripHexPrefix :
    List Char → List Char
| '0' :: 'x' :: rest => rest
| '0' :: 'X' :: rest => rest
| cs => cs

/- The loop over pairs of nibbles. -/
def hexPairs :
    Bytes → Except String Bytes
| hi :: lo :: rest => do
    let hi ← hexNibble hi
    let lo ← hexNibble lo
    let out ← hexPairs rest
    .ok ((hi <<< 4 ||| lo) :: out)
| _ => .ok []

def hexDecode
    (s : String) : Except String Bytes :=
  let body := stripHexPrefix (Text.trim s).toList
  let bytes := Utf8.encodeChars body
  if bytes.length % 2 ≠ 0 then
    .error s!"hex string of odd length `{bytes.length}`"
  else
    hexPairs bytes

end UnidppArchive

------------------------------------------------------------
-- The Round Trip
------------------------------------------------------------

namespace UnidppArchive

/- The code of a hex digit of either case. -/
def IsHexCode
    (n : Nat) : Prop :=
  (48 ≤ n ∧ n ≤ 57) ∨ (97 ≤ n ∧ n ≤ 102) ∨
    (65 ≤ n ∧ n ≤ 70)

/- A lower-case hex digit is ASCII text but no `x`. -/
structure HexDigit
    (c : Char) : Prop where
  ascii : c.toNat < 128
  space : Text.isWhitespace c = false
  lower : c ≠ 'x'
  upper : c ≠ 'X'

theorem hexDigit_digitChar
    (n : Fin 16) :
    HexDigit (Nat.digitChar n) := by
  have h :
      ∀ n : Fin 16,
        (Nat.digitChar n).toNat < 128 ∧
          Text.isWhitespace (Nat.digitChar n) = false ∧
          Nat.digitChar n ≠ 'x' ∧ Nat.digitChar n ≠ 'X' := by
    decide
  exact ⟨(h n).1, (h n).2.1, (h n).2.2.1, (h n).2.2.2⟩

theorem hexNibble_digitChar
    (n : Fin 16) :
    hexNibble (UInt8.ofNat (Nat.digitChar n).toNat) =
      .ok (UInt8.ofNat n) := by
  revert n
  decide

theorem joinNibbles
    (b : UInt8) :
    UInt8.ofNat (b.toNat / 16) <<< 4 |||
      UInt8.ofNat (b.toNat % 16) = b := by
  revert b
  apply forall_octet
  decide +kernel

theorem hexDigit_of_mem_hexEncode
    {bytes : Bytes}
    {c : Char}
    (h : c ∈ (hexEncode bytes).toList) :
    HexDigit c := by
  simp only [hexEncode, String.toList_ofList,
    List.mem_flatMap, hexByte, List.mem_cons,
    List.not_mem_nil, or_false] at h
  rcases h with ⟨b, -, rfl | rfl⟩
  · exact hexDigit_digitChar
      ⟨b.toNat / 16, by have := b.toNat_lt; omega⟩
  · exact hexDigit_digitChar ⟨b.toNat % 16, by omega⟩

theorem stripHexPrefix_hexDigits
    {cs : List Char}
    (h : ∀ c ∈ cs, HexDigit c) :
    stripHexPrefix cs = cs := by
  unfold stripHexPrefix
  split
  · exact ((h 'x' (by simp)).lower rfl).elim
  · exact ((h 'X' (by simp)).upper rfl).elim
  · rfl

theorem hexPairs_encode
    (bytes : Bytes) :
    hexPairs
      ((bytes.flatMap hexByte).map
        (fun c => UInt8.ofNat c.toNat)) = .ok bytes := by
  induction bytes with
  | nil => rfl
  | cons b bytes ih =>
      have hHigh :=
        hexNibble_digitChar
          ⟨b.toNat / 16, by have := b.toNat_lt; omega⟩
      have hLow :=
        hexNibble_digitChar ⟨b.toNat % 16, by omega⟩
      simp only at hHigh hLow
      simp only [List.flatMap_cons, hexByte, List.cons_append,
        List.nil_append, List.map_cons, hexPairs, hHigh, hLow,
        ih, bind, Except.bind, joinNibbles]

theorem length_hexEncode
    (b : Bytes) :
    (hexEncode b).toList.length = 2 * b.length := by
  simp only [hexEncode, String.toList_ofList]
  induction b with
  | nil => rfl
  | cons x b ih =>
      simp [hexByte] at ih ⊢
      omega

/- Encoded bytes are decoded. -/
@[simp] theorem hexDecode_hexEncode
    (bytes : Bytes) :
    hexDecode (hexEncode bytes) = .ok bytes := by
  have hDigits :
      ∀ c ∈ (hexEncode bytes).toList, HexDigit c :=
    fun c hc => hexDigit_of_mem_hexEncode hc
  have hTrim : Text.trim (hexEncode bytes) = hexEncode bytes :=
    Text.trim_eq_self fun c hc => (hDigits c hc).space
  have hText :
      Utf8.encodeChars (hexEncode bytes).toList =
        (bytes.flatMap hexByte).map
          (fun c => UInt8.ofNat c.toNat) := by
    have hAscii :=
      Utf8.encode_ascii fun c hc => (hDigits c hc).ascii
    simpa [Utf8.encode, hexEncode] using hAscii
  have hEven :
      ((bytes.flatMap hexByte).map
        (fun c => UInt8.ofNat c.toNat)).length % 2 = 0 := by
    have hLength := length_hexEncode bytes
    rw [hexEncode, String.toList_ofList] at hLength
    rw [List.length_map, hLength]
    omega
  unfold hexDecode
  simp only [hTrim, stripHexPrefix_hexDigits hDigits, hText,
    hexPairs_encode]
  rw [if_neg (by omega)]

theorem hexEncode_injective :
    Function.Injective hexEncode := by
  intro b b' h
  have hRead := congrArg hexDecode h
  simpa using hRead

end UnidppArchive
