import UnidppArchive.Hex.Acceptance
import UnidppArchive.Model.Statement
import UnidppArchive.Reference.Parser
import UnidppArchive.Reference.Digest

/-
  A lawful instance of the crates that the archive calls.

  Hashes are SHA-256 with lower-case hex, and the canonical
  writer is big-endian with eight-octet lengths.  A digest
  keyed with the seed stands for the Ed25519 signature.

  Key definitions include:
    * `Reference.crates`
    * `Reference.notary`

  Key theorems include:
    * `Reference.hexLaw`
    * `Reference.hexExact`
    * `Reference.signLaw`
    * `Reference.writerLaw`
-/

------------------------------------------------------------
-- Hashes and the Writer
------------------------------------------------------------

namespace UnidppArchive

namespace Reference

def hashOf
    (b : Bytes) : Hash :=
  ⟨sha256 b, length_sha256 b⟩

/- Exactly 64 hex digits. -/
def fromHex
    (s : String) : Option Hash :=
  if s.toList.length = 64 then
    match hexDecode s with
    | .ok b => if h : b.length = 32 then some ⟨b, h⟩ else none
    | .error _ => none
  else
    none

/- Two's complement in 64 bits. -/
def bigEndianI64
    (i : Int) : Bytes :=
  bigEndian 8 (i % 2 ^ 64).toNat

/- The functions of `unidpp_model`. -/
def model : UnidppModel where
  sha256 := hashOf
  hex := fun h => hexEncode h.bytes
  fromHex := fromHex
  writeStr := fun w s =>
    w ++ (bigEndian 8 (Text.byteLen s) ++ Utf8.encode s)
  writeU32 := fun w n => w ++ bigEndian 4 n.toNat
  writeU64 := fun w n => w ++ bigEndian 8 n.toNat
  writeI64 := fun w i => w ++ bigEndianI64 i
  writeHash := fun w h => w ++ h.bytes
  writeBytesRaw := fun w b => w ++ b

theorem hexLaw :
    model.HexLaw := by
  intro h
  have hLength : (hexEncode h.bytes).toList.length = 64 := by
    rw [length_hexEncode, h.length_eq]
  simp only [model, fromHex]
  rw [if_pos hLength]
  simp [h.length_eq]

end Reference

end UnidppArchive

------------------------------------------------------------
-- Exactly 64 Hex Digits
------------------------------------------------------------

namespace UnidppArchive

namespace Reference

theorem sublist_trim
    (s : String) :
    ((Text.trim s).toList).Sublist s.toList := by
  rw [Text.trim, String.toList_ofList]
  have hBack :=
    (List.dropWhile_sublist Text.isWhitespace
      (l := (s.toList.dropWhile
        Text.isWhitespace).reverse)).reverse
  rw [List.reverse_reverse] at hBack
  exact hBack.trans (List.dropWhile_sublist _)

theorem sublist_stripHexPrefix
    (cs : List Char) :
    (stripHexPrefix cs).Sublist cs := by
  unfold stripHexPrefix
  split
  · simp
  · simp
  · exact List.Sublist.refl _

theorem sublist_hexBody
    (s : String) :
    ((hexBody s).toList).Sublist s.toList := by
  rw [hexBody, String.toList_ofList]
  exact (sublist_stripHexPrefix _).trans (sublist_trim s)

theorem hexExact :
    model.HexExact := by
  intro s
  constructor
  · rintro ⟨h, hRead⟩
    simp only [model, fromHex] at hRead
    split at hRead
    · rename_i hLength
      split at hRead
      · rename_i b hDecode
        split at hRead
        · rename_i hBytes
          -- nothing is trimmed off a text of full length
          have hBody := length_of_hexDecode hDecode
          have hWhole :=
            (sublist_hexBody s).eq_of_length (by omega)
          have hCodes :=
            ((hexDecode_ok_iff s).mp ⟨b, hDecode⟩).2
          rw [hWhole] at hCodes
          exact ⟨hLength, hCodes⟩
        · cases hRead
      · cases hRead
    · cases hRead
  · intro hText
    have hLength : s.toList.length = 64 := hText.length
    have hBody : hexBody s = s :=
      hexBody_of_hexDigits fun c hc =>
        hexDigit_of_hexCode (hText.digits c hc)
    have hEven : Text.byteLen (hexBody s) % 2 = 0 := by
      rw [hBody, Text.byteLen, Utf8.encode,
        encodeChars_hexCodes hText.digits, List.length_map,
        hLength]
    rcases (hexDecode_ok_iff s).mpr
        ⟨hEven, by rw [hBody]; exact hText.digits⟩ with
      ⟨b, hDecode⟩
    have hOut : b.length = 32 := by
      have hTwice := length_of_hexDecode hDecode
      rw [hBody] at hTwice
      omega
    refine ⟨⟨b, hOut⟩, ?_⟩
    simp only [model, fromHex]
    rw [if_pos hLength, hDecode]
    simp [hOut]

end Reference

end UnidppArchive

------------------------------------------------------------
-- Keys
------------------------------------------------------------

namespace UnidppArchive

namespace Reference

/- The signature of a message under a seed. -/
def tag
    (seed message : Bytes) : Bytes :=
  sha256 (seed ++ message) ++ sha256 (message ++ seed)

theorem tag_ne_nil
    (seed message : Bytes) :
    tag seed message ≠ [] := by
  intro h
  have hLength := congrArg List.length h
  simp [tag, length_sha256] at hLength

def keyIdOf
    (seed : Bytes) : String :=
  "k-" ++ hexEncode ((sha256 seed).take 8)

/- The functions of `unidpp_signatif`. -/
def signatif : Signatif where
  KeyPair := Bytes
  PublicKey := Bytes
  publicKey := fun seed => seed
  suite := fun _ => .ed25519
  keyId := keyIdOf
  suiteName
    | .ed25519 => "ed25519"
    | .sm2 => "sm2"
    | .mlDsa => "ml-dsa"
  sign := fun seed _ message =>
    .ok ⟨.ed25519, keyIdOf seed, some (tag seed message)⟩
  verify := fun slot _ message seed =>
    slot.signature == some (tag seed message)

theorem signLaw :
    signatif.SignLaw where
  signed := by
    intro key domain b slot h
    cases h
    exact ⟨_, rfl⟩
  verified := by
    intro key domain b slot h
    cases h
    simp [signatif]

/- All the crates together. -/
def crates : Crates :=
  ⟨serde, model, signatif⟩

theorem toStringPretty_injective :
    Function.Injective crates.serde.toStringPretty := by
  intro v w h
  have hv :
      crates.serde.fromStr (crates.serde.toStringPretty v) =
        .ok v :=
    invertsPretty_serde v
  have hw :
      crates.serde.fromStr (crates.serde.toStringPretty w) =
        .ok w :=
    invertsPretty_serde w
  rw [h] at hv
  exact Except.ok.inj (hv.symm.trans hw)

/- A notary key. -/
def notary : crates.signatif.KeyPair :=
  Utf8.encode "unidpp-archive/notary|unidpp-archive/dev-1"

end Reference

end UnidppArchive

------------------------------------------------------------
-- The Layout of the Writer
------------------------------------------------------------

namespace UnidppArchive

namespace Reference

theorem bigEndian_injective
    (k : Nat)
    {m n : Nat}
    (hm : m < 256 ^ k)
    (hn : n < 256 ^ k)
    (h : bigEndian k m = bigEndian k n) :
    m = n := by
  induction k generalizing m n with
  | zero =>
      simp at hm hn
      omega
  | succ k ih =>
      simp only [bigEndian] at h
      rw [Nat.pow_succ] at hm hn
      rcases List.append_inj' h rfl with ⟨hHigh, hLow⟩
      have hByte := congrArg UInt8.toNat (List.cons.inj hLow).1
      simp only [UInt8.toNat_ofNat'] at hByte
      have hRest := ih (by omega) (by omega) hHigh
      omega

def encoders : Encoders :=
  ⟨bigEndian 8, fun n => bigEndian 4 n.toNat,
    fun n => bigEndian 8 n.toNat, bigEndianI64⟩

theorem sound_encoders :
    encoders.Sound where
  lenWidth := ⟨8, length_bigEndian 8⟩
  lenInjective := by
    intro m n hm hn h
    unfold isizeMax at hm hn
    exact bigEndian_injective 8 (by omega) (by omega) h
  u32Width := ⟨4, fun n => length_bigEndian 4 n.toNat⟩
  u32Injective := by
    intro m n h
    have hm := m.toNat_lt
    have hn := n.toNat_lt
    exact UInt32.toNat_inj.mp
      (bigEndian_injective 4 (by omega) (by omega) h)
  u64Width := ⟨8, fun n => length_bigEndian 8 n.toNat⟩
  u64Injective := by
    intro m n h
    have hm := m.toNat_lt
    have hn := n.toNat_lt
    exact UInt64.toNat_inj.mp
      (bigEndian_injective 8 (by omega) (by omega) h)
  i64Width := ⟨8, fun i => length_bigEndian 8 _⟩
  i64Injective := by
    intro i j hi hj h
    have hSame := bigEndian_injective 8 (by omega) (by omega) h
    omega

theorem writerLaw :
    model.WriterLaw :=
  ⟨encoders, sound_encoders,
    ⟨fun _ _ => rfl, fun _ _ => rfl, fun _ _ => rfl,
      fun _ _ => rfl, fun _ _ => rfl, fun _ _ => rfl⟩⟩

end Reference

end UnidppArchive
