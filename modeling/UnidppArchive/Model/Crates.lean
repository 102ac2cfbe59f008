import UnidppArchive.Hex
import UnidppArchive.Json.Serde
import UnidppArchive.Time.Timestamp

/-
  The crates that the archive calls and whose code is not
  part of it.

  `unidpp_model` supplies hashes and the canonical writer,
  `unidpp_signatif` keys and signatures.  Their functions
  are parameters; the structures of laws state what their
  documentation promises.

  Key definitions include:
    * `Hash`
    * `UnidppModel`
    * `Signatif`
    * `Crates`
    * `UnidppModel.HexLaw`
    * `UnidppModel.HexExact`
    * `Signatif.SignLaw`
-/

------------------------------------------------------------
-- Hashes and Canonical Bytes
------------------------------------------------------------

namespace UnidppArchive

/- A SHA-256 value. -/
structure Hash where
  bytes : Bytes
  length_eq : bytes.length = 32
  deriving DecidableEq

/- `Hash([0u8; 32])`. -/
def Hash.zero : Hash :=
  ⟨List.replicate 32 0, by decide⟩

/-
  Functions of `unidpp_model`.  A canonical writer is the
  octets written so far.
-/
structure UnidppModel where
  sha256 : Bytes → Hash
  hex : Hash → String
  fromHex : String → Option Hash
  writeStr : Bytes → String → Bytes
  writeU32 : Bytes → UInt32 → Bytes
  writeU64 : Bytes → UInt64 → Bytes
  writeI64 : Bytes → Int → Bytes
  writeHash : Bytes → Hash → Bytes
  writeBytesRaw : Bytes → Bytes → Bytes

/- 64 hex digits. -/
structure HashText
    (s : String) : Prop where
  length : Text.charLen s = 64
  digits : ∀ c ∈ s.toList, IsHexCode c.toNat

/- `Hash::from_hex` accepts exactly 64-character hex. -/
def UnidppModel.HexExact
    (M : UnidppModel) : Prop :=
  ∀ s, (∃ h, M.fromHex s = some h) ↔ HashText s

/- `Hash::from_hex` inverts `Hash::hex`. -/
def UnidppModel.HexLaw
    (M : UnidppModel) : Prop :=
  ∀ h, M.fromHex (M.hex h) = some h

end UnidppArchive

------------------------------------------------------------
-- Keys and Signatures
------------------------------------------------------------

namespace UnidppArchive

/- Signature suites. -/
inductive Suite where
  | ed25519
  | sm2
  | mlDsa
  deriving DecidableEq

/- Signing domains. -/
inductive SigningDomain where
  | treeHead
  | historicalStamp
  deriving DecidableEq

/- A signature with its suite and the text of its key id. -/
structure SignatureSlot where
  suite : Suite
  keyId : String
  signature : Option Bytes
  deriving DecidableEq

/- Functions of `unidpp_signatif`. -/
structure Signatif where
  KeyPair : Type
  PublicKey : Type
  publicKey : KeyPair → PublicKey
  suite : KeyPair → Suite
  keyId : KeyPair → String
  suiteName : Suite → String
  sign :
    KeyPair → SigningDomain → Bytes →
      Except String SignatureSlot
  verify :
    SignatureSlot → SigningDomain → Bytes → PublicKey → Bool

/- Signing fills the slot, and verifying accepts it. -/
structure Signatif.SignLaw
    (S : Signatif) : Prop where
  signed :
    ∀ {key domain b slot},
      S.sign key domain b = .ok slot →
        ∃ sig, slot = ⟨S.suite key, S.keyId key, some sig⟩
  verified :
    ∀ {key domain b slot},
      S.sign key domain b = .ok slot →
        S.verify slot domain b (S.publicKey key) = true

/- Everything the archive calls. -/
structure Crates where
  serde : Json.SerdeJson
  model : UnidppModel
  signatif : Signatif

end UnidppArchive
