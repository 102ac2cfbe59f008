import UnidppArchive.Hex
import UnidppArchive.Model.Anchoring

/-
  Snapshot records (`model.rs`).

  A record is the journal's storage unit and the only source
  of the served document.

  Key definitions include:
    * `SnapshotRecord`
    * `canonicalCore`
    * `canonicalStatement`
    * `SnapshotRecord.sealWith`
    * `SnapshotRecord.toDocument`
    * `SnapshotRecord.toJournalJson`
    * `SnapshotRecord.fromJournalJson`

  Key theorems include:
    * `SnapshotRecord.Sealed`
    * `SnapshotRecord.fromJournalJson_toJournalJson`
-/

------------------------------------------------------------
-- Records
------------------------------------------------------------

namespace UnidppArchive

open Json

def serviceId : String :=
  "unidpp-archive"

def schema : String :=
  "unidpp-archive/snapshot/1"

def oaisProfile : String :=
  "ISO 14721 (OAIS) simplified for digital product passports"

def adapterNote : String :=
  "SIGNATIF has no archival-notarization domain; tree-head (the operator's signed statement of state, used for transparency-log signed tree heads) is the closest documented adaptation — the same adapter note as unidpp-trust. signatif's HistoricalStamp domain ('a notarized historical verification stamp') is the semantically exact slot; adoption is deferred to the 19-signatif-spec-sync divergence register. The signature covers the canonical statement bytes and is embedded in the document so the AIP is self-verifying."

def verificationNote : String :=
  "Rebuild the canonical statement bytes (discovery document, notarization.statement_recipe) and verify with unidpp_signatif SignatureSlot::verify(SigningDomain::TreeHead, bytes, public) against the /keyring anchor."

/- The domain of every notarization signature. -/
def notarizationDomain : SigningDomain :=
  .treeHead

/- `s-` and the sequence number, padded to 12 digits. -/
def snapshotIdOf
    (seq : UInt64) : String :=
  "s-" ++ Text.padZero 12 seq.toNat

/- One notarized snapshot. -/
structure SnapshotRecord where
  seq : UInt64
  snapshotId : String
  notarizedAt : Timestamp
  passportId : String
  stateHash : Hash
  logHead : Hash
  submitter : Option String
  stateSize : Option UInt64
  anchoring : Anchoring
  signature : Bytes
  keyId : String
  bodyDigest : Hash

variable (C : Crates)

/- Service, id, sequence, passport, state, head, instant. -/
def canonicalCore
    (snapshotId : String)
    (seq : UInt64)
    (passportId : String)
    (stateHash logHead : Hash)
    (notarizedAt : Timestamp) : Bytes :=
  let w := C.model.writeStr [] serviceId
  let w := C.model.writeStr w snapshotId
  let w := C.model.writeU64 w seq
  let w := C.model.writeStr w passportId
  let w := C.model.writeHash w stateHash
  let w := C.model.writeHash w logHead
  C.model.writeI64 w notarizedAt.secs

/- The core followed by the anchoring outcome. -/
def canonicalStatement
    (core : Bytes)
    (anchoring : Anchoring) : Bytes :=
  let w := C.model.writeBytesRaw [] core
  match anchoring.status with
  | .unanchored => C.model.writeU32 w 0
  | .anchored =>
      let w := C.model.writeU32 w 1
      let w := C.model.writeStr w (anchoring.logId.getD "")
      let w := C.model.writeU64 w (anchoring.receiptSeq.getD 0)
      let w := C.model.writeU64 w (anchoring.treeSize.getD 0)
      C.model.writeHash w (anchoring.root.getD Hash.zero)

end UnidppArchive

------------------------------------------------------------
-- Documents and Sealing
------------------------------------------------------------

namespace UnidppArchive

open Json

namespace SnapshotRecord

/- A fresh, unsigned record. -/
def new
    (seq : UInt64)
    (notarizedAt : Timestamp)
    (passportId : String)
    (stateHash logHead : Hash)
    (submitter : Option String)
    (stateSize : Option UInt64) : SnapshotRecord where
  seq := seq
  snapshotId := snapshotIdOf seq
  notarizedAt := notarizedAt
  passportId := passportId
  stateHash := stateHash
  logHead := logHead
  submitter := submitter
  stateSize := stateSize
  anchoring := Anchoring.unanchored "not attempted yet"
  signature := []
  keyId := ""
  bodyDigest := Hash.zero

def setAnchoring
    (r : SnapshotRecord)
    (anchoring : Anchoring) : SnapshotRecord :=
  { r with anchoring := anchoring }

variable (C : Crates)

def coreStatementBytes
    (r : SnapshotRecord) : Bytes :=
  canonicalCore C r.snapshotId r.seq r.passportId r.stateHash
    r.logHead r.notarizedAt

def statementBytes
    (r : SnapshotRecord) : Bytes :=
  canonicalStatement C (r.coreStatementBytes C) r.anchoring

/- The commitment that a transparency log anchors. -/
def commitment
    (r : SnapshotRecord) : Hash :=
  C.model.sha256 (r.coreStatementBytes C)

/- The served document. -/
def toDocument
    (r : SnapshotRecord) : Value :=
  let a := r.anchoring
  let statementDigest := C.model.sha256 (r.statementBytes C)
  object
    [("schema", .string schema),
      ("service", .string serviceId),
      ("snapshot_id", .string r.snapshotId),
      ("seq", u64 r.seq),
      ("as_of", .string r.notarizedAt.toString),
      ("oais", object
        [("profile", .string oaisProfile),
          ("submission", object
            [("submitter", optString r.submitter),
              ("submitted_at",
                .string r.notarizedAt.toString),
              ("passport_id", .string r.passportId),
              ("state_hash",
                .string (C.model.hex r.stateHash)),
              ("log_head", .string (C.model.hex r.logHead)),
              ("state_size", optU64 r.stateSize)]),
          ("information_package", object
            [("passport_id", .string r.passportId),
              ("state_hash",
                .string (C.model.hex r.stateHash)),
              ("log_head", .string (C.model.hex r.logHead)),
              ("as_of", .string r.notarizedAt.toString),
              ("commitment",
                optString (a.commitment.map C.model.hex)),
              ("statement_digest",
                .string (C.model.hex statementDigest))]),
          ("provenance", object
            [("service", .string serviceId),
              ("notarized_at",
                .string r.notarizedAt.toString),
              ("signing", object
                [("suite",
                  .string (C.signatif.suiteName .ed25519)),
                  ("key_id", .string r.keyId),
                  ("domain", .string "tree-head"),
                  ("adapter_note", .string adapterNote)]),
              ("anchoring", a.toDocumentJson C),
              ("receipt", a.receipt.getD .null),
              ("signature", .string (hexEncode r.signature)),
              ("verification", .string verificationNote)])])]

/- The exact served text. -/
def renderBody
    (r : SnapshotRecord) : String :=
  C.serde.toStringPretty (r.toDocument C)

/- Sign the statement and fix the digest of the body. -/
def sealWith
    (r : SnapshotRecord)
    (notary : C.signatif.KeyPair) :
    Except String SnapshotRecord := do
  let slot ←
    (C.signatif.sign notary notarizationDomain
      (r.statementBytes C)).mapError
      (fun e => s!"notarization sign: {e}")
  let r :=
    { r with
      signature := slot.signature.getD []
      keyId := C.signatif.keyId notary }
  let r :=
    { r with
      anchoring := r.anchoring.withCommitment
        (r.commitment C) }
  .ok
    { r with
      bodyDigest :=
        C.model.sha256 (Utf8.encode (r.renderBody C)) }

end SnapshotRecord

end UnidppArchive

------------------------------------------------------------
-- The Journal Form
------------------------------------------------------------

namespace UnidppArchive

open Json

namespace SnapshotRecord

variable (C : Crates)

def toJournalJson
    (r : SnapshotRecord) : Value :=
  object
    [("seq", u64 r.seq),
      ("snapshot_id", .string r.snapshotId),
      ("notarized_at", .string r.notarizedAt.toString),
      ("passport_id", .string r.passportId),
      ("state_hash", .string (C.model.hex r.stateHash)),
      ("log_head", .string (C.model.hex r.logHead)),
      ("submitter", optString r.submitter),
      ("state_size", optU64 r.stateSize),
      ("anchoring", r.anchoring.toJournalJson C),
      ("signature", .string (hexEncode r.signature)),
      ("key_id", .string r.keyId),
      ("body_digest", .string (C.model.hex r.bodyDigest))]

def reqStr
    (obj : Map)
    (k : String) : Except String String :=
  okOr ((obj.get? k).bind Value.asStr?) s!"missing `{k}`"

def reqU64
    (obj : Map)
    (k : String) : Except String UInt64 :=
  okOr ((obj.get? k).bind Value.asU64?)
    s!"missing/invalid `{k}`"

def reqHash
    (obj : Map)
    (k : String) : Except String Hash :=
  okOr (((obj.get? k).bind Value.asStr?).bind C.model.fromHex)
    s!"missing/invalid `{k}` (64-char hex)"

/- Rebuild a record from its journal line. -/
def fromJournalJson
    (v : Value) : Except String SnapshotRecord := do
  let obj ←
    okOr v.asObject? "snapshot record must be an object"
  let anchoringJson ←
    okOr (obj.get? "anchoring") "missing `anchoring`"
  let anchoring ← Anchoring.fromJson C anchoringJson
  let signatureHex ← reqStr obj "signature"
  let signature ←
    (hexDecode signatureHex).mapError
      (fun e => s!"`signature`: {e}")
  let seq ← reqU64 obj "seq"
  let snapshotId ← reqStr obj "snapshot_id"
  let notarizedAtText ← reqStr obj "notarized_at"
  let notarizedAt ←
    (Timestamp.parse notarizedAtText).mapError
      (fun e => s!"`notarized_at`: {e.message}")
  let passportId ← reqStr obj "passport_id"
  let stateHash ← reqHash C obj "state_hash"
  let logHead ← reqHash C obj "log_head"
  let submitter ←
    optMember (readString "submitter") obj "submitter"
  let stateSize ←
    optMember (readU64 "state_size") obj "state_size"
  let keyId ← reqStr obj "key_id"
  let bodyDigest ← reqHash C obj "body_digest"
  .ok ⟨seq, snapshotId, notarizedAt, passportId, stateHash,
    logHead, submitter, stateSize, anchoring, signature,
    keyId, bodyDigest⟩

end SnapshotRecord

end UnidppArchive

------------------------------------------------------------
-- Sealed Records
------------------------------------------------------------

namespace UnidppArchive

open Json

namespace SnapshotRecord

variable {C : Crates}

/-
  What sealing leaves of the record `r₀`: the rest of the
  record is unchanged, the signature is over the statement,
  and the digest is of the body that the record renders.
-/
structure SealedFrom
    (r₀ r : SnapshotRecord)
    (notary : C.signatif.KeyPair) : Prop where
  fields :
    r = { r₀ with
      anchoring := r₀.anchoring.withCommitment
        (r₀.commitment C)
      signature := r.signature
      keyId := C.signatif.keyId notary
      bodyDigest := r.bodyDigest }
  signature :
    ∃ slot,
      C.signatif.sign notary notarizationDomain
        (r₀.statementBytes C) = .ok slot ∧
          r.signature = slot.signature.getD []
  bodyDigest :
    r.bodyDigest =
      C.model.sha256 (Utf8.encode (r.renderBody C))

theorem sealedFrom_of_sealWith
    {r₀ r : SnapshotRecord}
    {notary : C.signatif.KeyPair}
    (h : r₀.sealWith C notary = .ok r) :
    SealedFrom r₀ r notary := by
  unfold sealWith at h
  cases hSign :
      C.signatif.sign notary notarizationDomain
        (r₀.statementBytes C) with
  | error e =>
      rw [hSign] at h
      cases h
  | ok slot =>
      rw [hSign] at h
      cases h
      exact ⟨rfl, ⟨slot, hSign, rfl⟩, rfl⟩

namespace SealedFrom

variable {r₀ r : SnapshotRecord}
variable {notary : C.signatif.KeyPair}

theorem statementBytes
    (h : SealedFrom r₀ r notary) :
    r.statementBytes C = r₀.statementBytes C := by
  rw [h.fields]
  rfl

theorem commitment
    (h : SealedFrom r₀ r notary) :
    r.commitment C = r₀.commitment C := by
  rw [h.fields]
  rfl

theorem anchoring
    (h : SealedFrom r₀ r notary) :
    r.anchoring =
      r₀.anchoring.withCommitment (r₀.commitment C) := by
  rw [h.fields]

end SealedFrom

end SnapshotRecord

end UnidppArchive

------------------------------------------------------------
-- The Journal Round Trip
------------------------------------------------------------

namespace UnidppArchive

open Json

namespace SnapshotRecord

variable {C : Crates}

/- The members of a journaled record. -/
structure Members
    (C : Crates)
    (r : SnapshotRecord)
    (obj : Map) : Prop where
  seq : obj.get? "seq" = some (u64 r.seq)
  snapshotId :
    obj.get? "snapshot_id" = some (.string r.snapshotId)
  notarizedAt :
    obj.get? "notarized_at" =
      some (.string r.notarizedAt.toString)
  passportId :
    obj.get? "passport_id" = some (.string r.passportId)
  stateHash :
    obj.get? "state_hash" =
      some (.string (C.model.hex r.stateHash))
  logHead :
    obj.get? "log_head" =
      some (.string (C.model.hex r.logHead))
  submitter : obj.get? "submitter" = some (optString r.submitter)
  stateSize : obj.get? "state_size" = some (optU64 r.stateSize)
  anchoring :
    obj.get? "anchoring" = some (r.anchoring.toJournalJson C)
  signature :
    obj.get? "signature" =
      some (.string (hexEncode r.signature))
  keyId : obj.get? "key_id" = some (.string r.keyId)
  bodyDigest :
    obj.get? "body_digest" =
      some (.string (C.model.hex r.bodyDigest))

theorem members_toJournalJson
    (C : Crates)
    (r : SnapshotRecord) :
    ∃ obj, r.toJournalJson C = .object obj ∧ r.Members C obj := by
  refine ⟨_, rfl, ?_⟩
  constructor <;> simp

theorem reqStr_of_member
    {obj : Map}
    {k s : String}
    (h : obj.get? k = some (.string s)) :
    reqStr obj k = .ok s := by
  simp [reqStr, h, Value.asStr?]

theorem reqHash_of_member
    (hHex : C.model.HexLaw)
    {obj : Map}
    {k : String}
    {h' : Hash}
    (h : obj.get? k = some (.string (C.model.hex h'))) :
    reqHash C obj k = .ok h' := by
  simp [reqHash, h, Value.asStr?, hHex h']

/-
  A record is read back from its journal form when its
  instant has a four-digit year and its outcome replays.
-/
theorem fromJournalJson_toJournalJson
    (hHex : C.model.HexLaw)
    {r : SnapshotRecord}
    (hInstant : r.notarizedAt.Printable)
    (hOutcome : r.anchoring.Replayable) :
    fromJournalJson C (r.toJournalJson C) = .ok r := by
  rcases members_toJournalJson C r with
    ⟨obj, hObj, hMembers⟩
  have hSeq : reqU64 obj "seq" = .ok r.seq := by
    simp [reqU64, hMembers.seq, u64, Value.asU64?]
  have hNotarizedAt :
      (Timestamp.parse r.notarizedAt.toString).mapError
        (fun e => s!"`notarized_at`: {e.message}") =
          .ok r.notarizedAt := by
    rw [Timestamp.parse_toString hInstant]
    rfl
  have hSubmitter :
      optMember (readString "submitter") obj "submitter" =
        .ok r.submitter :=
    optMember_optString (by simpa using hMembers.submitter)
      (fun _ _ => rfl)
  have hSignature :
      (hexDecode (hexEncode r.signature)).mapError
        (fun e => s!"`signature`: {e}") = .ok r.signature := by
    rw [hexDecode_hexEncode]
    rfl
  rw [hObj]
  simp only [fromJournalJson, Value.asObject?, okOr_some,
    hMembers.anchoring, bind, Except.bind,
    Anchoring.fromJson_toJournalJson hHex hOutcome,
    reqStr_of_member hMembers.signature, hSignature, hSeq,
    reqStr_of_member hMembers.snapshotId,
    reqStr_of_member hMembers.notarizedAt, hNotarizedAt,
    reqStr_of_member hMembers.passportId,
    reqHash_of_member hHex hMembers.stateHash,
    reqHash_of_member hHex hMembers.logHead, hSubmitter,
    optMember_optU64 hMembers.stateSize,
    reqStr_of_member hMembers.keyId,
    reqHash_of_member hHex hMembers.bodyDigest]

/- An instant and a passport are read back as written. -/
theorem named_of_fromJournalJson
    {r r' : SnapshotRecord}
    {obj : Map}
    (h : fromJournalJson C (.object obj) = .ok r')
    (hInstant :
      obj.get? "notarized_at" =
        some (.string r.notarizedAt.toString))
    (hPassport :
      obj.get? "passport_id" = some (.string r.passportId)) :
    r'.notarizedAt = r.notarizedAt ∧
      r'.passportId = r.passportId := by
  simp only [fromJournalJson, bind_eq_ok_iff, Value.asObject?,
    okOr_some, Except.ok.injEq] at h
  rcases h with ⟨obj', rfl, json, -, anchoring, -, hexText, -,
    signature, -, seq, -, id, -, text, hText, instant, hParse,
    passport, hName, state, -, head, -, submitter, -, size, -,
    key, -, digest, -, rfl⟩
  rw [reqStr_of_member hInstant, Except.ok.injEq] at hText
  rw [reqStr_of_member hPassport, Except.ok.injEq] at hName
  rw [← hText] at hParse
  refine ⟨?_, hName.symm⟩
  by_cases hPrintable : r.notarizedAt.Printable
  · rw [Timestamp.parse_toString hPrintable] at hParse
    exact (Except.ok.inj hParse).symm
  · rw [Timestamp.parse_toString_of_not_printable hPrintable]
      at hParse
    cases hParse

/- A journal form that is read back has a printable anchor. -/
theorem printable_of_fromJournalJson
    {r r' : SnapshotRecord}
    (h : fromJournalJson C (r.toJournalJson C) = .ok r')
    {t : Timestamp}
    (ht : r.anchoring.loggedAt = some t) :
    t.Printable := by
  rcases members_toJournalJson C r with
    ⟨obj, hObj, hMembers⟩
  rw [hObj] at h
  simp only [fromJournalJson, bind_eq_ok_iff, Value.asObject?,
    okOr_some, Except.ok.injEq] at h
  rcases h with ⟨obj', rfl, json, hJson, anchoring,
    hAnchoring, -⟩
  rw [hMembers.anchoring, okOr_some] at hJson
  cases hJson
  exact Anchoring.printable_of_fromJson hAnchoring ht

end SnapshotRecord

end UnidppArchive
