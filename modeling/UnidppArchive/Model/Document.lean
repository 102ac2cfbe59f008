import UnidppArchive.Model.Record

/-
  The verifier's rebuild of canonical bytes from a document
  (`model.rs`).

  Key definitions include:
    * `docField`
    * `coreBytesFromDocument`
    * `statementBytesFromDocument`
    * `slotFromDocument`

  Key theorems include:
    * `coreBytesFromDocument_of_fields`
    * `statementBytesFromDocument_of_fields`
    * `slotFromDocument_of_fields`
-/

------------------------------------------------------------
-- Rebuilding Canonical Bytes
------------------------------------------------------------

namespace UnidppArchive

open Json

/- Follow the rest of a path; `path` is the whole of it. -/
def followPath
    (path : List String) :
    List String → Value → Except String Value
| [], v => .ok v
| key :: keys, v => do
    let text := String.intercalate "." path
    let w ←
      okOr (v.get? key) s!"document missing `{text}`"
    followPath path keys w

def docField
    (doc : Value)
    (path : List String) : Except String Value :=
  followPath path path doc

/- A text of `oais.information_package`. -/
def informationPackage
    (doc : Value)
    (k : String) : Except String String := do
  let v ← docField doc ["oais", "information_package", k]
  okOr v.asStr?
    s!"`oais.information_package.{k}` must be a string"

variable (C : Crates)

def coreBytesFromDocument
    (doc : Value) : Except String Bytes := do
  let service ← docField doc ["service"]
  if service.asStr? ≠ some serviceId then
    .error s!"document `service` must be `{serviceId}`"
  else do
    let snapshotIdJson ← docField doc ["snapshot_id"]
    let snapshotId ←
      okOr snapshotIdJson.asStr? "`snapshot_id` must be a string"
    let seqJson ← docField doc ["seq"]
    let seq ←
      okOr seqJson.asU64? "`seq` must be an unsigned integer"
    let stateHashHex ← informationPackage doc "state_hash"
    let stateHash ←
      okOr (C.model.fromHex stateHashHex)
        "`oais.information_package.state_hash` must be 64-char hex"
    let logHeadHex ← informationPackage doc "log_head"
    let logHead ←
      okOr (C.model.fromHex logHeadHex)
        "`oais.information_package.log_head` must be 64-char hex"
    let asOfText ← informationPackage doc "as_of"
    let asOf ←
      (Timestamp.parse asOfText).mapError
        (fun e => s!"`as_of`: {e.message}")
    let passportId ← informationPackage doc "passport_id"
    .ok (canonicalCore C snapshotId seq passportId stateHash
      logHead asOf)

/- The anchoring that an `anchored` document claims. -/
def anchoringFromDocument
    (anchoring : Value) : Except String Anchoring := do
  let logId ←
    okOr ((anchoring.get? "log_id").bind Value.asStr?)
      "`anchoring.log_id` missing"
  let receiptSeq ←
    okOr (((anchoring.get? "receipt_id").bind
      Value.asStr?).bind Text.parseU64)
      "`anchoring.receipt_id` must be a numeric string"
  let treeSize ←
    okOr ((anchoring.get? "tree_size").bind Value.asU64?)
      "`anchoring.tree_size` missing"
  let root ←
    okOr (((anchoring.get? "root").bind Value.asStr?).bind
      C.model.fromHex) "`anchoring.root` must be 64-char hex"
  .ok
    { status := .anchored
      reason := none
      logId := some logId
      receiptSeq := some receiptSeq
      treeSize := some treeSize
      root := some root
      loggedAt := none
      commitment := none
      receipt := none }

def statementBytesFromDocument
    (doc : Value) : Except String Bytes := do
  let core ← coreBytesFromDocument C doc
  let anchoring ←
    docField doc ["oais", "provenance", "anchoring"]
  let status ←
    okOr ((anchoring.get? "status").bind Value.asStr?)
      "`oais.provenance.anchoring.status` missing"
  match status with
  | "unanchored" =>
      .ok (canonicalStatement C core
        Anchoring.unanchoredDefault)
  | "anchored" => do
      let a ← anchoringFromDocument C anchoring
      .ok (canonicalStatement C core a)
  | other =>
      .error
        s!"`anchoring.status` must be `anchored`/`unanchored`, got `{other}`"

/- The slot that the verification recipe puts together. -/
def slotFromDocument
    (doc : Value) : Except String SignatureSlot := do
  let keyIdJson ←
    docField doc ["oais", "provenance", "signing", "key_id"]
  let keyId ← okOr keyIdJson.asStr? "key id"
  let signatureJson ←
    docField doc ["oais", "provenance", "signature"]
  let signatureHex ← okOr signatureJson.asStr? "signature"
  let signature ← hexDecode signatureHex
  .ok ⟨.ed25519, keyId, some signature⟩

end UnidppArchive

------------------------------------------------------------
-- Rebuilding From a Served Document
------------------------------------------------------------

namespace UnidppArchive

open Json

variable {C : Crates}

/- The fields that the verifier reads from a document. -/
structure DocumentFields
    (C : Crates)
    (r : SnapshotRecord)
    (doc : Value) : Prop where
  service :
    docField doc ["service"] = .ok (.string serviceId)
  snapshotId :
    docField doc ["snapshot_id"] = .ok (.string r.snapshotId)
  seq : docField doc ["seq"] = .ok (u64 r.seq)
  stateHash :
    informationPackage doc "state_hash" =
      .ok (C.model.hex r.stateHash)
  logHead :
    informationPackage doc "log_head" =
      .ok (C.model.hex r.logHead)
  asOf :
    informationPackage doc "as_of" = .ok r.notarizedAt.toString
  passportId :
    informationPackage doc "passport_id" = .ok r.passportId
  commitment :
    docField doc
        ["oais", "information_package", "commitment"] =
      .ok (optString (r.anchoring.commitment.map C.model.hex))
  statementDigest :
    informationPackage doc "statement_digest" =
      .ok (C.model.hex (C.model.sha256 (r.statementBytes C)))
  anchoring :
    docField doc ["oais", "provenance", "anchoring"] =
      .ok (r.anchoring.toDocumentJson C)
  signature :
    docField doc ["oais", "provenance", "signature"] =
      .ok (.string (hexEncode r.signature))
  keyId :
    docField doc ["oais", "provenance", "signing", "key_id"] =
      .ok (.string r.keyId)

theorem documentFields_toDocument
    (C : Crates)
    (r : SnapshotRecord) :
    DocumentFields C r (r.toDocument C) := by
  constructor <;>
    simp [SnapshotRecord.toDocument, docField, followPath,
      informationPackage, Value.asStr?, bind, Except.bind]

end UnidppArchive

------------------------------------------------------------
-- The Rebuilt Bytes
------------------------------------------------------------

namespace UnidppArchive

open Json

variable {C : Crates}
variable {r : SnapshotRecord}
variable {doc : Value}

/- The core statement is rebuilt from the document alone. -/
theorem coreBytesFromDocument_of_fields
    (hHex : C.model.HexLaw)
    (hInstant : r.notarizedAt.Printable)
    (h : DocumentFields C r doc) :
    coreBytesFromDocument C doc =
      .ok (r.coreStatementBytes C) := by
  have hAsOf :
      (Timestamp.parse r.notarizedAt.toString).mapError
        (fun e => s!"`as_of`: {e.message}") =
          .ok r.notarizedAt := by
    rw [Timestamp.parse_toString hInstant]
    rfl
  simp only [coreBytesFromDocument, h.service, h.snapshotId,
    h.seq, h.stateHash, h.logHead, h.asOf, h.passportId,
    hAsOf, hHex r.stateHash, hHex r.logHead, Value.asStr?,
    Value.asU64?, u64, okOr_some, bind, Except.bind]
  rfl

/- The claimed outcome has the fields of the recorded one. -/
theorem anchoringFromDocument_toDocumentJson
    (hHex : C.model.HexLaw)
    {a : Anchoring}
    (hComplete : a.complete = true) :
    ∃ b,
      anchoringFromDocument C (a.toDocumentJson C) = .ok b ∧
        b.status = .anchored ∧ b.logId = a.logId ∧
        b.receiptSeq = a.receiptSeq ∧
        b.treeSize = a.treeSize ∧ b.root = a.root := by
  simp only [Anchoring.complete, Bool.and_eq_true,
    Option.isSome_iff_exists] at hComplete
  rcases hComplete with
    ⟨⟨⟨⟨⟨⟨⟨logId, hLogId⟩, seq, hSeq⟩, size, hSize⟩, root,
      hRoot⟩, -⟩, -⟩, -⟩
  refine ⟨⟨.anchored, none, some logId, some seq, some size,
    some root, none, none, none⟩, ?_, rfl, hLogId.symm,
    hSeq.symm, hSize.symm, hRoot.symm⟩
  simp [anchoringFromDocument, Anchoring.toDocumentJson,
    Anchoring.summaryJson, hLogId, hSeq, hSize, hRoot,
    optString, optU64, u64, Value.asStr?, Value.asU64?,
    hHex root, bind, Except.bind]

/- The statement depends on these fields of an outcome only. -/
theorem canonicalStatement_congr
    {a b : Anchoring}
    (hStatus : b.status = a.status)
    (hLogId : b.logId = a.logId)
    (hSeq : b.receiptSeq = a.receiptSeq)
    (hSize : b.treeSize = a.treeSize)
    (hRoot : b.root = a.root)
    (core : Bytes) :
    canonicalStatement C core b = canonicalStatement C core a := by
  simp only [canonicalStatement, hStatus, hLogId, hSeq, hSize,
    hRoot]

/- The full statement is rebuilt from the document alone. -/
theorem statementBytesFromDocument_of_fields
    (hHex : C.model.HexLaw)
    (hInstant : r.notarizedAt.Printable)
    (hComplete :
      r.anchoring.status = .anchored →
        r.anchoring.complete = true)
    (h : DocumentFields C r doc) :
    statementBytesFromDocument C doc =
      .ok (r.statementBytes C) := by
  have hCore := coreBytesFromDocument_of_fields hHex hInstant h
  have hStatus :
      ((r.anchoring.toDocumentJson C).get? "status").bind
        Value.asStr? = some r.anchoring.status.asStr := by
    simp [Anchoring.toDocumentJson, Anchoring.summaryJson,
      Value.asStr?]
  simp only [statementBytesFromDocument, hCore, h.anchoring,
    hStatus, okOr_some, bind, Except.bind]
  cases hAnchored : r.anchoring.status with
  | unanchored =>
      simp only [AnchoringStatus.asStr]
      simp [SnapshotRecord.statementBytes, canonicalStatement,
        hAnchored, Anchoring.unanchoredDefault,
        Anchoring.unanchored]
  | anchored =>
      simp only [AnchoringStatus.asStr]
      rcases anchoringFromDocument_toDocumentJson hHex
          (hComplete hAnchored) with
        ⟨b, hRead, hStatus', hLogId, hSeq, hSize, hRoot⟩
      simp only [hRead]
      rw [canonicalStatement_congr
        (hStatus'.trans hAnchored.symm) hLogId hSeq hSize
        hRoot]
      rfl

theorem slotFromDocument_of_fields
    (h : DocumentFields C r doc) :
    slotFromDocument doc =
      .ok ⟨.ed25519, r.keyId, some r.signature⟩ := by
  simp [slotFromDocument, h.keyId, h.signature, Value.asStr?,
    bind, Except.bind]

end UnidppArchive
