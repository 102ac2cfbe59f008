import UnidppArchive.Api.Ingest
import UnidppArchive.Reference.Crates

/-
  Sample requests, receipts and records over the lawful
  instance.

  Key definitions include:
    * `Reference.request`
    * `Reference.receipt`
    * `Reference.sampleRecord`
-/

------------------------------------------------------------
-- Requests and Receipts
------------------------------------------------------------

namespace UnidppArchive

namespace Reference

open Json

def sampleHash : Hash :=
  ⟨List.replicate 32 17, rfl⟩

def requestJson : Value :=
  object
    [("passport_id", .string "urn:unidpp:passport:e8"),
      ("state_hash", .string (hexEncode sampleHash.bytes)),
      ("log_head", .string (hexEncode sampleHash.bytes))]

def request : CreateRequest :=
  ⟨"urn:unidpp:passport:e8", sampleHash, sampleHash, none,
    none⟩

theorem parse_requestJson :
    parseCreateRequest crates requestJson = .ok request := by
  rfl

/- A request whose passport id is not ASCII. -/
def accentedJson : Value :=
  object
    [("passport_id", .string "é"),
      ("state_hash", .string (hexEncode sampleHash.bytes)),
      ("log_head", .string (hexEncode sampleHash.bytes))]

def accentedRequest : CreateRequest :=
  ⟨"é", sampleHash, sampleHash, none, none⟩

theorem parse_accentedJson :
    parseCreateRequest crates accentedJson =
      .ok accentedRequest := by
  rfl

/- A receipt for the given subject and commitment. -/
def receipt
    (loggedAt subject commitment : String) : Value :=
  object
    [("receipt_id", .string "7"),
      ("log_id", .string "unit-log"),
      ("seq", u64 7),
      ("subject", .string subject),
      ("commitment", .string commitment),
      ("logged_at", .string loggedAt),
      ("tree_head", object
        [("tree_size", u64 8),
          ("root", .string (hexEncode sampleHash.bytes))])]

def summary
    (loggedAt : Timestamp) : AnchorSummary :=
  ⟨"unit-log", 7, 8, sampleHash, loggedAt⟩

theorem summary_receipt
    {loggedAt : String}
    {t : Timestamp}
    (h : Timestamp.parse loggedAt = .ok t)
    (subject commitment : String) :
    anchorSummaryFromReceipt crates
      (receipt loggedAt subject commitment) =
        .ok (summary t) := by
  have hRoot :
      crates.model.fromHex (hexEncode sampleHash.bytes) =
        some sampleHash :=
    hexLaw sampleHash
  simp [anchorSummaryFromReceipt, receipt, summary, h, hRoot,
    Value.asStr?, Value.asU64?, u64, okOr, Except.toOption,
    Option.filter,
    bind, Except.bind]

/- A receipt of a working day. -/
theorem summary_working_day
    (subject commitment : String) :
    anchorSummaryFromReceipt crates
        (receipt "2026-09-07T10:00:00Z" subject commitment) =
      .ok (summary ⟨1788775200⟩) := by
  have hParse :
      Timestamp.parse "2026-09-07T10:00:00Z" =
        .ok ⟨1788775200⟩ := by
    decide
  exact summary_receipt hParse subject commitment

@[simp] theorem subject_receipt
    (loggedAt subject commitment : String) :
    (receipt loggedAt subject commitment).get? "subject" =
      some (.string subject) := by
  simp [receipt]

@[simp] theorem commitment_receipt
    (loggedAt subject commitment : String) :
    (receipt loggedAt subject commitment).get? "commitment" =
      some (.string commitment) := by
  simp [receipt]

end Reference

end UnidppArchive

------------------------------------------------------------
-- Records
------------------------------------------------------------

namespace UnidppArchive

namespace Reference

open Json

/- Signing never fails, so every draft is sealed. -/
theorem exists_sealed
    (r : SnapshotRecord) :
    ∃ r', r.sealWith crates notary = .ok r' := by
  exact ⟨_, rfl⟩

/- The wall clock of the samples. -/
def now : Timestamp :=
  ⟨1900000000⟩

/- The answer of an unreachable log. -/
def unreachable : Except String Value :=
  .error "log unreachable: connection refused"

/- Every key signs, so every draft is sealed with it. -/
theorem exists_sealedWith
    (key : crates.signatif.KeyPair)
    (seq : UInt64)
    (req : CreateRequest)
    (answer : Except String Value) :
    ∃ r, ingestRecord crates key seq now req answer =
      .ok r :=
  ⟨_, rfl⟩

theorem exists_record
    (seq : UInt64)
    (req : CreateRequest)
    (answer : Except String Value) :
    ∃ r, ingestRecord crates notary seq now req answer =
      .ok r :=
  exists_sealedWith notary seq req answer

end Reference

end UnidppArchive
