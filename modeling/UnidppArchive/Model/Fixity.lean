import UnidppArchive.Model.Document

/-
  The rendered body pins the record.

  Every field of a record but the digest of its body is a
  member of the document, printed so that different values
  have different texts; hence records with one body agree on
  all of them.

  Key definitions include:
    * `SnapshotRecord.Receipted`

  Key theorems include:
    * `SnapshotRecord.eq_of_toDocument`
    * `SnapshotRecord.eq_of_renderBody`
    * `SnapshotRecord.receipted_of_fromJournalJson`
    * `SnapshotRecord.complete_of_fromJournalJson`
-/

------------------------------------------------------------
-- Members With Different Values
------------------------------------------------------------

namespace UnidppArchive

open Json

/- An absent string is `null`, which no string is. -/
theorem optString_injective :
    Function.Injective optString := by
  intro o o' h
  cases o <;> cases o' <;> simp [optString] at h ⊢
  exact h

theorem optString_map_injective
    {α : Type}
    {print : α → String}
    (hPrint : Function.Injective print) :
    Function.Injective
      (fun o : Option α => optString (o.map print)) :=
  optString_injective.comp (Option.map_injective hPrint)

theorem u64_injective :
    Function.Injective u64 := by
  intro m n h
  simpa [u64] using h

theorem optU64_injective :
    Function.Injective optU64 := by
  intro o o' h
  cases o <;> cases o' <;> simp [optU64, u64] at h ⊢
  exact h

theorem AnchoringStatus.asStr_injective :
    Function.Injective AnchoringStatus.asStr := by
  intro a b h
  cases a <;> cases b
  · rfl
  · exact absurd h (by decide)
  · exact absurd h (by decide)
  · rfl

end UnidppArchive

------------------------------------------------------------
-- Outcomes in a Document
------------------------------------------------------------

namespace UnidppArchive

open Json

variable {C : Crates}

namespace Anchoring

/- The document shows an outcome but for two of its fields. -/
theorem eq_of_toDocumentJson
    (hHex : Function.Injective C.model.hex)
    {a b : Anchoring}
    (h : a.toDocumentJson C = b.toDocumentJson C)
    (hCommitment : a.commitment = b.commitment)
    (hReceipt : a.receipt = b.receipt) :
    a = b := by
  have hMember :
      ∀ k,
        (object (a.summaryJson C)).get? k =
          (object (b.summaryJson C)).get? k := by
    intro k
    exact congrArg (fun v => Value.get? v k) h
  have hStatus : a.status = b.status :=
    AnchoringStatus.asStr_injective
      (by simpa [summaryJson] using hMember "status")
  have hReason : a.reason = b.reason :=
    optString_injective
      (by simpa [summaryJson] using hMember "reason")
  have hLogId : a.logId = b.logId :=
    optString_injective
      (by simpa [summaryJson] using hMember "log_id")
  have hReceiptSeq : a.receiptSeq = b.receiptSeq :=
    optString_map_injective Text.u64ToString_injective
      (by simpa [summaryJson] using hMember "receipt_id")
  have hTreeSize : a.treeSize = b.treeSize :=
    optU64_injective
      (by simpa [summaryJson] using hMember "tree_size")
  have hRoot : a.root = b.root :=
    optString_map_injective hHex
      (by simpa [summaryJson] using hMember "root")
  have hLoggedAt : a.loggedAt = b.loggedAt :=
    optString_map_injective Timestamp.toString_injective
      (by simpa [summaryJson] using hMember "logged_at")
  cases a
  cases b
  simp only at hStatus hReason hLogId hReceiptSeq hTreeSize
  simp only at hRoot hLoggedAt hCommitment hReceipt
  subst hStatus hReason hLogId hReceiptSeq hTreeSize
  subst hRoot hLoggedAt hCommitment hReceipt
  rfl

/- What decoding an outcome leaves of it. -/
theorem checks_of_fromJson
    {v : Value}
    {a : Anchoring}
    (h : fromJson C v = .ok a) :
    (a.status = .anchored → a.complete = true) ∧
      ∀ w, a.receipt = some w → ∃ fs, w = .object fs := by
  simp only [fromJson, bind_eq_ok_iff] at h
  rcases h with ⟨obj, -, status, -, receipt, hReceipt,
    receiptSeq, -, reason, -, logId, -, treeSize, -, root, -,
    loggedAt, -, commitment, -, h⟩
  split at h
  · cases h
  · rename_i hComplete
    cases h
    constructor
    · intro hAnchored
      by_contra hPartial
      exact hComplete ⟨hAnchored, by simpa using hPartial⟩
    · intro w hw
      cases hw
      unfold optMember at hReceipt
      split at hReceipt
      · cases hReceipt
      · cases hReceipt
      · rename_i u hMember hNull
        cases u with
        | object fs =>
            cases hReceipt
            exact ⟨fs, rfl⟩
        | _ => cases hReceipt

end Anchoring

end UnidppArchive

------------------------------------------------------------
-- Records With One Body
------------------------------------------------------------

namespace UnidppArchive

open Json

variable {C : Crates}

namespace SnapshotRecord

/- The receipt is absent or an object. -/
def Receipted
    (r : SnapshotRecord) : Prop :=
  ∀ v, r.anchoring.receipt = some v → ∃ fs, v = .object fs

/- An object is not mistaken for an absent receipt. -/
theorem receipt_eq
    {q r : SnapshotRecord}
    (hq : q.Receipted)
    (hr : r.Receipted)
    (h :
      q.anchoring.receipt.getD .null =
        r.anchoring.receipt.getD .null) :
    q.anchoring.receipt = r.anchoring.receipt := by
  cases hq' : q.anchoring.receipt with
  | none =>
      cases hr' : r.anchoring.receipt with
      | none => rfl
      | some w =>
          rcases hr w hr' with ⟨fs, rfl⟩
          simp [hq', hr'] at h
  | some v =>
      rcases hq v hq' with ⟨fs, rfl⟩
      cases hr' : r.anchoring.receipt with
      | none => simp [hq', hr'] at h
      | some w =>
          simp only [hq', hr', Option.getD_some] at h
          rw [h]

/- What the document holds besides the rebuilt fields. -/
theorem submission_toDocument
    (C : Crates)
    (r : SnapshotRecord) :
    docField (r.toDocument C)
          ["oais", "submission", "submitter"] =
        .ok (optString r.submitter) ∧
      docField (r.toDocument C)
          ["oais", "submission", "state_size"] =
        .ok (optU64 r.stateSize) ∧
        docField (r.toDocument C)
            ["oais", "provenance", "receipt"] =
          .ok (r.anchoring.receipt.getD .null) := by
  refine ⟨?_, ?_, ?_⟩ <;>
    simp [toDocument, docField, followPath, bind,
      Except.bind]

/- A document is of one record, but for the body digest. -/
theorem eq_of_toDocument
    (hHex : Function.Injective C.model.hex)
    {q r : SnapshotRecord}
    (hq : q.Receipted)
    (hr : r.Receipted)
    (h : q.toDocument C = r.toDocument C) :
    q = { r with bodyDigest := q.bodyDigest } := by
  have hFields := documentFields_toDocument C q
  have hFields' := documentFields_toDocument C r
  rcases submission_toDocument C q with
    ⟨hSubmitter, hStateSize, hReceipt⟩
  rcases submission_toDocument C r with
    ⟨hSubmitter', hStateSize', hReceipt'⟩
  rw [h] at hFields hSubmitter hStateSize hReceipt
  -- each member is read off the one document twice
  have hSeq : q.seq = r.seq :=
    u64_injective
      (Except.ok.inj (hFields.seq.symm.trans hFields'.seq))
  have hId : q.snapshotId = r.snapshotId := by
    have hSame :=
      hFields.snapshotId.symm.trans hFields'.snapshotId
    simpa using hSame
  have hInstant : q.notarizedAt = r.notarizedAt :=
    Timestamp.toString_injective
      (Except.ok.inj (hFields.asOf.symm.trans hFields'.asOf))
  have hPassport : q.passportId = r.passportId :=
    Except.ok.inj
      (hFields.passportId.symm.trans hFields'.passportId)
  have hState : q.stateHash = r.stateHash :=
    hHex (Except.ok.inj
      (hFields.stateHash.symm.trans hFields'.stateHash))
  have hHead : q.logHead = r.logHead :=
    hHex (Except.ok.inj
      (hFields.logHead.symm.trans hFields'.logHead))
  have hSubmitterEq : q.submitter = r.submitter :=
    optString_injective
      (Except.ok.inj (hSubmitter.symm.trans hSubmitter'))
  have hSizeEq : q.stateSize = r.stateSize :=
    optU64_injective
      (Except.ok.inj (hStateSize.symm.trans hStateSize'))
  have hCommitment :
      q.anchoring.commitment = r.anchoring.commitment :=
    optString_map_injective hHex
      (Except.ok.inj
        (hFields.commitment.symm.trans hFields'.commitment))
  have hAnchoring : q.anchoring = r.anchoring :=
    Anchoring.eq_of_toDocumentJson hHex
      (Except.ok.inj
        (hFields.anchoring.symm.trans hFields'.anchoring))
      hCommitment
      (receipt_eq hq hr
        (Except.ok.inj (hReceipt.symm.trans hReceipt')))
  have hSignature : q.signature = r.signature := by
    have hSame :=
      hFields.signature.symm.trans hFields'.signature
    simp only [Except.ok.injEq, Value.string.injEq] at hSame
    exact hexEncode_injective hSame
  have hKey : q.keyId = r.keyId := by
    have hSame := hFields.keyId.symm.trans hFields'.keyId
    simpa using hSame
  cases q
  cases r
  simp only at hSeq hId hInstant hPassport hState hHead
  simp only at hSubmitterEq hSizeEq hAnchoring hSignature hKey
  subst hSeq hId hInstant hPassport hState hHead
  subst hSubmitterEq hSizeEq hAnchoring hSignature hKey
  rfl

/- So is a body, when the printer separates values. -/
theorem eq_of_renderBody
    (hPretty : Function.Injective C.serde.toStringPretty)
    (hHex : Function.Injective C.model.hex)
    {q r : SnapshotRecord}
    (hq : q.Receipted)
    (hr : r.Receipted)
    (h : q.renderBody C = r.renderBody C) :
    q = { r with bodyDigest := q.bodyDigest } :=
  eq_of_toDocument hHex hq hr (hPretty h)

/- A decoded record has a decoded outcome. -/
theorem anchoring_of_fromJournalJson
    {v : Value}
    {r : SnapshotRecord}
    (h : fromJournalJson C v = .ok r) :
    ∃ w, Anchoring.fromJson C w = .ok r.anchoring := by
  simp only [fromJournalJson, bind_eq_ok_iff,
    Except.ok.injEq] at h
  rcases h with ⟨obj, -, json, -, anchoring, hAnchoring,
    hexText, -, signature, -, seq, -, id, -, text, -, instant,
    -, passport, -, state, -, head, -, submitter, -, size, -,
    key, -, digest, -, rfl⟩
  exact ⟨json, hAnchoring⟩

/- The decoder takes no other receipts. -/
theorem receipted_of_fromJournalJson
    {v : Value}
    {r : SnapshotRecord}
    (h : fromJournalJson C v = .ok r) :
    r.Receipted := by
  rcases anchoring_of_fromJournalJson h with ⟨w, hw⟩
  exact (Anchoring.checks_of_fromJson hw).2

/- Nor a partial anchor. -/
theorem complete_of_fromJournalJson
    {v : Value}
    {r : SnapshotRecord}
    (h : fromJournalJson C v = .ok r)
    (hAnchored : r.anchoring.status = .anchored) :
    r.anchoring.complete = true := by
  rcases anchoring_of_fromJournalJson h with ⟨w, hw⟩
  exact (Anchoring.checks_of_fromJson hw).1 hAnchored

end SnapshotRecord

end UnidppArchive
