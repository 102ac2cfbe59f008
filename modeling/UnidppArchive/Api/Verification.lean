import UnidppArchive.Api.Replay
import UnidppArchive.Model.Document

/-
  What a served document proves.

  The archive signs bytes that it builds from typed fields;
  a verifier rebuilds them from the strings of the document.
  For every ingested record the two agree, and no document
  with other fields leads to the same bytes.  The label
  `anchored` proves less: the receipt under it is the log's
  word for the commitment only if the log said so.

  Key definitions include:
    * `NamesCommitment`
    * `AnchoredToItself`

  Key theorems include:
    * `served_document_verifies`
    * `anchored_to_itself_iff`
    * `statement_binds`
-/

------------------------------------------------------------
-- Offline Verification
------------------------------------------------------------

namespace UnidppArchive

open Json

variable {C : Crates}
variable {notary : C.signatif.KeyPair}
variable {seq : UInt64}
variable {notarizedAt : Timestamp}
variable {req : CreateRequest}
variable {answer : Except String Value}
variable {r : SnapshotRecord}

/- An anchored outcome of ingest has all its fields. -/
theorem complete_ingestRecord
    (h : ingestRecord C notary seq notarizedAt req answer =
      .ok r)
    (hAnchored : r.anchoring.status = .anchored) :
    r.anchoring.complete = true := by
  rw [anchoring_ingestRecord h] at hAnchored ⊢
  generalize
    (draftRecord seq notarizedAt req).commitment C = c
      at hAnchored ⊢
  rcases anchoringOutcome_cases (C := C) answer c with
    ⟨receipt, summary, -, hOutcome⟩ | ⟨-, reason, hOutcome⟩
  · rw [hOutcome]
    rfl
  · rw [hOutcome] at hAnchored
    cases hAnchored

/- The commitment is that of the draft, before anchoring. -/
theorem commitment_ingestRecord
    (h : ingestRecord C notary seq notarizedAt req answer =
      .ok r) :
    r.commitment C =
        (draftRecord seq notarizedAt req).commitment C ∧
      r.anchoring.commitment = some (r.commitment C) := by
  have hSealed := sealedFrom_ingestRecord h
  refine ⟨hSealed.commitment, ?_⟩
  rw [anchoring_ingestRecord h, hSealed.commitment]
  rfl

/-
  The served body parses, both statements are rebuilt from
  it, the embedded signature verifies, and the commitment
  and statement digest are those of the rebuilt bytes.  The
  commitment is also the one posted to the log.
-/
theorem served_document_verifies
    (hHex : C.model.HexLaw)
    (hSign : C.signatif.SignLaw)
    (hSuite : C.signatif.suite notary = .ed25519)
    (hClock : notarizedAt.OnClock)
    (h : ingestRecord C notary seq notarizedAt req answer =
      .ok r)
    (hInverts : C.serde.InvertsPretty (r.toDocument C)) :
    ∃ doc core statement slot,
      C.serde.fromStr (r.renderBody C) = .ok doc ∧
        coreBytesFromDocument C doc = .ok core ∧
        core = r.coreStatementBytes C ∧
        statementBytesFromDocument C doc = .ok statement ∧
        statement =
          (anchoredDraft C seq notarizedAt req answer).statementBytes C ∧
        C.signatif.sign notary notarizationDomain statement =
          .ok slot ∧
        slotFromDocument doc = .ok slot ∧
        C.signatif.verify slot notarizationDomain statement
          (C.signatif.publicKey notary) = true ∧
        informationPackage doc "commitment" =
          .ok (C.model.hex (C.model.sha256 core)) ∧
        informationPackage doc "statement_digest" =
          .ok (C.model.hex (C.model.sha256 statement)) ∧
        (∀ config post,
          anchorPost C config
              (anchorSubject (draftRecord seq notarizedAt req))
              ((draftRecord seq notarizedAt req).commitment C) =
            .ok post →
          post.body = C.serde.toString
            (anchorBody C (anchorSubject r)
              (C.model.sha256 core))) := by
  have hSealed := sealedFrom_ingestRecord h
  have hFields := documentFields_toDocument C r
  have hInstant : r.notarizedAt.Printable := by
    rw [(fields_ingestRecord h).2.2.1]
    exact hClock.printable
  rcases hSealed.signature with ⟨slot, hSlot, hSignature⟩
  rw [← hSealed.statementBytes] at hSlot
  rcases hSign.signed hSlot with ⟨sig, rfl⟩
  have hKey : r.keyId = C.signatif.keyId notary := by
    rw [hSealed.fields]
  refine ⟨r.toDocument C, r.coreStatementBytes C,
    r.statementBytes C, _, hInverts,
    coreBytesFromDocument_of_fields hHex hInstant hFields, rfl,
    statementBytesFromDocument_of_fields hHex hInstant
      (complete_ingestRecord h) hFields,
    hSealed.statementBytes, hSlot, ?_,
    hSign.verified hSlot, ?_, hFields.statementDigest, ?_⟩
  · rw [slotFromDocument_of_fields hFields, hKey, hSuite,
      hSignature]
    rfl
  · rcases commitment_ingestRecord h with ⟨-, hCommitment⟩
    have hMember := hFields.commitment
    rw [hCommitment] at hMember
    simp only [informationPackage, hMember, bind, Except.bind]
    rfl
  · intro config post hPost
    unfold anchorPost at hPost
    rcases bind_eq_ok_iff.mp hPost with ⟨base, -, hPost⟩
    cases hPost
    have hSubject :
        anchorSubject (draftRecord seq notarizedAt req) =
          anchorSubject r := by
      unfold anchorSubject
      rw [(fields_ingestRecord h).2.1]
      rfl
    rw [hSubject, ← (commitment_ingestRecord h).1]
    rfl

/- A receipt of the last working day of the samples. -/
theorem served_document_verifies_anchored :
    ∃ receipt r,
      ingestRecord Reference.crates Reference.notary 3
          Reference.now Reference.request (.ok receipt) =
        .ok r ∧
      r.anchoring.status = .anchored ∧
      ∃ doc core statement slot,
        Reference.serde.fromStr
            (r.renderBody Reference.crates) = .ok doc ∧
          coreBytesFromDocument Reference.crates doc =
            .ok core ∧
          statementBytesFromDocument Reference.crates doc =
            .ok statement ∧
          slotFromDocument doc = .ok slot ∧
          Reference.signatif.verify slot notarizationDomain
            statement Reference.notary = true := by
  have hAccepted := Reference.summary_working_day "" ""
  rcases Reference.exists_record 3 Reference.request
      (.ok (Reference.receipt "2026-09-07T10:00:00Z" "" ""))
    with ⟨r, hRecord⟩
  rcases served_document_verifies Reference.hexLaw
      Reference.signLaw rfl ⟨by decide, by decide⟩ hRecord
      (Reference.invertsPretty_serde _) with
    ⟨doc, core, statement, slot, hDoc, hCore, -, hStatement,
      -, -, hSlot, hVerify, -⟩
  exact ⟨_, r, hRecord,
    (anchored_ingestRecord hRecord ⟨rfl, hAccepted⟩).1, doc,
    core, statement, slot, hDoc, hCore, hStatement, hSlot,
    hVerify⟩

end UnidppArchive

------------------------------------------------------------
-- Anchored to What
------------------------------------------------------------

namespace UnidppArchive

open Json

variable {C : Crates}
variable {notary : C.signatif.KeyPair}
variable {seq : UInt64}
variable {notarizedAt : Timestamp}
variable {req : CreateRequest}
variable {answer : Except String Value}
variable {r : SnapshotRecord}

/- The receipt names the commitment and subject of a record. -/
def NamesCommitment
    (C : Crates)
    (r : SnapshotRecord)
    (receipt : Value) : Prop :=
  receipt.get? "commitment" =
      some (.string (C.model.hex (r.commitment C))) ∧
    receipt.get? "subject" = some (.string (anchorSubject r))

/-
  The label of a stored record: an anchored one embeds a
  receipt for itself, and an answer for anything else was
  stored as unanchored with a reason.
-/
def AnchoredToItself
    (C : Crates)
    (r : SnapshotRecord)
    (answer : Except String Value) : Prop :=
  (r.anchoring.status = .anchored →
      ∃ receipt, r.anchoring.receipt = some receipt ∧
        NamesCommitment C r receipt) ∧
    ∀ receipt, answer = .ok receipt →
      ¬ NamesCommitment C r receipt →
        r.anchoring.status = .unanchored ∧
          ∃ reason, r.anchoring.reason = some reason

/- Names are those of the draft that was posted. -/
theorem namesCommitment_ingestRecord
    (h : ingestRecord C notary seq notarizedAt req answer =
      .ok r)
    (receipt : Value) :
    NamesCommitment C r receipt ↔
      NamesCommitment C (draftRecord seq notarizedAt req)
        receipt := by
  unfold NamesCommitment anchorSubject
  rw [(commitment_ingestRecord h).1,
    (fields_ingestRecord h).2.1]
  rfl

/- A log can issue a receipt for what is posted to it. -/
theorem Reference.exists_named_receipt
    (draft : SnapshotRecord) :
    ∃ receipt summary,
      anchorSummaryFromReceipt Reference.crates receipt =
          .ok summary ∧
        NamesCommitment Reference.crates draft receipt :=
  ⟨Reference.receipt "2026-09-07T10:00:00Z"
      (anchorSubject draft)
      (Reference.crates.model.hex
        (draft.commitment Reference.crates)),
    _, Reference.summary_working_day _ _,
    Reference.commitment_receipt _ _ _,
    Reference.subject_receipt _ _ _⟩

/-
  The label is right exactly when every answer that the
  receipt parser accepts names the posted commitment and
  subject; the code compares neither.
-/
theorem anchored_to_itself_iff
    (h : ingestRecord C notary seq notarizedAt req answer =
      .ok r) :
    AnchoredToItself C r answer ↔
      ∀ receipt summary,
        AcceptedReceipt C answer receipt summary →
          NamesCommitment C (draftRecord seq notarizedAt req)
            receipt := by
  have hAnchoring := anchoring_ingestRecord h
  generalize
    (draftRecord seq notarizedAt req).commitment C = c
      at hAnchoring
  rcases anchoringOutcome_cases (C := C) answer c with
    ⟨receipt, summary, hAccepted, hOutcome⟩ |
      ⟨hNone, reason, hOutcome⟩
  · rw [hOutcome] at hAnchoring
    constructor
    · rintro ⟨hLabel, -⟩ receipt' summary' hAccepted'
      rcases hLabel (by rw [hAnchoring]; rfl) with
        ⟨embedded, hEmbedded, hNames⟩
      rw [hAnchoring] at hEmbedded
      cases hEmbedded
      rcases hAccepted with ⟨rfl, -⟩
      rcases hAccepted' with ⟨hAnswer, -⟩
      cases hAnswer
      exact (namesCommitment_ingestRecord h _).mp hNames
    · intro hNames
      have hOwn :=
        (namesCommitment_ingestRecord h receipt).mpr
          (hNames receipt summary hAccepted)
      refine ⟨fun _ => ⟨receipt, by rw [hAnchoring]; rfl, hOwn⟩,
        ?_⟩
      intro receipt' hAnswer hOther
      rcases hAccepted with ⟨rfl, -⟩
      cases hAnswer
      exact (hOther hOwn).elim
  · rw [hOutcome] at hAnchoring
    constructor
    · intro _ receipt summary hAccepted
      exact (hNone receipt summary hAccepted).elim
    · intro _
      rw [AnchoredToItself, hAnchoring]
      refine ⟨?_, fun _ _ _ => ⟨rfl, reason, rfl⟩⟩
      intro hLabel
      cases hLabel

/- The log answers with a receipt for what was posted. -/
theorem anchored_to_itself_iff_named :
    ∃ receipt r,
      ingestRecord Reference.crates Reference.notary 0
          Reference.now Reference.request (.ok receipt) =
        .ok r ∧
      r.anchoring.status = .anchored ∧
      AnchoredToItself Reference.crates r (.ok receipt) := by
  rcases Reference.exists_named_receipt
      (draftRecord 0 Reference.now Reference.request) with
    ⟨receipt, summary, hAccepted, hNames⟩
  rcases Reference.exists_record 0 Reference.request
      (.ok receipt) with
    ⟨r, hRecord⟩
  refine ⟨receipt, r, hRecord,
    (anchored_ingestRecord hRecord ⟨rfl, hAccepted⟩).1, ?_⟩
  apply (anchored_to_itself_iff hRecord).mpr
  rintro receipt' summary' ⟨hAnswer, -⟩
  rw [Except.ok.injEq] at hAnswer
  rw [← hAnswer]
  exact hNames

/- The log answers with a receipt of another submitter. -/
theorem anchored_to_another :
    ∃ receipt r,
      ingestRecord Reference.crates Reference.notary 0
          Reference.now Reference.request (.ok receipt) =
        .ok r ∧
      r.anchoring.status = .anchored ∧
      r.anchoring.receipt = some receipt ∧
      receipt.get? "subject" =
        some (.string "urn:unidpp:issuer:batch:9") ∧
      ¬ AnchoredToItself Reference.crates r (.ok receipt) := by
  have hAccepted :=
    Reference.summary_working_day "urn:unidpp:issuer:batch:9"
      "00"
  have hSubject :=
    Reference.subject_receipt "2026-09-07T10:00:00Z"
      "urn:unidpp:issuer:batch:9" "00"
  generalize
    Reference.receipt "2026-09-07T10:00:00Z"
      "urn:unidpp:issuer:batch:9" "00" = receipt
        at hAccepted hSubject
  rcases Reference.exists_record 0 Reference.request
      (.ok receipt) with
    ⟨r, hRecord⟩
  rcases anchored_ingestRecord hRecord ⟨rfl, hAccepted⟩ with
    ⟨hAnchored, hReceipt, -⟩
  refine ⟨receipt, r, hRecord, hAnchored, hReceipt, hSubject,
    ?_⟩
  intro hOwn
  rcases hOwn.1 hAnchored with ⟨embedded, hEmbedded, hNames⟩
  rw [hReceipt] at hEmbedded
  cases hEmbedded
  have hSame :=
    ((namesCommitment_ingestRecord hRecord receipt).mp
      hNames).2
  rw [hSubject, Option.some.injEq, Value.string.injEq]
    at hSame
  exact absurd hSame (by decide)

end UnidppArchive

------------------------------------------------------------
-- What the Signature Binds
------------------------------------------------------------

namespace UnidppArchive

open Json

variable {C : Crates}
variable {notary : C.signatif.KeyPair}
variable {seq : UInt64}
variable {notarizedAt : Timestamp}
variable {req : CreateRequest}
variable {answer : Except String Value}
variable {r : SnapshotRecord}

/-
  Any document from which the statement of a record is
  rebuilt carries every notarized field of the record.
-/
theorem statement_binds
    (hWriter : C.model.WriterLaw)
    (hInstant : FitsI64 notarizedAt.secs)
    (h : ingestRecord C notary seq notarizedAt req answer =
      .ok r)
    (hFits : (r.statementBytes C).length ≤ isizeMax)
    {doc : Value}
    (hDoc :
      statementBytesFromDocument C doc =
        .ok (r.statementBytes C)) :
    CoreRead C doc r.snapshotId r.seq r.passportId r.stateHash
        r.logHead r.notarizedAt ∧
      ∃ anchoring,
        docField doc ["oais", "provenance", "anchoring"] =
            .ok anchoring ∧
          (anchoring.get? "status").bind Value.asStr? =
            some r.anchoring.status.asStr ∧
          (r.anchoring.status = .anchored →
            OutcomeRead C anchoring r.anchoring) := by
  rcases hWriter with ⟨E, hSound, hWrites⟩
  rcases statementRead_of_statementBytes hDoc with
    ⟨snapshotId, seq', passportId, stateHash, logHead, asOf,
      anchoring, a, hCore, hAnchoring, hStatus, hOutcome,
      hBytes⟩
  have hOwn := canonicalStatement_eq_code hWrites r.snapshotId
    r.seq r.passportId r.stateHash r.logHead r.notarizedAt
    r.anchoring
  have hTheirs := canonicalStatement_eq_code hWrites snapshotId
    seq' passportId stateHash logHead asOf a
  have hStatement :
      r.statementBytes C =
        canonicalStatement C
          (canonicalCore C r.snapshotId r.seq r.passportId
            r.stateHash r.logHead r.notarizedAt)
          r.anchoring :=
    rfl
  rw [hOwn] at hStatement
  rw [hTheirs] at hBytes
  have hRecorded : FitsI64 r.notarizedAt.secs := by
    rw [(fields_ingestRecord h).2.2.1]
    exact hInstant
  have hAsOf : FitsI64 asOf.secs := by
    rcases hCore.asOf with ⟨t, -, hParse⟩
    exact Timestamp.secs_bounds_of_parse hParse
  have hFields :=
    (decodable_statementCode hSound).injective
      (validFields_of_length
        (by rw [← hStatement]; exact hFits) hRecorded)
      (validFields_of_length
        (by rw [← hBytes]; exact hFits) hAsOf)
      (hStatement.symm.trans hBytes)
  simp only [Prod.mk.injEq] at hFields
  rcases hFields with
    ⟨⟨-, rfl, rfl, rfl, rfl, rfl, hSecs⟩, hSame⟩
  have hSame' : r.notarizedAt = asOf := by
    cases asOf
    cases hNow : r.notarizedAt
    rw [hNow] at hSecs
    exact congrArg Timestamp.mk hSecs
  rw [hSame']
  refine ⟨hCore, anchoring, hAnchoring, ?_, ?_⟩
  · rw [hStatus, status_eq_of_outcomeFields hSame]
  · intro hAnchored
    exact (hOutcome
      ((status_eq_of_outcomeFields hSame).symm.trans
        hAnchored)).congr (complete_ingestRecord h hAnchored)
          hAnchored hSame.symm

/- The document of an anchored sample record. -/
theorem statement_binds_anchored :
    ∃ receipt r anchoring,
      ingestRecord Reference.crates Reference.notary 3
          Reference.now Reference.request (.ok receipt) =
        .ok r ∧
      r.anchoring.status = .anchored ∧
      docField (r.toDocument Reference.crates)
          ["oais", "provenance", "anchoring"] =
        .ok anchoring ∧
      OutcomeRead Reference.crates anchoring r.anchoring := by
  have hAccepted := Reference.summary_working_day "" ""
  rcases Reference.exists_record 3 Reference.request
      (.ok (Reference.receipt "2026-09-07T10:00:00Z" "" ""))
    with ⟨r, hRecord⟩
  have hFits :
      (r.statementBytes Reference.crates).length ≤
        isizeMax := by
    rw [(sealedFrom_ingestRecord hRecord).statementBytes]
    decide +kernel
  have hInstant : FitsI64 Reference.now.secs :=
    ⟨by decide, by decide⟩
  have hPrintable : r.notarizedAt.Printable := by
    rw [(fields_ingestRecord hRecord).2.2.1]
    exact ⟨by decide, by decide⟩
  have hAnchored : r.anchoring.status = .anchored :=
    (anchored_ingestRecord hRecord ⟨rfl, hAccepted⟩).1
  have hDoc :=
    statementBytesFromDocument_of_fields Reference.hexLaw
      hPrintable (complete_ingestRecord hRecord)
      (documentFields_toDocument Reference.crates r)
  rcases statement_binds Reference.writerLaw hInstant hRecord
      hFits hDoc with
    ⟨-, anchoring, hMember, -, hOutcome⟩
  exact ⟨_, r, anchoring, hRecord, hAnchored, hMember,
    hOutcome hAnchored⟩

end UnidppArchive
