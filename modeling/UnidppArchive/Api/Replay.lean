import UnidppArchive.Reference.Samples

/-
  Which ingested records can be replayed.

  Two validators read what the log sends: the receipt parser
  at ingest and the journal decoder at replay.  They agree
  on everything but the instant of a receipt, which a zone
  offset can carry out of the four-digit years.

  Key definitions include:
    * `Timestamp.OnClock`

  Key theorems include:
    * `replayable_ingestRecord_iff`
    * `ingested_round_trip_iff`
-/

------------------------------------------------------------
-- Replayable Records
------------------------------------------------------------

namespace UnidppArchive

open Json

/- The wall clock stands within the years 1970 to 9999. -/
@[reducible]
def Timestamp.OnClock
    (t : Timestamp) : Prop :=
  0 ≤ t.secs ∧ t.secs ≤ 253402300799

theorem Timestamp.OnClock.printable
    {t : Timestamp}
    (h : t.OnClock) :
    t.Printable := by
  unfold Timestamp.Printable
  omega

variable {C : Crates}
variable {notary : C.signatif.KeyPair}
variable {seq : UInt64}
variable {notarizedAt : Timestamp}
variable {req : CreateRequest}
variable {answer : Except String Value}
variable {r : SnapshotRecord}

/- The request and the clock are copied into the record. -/
theorem fields_ingestRecord
    (h : ingestRecord C notary seq notarizedAt req answer =
      .ok r) :
    r.seq = seq ∧ r.snapshotId = snapshotIdOf seq ∧
      r.notarizedAt = notarizedAt ∧
      r.passportId = req.passportId ∧
      r.stateHash = req.stateHash ∧ r.logHead = req.logHead ∧
      r.submitter = req.submitter ∧
      r.stateSize = req.stateSize := by
  rw [(sealedFrom_ingestRecord h).fields]
  exact ⟨rfl, rfl, rfl, rfl, rfl, rfl, rfl, rfl⟩

/- The outcome of an accepted or a missing receipt. -/
theorem anchoring_ingestRecord
    (h : ingestRecord C notary seq notarizedAt req answer =
      .ok r) :
    r.anchoring =
      (anchoringOutcome C answer
        ((draftRecord seq notarizedAt req).commitment C)).withCommitment
        ((draftRecord seq notarizedAt req).commitment C) := by
  rw [(sealedFrom_ingestRecord h).anchoring]
  rfl

/- An accepted receipt is embedded with its instant. -/
theorem anchored_ingestRecord
    {receipt : Value}
    {summary : AnchorSummary}
    (h : ingestRecord C notary seq notarizedAt req answer =
      .ok r)
    (hAccepted : AcceptedReceipt C answer receipt summary) :
    r.anchoring.status = .anchored ∧
      r.anchoring.receipt = some receipt ∧
        r.anchoring.loggedAt = some summary.loggedAt := by
  rw [anchoring_ingestRecord h, hAccepted.1]
  simp only [anchoringOutcome, hAccepted.2]
  exact ⟨rfl, rfl, rfl⟩

/- An outcome replays unless its instant cannot be printed. -/
theorem replayable_ingestRecord_iff
    (h : ingestRecord C notary seq notarizedAt req answer =
      .ok r) :
    r.anchoring.Replayable ↔
      ∀ receipt summary,
        AcceptedReceipt C answer receipt summary →
          summary.loggedAt.Printable := by
  rw [anchoring_ingestRecord h]
  generalize (draftRecord seq notarizedAt req).commitment C = c
  rcases anchoringOutcome_cases (C := C) answer c with
    ⟨receipt, summary, hAccepted, hOutcome⟩ |
      ⟨hNone, reason, hOutcome⟩
  · rw [hOutcome]
    constructor
    · intro hReplay receipt' summary' hAccepted'
      rcases hAccepted with ⟨rfl, hSummary⟩
      rcases hAccepted' with ⟨hAnswer, hSummary'⟩
      cases hAnswer
      rw [hSummary] at hSummary'
      cases hSummary'
      exact hReplay.loggedAt summary.loggedAt rfl
    · intro hPrintable
      exact Anchoring.replayable_anchored hAccepted.2
        (hPrintable receipt summary hAccepted) c c
  · rw [hOutcome]
    constructor
    · intro _ receipt summary hAccepted
      exact (hNone receipt summary hAccepted).elim
    · intro _
      exact (Anchoring.replayable_unanchored reason).withCommitment
        rfl c

end UnidppArchive

------------------------------------------------------------
-- The Round Trip of Ingested Records
------------------------------------------------------------

namespace UnidppArchive

open Json

variable {C : Crates}
variable {notary : C.signatif.KeyPair}
variable {seq : UInt64}
variable {notarizedAt : Timestamp}
variable {req : CreateRequest}
variable {answer : Except String Value}
variable {r : SnapshotRecord}

/- A replayable record is read back from its journal form. -/
theorem fromJournalJson_ingestRecord
    (hHex : C.model.HexLaw)
    (hClock : notarizedAt.OnClock)
    (h : ingestRecord C notary seq notarizedAt req answer =
      .ok r)
    (hReplay : r.anchoring.Replayable) :
    SnapshotRecord.fromJournalJson C (r.toJournalJson C) =
      .ok r := by
  apply SnapshotRecord.fromJournalJson_toJournalJson hHex
  · rw [(fields_ingestRecord h).2.2.1]
    exact hClock.printable
  · exact hReplay

/-
  An ingested record survives its journal form exactly when
  no accepted receipt names an instant outside the years
  0000 to 9999.
-/
theorem ingested_round_trip_iff
    (hHex : C.model.HexLaw)
    (hClock : notarizedAt.OnClock)
    (h : ingestRecord C notary seq notarizedAt req answer =
      .ok r) :
    SnapshotRecord.fromJournalJson C (r.toJournalJson C) =
        .ok r ↔
      ∀ receipt summary,
        AcceptedReceipt C answer receipt summary →
          summary.loggedAt.Printable := by
  constructor
  · intro hRead receipt summary hAccepted
    exact SnapshotRecord.printable_of_fromJournalJson hRead
      (anchored_ingestRecord h hAccepted).2.2
  · intro hPrintable
    exact fromJournalJson_ingestRecord hHex hClock h
      ((replayable_ingestRecord_iff h).mpr hPrintable)

/- A record with an accepted receipt is read back. -/
theorem ingested_round_trip_iff_accepted :
    ∃ receipt r,
      ingestRecord Reference.crates Reference.notary 0
          Reference.now Reference.request (.ok receipt) =
        .ok r ∧
      r.anchoring.status = .anchored ∧
      SnapshotRecord.fromJournalJson Reference.crates
          (r.toJournalJson Reference.crates) = .ok r := by
  have hAccepted := Reference.summary_working_day "s" "c"
  generalize
    Reference.receipt "2026-09-07T10:00:00Z" "s" "c" = receipt
      at hAccepted
  rcases Reference.exists_record 0 Reference.request
      (.ok receipt) with
    ⟨r, hRecord⟩
  refine ⟨receipt, r, hRecord,
    (anchored_ingestRecord hRecord ⟨rfl, hAccepted⟩).1, ?_⟩
  apply (ingested_round_trip_iff Reference.hexLaw
    ⟨by decide, by decide⟩ hRecord).mpr
  rintro receipt' summary ⟨hAnswer, hSummary⟩
  cases hAnswer
  rw [hAccepted, Except.ok.injEq] at hSummary
  rw [← hSummary]
  exact ⟨by decide, by decide⟩

/-
  A receipt of the last hour of the year 9999, west of
  Greenwich, is accepted and cannot be read back.
-/
theorem ingested_round_trip_fails :
    ∃ receipt r,
      parseCreateRequest Reference.crates
          Reference.requestJson = .ok Reference.request ∧
        ingestRecord Reference.crates Reference.notary 0
            Reference.now Reference.request (.ok receipt) =
          .ok r ∧
        SnapshotRecord.fromJournalJson Reference.crates
          (r.toJournalJson Reference.crates) ≠ .ok r := by
  have hParse :
      Timestamp.parse "9999-12-31T23:59:59-01:00" =
        .ok ⟨253402304399⟩ := by
    decide
  have hAccepted :=
    Reference.summary_receipt hParse
      "urn:unidpp:archive:snapshot:s-000000000000" ""
  rcases Reference.exists_record 0 Reference.request
      (.ok (Reference.receipt "9999-12-31T23:59:59-01:00"
        "urn:unidpp:archive:snapshot:s-000000000000" "")) with
    ⟨r, hRecord⟩
  refine ⟨_, r, Reference.parse_requestJson, hRecord, ?_⟩
  intro hRead
  have hPrintable :
      (⟨253402304399⟩ : Timestamp).Printable :=
    SnapshotRecord.printable_of_fromJournalJson hRead
      (anchored_ingestRecord hRecord ⟨rfl, hAccepted⟩).2.2
  exact absurd hPrintable.2 (by decide)

end UnidppArchive
