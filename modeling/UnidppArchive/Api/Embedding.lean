import UnidppArchive.Model.Nesting
import UnidppArchive.Store.Ingested

/-
  Receipts that nest too deep.

  The answer of the log is parsed with the limit of
  `serde_json` on nested brackets.  The receipt is accepted
  up to that limit, and embedded in the journal line and in
  the document, which are read with the same limit again.

  Key definitions include:
    * `Reference.nested`
    * `Reference.deepReceipt`

  Key theorems include:
    * `lineVerdict_of_deep`
    * `embedded_receipt_readable_iff`
-/

------------------------------------------------------------
-- Torn Lines
------------------------------------------------------------

namespace UnidppArchive

open Json

variable {C : Crates}
variable {receipt : Value}
variable {r : SnapshotRecord}

/- A record of a deep receipt has a line that is torn. -/
theorem lineVerdict_of_deep
    (hLawful : C.serde.Lawful)
    (hSerde : C.serde.Nests 127)
    (hReceipt : r.anchoring.receipt = some receipt)
    (hDeep : 125 < receipt.depth) :
    lineVerdict C (journalLine C r) = .torn := by
  have hLine : 127 < (r.toJournalJson C).depth := by
    rw [SnapshotRecord.depth_toJournalJson, hReceipt]
    simp only [Option.getD_some]
    omega
  rw [journalLine, lineVerdict_encode_eq_torn_iff]
  constructor
  · cases hRead :
        C.serde.fromStr
          (C.serde.toString (r.toJournalJson C)) with
    | error e => exact parseLine_error hRead
    | ok v => exact absurd ⟨v, hRead⟩ (hSerde.refuses _ hLine)
  · exact trim_journalLine hLawful r

end UnidppArchive

------------------------------------------------------------
-- A Receipt at the Limit
------------------------------------------------------------

namespace UnidppArchive

namespace Reference

open Json

/- The crates with the limit of `serde_json`. -/
def limitedCrates : Crates :=
  ⟨serde.limited 127, model, signatif⟩

theorem nests_limitedCrates :
    limitedCrates.serde.Nests 127 :=
  SerdeJson.nests_limited inverts_serde invertsPretty_serde

theorem lawful_limitedCrates :
    limitedCrates.serde.Lawful :=
  lawful_serde.limited

/- So many arrays around nothing. -/
def nested :
    Nat → Value
| 0 => .null
| n + 1 => .array (.cons (nested n) .nil)

theorem depth_nested
    (n : Nat) :
    (nested n).depth = n := by
  induction n with
  | zero => rfl
  | succ n ih => simp [nested, Value.depth, Values.depth, ih]

/- A receipt with a proof that nests so deep. -/
def deepReceipt
    (n : Nat) : Value :=
  object
    [("log_id", .string "unit-log"),
      ("seq", u64 7),
      ("tree_head", object
        [("tree_size", u64 8),
          ("root", .string (hexEncode sampleHash.bytes))]),
      ("logged_at", .string "2026-09-07T10:00:00Z"),
      ("proof", nested n)]

theorem depth_deepReceipt
    (n : Nat) :
    (deepReceipt n).depth = max 1 n + 1 := by
  unfold deepReceipt
  rw [depth_object (by simp)]
  simp [depth_object, depth_nested]

theorem summary_deepReceipt
    (n : Nat) :
    anchorSummaryFromReceipt limitedCrates (deepReceipt n) =
      .ok (summary ⟨1788775200⟩) := by
  have hRoot :
      limitedCrates.model.fromHex
          (hexEncode sampleHash.bytes) =
        some sampleHash :=
    hexLaw sampleHash
  have hParse :
      Timestamp.parse "2026-09-07T10:00:00Z" =
        .ok ⟨1788775200⟩ := by
    decide
  simp [anchorSummaryFromReceipt, deepReceipt, summary,
    hParse, hRoot, Value.asStr?, Value.asU64?, u64, okOr,
    Except.toOption, Option.filter, bind, Except.bind]

/- The answer that carries it. -/
def deepReply
    (n : Nat) : Except String HttpResponse :=
  .ok ⟨200, limitedCrates.serde.toString (deepReceipt n)⟩

theorem anchorReceipt_deepReply
    {n : Nat}
    (hDepth : n ≤ 126) :
    anchorReceipt limitedCrates (deepReply n) =
      .ok (deepReceipt n) := by
  have hShallow : (deepReceipt n).depth ≤ 127 := by
    rw [depth_deepReceipt]
    omega
  have hRead :
      limitedCrates.serde.fromStr
          (limitedCrates.serde.toString (deepReceipt n)) =
        .ok (deepReceipt n) :=
    nests_limitedCrates.inverts _ hShallow
  simp [anchorReceipt, deepReply, hRead, Except.mapError]

/- The first entry of a journal. -/
theorem recorded_emptyStore
    (C : Crates)
    (r : SnapshotRecord) :
    emptyStore.recorded C r (diskOf (some [])) =
      diskOf (some (journalEntry C r)) := by
  rfl

theorem exists_deepRecord
    (n : Nat) :
    ∃ r,
      ingestRecord limitedCrates notary 0 now request
          (anchorReceipt limitedCrates (deepReply n)) = .ok r := by
  exact ⟨_, rfl⟩

end Reference

end UnidppArchive

------------------------------------------------------------
-- The Depth That Is Read Again
------------------------------------------------------------

namespace UnidppArchive

open Json

/-
  The journal line and the served body of a record with an
  accepted receipt are read again exactly when the receipt
  nests at most 124 deep, and then as they were written.
-/
theorem embedded_receipt_readable_iff
    {C : Crates}
    {notary : C.signatif.KeyPair}
    {seq : UInt64}
    {notarizedAt : Timestamp}
    {req : CreateRequest}
    {reply : Except String HttpResponse}
    {receipt : Value}
    {summary : AnchorSummary}
    {r : SnapshotRecord}
    (hSerde : C.serde.Nests 127)
    (hReceipt : anchorReceipt C reply = .ok receipt)
    (hSummary :
      anchorSummaryFromReceipt C receipt = .ok summary)
    (hRecord :
      ingestRecord C notary seq notarizedAt req
          (anchorReceipt C reply) = .ok r) :
    ((C.serde.Accepts (C.serde.toString (r.toJournalJson C)) ∧
        C.serde.Accepts (r.renderBody C)) ↔
      receipt.depth ≤ 124) ∧
      (receipt.depth ≤ 124 →
        C.serde.Inverts (r.toJournalJson C) ∧
          C.serde.InvertsPretty (r.toDocument C)) := by
  have hEmbedded : r.anchoring.receipt = some receipt :=
    (anchored_ingestRecord hRecord ⟨hReceipt, hSummary⟩).2.1
  have hReadable := SnapshotRecord.readable_iff hSerde r
  rw [hEmbedded, Option.getD_some] at hReadable
  refine ⟨hReadable, ?_⟩
  intro hDepth
  have hJournal := SnapshotRecord.depth_toJournalJson C r
  have hDocument := SnapshotRecord.depth_toDocument C r
  rw [hEmbedded, Option.getD_some] at hJournal hDocument
  exact
    ⟨hSerde.inverts _ (by omega),
      hSerde.invertsPretty _ (by omega)⟩

open Reference in
/- A receipt of depth two. -/
theorem embedded_receipt_readable_iff_shallow :
    ∃ r,
      ingestRecord limitedCrates notary 0 now request
          (anchorReceipt limitedCrates (deepReply 1)) = .ok r ∧
        limitedCrates.serde.Accepts
            (limitedCrates.serde.toString
              (r.toJournalJson limitedCrates)) ∧
          limitedCrates.serde.Accepts
            (r.renderBody limitedCrates) := by
  rcases exists_deepRecord 1 with ⟨r, hRecord⟩
  have hReadable :=
    embedded_receipt_readable_iff nests_limitedCrates
      (anchorReceipt_deepReply (by omega))
      (summary_deepReceipt 1) hRecord
  refine ⟨r, hRecord, hReadable.1.mpr ?_⟩
  rw [depth_deepReceipt]
  omega

open Reference in
/-
  A receipt of depth 127 is accepted, and its record is
  appended and gone at the next start.
-/
theorem deep_receipt_is_lost :
    ∃ r disk,
      anchorReceipt limitedCrates (deepReply 126) =
          .ok (deepReceipt 126) ∧
        anchorSummaryFromReceipt limitedCrates
            (deepReceipt 126) =
          .ok (summary ⟨1788775200⟩) ∧
        ingestRecord limitedCrates notary 0 now request
            (anchorReceipt limitedCrates (deepReply 126)) =
          .ok r ∧
        emptyStore.appendSnapshot limitedCrates .sound r
            (diskOf (some [])) =
          (.ok (), emptyStore.push r, disk) ∧
        ¬ limitedCrates.serde.Accepts
            (limitedCrates.serde.toString
              (r.toJournalJson limitedCrates)) ∧
        ¬ limitedCrates.serde.Accepts
            (r.renderBody limitedCrates) ∧
        SnapshotStore.openAt limitedCrates .sound journalOnly
            disk =
          (.ok emptyStore, disk) := by
  have hReceipt :=
    anchorReceipt_deepReply (n := 126) (by omega)
  have hSummary := summary_deepReceipt 126
  rcases exists_deepRecord 126 with ⟨r, hRecord⟩
  have hEmbedded :
      r.anchoring.receipt = some (deepReceipt 126) :=
    (anchored_ingestRecord hRecord ⟨hReceipt, hSummary⟩).2.1
  have hDepth : (deepReceipt 126).depth = 127 :=
    depth_deepReceipt 126
  have hAppend :
      emptyStore.appendSnapshot limitedCrates .sound r
          (diskOf (some [])) =
        (.ok (), emptyStore.push r,
          diskOf (some (journalEntry limitedCrates r))) := by
    rw [SnapshotStore.appendSnapshot_eq_ok_iff]
    exact ⟨admits_ingestRecord hRecord rfl, fun _ => rfl,
      fun _ => rfl, rfl, (recorded_emptyStore _ r).symm⟩
  refine ⟨r, _, hReceipt, hSummary, hRecord, hAppend, ?_, ?_,
    ?_⟩
  · rw [nests_limitedCrates.accepts_iff,
      SnapshotRecord.depth_toJournalJson, hEmbedded,
      Option.getD_some, hDepth]
    omega
  · rw [SnapshotRecord.renderBody,
      nests_limitedCrates.acceptsPretty_iff,
      SnapshotRecord.depth_toDocument, hEmbedded,
      Option.getD_some, hDepth]
    omega
  · exact SnapshotStore.openAt_torn_line rfl
      (lines_journalEntry lawful_limitedCrates r)
      (lineVerdict_of_deep lawful_limitedCrates
        nests_limitedCrates hEmbedded (by omega))

end UnidppArchive
