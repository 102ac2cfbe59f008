import UnidppArchive.Json.Depth
import UnidppArchive.Model.Record

/-
  How deep a record nests what the log answered.

  The receipt is embedded in the journal form and in the
  document, each time below members that enclose it.

  Key theorems include:
    * `SnapshotRecord.depth_toJournalJson`
    * `SnapshotRecord.depth_toDocument`
    * `SnapshotRecord.readable_iff`
-/

------------------------------------------------------------
-- The Depth of the Two Forms
------------------------------------------------------------

namespace UnidppArchive

open Json

variable (C : Crates)

theorem Anchoring.depth_toDocumentJson
    (a : Anchoring) :
    (a.toDocumentJson C).depth = 1 := by
  unfold Anchoring.toDocumentJson
  rw [depth_object (by simp [summaryJson])]
  simp [summaryJson]

theorem Anchoring.depth_toJournalJson
    (a : Anchoring) :
    (a.toJournalJson C).depth =
      (a.receipt.getD .null).depth + 1 := by
  unfold Anchoring.toJournalJson
  rw [depth_object (by simp [summaryJson])]
  simp [summaryJson]

namespace SnapshotRecord

/- The journal form holds the receipt two levels deep. -/
theorem depth_toJournalJson
    (r : SnapshotRecord) :
    (r.toJournalJson C).depth =
      (r.anchoring.receipt.getD .null).depth + 2 := by
  unfold toJournalJson
  rw [depth_object (by simp)]
  simp [Anchoring.depth_toJournalJson]

/- The document holds it three levels deep. -/
theorem depth_toDocument
    (r : SnapshotRecord) :
    (r.toDocument C).depth =
      max 1 (r.anchoring.receipt.getD .null).depth + 3 := by
  unfold toDocument
  simp only
  rw [depth_object (by simp)]
  simp [depth_object, Anchoring.depth_toDocumentJson]

/-
  The journal line and the served body are accepted, with
  the limit of `serde_json`, when the receipt leaves three
  levels for the document.
-/
theorem readable_iff
    {C : Crates}
    (hSerde : C.serde.Nests 127)
    (r : SnapshotRecord) :
    (C.serde.Accepts (C.serde.toString (r.toJournalJson C)) ∧
        C.serde.Accepts (r.renderBody C)) ↔
      (r.anchoring.receipt.getD .null).depth ≤ 124 := by
  rw [hSerde.accepts_iff, renderBody, hSerde.acceptsPretty_iff,
    depth_toJournalJson, depth_toDocument]
  omega

end SnapshotRecord

end UnidppArchive
