import UnidppArchive.Api.Finding
import UnidppArchive.Api.Paging
import UnidppArchive.Api.Serving

/-
  Three views of one record (`api.rs`, `store.rs`).

  The catalogue, the audit journal and the served document
  are rendered apart from each other.  A link of the catalogue
  leads, then and later, to a document of which all three
  tell the same, and the digest in the row is that of the
  octets behind the link.

  Key definitions include:
    * `SnapshotStore.Intact`
    * `sharedFields`
    * `Agree`

  Key theorems include:
    * `agree_of_record`
    * `AppSystem.Run.intact`
    * `links_lead_to_documents`
-/

------------------------------------------------------------
-- Fields in Common
------------------------------------------------------------

namespace UnidppArchive

open Json

/- A field of the row, the document and the audit entry. -/
structure SharedField where
  inRow : String
  inDocument : List String
  inEntry : List String

/- What the row says of an anchor, under its own names. -/
def anchoringField
    (key : String) : SharedField :=
  ⟨key, ["oais", "provenance", "anchoring", key],
    ["anchoring", key]⟩

def packageField
    (key : String) : SharedField :=
  ⟨key, ["oais", "information_package", key], [key]⟩

/- All that a row says, but for the link and the digest. -/
def sharedFields : List SharedField :=
  [⟨"snapshot_id", ["snapshot_id"], ["snapshot_id"]⟩,
    ⟨"seq", ["seq"], ["seq"]⟩,
    packageField "passport_id",
    packageField "state_hash",
    packageField "log_head",
    ⟨"notarized_at", ["oais", "provenance", "notarized_at"],
      ["notarized_at"]⟩,
    anchoringField "log_id",
    anchoringField "receipt_id",
    anchoringField "tree_size",
    anchoringField "root"]

/- The three views say the same under every shared field. -/
def Agree
    (row doc entry : Value) : Prop :=
  ∀ field ∈ sharedFields, ∃ v,
    row.get? field.inRow = some v ∧
      docField doc field.inDocument = .ok v ∧
      docField entry field.inEntry = .ok v

/- The audit view adds the digest to the journal line. -/
theorem get?_auditEntry
    (C : Crates)
    (r : SnapshotRecord)
    (key : String) :
    (auditEntry C r).get? key =
      if key = "body_sha256" then
        some (.string (C.model.hex r.bodyDigest))
      else
        (r.toJournalJson C).get? key := by
  unfold auditEntry SnapshotRecord.toJournalJson object
  exact Map.get?_insert _ "body_sha256" key _

/- The views of one record agree. -/
theorem agree_of_record
    (C : Crates)
    (r : SnapshotRecord) :
    Agree (catalogueRow C r) (r.toDocument C)
      (auditEntry C r) := by
  intro field hField
  simp only [sharedFields, List.mem_cons, List.not_mem_nil,
    or_false] at hField
  rcases hField with rfl | rfl | rfl | rfl | rfl | rfl | rfl |
    rfl | rfl | rfl <;>
    simp [catalogueRow, SnapshotRecord.toDocument,
      get?_auditEntry, SnapshotRecord.toJournalJson,
      Anchoring.toDocumentJson, Anchoring.toJournalJson,
      Anchoring.summaryJson, packageField, anchoringField,
      docField, followPath, bind, Except.bind]

end UnidppArchive

------------------------------------------------------------
-- Intact Stores
------------------------------------------------------------

namespace UnidppArchive

/- The records are numbered, and have their own digests. -/
structure SnapshotStore.Intact
    (C : Crates)
    (store : SnapshotStore) : Prop where
  inSequence : InSequence 0 store.records
  digests :
    ∀ r ∈ store.records,
      C.model.sha256 (r.bodyBytes C) = r.bodyDigest

variable {C : Crates}
variable {service : Service C}
variable {store : SnapshotStore}

/- A record that fits the next place leaves it so. -/
theorem SnapshotStore.Intact.push
    {r : SnapshotRecord}
    (h : store.Intact C)
    (hFits : store.Fits C r)
    (hCapacity : store.records.length < maxRecords) :
    (store.push r).Intact C where
  inSequence := by
    apply h.inSequence.append
    · rw [Nat.zero_add]
      exact hCapacity
    · rw [Nat.zero_add]
      exact hFits.1.1
    · exact hFits.2
  digests := by
    intro q hq
    rcases List.mem_append.mp hq with hOld | hNew
    · exact h.digests q hOld
    · rw [List.mem_singleton.mp hNew]
      exact hFits.1.2

variable {Request : Type} [DecidableEq Request]
variable {s s' : AppSystem Request}

namespace AppSystem

/- A step keeps the records, and adds one that fits. -/
theorem Step.intact
    {first pending : List SnapshotRecord}
    (hCoherent : s.Coherent C first pending)
    (hStep : Step C service s s')
    (h : s.store.Intact C) :
    s'.store.Intact C ∧
      s.store.records <+: s'.store.records := by
  rcases hStep.store_cases with
    hSame | ⟨t, r, hPhase, hPush, hCapacity⟩
  · rw [hSame]
    exact ⟨h, List.prefix_refl _⟩
  · have hStanding := hCoherent.standing t
    rw [hPhase] at hStanding
    rw [hPush]
    exact ⟨h.push hStanding.1 hCapacity,
      List.prefix_append _ _⟩

theorem Run.intact
    {disk : Disk}
    (hBefore : Run C service (start store disk) s)
    (hRun : Run C service s s')
    (h : s.store.Intact C) :
    s'.store.Intact C ∧
      s.store.records <+: s'.store.records := by
  induction hRun with
  | refl => exact ⟨h, List.prefix_refl _⟩
  | tail hFront hStep ih =>
      have hReached : Run C service (start store disk) _ :=
        hBefore.trans hFront
      rcases hReached.coherent with ⟨pending, hCoherent⟩
      rcases hStep.intact hCoherent ih.1 with
        ⟨hIntact, hPrefix⟩
      exact ⟨hIntact, ih.2.trans hPrefix⟩

end AppSystem

end UnidppArchive

------------------------------------------------------------
-- Links
------------------------------------------------------------

namespace UnidppArchive

open Json

variable {C : Crates}
variable {service : Service C}
variable {store : SnapshotStore}
variable {disk : Disk}
variable {Request : Type} [DecidableEq Request]
variable {s s' : AppSystem Request}

/- A catalogue has the rows of the records that it lists. -/
theorem lists_of_parseAt
    {now : Timestamp}
    {params : String → Option String}
    {at? : Option Timestamp}
    (hAt : Api.parseAt params = .ok at?) :
    (listSnapshots C store now params).Lists C
      ((store.list (Api.optQuery params "passport_id")
        at?).map (catalogueRow C)) := by
  unfold listSnapshots
  rw [hAt]
  exact ⟨rfl, at?.getD now, at?,
    Api.optQuery params "passport_id", rfl⟩

theorem exists_parseAt
    {now : Timestamp}
    {params : String → Option String}
    (hStatus :
      (listSnapshots C store now params).status = 200) :
    ∃ at?, Api.parseAt params = .ok at? := by
  cases hAt : Api.parseAt params with
  | error e =>
      unfold listSnapshots at hStatus
      rw [hAt] at hStatus
      cases hStatus
  | ok at? => exact ⟨at?, rfl⟩

/- A catalogue that is answered has rows of records. -/
theorem lists_listSnapshots
    {now : Timestamp}
    {params : String → Option String}
    (hStatus :
      (listSnapshots C store now params).status = 200) :
    ∃ rows,
      (listSnapshots C store now params).Lists C rows ∧
        ∀ row ∈ rows, ∃ r ∈ store.records,
          row = catalogueRow C r := by
  rcases exists_parseAt hStatus with ⟨at?, hAt⟩
  refine ⟨_, lists_of_parseAt hAt, ?_⟩
  intro row hRow
  rcases List.mem_map.mp hRow with ⟨r, hr, rfl⟩
  exact ⟨r, List.mem_of_mem_filter (List.mem_of_mem_filter hr),
    rfl⟩

/-
  A row of a catalogue links to a snapshot.  From then on its
  document is served, it is that of the digest in the row, and
  the row, the document and an entry of the audit journal say
  the same.
-/
theorem links_lead_to_documents
    (hIntact : store.Intact C)
    (hBefore :
      AppSystem.Run C service (AppSystem.start store disk) s)
    (hLater : AppSystem.Run C service s s')
    (now : Timestamp)
    (params : String → Option String)
    (hStatus :
      (listSnapshots C s.store now params).status = 200) :
    ∃ rows,
      (listSnapshots C s.store now params).Lists C rows ∧
        ∀ row ∈ rows, ∃ id doc,
          row.get? "href" =
              some (.string s!"/snapshots/{id}") ∧
            (∀ now',
              (getSnapshot C s'.store now' id).status = 200 ∧
                (getSnapshot C s'.store now' id).body =
                  C.serde.toStringPretty doc) ∧
            row.get? "body_sha256" =
              some (.string (C.model.hex
                (C.model.sha256
                  (Utf8.encode
                    (C.serde.toStringPretty doc))))) ∧
            ∃ entry ∈ s'.store.audit C, Agree row doc entry := by
  have hNone :
      AppSystem.Run C service
        (AppSystem.start store disk : AppSystem Request)
        (AppSystem.start store disk) :=
    .refl
  have hBegun : s.store.Intact C :=
    (hNone.intact hBefore hIntact).1
  rcases hBefore.intact hLater hBegun with
    ⟨hLast, hPrefix⟩
  rcases lists_listSnapshots hStatus with
    ⟨rows, hLists, hRows⟩
  refine ⟨rows, hLists, ?_⟩
  intro row hRow
  rcases hRows row hRow with ⟨r, hr, rfl⟩
  have hMem : r ∈ s'.store.records := hPrefix.subset hr
  have hDigest := hLast.digests r hMem
  refine ⟨r.snapshotId, r.toDocument C, ?_, ?_, ?_,
    auditEntry C r, List.mem_map.mpr ⟨r, hMem, rfl⟩,
    agree_of_record C r⟩
  · simp [catalogueRow]
  · intro now'
    rw [getSnapshot_of_mem hLast.inSequence hMem]
    exact ⟨rfl, rfl⟩
  · have hBytes :
        Utf8.encode
            (C.serde.toStringPretty (r.toDocument C)) =
          r.bodyBytes C :=
      rfl
    rw [hBytes, hDigest]
    simp [catalogueRow]

end UnidppArchive

namespace UnidppArchive

namespace Reference

/- The store of one ingest. -/
theorem exists_intact :
    ∃ r, (emptyFiled.push r).Intact crates := by
  rcases exists_record emptyFiled.size request unreachable
    with ⟨r, hRecord⟩
  have hEmpty : emptyFiled.Intact crates := by
    refine ⟨inSequence_nil, ?_⟩
    intro q hq
    cases hq
  have hId : r.snapshotId = snapshotIdOf r.seq := by
    rcases fields_ingestRecord hRecord with ⟨hSeq, hId, -⟩
    rw [hId, hSeq]
  have hCapacity : emptyFiled.records.length < maxRecords := by
    decide
  exact ⟨r, hEmpty.push
    ⟨admits_ingestRecord hRecord rfl, hId⟩ hCapacity⟩

end Reference

open Reference in
/- The catalogue of one snapshot links to it. -/
theorem links_lead_to_documents_sample :
    ∃ (store : SnapshotStore) (rows : List Json.Value),
      store.records ≠ [] ∧
        (listSnapshots crates store now fun _ => none).Lists
          crates rows ∧
        ∀ row ∈ rows, ∃ id doc,
          row.get? "href" =
              some (.string s!"/snapshots/{id}") ∧
            (getSnapshot crates store now id).body =
              crates.serde.toStringPretty doc := by
  rcases exists_intact with ⟨r, hIntact⟩
  have hNone :
      AppSystem.Run crates service
        (AppSystem.start (emptyFiled.push r) (diskOf none) :
          AppSystem Unit)
        (AppSystem.start (emptyFiled.push r)
          (diskOf none)) :=
    .refl
  have hStatus :
      (listSnapshots crates (emptyFiled.push r) now
        fun _ => none).status = 200 :=
    rfl
  rcases links_lead_to_documents hIntact hNone hNone now _
      hStatus with
    ⟨rows, hLists, hRows⟩
  refine ⟨emptyFiled.push r, rows, ?_, hLists, ?_⟩
  · simp [SnapshotStore.push]
  · intro row hRow
    rcases hRows row hRow with ⟨id, doc, hHref, hServed, -⟩
    exact ⟨id, doc, hHref, (hServed now).2⟩

end UnidppArchive
