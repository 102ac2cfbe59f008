import UnidppArchive.Api.Service

/-
  Byte-identical serving over whole runs.

  A run starts on an absent or empty journal, with any files
  in the snapshot directory, and consists of ingests that
  are answered 201 and of clean restarts.

  Key definitions include:
    * `CanonicalReceipt`
    * `ServiceRun`
    * `Serving`

  Key theorems include:
    * `Serving.created`
    * `ServiceRun.ready`
    * `served_byte_identically`
-/

------------------------------------------------------------
-- Finding Records
------------------------------------------------------------

namespace UnidppArchive

open Json

/- Issued identifiers are not trimmed. -/
theorem trim_snapshotIdOf
    (seq : UInt64) :
    Text.trim (snapshotIdOf seq) = snapshotIdOf seq := by
  apply Text.trim_eq_self
  intro c hc
  simp only [snapshotIdOf, String.toList_append,
    List.mem_append] at hc
  rcases hc with hFront | hDigit
  · have hSpace :
        ∀ c ∈ "s-".toList, Text.isWhitespace c = false :=
      List.all_iff_forall_prop.mp (by decide)
    exact hSpace c hFront
  · have hRange := Char.isDigit_iff_toNat.mp
      (Text.isDigit_of_mem_padZero hDigit)
    have hZero : '0'.toNat = 48 := rfl
    have hNine : '9'.toNat = 57 := rfl
    simp only [Text.isWhitespace, Bool.or_eq_false_iff,
      Bool.and_eq_false_iff, decide_eq_false_iff_not,
      beq_eq_false_iff_ne]
    omega

/- What is served of a record of the store. -/
theorem getSnapshot_of_mem
    {C : Crates}
    {store : SnapshotStore}
    {r : SnapshotRecord}
    (h : InSequence 0 store.records)
    (hMem : r ∈ store.records)
    (now : Timestamp) :
    getSnapshot C store now r.snapshotId =
      buildResponse 200
        [("content-type", "application/json"),
          ("x-as-of", r.notarizedAt.toString),
          ("etag", etagOf C r.bodyDigest)]
        (r.renderBody C) .pointInTime := by
  have hId : Text.trim r.snapshotId = r.snapshotId := by
    rcases List.getElem?_of_mem hMem with ⟨i, hi⟩
    rw [(h.2 i r hi).2]
    exact trim_snapshotIdOf r.seq
  simp only [getSnapshot, hId, get_of_mem h hMem]

end UnidppArchive

------------------------------------------------------------
-- Runs
------------------------------------------------------------

namespace UnidppArchive

open Json

/- The instant of a receipt has the form of the service. -/
def CanonicalReceipt
    (receipt : Value) : Prop :=
  ∀ s, receipt.get? "logged_at" = some (.string s) →
    Timestamp.CanonicalForm s

/-
  Runs of ingests answered 201 and of clean restarts.  The
  service is stopped or holds a store; the last argument are
  the responses that were given.
-/
inductive ServiceRun
    (C : Crates)
    (service : Service C)
    (dir : String) :
    Option SnapshotStore → Disk → List Response → Prop where
  | fresh
      {disk : Disk}
      (hFresh : disk.journal.getD [] = []) :
      ServiceRun C service dir none disk []
  | opened
      {store : SnapshotStore}
      {disk disk' : Disk}
      {acks : List Response}
      (hRun : ServiceRun C service dir none disk acks)
      (hOpen :
        SnapshotStore.openAt C .sound ⟨true, some dir⟩ disk =
          (.ok store, disk')) :
      ServiceRun C service dir (some store) disk' acks
  | created
      {store store' : SnapshotStore}
      {disk disk' : Disk}
      {acks : List Response}
      {env : CreateEnv}
      {post : CreatePost}
      {response : Response}
      (hRun : ServiceRun C service dir (some store) disk acks)
      (hCreate :
        createSnapshot C service env store post disk =
          (response, store', disk'))
      (hStatus : response.status = 201)
      (hClock : env.now.OnClock)
      (hCanonical :
        ∀ draft receipt,
          anchorDraft C service env.transport draft =
              .ok receipt →
            CanonicalReceipt receipt)
      (hInverts :
        ∀ record, store' = store.push record →
          C.serde.Inverts (record.toJournalJson C))
      (hCapacity : store.records.length < maxRecords) :
      ServiceRun C service dir (some store') disk'
        (acks ++ [response])
  | stopped
      {store : SnapshotStore}
      {disk : Disk}
      {acks : List Response}
      (hRun :
        ServiceRun C service dir (some store) disk acks) :
      ServiceRun C service dir none disk acks

/- What holds of a running service. -/
structure Serving
    (C : Crates)
    (dir : String)
    (store : SnapshotStore)
    (disk : Disk)
    (acks : List Response) : Prop where
  journal : store.journal = true
  snapshotDir : store.snapshotDir = some dir
  synced : store.Synced C disk
  inSequence : InSequence 0 store.records
  acknowledged :
    ∀ ack ∈ acks, ∃ r ∈ store.records,
      ack = createdResponse C r

end UnidppArchive

------------------------------------------------------------
-- The Invariant of a Run
------------------------------------------------------------

namespace UnidppArchive

open Json

variable {C : Crates}
variable {service : Service C}
variable {dir : String}
variable {store store' : SnapshotStore}
variable {disk disk' : Disk}
variable {acks : List Response}

theorem printable_of_canonicalReceipt
    {receipt : Value}
    {summary : AnchorSummary}
    (hCanonical : CanonicalReceipt receipt)
    (h : anchorSummaryFromReceipt C receipt = .ok summary) :
    summary.loggedAt.Printable := by
  rcases loggedAt_of_summary h with ⟨s, hMember, hParse⟩
  exact Timestamp.printable_of_canonicalForm
    (hCanonical s hMember) hParse

/- A clean stop and start yields the same store. -/
theorem Serving.openAt
    (h : Serving C dir store disk acks) :
    SnapshotStore.openAt C .sound ⟨true, some dir⟩ disk =
      (.ok store, disk) := by
  have hPaths : store.paths = ⟨true, some dir⟩ := by
    rw [SnapshotStore.paths, h.journal, h.snapshotDir]
  rw [← hPaths]
  exact h.synced.openAt h.journal

/- A store on a fresh journal serves nothing yet. -/
theorem serving_fresh
    (hFresh : disk.journal.getD [] = []) :
    ∃ store disk',
      SnapshotStore.openAt C .sound ⟨true, some dir⟩ disk =
          (.ok store, disk') ∧
        Serving C dir store disk' [] := by
  have hClean : CleanJournal C disk := by
    simp [CleanJournal, hFresh]
  have hOpen :
      SnapshotStore.openAt C .sound ⟨true, some dir⟩ disk =
        (.ok ⟨[], true, some dir⟩,
          disk.opened C ⟨true, some dir⟩ []) := by
    rw [SnapshotStore.openAt_sound_eq_ok_iff]
    refine ⟨?_, ?_, rfl, rfl⟩
    · simp [JournalReads, Replayed, hFresh]
    · simp [Intact, Compatible]
  exact ⟨_, _, hOpen, rfl, rfl,
    SnapshotStore.synced_of_openAt rfl hOpen hClean,
    inSequence_nil, by simp⟩

/- An ingest that is answered 201 keeps the invariant. -/
theorem Serving.created
    {env : CreateEnv}
    {post : CreatePost}
    {response : Response}
    (hSerde : C.serde.Lawful)
    (hHex : C.model.HexLaw)
    (h : Serving C dir store disk acks)
    (hCreate :
      createSnapshot C service env store post disk =
        (response, store', disk'))
    (hStatus : response.status = 201)
    (hClock : env.now.OnClock)
    (hCanonical :
      ∀ draft receipt,
        anchorDraft C service env.transport draft =
            .ok receipt →
          CanonicalReceipt receipt)
    (hInverts :
      ∀ record, store' = store.push record →
        C.serde.Inverts (record.toJournalJson C))
    (hCapacity : store.records.length < maxRecords) :
    Serving C dir store' disk' (acks ++ [response]) := by
  rcases createSnapshot_eq_created_iff.mp
      ⟨hCreate, hStatus⟩ with
    ⟨req, record, -, hRecord, hAppend, rfl⟩
  have hAppends := SnapshotStore.Appends.single hAppend
  have hStore : store' = store.push record :=
    hAppends.store_eq
  have hReplay : record.anchoring.Replayable := by
    rw [replayable_ingestRecord_iff hRecord]
    intro receipt summary hAccepted
    exact printable_of_canonicalReceipt
      (hCanonical _ receipt hAccepted.1) hAccepted.2
  have hDecodable : Decodable C record :=
    decodable_ingestRecord hHex hClock hRecord hReplay
      (hInverts record hStore)
  rcases fields_ingestRecord hRecord with ⟨hSeq, hId, -⟩
  have hInSequence :
      InSequence 0 (store.records ++ [record]) := by
    apply h.inSequence.append (by simpa using hCapacity)
    · rw [Nat.zero_add]
      exact hSeq
    · rw [hId, hSeq]
  have hSynced :=
    h.synced.appends hSerde h.journal hAppends
      (by simpa using hDecodable)
      (fun dir' _ => hInSequence.compatible dir')
  subst hStore
  refine ⟨h.journal, h.snapshotDir, hSynced, hInSequence, ?_⟩
  intro ack hAck
  rcases List.mem_append.mp hAck with hOld | hNew
  · rcases h.acknowledged ack hOld with ⟨r, hr, hAckEq⟩
    exact ⟨r, List.mem_append_left _ hr, hAckEq⟩
  · rw [List.mem_singleton.mp hNew]
    exact ⟨record, by simp [SnapshotStore.push], rfl⟩

/- A stopped service can be opened, a running one serves. -/
def Ready
    (C : Crates)
    (dir : String)
    (state : Option SnapshotStore)
    (disk : Disk)
    (acks : List Response) : Prop :=
  match state with
  | none =>
      ∃ store disk',
        SnapshotStore.openAt C .sound ⟨true, some dir⟩ disk =
            (.ok store, disk') ∧
          Serving C dir store disk' acks
  | some store => Serving C dir store disk acks

/- The invariant holds along every run. -/
theorem ServiceRun.ready
    {state : Option SnapshotStore}
    (hSerde : C.serde.Lawful)
    (hHex : C.model.HexLaw)
    (h : ServiceRun C service dir state disk acks) :
    Ready C dir state disk acks := by
  induction h with
  | fresh hFresh => exact serving_fresh hFresh
  | opened hRun hOpen ih =>
      rcases ih with ⟨store₁, disk₁, hOpen₁, hServing⟩
      rw [hOpen] at hOpen₁
      cases hOpen₁
      exact hServing
  | created hRun hCreate hStatus hClock hCanonical hInverts
      hCapacity ih =>
      exact Serving.created hSerde hHex ih hCreate hStatus
        hClock hCanonical hInverts hCapacity
  | stopped hRun ih =>
      exact ⟨_, _, Serving.openAt ih, ih⟩

end UnidppArchive

------------------------------------------------------------
-- Byte-Identical Serving
------------------------------------------------------------

namespace UnidppArchive

open Json

variable {C : Crates}
variable {service : Service C}
variable {dir : String}
variable {disk : Disk}
variable {acks : List Response}

/-
  In every run each open succeeds, and each acknowledged
  snapshot is served with the body and the entity tag of its
  acknowledgement, which its file holds too.
-/
theorem served_byte_identically
    (hSerde : C.serde.Lawful)
    (hHex : C.model.HexLaw) :
    (∀ disk acks,
      ServiceRun C service dir none disk acks →
        ∃ store disk',
          SnapshotStore.openAt C .sound ⟨true, some dir⟩ disk =
            (.ok store, disk')) ∧
      ∀ store disk acks,
        ServiceRun C service dir (some store) disk acks →
          ∀ ack ∈ acks, ∃ id,
            ack.header? "x-snapshot-id" = some id ∧
              disk.files (snapshotPath dir id) =
                some (Utf8.encode ack.body) ∧
              ∀ now,
                (getSnapshot C store now id).status = 200 ∧
                  (getSnapshot C store now id).body =
                    ack.body ∧
                  (getSnapshot C store now id).header? "etag" =
                    ack.header? "etag" := by
  constructor
  · intro disk acks hRun
    rcases hRun.ready hSerde hHex with
      ⟨store, disk', hOpen, -⟩
    exact ⟨store, disk', hOpen⟩
  · intro store disk acks hRun ack hAck
    have hServing : Serving C dir store disk acks :=
      hRun.ready hSerde hHex
    rcases hServing.acknowledged ack hAck with
      ⟨r, hMem, rfl⟩
    refine ⟨r.snapshotId, snapshotId_createdResponse C r, ?_,
      ?_⟩
    · exact hServing.synced.files dir hServing.snapshotDir r
        hMem
    · intro now
      rw [getSnapshot_of_mem hServing.inSequence hMem]
      exact ⟨rfl, rfl, rfl⟩

end UnidppArchive

------------------------------------------------------------
-- A Sample Run
------------------------------------------------------------

namespace UnidppArchive

namespace Reference

open Json

theorem canonicalReceipt_someReceipt :
    CanonicalReceipt someReceipt := by
  intro s hText
  have hLoggedAt :
      someReceipt.get? "logged_at" =
        some (.string "2026-09-07T10:00:00Z") := by
    simp [someReceipt, receipt]
  rw [hLoggedAt, Option.some.injEq, Value.string.injEq] at hText
  rw [← hText]
  unfold Timestamp.CanonicalForm
  decide

/- A run that acknowledged an anchored snapshot and stopped. -/
theorem exists_serviceRun :
    ∃ disk ack,
      ServiceRun crates (withLog someLog) "snapshots" none disk
          [ack] ∧
        ack.header? "x-anchored-receipt" = some "7" := by
  have hFresh :
      ServiceRun crates (withLog someLog) "snapshots" none
        (diskOf none) [] :=
    ServiceRun.fresh rfl
  have hOpened :
      ServiceRun crates (withLog someLog) "snapshots"
        (some emptyFiled) (diskOf (some [])) [] :=
    ServiceRun.opened hFresh rfl
  have hToken : (withLog someLog).adminToken = none := rfl
  rcases exists_created hToken receiptReply emptyFiled
      (diskOf (some [])) with
    ⟨r, hRecord, hCreated, hStatus⟩
  have hOutcome :
      r.anchoring.status = .anchored ∧
        r.anchoring.receiptSeq = some 7 := by
    rw [anchoring_ingestRecord hRecord,
      anchorDraft_receiptReply]
    simp only [anchoringOutcome, someReceipt,
      summary_working_day]
    exact ⟨rfl, rfl⟩
  have hReceipt :
      (createdResponse crates r).header?
          "x-anchored-receipt" =
        some "7" := by
    unfold createdResponse
    rw [hOutcome.1, hOutcome.2]
    rfl
  refine ⟨_, createdResponse crates r,
    (ServiceRun.created hOpened hCreated hStatus
      ⟨by decide, by decide⟩ ?_ (fun _ _ => inverts_serde _)
      (by decide)).stopped, hReceipt⟩
  intro draft receipt hAnswer
  rw [anchorDraft_receiptReply, Except.ok.injEq] at hAnswer
  rw [← hAnswer]
  exact canonicalReceipt_someReceipt

end Reference

open Reference in
/- An anchored snapshot, served by the next process. -/
theorem served_byte_identically_sample :
    ∃ stopped store disk ack id,
      ServiceRun crates (withLog someLog) "snapshots" none
          stopped [ack] ∧
        SnapshotStore.openAt crates .sound
            ⟨true, some "snapshots"⟩ stopped =
          (.ok store, disk) ∧
        ack.header? "x-anchored-receipt" = some "7" ∧
        ack.header? "x-snapshot-id" = some id ∧
        disk.files (snapshotPath "snapshots" id) =
          some (Utf8.encode ack.body) ∧
        ∀ now,
          (getSnapshot crates store now id).status = 200 ∧
            (getSnapshot crates store now id).body =
              ack.body ∧
            (getSnapshot crates store now id).header? "etag" =
              ack.header? "etag" := by
  rcases exists_serviceRun with
    ⟨stopped, ack, hRun, hAnchored⟩
  rcases (served_byte_identically lawful_serde hexLaw).1
      stopped [ack] hRun with
    ⟨store, disk, hOpen⟩
  have hOpened := hRun.opened hOpen
  rcases (served_byte_identically lawful_serde hexLaw).2 store
      disk [ack] hOpened ack (by simp) with
    ⟨id, hId, hFile, hServed⟩
  exact ⟨stopped, store, disk, ack, id, hRun, hOpen, hAnchored,
    hId, hFile, hServed⟩

end UnidppArchive
