import UnidppArchive.Store.Invariant
import UnidppArchive.Store.Tampering

/-
  Archival copies over whole runs.

  A run starts store processes over one snapshot directory,
  with or without a journal and whatever the journal holds,
  ingests snapshots, and stops or crashes anywhere.  A copy
  is lost when a store that has forgotten its snapshot hands
  out the number again; otherwise it stays as it is.

  Key definitions include:
    * `Archive`
    * `Archive.Event`
    * `Archive.step`
    * `Archive.Holds`
    * `Archive.Careful`

  Key theorems include:
    * `SnapshotStore.files_appendSnapshot`
    * `Archive.holds_step`
    * `acknowledged_copies_kept`
-/

------------------------------------------------------------
-- Archives and Their Runs
------------------------------------------------------------

namespace UnidppArchive

/-
  The process that is running, if any, the disk, and the
  snapshots whose ingest was acknowledged.
-/
structure Archive where
  store : Option SnapshotStore
  disk : Disk
  acked : List SnapshotRecord

namespace Archive

/-
  The next process is configured with a journal of some
  content; a process is started; a request is ingested; the
  process stops or crashes.
-/
inductive Event where
  | configure (journal : Option Bytes)
  | start (io : OpenIo) (journal files : Bool)
  | ingest
      (now : Timestamp) (req : CreateRequest)
      (answer : Except String Json.Value) (io : AppendIo)
  | crash

/- A disk, before the first process. -/
def initial
    (disk : Disk) : Archive :=
  ⟨none, disk, []⟩

variable (C : Crates)
variable (notary : C.signatif.KeyPair)
variable (dir : String)

def step
    (s : Archive) :
    Event → Archive
| .configure journal =>
    ⟨none, { s.disk with journal := journal }, s.acked⟩
| .start io journal files =>
    let paths := ⟨journal, if files then some dir else none⟩
    match SnapshotStore.openAt C io paths s.disk with
    | (.error _, disk) => ⟨none, disk, s.acked⟩
    | (.ok store, disk) => ⟨some store, disk, s.acked⟩
| .ingest now req answer io =>
    match s.store with
    | none => s
    | some store =>
        let (seq, notarizedAt) := store.reserve now
        match
          ingestRecord C notary seq notarizedAt req answer with
        | .error _ => s
        | .ok record =>
            match store.appendSnapshot C io record s.disk with
            | (.error _, store, disk) =>
                ⟨some store, disk, s.acked⟩
            | (.ok (), store, disk) =>
                ⟨some store, disk, s.acked ++ [record]⟩
| .crash => { s with store := none }

/- The events, one after the other. -/
def run
    (s : Archive)
    (es : List Event) : Archive :=
  es.foldl (step C notary dir) s

/- The directory has the complete copy of a snapshot. -/
def Holds
    (s : Archive)
    (r : SnapshotRecord) : Prop :=
  r ∈ s.acked ∧
    s.disk.files (snapshotPath dir r.snapshotId) =
      some (r.bodyBytes C)

/-
  The copies that are there can be read when a process
  starts, and no number of theirs is handed out again.
-/
def Careful
    (s : Archive) :
    Event → Prop
| .start io _ files =>
    files = true →
      ∀ r, Holds C dir s r →
        io.unreadable (snapshotPath dir r.snapshotId) = false
| .ingest _ _ _ _ =>
    ∀ store, s.store = some store →
      store.snapshotDir ≠ none →
        ∀ r, Holds C dir s r → r.seq ≠ store.size
| _ => True

/- Every event of the run is careful. -/
def CarefulRun
    (s : Archive) :
    List Event → Prop
| [] => True
| e :: es =>
    Careful C dir s e ∧
      CarefulRun (step C notary dir s e) es

end Archive

end UnidppArchive

------------------------------------------------------------
-- Steps
------------------------------------------------------------

namespace UnidppArchive

variable {C : Crates}

/- An append writes no file but that of its record. -/
theorem SnapshotStore.files_appendSnapshot
    {store : SnapshotStore}
    {record : SnapshotRecord}
    {path : String}
    (io : AppendIo)
    (disk : Disk)
    (hOther :
      ∀ dir, store.snapshotDir = some dir →
        path ≠ snapshotPath dir record.snapshotId) :
    (store.appendSnapshot C io record disk).2.2.files path =
      disk.files path := by
  have hJournal :
      (store.writeJournal C io record disk).2.files =
        disk.files := by
    unfold writeJournal
    split
    · cases io.journal.error? <;> rfl
    · rfl
  have hFile (disk₁ : Disk) :
      (store.writeSnapshotFile C io record disk₁).2.files
          path =
        disk₁.files path := by
    unfold writeSnapshotFile
    cases hDir : store.snapshotDir with
    | none => rfl
    | some dir =>
        have hPath := hOther dir hDir
        cases io.snapshotFile with
        | refused e => rfl
        | done => exact Function.update_of_ne hPath _ _
        | cut n e => exact Function.update_of_ne hPath _ _
  unfold appendSnapshot
  split
  · rfl
  · split
    · rename_i hLine
      rw [hLine] at hJournal
      exact congrFun hJournal path
    · rename_i disk₁ hLine
      rw [hLine] at hJournal
      have hKept : disk₁.files path = disk.files path :=
        congrFun hJournal path
      have hCopy := (hFile disk₁).trans hKept
      split <;>
      · rename_i hResult
        rw [hResult] at hCopy
        exact hCopy

/- Without a directory an open writes no snapshot file. -/
theorem SnapshotStore.files_openAt_none
    (io : OpenIo)
    (journal : Bool)
    (disk : Disk)
    {path : String}
    (hThere : disk.files path ≠ none) :
    (SnapshotStore.openAt C io ⟨journal, none⟩ disk).2.files
        path =
      disk.files path := by
  have hSame :
      SnapshotStore.openAt C io ⟨journal, none⟩ disk =
        SnapshotStore.openAt C
          { io with unreadable := fun _ => false }
          ⟨journal, none⟩ disk :=
    rfl
  rw [hSame]
  exact (SnapshotStore.openAt_spared _ _ disk).2 path rfl
    hThere

/- An append keeps the directory of its store. -/
theorem SnapshotStore.snapshotDir_appendSnapshot
    (store : SnapshotStore)
    (io : AppendIo)
    (record : SnapshotRecord)
    (disk : Disk) :
    (store.appendSnapshot C io record disk).2.1.snapshotDir =
      store.snapshotDir := by
  rcases appendSnapshot_cases C store io record disk with
    ⟨-, -, hStore⟩ | ⟨-, hStore⟩
  · rw [hStore]
    rfl
  · rw [hStore]

namespace Archive

variable {notary : C.signatif.KeyPair}
variable {dir : String}
variable {s : Archive}
variable {r : SnapshotRecord}

/-
  A process uses the directory of the run or none, and the
  snapshots have the identifiers of their numbers.
-/
structure Numbered
    (dir : String)
    (s : Archive) : Prop where
  directory :
    ∀ store, s.store = some store →
      ∀ dir', store.snapshotDir = some dir' → dir' = dir
  issued : ∀ r ∈ s.acked, r.snapshotId = snapshotIdOf r.seq

theorem numbered_initial
    (disk : Disk) :
    Numbered dir (initial disk) := by
  constructor
  · intro store hStore
    cases hStore
  · intro r hr
    cases hr

/- What an ingest makes of a running process. -/
theorem step_ingest
    {store : SnapshotStore}
    {now : Timestamp}
    {req : CreateRequest}
    {answer : Except String Json.Value}
    {record : SnapshotRecord}
    (io : AppendIo)
    (hStore : s.store = some store)
    (hRecord :
      ingestRecord C notary store.size now req answer =
        .ok record) :
    step C notary dir s (.ingest now req answer io) =
      ⟨some (store.appendSnapshot C io record s.disk).2.1,
        (store.appendSnapshot C io record s.disk).2.2,
        if (store.appendSnapshot C io record s.disk).1 =
            .ok () then
          s.acked ++ [record]
        else
          s.acked⟩ := by
  simp only [step, hStore, SnapshotStore.reserve, hRecord]
  rcases store.appendSnapshot C io record s.disk with
    ⟨e | u, store', disk'⟩ <;> simp

/- The cases of an ingest: nothing happens, or an append. -/
theorem step_ingest_cases
    (C : Crates)
    (notary : C.signatif.KeyPair)
    (dir : String)
    (s : Archive)
    (now : Timestamp)
    (req : CreateRequest)
    (answer : Except String Json.Value)
    (io : AppendIo) :
    step C notary dir s (.ingest now req answer io) = s ∨
      ∃ store record,
        s.store = some store ∧
          ingestRecord C notary store.size now req answer =
            .ok record := by
  cases hStore : s.store with
  | none =>
      left
      simp [step, hStore]
  | some store =>
      cases hRecord :
          ingestRecord C notary store.size now req answer with
      | error e =>
          left
          simp [step, hStore, SnapshotStore.reserve, hRecord]
      | ok record =>
          right
          exact ⟨store, record, rfl, hRecord⟩

theorem numbered_step
    (h : Numbered dir s)
    (e : Event) :
    Numbered dir (step C notary dir s e) := by
  cases e with
  | configure journal => exact ⟨by simp [step], h.issued⟩
  | crash => exact ⟨by simp [step], h.issued⟩
  | start io journal files =>
      rcases hOpen : SnapshotStore.openAt C io
          ⟨journal, if files then some dir else none⟩
          s.disk with
        ⟨e | store, disk⟩
      · simp only [step, hOpen]
        exact ⟨by simp, h.issued⟩
      · simp only [step, hOpen]
        refine ⟨?_, h.issued⟩
        intro store' hStore dir' hDir
        cases hStore
        rw [(SnapshotStore.openAt_reads hOpen).2] at hDir
        cases files with
        | false => cases hDir
        | true => exact (Option.some.inj hDir).symm
  | ingest now req answer io =>
      rcases step_ingest_cases C notary dir s now req answer
          io with
        hSame | ⟨store, record, hStore, hRecord⟩
      · rw [hSame]
        exact h
      · rw [step_ingest io hStore hRecord]
        constructor
        · intro store' hStore' dir' hDir
          cases hStore'
          rw [SnapshotStore.snapshotDir_appendSnapshot] at hDir
          exact h.directory store hStore dir' hDir
        · intro q hq
          have hAcked : q ∈ s.acked ∨ q = record := by
            simp only at hq
            split at hq
            · simpa using hq
            · exact Or.inl hq
          rcases hAcked with hOld | rfl
          · exact h.issued q hOld
          · rw [(fields_ingestRecord hRecord).2.1,
              (fields_ingestRecord hRecord).1]

/- A careful step keeps the copies that are complete. -/
theorem holds_step
    (h : Numbered dir s)
    (hHolds : Holds C dir s r)
    {e : Event}
    (hCareful : Careful C dir s e) :
    Holds C dir (step C notary dir s e) r := by
  rcases hHolds with ⟨hAcked, hCopy⟩
  cases e with
  | configure journal => exact ⟨hAcked, hCopy⟩
  | crash => exact ⟨hAcked, hCopy⟩
  | start io journal files =>
      have hThere :
          s.disk.files (snapshotPath dir r.snapshotId) ≠
            none := by
        rw [hCopy]
        simp
      have hKept :
          (SnapshotStore.openAt C io
            ⟨journal, if files then some dir else none⟩
            s.disk).2.files (snapshotPath dir r.snapshotId) =
              some (r.bodyBytes C) := by
        rw [← hCopy]
        cases files with
        | false =>
            exact SnapshotStore.files_openAt_none io journal
              s.disk hThere
        | true =>
            exact (SnapshotStore.openAt_spared io _ s.disk).2 _
              (hCareful rfl r ⟨hAcked, hCopy⟩) hThere
      rcases hOpen : SnapshotStore.openAt C io
          ⟨journal, if files then some dir else none⟩
          s.disk with
        ⟨e | store, disk⟩ <;>
      · rw [hOpen] at hKept
        simp only [step, hOpen]
        exact ⟨hAcked, hKept⟩
  | ingest now req answer io =>
      rcases step_ingest_cases C notary dir s now req answer
          io with
        hSame | ⟨store, record, hStore, hRecord⟩
      · rw [hSame]
        exact ⟨hAcked, hCopy⟩
      · rw [step_ingest io hStore hRecord]
        constructor
        · simp only
          split
          · exact List.mem_append_left _ hAcked
          · exact hAcked
        · simp only
          rw [SnapshotStore.files_appendSnapshot io, hCopy]
          -- the number of the copy is not handed out again
          intro dir' hDir hPath
          cases h.directory store hStore dir' hDir
          have hSome : store.snapshotDir ≠ none := by
            rw [hDir]
            simp
          apply hCareful store hStore hSome r ⟨hAcked, hCopy⟩
          rw [h.issued r hAcked,
            (fields_ingestRecord hRecord).2.1] at hPath
          exact snapshotPath_snapshotIdOf hPath

end Archive

end UnidppArchive

------------------------------------------------------------
-- Runs
------------------------------------------------------------

namespace UnidppArchive

open Archive

variable {C : Crates}
variable {notary : C.signatif.KeyPair}
variable {dir : String}

theorem Archive.run_append
    (s : Archive)
    (es es' : List Event) :
    run C notary dir s (es ++ es') =
      run C notary dir (run C notary dir s es) es' :=
  List.foldl_append

theorem Archive.numbered_run
    {s : Archive}
    (h : Numbered dir s)
    (es : List Event) :
    Numbered dir (run C notary dir s es) := by
  induction es generalizing s with
  | nil => exact h
  | cons e es ih => exact ih (numbered_step h e)

theorem Archive.holds_run
    {s : Archive}
    {r : SnapshotRecord}
    (h : Numbered dir s)
    (hHolds : Holds C dir s r)
    {es : List Event}
    (hCareful : CarefulRun C notary dir s es) :
    Holds C dir (run C notary dir s es) r := by
  induction es generalizing s with
  | nil => exact hHolds
  | cons e es ih =>
      exact ih (numbered_step h e)
        (holds_step h hHolds hCareful.1) hCareful.2

/-
  From the moment when the directory has the complete copy
  of an acknowledged snapshot, the copy stays there through
  every careful continuation of the run.
-/
theorem acknowledged_copies_kept
    {disk : Disk}
    {es es' : List Event}
    {r : SnapshotRecord}
    (hHolds :
      Holds C dir (run C notary dir (initial disk) es) r)
    (hCareful :
      CarefulRun C notary dir
        (run C notary dir (initial disk) es) es') :
    (run C notary dir (initial disk)
        (es ++ es')).disk.files
          (snapshotPath dir r.snapshotId) =
      some (r.bodyBytes C) := by
  have hNumbered :
      Numbered dir (run C notary dir (initial disk) es) :=
    numbered_run (numbered_initial disk) es
  rw [run_append]
  exact (holds_run hNumbered hHolds hCareful).2

end UnidppArchive

------------------------------------------------------------
-- A Run over a Torn Journal
------------------------------------------------------------

namespace UnidppArchive

namespace Archive

variable {C : Crates}
variable {notary : C.signatif.KeyPair}
variable {dir : String}
variable {s : Archive}
variable {store store' : SnapshotStore}
variable {disk' : Disk}

/- A start and an ingest that succeed. -/
theorem run_start_ingest
    {now : Timestamp}
    {req : CreateRequest}
    {answer : Except String Json.Value}
    {record : SnapshotRecord}
    {io : OpenIo}
    {io' : AppendIo}
    {disk'' : Disk}
    (hOpen :
      SnapshotStore.openAt C io ⟨true, some dir⟩ s.disk =
        (.ok store, disk'))
    (hRecord :
      ingestRecord C notary store.size now req answer =
        .ok record)
    (hAppend :
      store.appendSnapshot C io' record disk' =
        (.ok (), store', disk'')) :
    run C notary dir s
        [.start io true true, .ingest now req answer io'] =
      ⟨some store', disk'', s.acked ++ [record]⟩ := by
  have hStart :
      step C notary dir s (.start io true true) =
        ⟨some store, disk', s.acked⟩ := by
    simp only [step, if_true, hOpen]
  simp only [run, List.foldl_cons, List.foldl_nil, hStart]
  rw [step_ingest io' rfl hRecord, hAppend]
  simp

theorem run_crash
    (es : List Event) :
    run C notary dir s (.crash :: es) =
      run C notary dir ⟨none, s.disk, s.acked⟩ es :=
  rfl

/- The files and the journal after an append. -/
theorem recorded_eq
    (C : Crates)
    (records : List SnapshotRecord)
    (dir : String)
    (r : SnapshotRecord)
    (b : Bytes)
    (files : String → Option Bytes) :
    (⟨records, true, some dir⟩ : SnapshotStore).recorded C r
        ⟨some b, files⟩ =
      ⟨some (b ++ journalEntry C r),
        Function.update files (snapshotPath dir r.snapshotId)
          (some (r.bodyBytes C))⟩ :=
  rfl

end Archive

namespace Reference

open Archive

/- A disk whose journal is one brace. -/
def tornDisk : Disk :=
  ⟨some [123], fun _ => none⟩

/- The disk after the first ingest. -/
def tornDiskAfter
    (r : SnapshotRecord) : Disk :=
  ⟨some ([123] ++ journalEntry crates r),
    Function.update (fun _ => none)
      (snapshotPath "snapshots" r.snapshotId)
      (some (r.bodyBytes crates))⟩

/- A torn journal is opened, and a snapshot is ingested. -/
theorem run_torn
    {r : SnapshotRecord}
    (hRecord :
      ingestRecord crates notary emptyFiled.size now request
        unreachable = .ok r) :
    run crates notary "snapshots" (initial tornDisk)
        [.start .sound true true,
          .ingest now request unreachable .sound] =
      ⟨some (emptyFiled.push r), tornDiskAfter r, [r]⟩ := by
  have hOpen :
      SnapshotStore.openAt crates .sound
          ⟨true, some "snapshots"⟩ tornDisk =
        (.ok emptyFiled, tornDisk) :=
    SnapshotStore.openAt_torn_line rfl rfl lineVerdict_brace
  have hAppend := append_sample emptyFiled hRecord tornDisk
  rw [emptyFiled, tornDisk, recorded_eq] at hAppend
  exact run_start_ingest (s := initial tornDisk) hOpen hRecord
    hAppend

/- The copy of the first snapshot is complete. -/
theorem holds_torn
    (r : SnapshotRecord) :
    Holds crates "snapshots"
      ⟨some (emptyFiled.push r), tornDiskAfter r, [r]⟩ r :=
  ⟨List.mem_singleton_self r, by
    simp only [tornDiskAfter, Function.update_self]⟩

end Reference

open Reference Archive

/- A second snapshot is ingested by the same process. -/
theorem acknowledged_copies_kept_torn :
    ∃ r,
      ingestRecord crates notary emptyFiled.size now request
          unreachable = .ok r ∧
        (run crates notary "snapshots" (initial tornDisk)
          ([.start .sound true true,
            .ingest now request unreachable .sound] ++
            [.ingest now accentedRequest unreachable .sound,
              .crash])).disk.files
                (snapshotPath "snapshots" r.snapshotId) =
          some (r.bodyBytes crates) := by
  rcases exists_record emptyFiled.size request unreachable
    with ⟨r, hRecord⟩
  refine ⟨r, hRecord, ?_⟩
  have hRun := run_torn hRecord
  apply acknowledged_copies_kept
  · rw [hRun]
    exact holds_torn r
  · rw [hRun]
    refine ⟨?_, trivial, trivial⟩
    intro store hStore _ q hHolds
    cases Option.some.inj hStore
    rw [List.mem_singleton.mp hHolds.1,
      (fields_ingestRecord hRecord).1]
    show UInt64.ofNat 0 ≠ UInt64.ofNat 1
    decide

/-
  The next process does not read the snapshot back, and its
  first ingest replaces the copy.
-/
theorem acknowledged_copy_is_replaced :
    ∃ r,
      Holds crates "snapshots"
          (run crates notary "snapshots" (initial tornDisk)
            [.start .sound true true,
              .ingest now request unreachable .sound]) r ∧
        (run crates notary "snapshots" (initial tornDisk)
          ([.start .sound true true,
            .ingest now request unreachable .sound] ++
            [.crash, .start .sound true true,
              .ingest now accentedRequest unreachable
                .sound])).disk.files
                (snapshotPath "snapshots" r.snapshotId) ≠
          some (r.bodyBytes crates) := by
  rcases exists_record emptyFiled.size request unreachable
    with ⟨r, hRecord⟩
  rcases exists_record emptyFiled.size accentedRequest
    unreachable with ⟨r', hRecord'⟩
  have hRun := run_torn hRecord
  refine ⟨r, ?_, ?_⟩
  · rw [hRun]
    exact holds_torn r
  · have hBrace : [123] = Utf8.encode "\x7b" := by
      decide +kernel
    have hLines :
        Lines.lines ([123] ++ journalEntry crates r) =
          [[123] ++ journalLine crates r] := by
      rw [journalEntry, ← List.append_assoc]
      exact lines_open_append_entry lawful_serde (by decide)
        r []
    have hTorn :
        lineVerdict crates ([123] ++ journalLine crates r) =
          .torn := by
      rw [hBrace]
      exact lineVerdict_append_journalLine lawful_serde
        (by decide +kernel) r
    have hOpen :
        SnapshotStore.openAt crates .sound
            ⟨true, some "snapshots"⟩ (tornDiskAfter r) =
          (.ok emptyFiled, tornDiskAfter r) :=
      SnapshotStore.openAt_torn_line rfl hLines hTorn
    have hId : r.snapshotId = r'.snapshotId := by
      rw [(fields_ingestRecord hRecord).2.1,
        (fields_ingestRecord hRecord').2.1]
    have hBody : r'.bodyBytes crates ≠ r.bodyBytes crates := by
      apply bodyBytes_ne_of_passportId
        (decodable_sample hRecord') (decodable_sample hRecord)
      rw [(fields_ingestRecord hRecord).2.2.2.1,
        (fields_ingestRecord hRecord').2.2.2.1]
      decide
    have hAppend :=
      append_sample emptyFiled hRecord' (tornDiskAfter r)
    rw [emptyFiled, tornDiskAfter, recorded_eq] at hAppend
    have hLast :=
      run_start_ingest (s := ⟨none, tornDiskAfter r, [r]⟩)
        hOpen hRecord' hAppend
    rw [run_append, hRun, run_crash, hLast, hId]
    simp only [Function.update_self]
    intro hSame
    exact hBody (Option.some.inj hSame)

end UnidppArchive
