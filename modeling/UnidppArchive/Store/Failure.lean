import UnidppArchive.Store.Ingested

/-
  Failed appends.

  The three effects of an append are not undone.  A failure
  before the first octet of the journal line leaves the
  archive as it was; after it, the fragment or the whole
  line stays in the journal, and the sequence number that it
  used is used again.

  Key definitions include:
    * `Unwritten`
    * `SoundRun`
    * `Recovers`

  Key theorems include:
    * `SoundRun.synced`
    * `not_replays_after_kept`
    * `failed_append_recovers`
-/

------------------------------------------------------------
-- Runs Whose Failures Wrote Nothing
------------------------------------------------------------

namespace UnidppArchive

/-
  The append fails before an octet of its line is written:
  the record is refused, or the first write is.
-/
def Unwritten
    (C : Crates)
    (store : SnapshotStore)
    (io : AppendIo)
    (record : SnapshotRecord) : Prop :=
  ¬ Admits C store.records record ∨
    io.journal.kept (journalEntry C record) = []

/-
  Runs of a store that is opened on a clean journal and then
  takes decodable records.  An append that fails has written
  nothing.
-/
inductive SoundRun
    (C : Crates)
    (paths : StorePaths) : SnapshotStore → Disk → Prop where
  | opened
      {store : SnapshotStore}
      {disk disk' : Disk}
      (hClean : CleanJournal C disk)
      (hOpen :
        SnapshotStore.openAt C .sound paths disk =
          (.ok store, disk')) :
      SoundRun C paths store disk'
  | appended
      {store store' : SnapshotStore}
      {disk disk' : Disk}
      {io : AppendIo}
      {record : SnapshotRecord}
      (hRun : SoundRun C paths store disk)
      (hDecodable : Decodable C record)
      (hCompatible :
        ∀ dir, paths.snapshotDir = some dir →
          Compatible C dir (store.records ++ [record]))
      (hAppend :
        store.appendSnapshot C io record disk =
          (.ok (), store', disk')) :
      SoundRun C paths store' disk'
  | failed
      {store store' : SnapshotStore}
      {disk disk' : Disk}
      {io : AppendIo}
      {record : SnapshotRecord}
      {e : StoreError}
      (hRun : SoundRun C paths store disk)
      (hUnwritten : Unwritten C store io record)
      (hAppend :
        store.appendSnapshot C io record disk =
          (.error e, store', disk')) :
      SoundRun C paths store' disk'

namespace SoundRun

variable {C : Crates}
variable {paths : StorePaths}
variable {store store' : SnapshotStore}
variable {disk disk' : Disk}
variable {io : AppendIo}
variable {record : SnapshotRecord}
variable {e : StoreError}

/- A failure that wrote nothing changes nothing. -/
theorem unchanged_of_unwritten
    {b : Bytes}
    (hJournal : store.journal = true)
    (hDisk : disk.journal = some b)
    (hUnwritten : Unwritten C store io record)
    (hAppend :
      store.appendSnapshot C io record disk =
        (.error e, store', disk')) :
    store' = store ∧ disk' = disk := by
  rcases SnapshotStore.appendSnapshot_eq_error hJournal hAppend
    with ⟨hStore, hRefused | hCut | hFile⟩
  · exact ⟨hStore, hRefused.2⟩
  · rcases hCut with ⟨hAdmits, -, rfl⟩
    rcases hUnwritten with hRefused | hKept
    · exact (hRefused hAdmits).elim
    · refine ⟨hStore, ?_⟩
      rcases disk with ⟨journal, files⟩
      change journal = some b at hDisk
      subst hDisk
      simp [Disk.appendJournal, hKept]
  · rcases hFile with ⟨hAdmits, hDone, -⟩
    rcases hUnwritten with hRefused | hKept
    · exact (hRefused hAdmits).elim
    · rw [hDone] at hKept
      simp [WriteResult.kept, journalEntry] at hKept

/-
  Every store that is reached is synced with its disk.  The
  induction is on the run.
-/
theorem synced
    (hSerde : C.serde.Lawful)
    (hJournal : paths.journal = true)
    (h : SoundRun C paths store disk) :
    store.paths = paths ∧ SnapshotStore.Synced C store disk := by
  induction h with
  | opened hClean hOpen =>
      rcases SnapshotStore.openAt_sound_eq_ok_iff.mp hOpen with
        ⟨-, -, hStore, -⟩
      refine ⟨by rw [hStore]; rfl, ?_⟩
      exact SnapshotStore.synced_of_openAt hJournal hOpen
        hClean
  | @appended store store' disk disk' io record hRun
      hDecodable hCompatible hAppend ih =>
      rcases ih with ⟨rfl, hSynced⟩
      have hAppends := SnapshotStore.Appends.single hAppend
      refine ⟨by rw [hAppends.store_eq]; rfl, ?_⟩
      exact hSynced.appends hSerde hJournal hAppends
        (by simpa using hDecodable) hCompatible
  | failed hRun hUnwritten hAppend ih =>
      rcases ih with ⟨rfl, hSynced⟩
      rcases hSynced.journal with ⟨b, hDisk, -, -⟩
      rcases unchanged_of_unwritten hJournal hDisk hUnwritten
        hAppend with ⟨rfl, rfl⟩
      exact ⟨rfl, hSynced⟩

end SoundRun

end UnidppArchive

------------------------------------------------------------
-- Failures That Wrote
------------------------------------------------------------

namespace UnidppArchive

variable {C : Crates}
variable {store : SnapshotStore}
variable {disk₁ disk₂ : Disk}
variable {records : List SnapshotRecord}
variable {record : SnapshotRecord}

/- No record has its own number as the next one. -/
theorem not_admits_succ
    (hAdmits : Admits C records record) :
    ¬ Admits C (records ++ [record]) record := by
  intro hNext
  have hNat := congrArg UInt64.toNat
    (hAdmits.1.symm.trans hNext.1)
  simp only [UInt64.toNat_ofNat', List.length_append,
    List.length_singleton] at hNat
  omega

/- A line after a fragment of itself is no record. -/
theorem not_record_after_fragment
    (hSerde : C.serde.Lawful)
    {kept lost : Bytes}
    (hLine : journalLine C record = kept ++ lost)
    (hSome : kept ≠ [])
    (r : SnapshotRecord) :
    lineVerdict C (kept ++ journalLine C record) ≠
      .record r := by
  intro hRecord
  rcases exists_journalLine_eq hSerde record with
    ⟨tail, hTail⟩
  by_cases hValid : Utf8.Valid (kept ++ journalLine C record)
  · rw [hTail] at hValid
    rcases Utf8.valid_iff.mp
        (hValid.of_append_ascii (by decide)) with ⟨s, rfl⟩
    have hBrace : (123 : UInt8) ∈ Utf8.encode s := by
      rcases List.exists_cons_of_ne_nil hSome with
        ⟨b, bs, hKept⟩
      rw [hTail, hKept, List.cons_append,
        List.cons.injEq] at hLine
      simp [hKept, hLine.1]
    rcases exists_mem_of_brace hBrace with ⟨c, hMem, hSpace⟩
    rw [lineVerdict_append_journalLine hSerde
      (Text.trim_ne_empty_of_mem hMem hSpace)] at hRecord
    cases hRecord
  · rw [lineVerdict_of_not_valid hValid] at hRecord
    cases hRecord

/-
  An entry after what was kept of it does not replay to its
  record alone: a fragment spoils the line, and a whole line
  has taken its sequence number.
-/
theorem not_replays_after_kept
    (hSerde : C.serde.Lawful)
    (hAdmits : Admits C records record)
    (hDecodable : Decodable C record)
    {kept lost : Bytes}
    (hKept : journalEntry C record = kept ++ lost)
    (hSome : kept ≠ []) :
    ¬ Replay.Replays (lineVerdict C) (Admits C) records
      (Lines.lines (kept ++ journalEntry C record))
      (records ++ [record]) := by
  intro hReplays
  rcases List.eq_nil_or_concat lost with rfl | ⟨cut, b, rfl⟩
  · rw [List.append_nil] at hKept
    rw [← hKept, journalEntry, List.append_assoc,
      List.singleton_append, lines_entry_append hSerde,
      lines_entry_append hSerde,
      Replay.replays_cons_record_iff hDecodable.lineVerdict,
      Replay.replays_cons_record_iff hDecodable.lineVerdict]
      at hReplays
    exact not_admits_succ hAdmits hReplays.2.1
  · rw [journalEntry, List.concat_eq_append,
      ← List.append_assoc] at hKept
    rcases List.append_inj' hKept rfl with ⟨hLine, -⟩
    have hNewline : (10 : UInt8) ∉ kept := by
      intro hMem
      apply not_mem_journalLine hSerde (b := 10) (by decide)
        (r := record)
      rw [hLine]
      simp [hMem]
    rw [journalEntry, ← List.append_assoc,
      lines_open_append_entry hSerde hNewline,
      Lines.lines_nil, Replay.replays_singleton_iff]
      at hReplays
    rcases hReplays with ⟨r, hRecord, -, -⟩ | ⟨-, hEq⟩
    · exact not_record_after_fragment hSerde hLine hSome r
        hRecord
    · simp at hEq

end UnidppArchive

------------------------------------------------------------
-- Recovery After a Failure
------------------------------------------------------------

namespace UnidppArchive

/-
  After any later appends of decodable records, the next
  open yields the records of the store.
-/
def Recovers
    (C : Crates)
    (store : SnapshotStore)
    (disk : Disk) : Prop :=
  ∀ rs store' disk',
    SnapshotStore.Appends C store disk rs store' disk' →
      (∀ r ∈ rs, Decodable C r) →
        (∀ dir, store.snapshotDir = some dir →
          Compatible C dir (store.records ++ rs)) →
          ∃ store'' disk'',
            SnapshotStore.openAt C .sound store.paths disk' =
                (.ok store'', disk'') ∧
              store''.records = store'.records

variable {C : Crates}
variable {paths : StorePaths}
variable {store store' : SnapshotStore}
variable {disk disk' : Disk}
variable {io : AppendIo}
variable {record : SnapshotRecord}
variable {e : StoreError}

theorem SnapshotStore.Synced.recovers
    (hSerde : C.serde.Lawful)
    (hJournal : store.journal = true)
    (h : store.Synced C disk) :
    Recovers C store disk := by
  intro rs store' disk' hAppends hDecodable hCompatible
  have hSynced :=
    h.appends hSerde hJournal hAppends hDecodable hCompatible
  have hStore := hAppends.store_eq
  refine ⟨store', disk', ?_, rfl⟩
  have hPaths : store.paths = store'.paths := by
    rw [hStore]
    rfl
  rw [hPaths]
  apply hSynced.openAt
  rw [hStore]
  exact hJournal

/- What a failure that wrote leaves in the journal. -/
theorem journal_of_written
    {b : Bytes}
    (hJournal : store.journal = true)
    (hDisk : disk.journal = some b)
    (hWritten : ¬ Unwritten C store io record)
    (hAppend :
      store.appendSnapshot C io record disk =
        (.error e, store', disk')) :
    store' = store ∧
      disk'.journal =
        some (b ++ io.journal.kept (journalEntry C record)) := by
  rw [Unwritten, not_or, not_not] at hWritten
  rcases SnapshotStore.appendSnapshot_eq_error hJournal hAppend
    with ⟨hStore, hRefused | hCut | hFile⟩
  · exact (hRefused.1 hWritten.1).elim
  · rcases hCut with ⟨-, -, rfl⟩
    exact ⟨hStore, by simp [hDisk]⟩
  · rcases hFile with ⟨-, hDone, dir, rfl⟩
    exact ⟨hStore, by simp [hDisk, hDone]⟩

/-
  The same record is then appended, and the records of the
  store are not read back.
-/
theorem retry_is_not_read_back
    (hSerde : C.serde.Lawful)
    (hJournal : store.journal = true)
    (hSynced : store.Synced C disk)
    (hDecodable : Decodable C record)
    (hWritten : ¬ Unwritten C store io record)
    (hAppend :
      store.appendSnapshot C io record disk =
        (.error e, store', disk')) :
    ∃ disk₁,
      SnapshotStore.Appends C store' disk' [record]
          (store.push record) disk₁ ∧
        ¬ ∃ store₂ disk₂,
          SnapshotStore.openAt C .sound store.paths disk₁ =
              (.ok store₂, disk₂) ∧
            store₂.records = (store.push record).records := by
  rcases hSynced.journal with ⟨b, hDisk, hEnd, hAccepted⟩
  rcases journal_of_written hJournal hDisk hWritten hAppend
    with ⟨rfl, hKept⟩
  rw [Unwritten, not_or, not_not] at hWritten
  have hAgain :
      store'.appendSnapshot C .sound record disk' =
        (.ok (), store'.push record,
          store'.recorded C record disk') :=
    SnapshotStore.appendSnapshot_eq_ok_iff.mpr
      ⟨hWritten.1, fun _ => rfl, fun _ => rfl, rfl, rfl⟩
  have hAppends := SnapshotStore.Appends.single hAgain
  refine ⟨_, hAppends, ?_⟩
  rintro ⟨store₂, disk₂, hOpen, hRecords⟩
  rcases SnapshotStore.openAt_sound_eq_ok_iff.mp hOpen with
    ⟨hReads, -, -, -⟩
  have hText := hAppends.journal_eq hJournal
  rw [hKept, Option.getD_some] at hText
  simp only [JournalReads, SnapshotStore.paths, hJournal,
    if_true, hText, hRecords, Replayed, journalText,
    List.flatMap_cons, List.flatMap_nil, List.append_nil,
    List.append_assoc, SnapshotStore.push] at hReads
  rw [Lines.lines_append_of_terminated hEnd,
    Replay.replays_append_iff hAccepted] at hReads
  rcases io.journal.exists_kept_append (journalEntry C record)
    with ⟨lost, hLost⟩
  exact not_replays_after_kept hSerde hWritten.1 hDecodable
    hLost hWritten.2 hReads

/-
  After a failed append in such a run the archive recovers
  when nothing was written.  When an octet of a decodable
  record was written, it does not.
-/
theorem failed_append_recovers
    (hSerde : C.serde.Lawful)
    (hJournal : paths.journal = true)
    (hRun : SoundRun C paths store disk)
    (hAppend :
      store.appendSnapshot C io record disk =
        (.error e, store', disk')) :
    (Unwritten C store io record → Recovers C store' disk') ∧
      (¬ Unwritten C store io record → Decodable C record →
        (∀ dir, paths.snapshotDir = some dir →
          Compatible C dir (store.records ++ [record])) →
          ¬ Recovers C store' disk') := by
  rcases hRun.synced hSerde hJournal with ⟨rfl, hSynced⟩
  constructor
  · intro hUnwritten
    rcases hSynced.journal with ⟨b, hDisk, -, -⟩
    rcases SoundRun.unchanged_of_unwritten hJournal hDisk
      hUnwritten hAppend with ⟨rfl, rfl⟩
    exact hSynced.recovers hSerde hJournal
  · intro hWritten hDecodable hCompatible hRecovers
    rcases hSynced.journal with ⟨b, hDisk, -, -⟩
    rcases retry_is_not_read_back hSerde hJournal hSynced
      hDecodable hWritten hAppend with
      ⟨disk₁, hAppends, hLost⟩
    rcases journal_of_written hJournal hDisk hWritten hAppend
      with ⟨rfl, -⟩
    exact hLost (hRecovers _ _ _ hAppends
      (by simpa using hDecodable) hCompatible)

end UnidppArchive

------------------------------------------------------------
-- Failures of a Sample Store
------------------------------------------------------------

namespace UnidppArchive

namespace Reference

/- The journal is written, the archival copy is not. -/
def fullDisk : AppendIo :=
  ⟨.done, .refused "No space left on device (os error 28)"⟩

/- Nothing is written. -/
def refusedJournal : AppendIo :=
  ⟨.refused "No space left on device (os error 28)", .done⟩

theorem soundRun_absent :
    SoundRun crates journalAndFiles emptyFiled
      (diskOf (some [])) := by
  have hClean : CleanJournal crates (diskOf none) := by
    simp [CleanJournal, diskOf]
  exact SoundRun.opened hClean rfl

/- A failed write is reported. -/
theorem append_fails
    (io : AppendIo)
    (hFails : io ≠ .sound)
    (r : SnapshotRecord)
    (disk : Disk) :
    ∃ e disk',
      emptyFiled.appendSnapshot crates io r disk =
        (.error e, emptyFiled, disk') := by
  cases hResult : emptyFiled.appendSnapshot crates io r disk
    with
  | mk result rest =>
      rcases rest with ⟨store', disk'⟩
      cases result with
      | error e =>
          have hStore :=
            (SnapshotStore.appendSnapshot_eq_error rfl
              hResult).1
          exact ⟨e, disk', by rw [hStore]⟩
      | ok u =>
          rcases SnapshotStore.appendSnapshot_eq_ok_iff.mp
              hResult with ⟨-, hJournal, hFile, -, -⟩
          have hDone : io.journal = .done := hJournal rfl
          have hCopied : io.snapshotFile = .done :=
            hFile (by simp [emptyFiled])
          rcases io with ⟨journal, snapshotFile⟩
          cases hDone
          cases hCopied
          exact (hFails rfl).elim

end Reference

open Reference in
/- A full disk at the first octet of the journal line. -/
theorem failed_append_recovers_refused :
    ∃ r e disk',
      emptyFiled.appendSnapshot crates refusedJournal r
          (diskOf (some [])) = (.error e, emptyFiled, disk') ∧
        Unwritten crates emptyFiled refusedJournal r ∧
        Recovers crates emptyFiled disk' := by
  rcases exists_record 0 request unreachable with
    ⟨r, hRecord⟩
  rcases append_fails refusedJournal (by decide) r
      (diskOf (some [])) with ⟨e, disk', hAppend⟩
  have hUnwritten :
      Unwritten crates emptyFiled refusedJournal r :=
    Or.inr rfl
  exact ⟨r, e, disk', hAppend, hUnwritten,
    (failed_append_recovers lawful_serde rfl soundRun_absent
      hAppend).1 hUnwritten⟩

open Reference in
/- A full disk at the archival copy. -/
theorem failed_copy_is_not_read_back :
    ∃ r e disk' store₁ disk₁,
      ingestRecord crates notary 0 now request unreachable =
          .ok r ∧
        emptyFiled.appendSnapshot crates fullDisk r
          (diskOf (some [])) = (.error e, emptyFiled, disk') ∧
        SnapshotStore.Appends crates emptyFiled disk' [r]
          store₁ disk₁ ∧
        ¬ ∃ store₂ disk₂,
          SnapshotStore.openAt crates .sound journalAndFiles
              disk₁ = (.ok store₂, disk₂) ∧
            store₂.records = store₁.records := by
  rcases exists_record 0 request unreachable with
    ⟨r, hRecord⟩
  rcases append_fails fullDisk (by decide) r
      (diskOf (some [])) with ⟨e, disk', hAppend⟩
  have hWritten :
      ¬ Unwritten crates emptyFiled fullDisk r := by
    rw [Unwritten, not_or, not_not]
    refine ⟨admits_ingestRecord hRecord rfl, ?_⟩
    simp [fullDisk, WriteResult.kept, journalEntry]
  rcases retry_is_not_read_back lawful_serde rfl
      (soundRun_absent.synced lawful_serde rfl).2
      (decodable_sample hRecord) hWritten hAppend with
    ⟨disk₁, hAppends, hLost⟩
  exact ⟨r, e, disk', _, disk₁, hRecord, hAppend, hAppends,
    hLost⟩

end UnidppArchive
