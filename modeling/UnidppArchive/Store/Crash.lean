import UnidppArchive.Store.Failure

/-
  A crash while the archival copy is written.

  The journal line is complete.  A copy that is absent is
  written by the next open; a copy that was begun is a
  mismatch, on which the open stops without touching it.

  Key definitions include:
    * `Disk.crashed`

  Key theorems include:
    * `openAt_crashed_absent`
    * `openAt_crashed_begun`
    * `crashed_copy`
-/

------------------------------------------------------------
-- Verification After a Crash
------------------------------------------------------------

namespace UnidppArchive

/-
  The disk after the journal line of the record was written
  and its file was left as `copy`.
-/
def Disk.crashed
    (C : Crates)
    (dir : String)
    (record : SnapshotRecord)
    (copy : Option Bytes)
    (disk : Disk) : Disk :=
  let disk := disk.appendJournal .done (journalEntry C record)
  { disk with
    files := Function.update disk.files
      (snapshotPath dir record.snapshotId) copy }

/- The error of a file that differs from its record. -/
def mismatchError
    (path : String) : StoreError :=
  .journal
    s!"snapshot file {path} does not match the journaled record (tampered or stale)"

variable {C : Crates}
variable {dir : String}
variable {store : SnapshotStore}
variable {records : List SnapshotRecord}
variable {record : SnapshotRecord}
variable {disk : Disk}

/-
  Files that agree are passed over up to the one that
  differs.
-/
theorem verifySnapshotFiles_begun
    {t : Bytes}
    (hFile :
      disk.files (snapshotPath dir record.snapshotId) = some t)
    (hBody : t ≠ record.bodyBytes C)
    (hOthers :
      ∀ q ∈ records,
        (snapshotPath dir q.snapshotId =
            snapshotPath dir record.snapshotId ∧
          q.bodyBytes C = record.bodyBytes C) ∨
        disk.files (snapshotPath dir q.snapshotId) =
          some (q.bodyBytes C)) :
    verifySnapshotFiles C .sound dir (records ++ [record])
        disk =
      (.error (mismatchError
        (snapshotPath dir record.snapshotId)), disk) := by
  induction records with
  | nil =>
      exact verifySnapshotFiles_of_mismatch hFile hBody
  | cons q records ih =>
      rcases hOthers q (by simp) with ⟨hPath, hSame⟩ | hAgree
      · rw [← hPath] at hFile ⊢
        rw [← hSame] at hBody
        exact verifySnapshotFiles_of_mismatch hFile hBody
      · have hHead : FilesAgree C dir [q] disk := by
          intro p hp
          rw [List.mem_singleton.mp hp]
          exact hAgree
        rw [List.cons_append, ← List.singleton_append,
          verifySnapshotFiles_append hHead]
        exact ih (fun p hp => hOthers p (by simp [hp]))

end UnidppArchive

------------------------------------------------------------
-- Opening After a Crash
------------------------------------------------------------

namespace UnidppArchive

variable {C : Crates}
variable {dir : String}
variable {store : SnapshotStore}
variable {record : SnapshotRecord}
variable {disk : Disk}
variable {copy : Option Bytes}

/- The journal holds the record whatever became of its copy. -/
theorem journalReads_crashed
    (hSerde : C.serde.Lawful)
    (hSynced : store.Synced C disk)
    (hAdmits : Admits C store.records record)
    (hDecodable : Decodable C record) :
    JournalReads C ⟨true, some dir⟩
      (disk.crashed C dir record copy)
      (store.records ++ [record]) := by
  rcases hSynced.journal with ⟨b, hDisk, hEnd, hAccepted⟩
  have hText :
      (disk.crashed C dir record copy).journal.getD [] =
        b ++ journalText C [record] := by
    simp [Disk.crashed, hDisk, journalText, WriteResult.kept]
  simp only [JournalReads, if_true, Replayed, hText]
  rw [lines_append_journalText hSerde hEnd]
  apply Replay.Accepted.replays
  apply hAccepted.append
  rw [List.map_singleton, Replay.accepted_singleton_iff]
  exact ⟨record, hDecodable.lineVerdict, hAdmits, rfl⟩

/- The files of the other records are as they were. -/
theorem files_crashed_of_ne
    {q : SnapshotRecord}
    (hFiles : FilesAgree C dir store.records disk)
    (hMem : q ∈ store.records)
    (hPath : snapshotPath dir q.snapshotId ≠
      snapshotPath dir record.snapshotId) :
    (disk.crashed C dir record copy).files
        (snapshotPath dir q.snapshotId) =
      some (q.bodyBytes C) := by
  simp only [Disk.crashed, Disk.files_appendJournal,
    Function.update_of_ne hPath]
  exact hFiles q hMem

/- A missing copy is written again. -/
theorem openAt_crashed_absent
    (hSerde : C.serde.Lawful)
    (hSynced : store.Synced C disk)
    (hDir : store.snapshotDir = some dir)
    (hAdmits : Admits C store.records record)
    (hDecodable : Decodable C record)
    (hCompatible :
      Compatible C dir (store.records ++ [record])) :
    ∃ store' disk',
      SnapshotStore.openAt C .sound ⟨true, some dir⟩
          (disk.crashed C dir record none) =
            (.ok store', disk') ∧
        store'.records = store.records ++ [record] ∧
        disk'.files (snapshotPath dir record.snapshotId) =
          some (record.bodyBytes C) := by
  have hIntact :
      Intact C dir (store.records ++ [record])
        (disk.crashed C dir record none) := by
    intro q hq b hFile
    by_cases hPath :
        snapshotPath dir q.snapshotId =
          snapshotPath dir record.snapshotId
    · rw [hPath] at hFile
      simp [Disk.crashed] at hFile
    · rcases List.mem_append.mp hq with hOld | hNew
      · rw [files_crashed_of_ne (hSynced.files dir hDir) hOld
          hPath] at hFile
        exact (Option.some.inj hFile).symm
      · rw [List.mem_singleton.mp hNew] at hPath
        exact (hPath rfl).elim
  refine ⟨⟨store.records ++ [record], true, some dir⟩,
    (disk.crashed C dir record none).opened C
      ⟨true, some dir⟩ (store.records ++ [record]), ?_, rfl,
    ?_⟩
  · rw [SnapshotStore.openAt_sound_eq_ok_iff]
    refine ⟨journalReads_crashed hSerde hSynced hAdmits
      hDecodable, ?_, rfl, rfl⟩
    intro dir' hDir'
    cases hDir'
    exact ⟨hIntact, hCompatible⟩
  · exact filesAgree_writeBodies hCompatible record (by simp)

/- A copy that was begun stops the open. -/
theorem openAt_crashed_begun
    (hSerde : C.serde.Lawful)
    (hSynced : store.Synced C disk)
    (hDir : store.snapshotDir = some dir)
    (hAdmits : Admits C store.records record)
    (hDecodable : Decodable C record)
    (hCompatible :
      Compatible C dir (store.records ++ [record]))
    {t : Bytes}
    (hBody : t ≠ record.bodyBytes C) :
    SnapshotStore.openAt C .sound ⟨true, some dir⟩
        (disk.crashed C dir record (some t)) =
      (.error (mismatchError
        (snapshotPath dir record.snapshotId)),
        disk.crashed C dir record (some t)) := by
  have hReads :
      JournalReads C ⟨true, some dir⟩
        (disk.crashed C dir record (some t)) _ :=
    journalReads_crashed hSerde hSynced hAdmits hDecodable
  have hVerify :
      verifySnapshotFiles C .sound dir
          (store.records ++ [record])
          (disk.crashed C dir record (some t)) = _ :=
    verifySnapshotFiles_begun (by simp [Disk.crashed]) hBody
      (by
        intro q hq
        by_cases hPath :
            snapshotPath dir q.snapshotId =
              snapshotPath dir record.snapshotId
        · exact Or.inl ⟨hPath,
            hCompatible q (by simp [hq]) record (by simp)
              hPath⟩
        · exact Or.inr (files_crashed_of_ne
            (hSynced.files dir hDir) hq hPath))
  rcases hSynced.journal with ⟨b, hDisk, -, -⟩
  have hHandle :
      (disk.crashed C dir record (some t)).withJournal
          ⟨true, some dir⟩ =
        disk.crashed C dir record (some t) :=
    Disk.withJournal_of_some rfl _
  have hSnapshots :
      openSnapshots C .sound (some dir)
          (store.records ++ [record])
          (disk.crashed C dir record (some t)) =
        (.error (mismatchError
          (snapshotPath dir record.snapshotId)),
          disk.crashed C dir record (some t)) :=
    hVerify
  simp only [JournalReads, if_true, ← replay_eq_ok_iff]
    at hReads
  simp only [Disk.withJournal, if_true] at hHandle
  unfold SnapshotStore.openAt SnapshotStore.openRecords
  rw [if_pos rfl, openJournal_sound, hReads]
  simp only [hHandle, hSnapshots]

/-
  A crash in the middle of the archival copy.  The next open
  writes a missing copy; on a copy that was begun it stops,
  with the journal and the files as they were.
-/
theorem crashed_copy
    (hSerde : C.serde.Lawful)
    (hRun : SoundRun C ⟨true, some dir⟩ store disk)
    (hAdmits : Admits C store.records record)
    (hDecodable : Decodable C record)
    (hCompatible :
      Compatible C dir (store.records ++ [record])) :
    (∃ store' disk',
      SnapshotStore.openAt C .sound ⟨true, some dir⟩
          (disk.crashed C dir record none) =
            (.ok store', disk') ∧
        store'.records = store.records ++ [record] ∧
        disk'.files (snapshotPath dir record.snapshotId) =
          some (record.bodyBytes C)) ∧
      ∀ t rest, record.bodyBytes C = t ++ rest → rest ≠ [] →
        SnapshotStore.openAt C .sound ⟨true, some dir⟩
            (disk.crashed C dir record (some t)) =
          (.error (mismatchError
            (snapshotPath dir record.snapshotId)),
            disk.crashed C dir record (some t)) := by
  rcases hRun.synced hSerde rfl with ⟨hPaths, hSynced⟩
  have hDir : store.snapshotDir = some dir :=
    congrArg StorePaths.snapshotDir hPaths
  refine ⟨openAt_crashed_absent hSerde hSynced hDir hAdmits
    hDecodable hCompatible, ?_⟩
  intro t rest hBody hRest
  apply openAt_crashed_begun hSerde hSynced hDir hAdmits
    hDecodable hCompatible
  intro hEq
  rw [← hEq] at hBody
  exact hRest (by simpa using hBody)

end UnidppArchive

------------------------------------------------------------
-- Crashes of a Sample Store
------------------------------------------------------------

namespace UnidppArchive

open Reference

theorem compatible_singleton
    (dir : String)
    (r : SnapshotRecord) :
    Compatible crates dir [r] := by
  intro p hp q hq hPath
  rw [List.mem_singleton.mp hp, List.mem_singleton.mp hq]

/- A crash in the first append of a store. -/
theorem crashed_copy_first :
    ∃ r,
      (∃ store' disk',
        SnapshotStore.openAt crates .sound journalAndFiles
            ((diskOf (some [])).crashed crates "snapshots" r
              none) = (.ok store', disk') ∧
          store'.records = [r] ∧
          disk'.files (snapshotPath "snapshots" r.snapshotId) =
            some (r.bodyBytes crates)) ∧
        ∀ t rest, r.bodyBytes crates = t ++ rest → rest ≠ [] →
          SnapshotStore.openAt crates .sound journalAndFiles
              ((diskOf (some [])).crashed crates "snapshots" r
                (some t)) =
            (.error (mismatchError
              (snapshotPath "snapshots" r.snapshotId)),
              (diskOf (some [])).crashed crates "snapshots" r
                (some t)) := by
  rcases exists_record 0 request unreachable with
    ⟨r, hRecord⟩
  exact ⟨r, crashed_copy lawful_serde soundRun_absent
    (admits_ingestRecord hRecord rfl)
    (decodable_sample hRecord)
    (compatible_singleton "snapshots" r)⟩

/- A rendered body is not empty. -/
theorem bodyBytes_ne_nil
    (r : SnapshotRecord) :
    r.bodyBytes crates ≠ [] := by
  have hText :
      ∀ fs, printValue true 0 (.object fs) ≠ [] := by
    intro fs
    cases fs <;> simp [printValue]
  have hObject : ∃ fs, r.toDocument crates = .object fs :=
    ⟨_, rfl⟩
  rcases hObject with ⟨fs, hObject⟩
  intro hNil
  rw [SnapshotRecord.bodyBytes, SnapshotRecord.renderBody,
    hObject] at hNil
  have hEmpty := Utf8.encode_injective (hNil.trans rfl : _ =
    Utf8.encode "")
  have hChars := congrArg String.toList hEmpty
  exact hText fs (by simpa [crates, serde] using hChars)

/- After a crash that left an empty file nothing opens. -/
theorem crashed_empty_copy_fails :
    ∃ r,
      ingestRecord crates notary 0 now request unreachable =
          .ok r ∧
        r.bodyBytes crates ≠ [] ∧
        ¬ ∃ store' disk',
          SnapshotStore.openAt crates .sound journalAndFiles
              ((diskOf (some [])).crashed crates "snapshots" r
                (some [])) = (.ok store', disk') ∧
            store'.records = [r] ∧
            disk'.files
                (snapshotPath "snapshots" r.snapshotId) =
              some (r.bodyBytes crates) := by
  rcases exists_record 0 request unreachable with
    ⟨r, hRecord⟩
  refine ⟨r, hRecord, bodyBytes_ne_nil r, ?_⟩
  rintro ⟨store', disk', hOpen, -, -⟩
  have hStops :=
    openAt_crashed_begun lawful_serde
      (soundRun_absent.synced lawful_serde rfl).2 rfl
      (admits_ingestRecord hRecord rfl)
      (decodable_sample hRecord)
      (compatible_singleton "snapshots" r)
      (bodyBytes_ne_nil r).symm
  rw [journalAndFiles, hStops] at hOpen
  cases hOpen

end UnidppArchive
