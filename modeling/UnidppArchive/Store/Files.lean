import UnidppArchive.Store.Replay

/-
  Verified and re-materialized snapshot files.

  Verification succeeds when no file differs from the body
  of its record and records that share a path share a body;
  it then leaves what writing every body would leave.

  Key definitions include:
    * `FilesAgree`
    * `Intact`
    * `Compatible`
    * `Disk.writeBodies`

  Key theorems include:
    * `verifySnapshotFiles_sound_eq_ok_iff`
    * `SnapshotStore.openAt_sound_eq_ok_iff`
-/

------------------------------------------------------------
-- Files and Bodies
------------------------------------------------------------

namespace UnidppArchive

variable (C : Crates)
variable (dir : String)

/- Every record's file holds its body. -/
def FilesAgree
    (records : List SnapshotRecord)
    (disk : Disk) : Prop :=
  ∀ r ∈ records,
    disk.files (snapshotPath dir r.snapshotId) =
      some (r.bodyBytes C)

/- No record's file holds anything but its body. -/
def Intact
    (records : List SnapshotRecord)
    (disk : Disk) : Prop :=
  ∀ r ∈ records, ∀ b,
    disk.files (snapshotPath dir r.snapshotId) = some b →
      b = r.bodyBytes C

/- Records that share a path share a body. -/
def Compatible
    (records : List SnapshotRecord) : Prop :=
  ∀ q ∈ records, ∀ r ∈ records,
    snapshotPath dir q.snapshotId =
        snapshotPath dir r.snapshotId →
      q.bodyBytes C = r.bodyBytes C

/- The body of each record is written, in order. -/
def Disk.writeBodies
    (disk : Disk)
    (records : List SnapshotRecord) : Disk :=
  records.foldl
    (fun disk r =>
      disk.writeFile .done (snapshotPath dir r.snapshotId)
        (r.bodyBytes C))
    disk

variable {C : Crates}
variable {dir : String}
variable {records rs : List SnapshotRecord}
variable {disk disk' : Disk}

@[simp] theorem Disk.writeBodies_nil :
    disk.writeBodies C dir [] = disk := by
  rfl

@[simp] theorem Disk.writeBodies_cons
    (r : SnapshotRecord) :
    disk.writeBodies C dir (r :: rs) =
      (disk.writeFile .done (snapshotPath dir r.snapshotId)
        (r.bodyBytes C)).writeBodies C dir rs := by
  rfl

@[simp] theorem Disk.journal_writeBodies :
    (disk.writeBodies C dir rs).journal = disk.journal := by
  induction rs generalizing disk with
  | nil => rfl
  | cons r rs ih => simp [ih]

/- The files that are written do not depend on the journal. -/
theorem Disk.files_writeBodies_congr
    (h : disk.files = disk'.files) :
    (disk.writeBodies C dir rs).files =
      (disk'.writeBodies C dir rs).files := by
  induction rs generalizing disk disk' with
  | nil => exact h
  | cons r rs ih =>
      apply ih
      simp [h]

/- Writing a body that is there changes nothing. -/
theorem Disk.writeFile_of_present
    {path : String}
    {data : Bytes}
    (h : disk.files path = some data) :
    disk.writeFile .done path data = disk := by
  have hFiles :
      Function.update disk.files path (some data) =
        disk.files := by
    rw [← h, Function.update_eq_self]
  simp only [writeFile, WriteResult.kept, hFiles]

theorem FilesAgree.intact
    (h : FilesAgree C dir records disk) :
    Intact C dir records disk := by
  intro r hMem b hFile
  rw [h r hMem] at hFile
  exact (Option.some.inj hFile).symm

/- A file holds one body only. -/
theorem FilesAgree.compatible
    (h : FilesAgree C dir records disk) :
    Compatible C dir records := by
  intro q hq r hr hPath
  have hBody := h q hq
  rw [hPath, h r hr] at hBody
  exact (Option.some.inj hBody).symm

theorem FilesAgree.writeBodies
    (h : FilesAgree C dir records disk) :
    disk.writeBodies C dir records = disk := by
  induction records with
  | nil => rfl
  | cons r records ih =>
      rw [Disk.writeBodies_cons,
        Disk.writeFile_of_present (h r (by simp))]
      exact ih (fun q hq => h q (by simp [hq]))

/-
  Files that agree go on agreeing when the bodies of
  compatible records are written.
-/
theorem FilesAgree.append
    (h : FilesAgree C dir records disk)
    (hCompatible : Compatible C dir (records ++ rs)) :
    FilesAgree C dir (records ++ rs)
      (disk.writeBodies C dir rs) := by
  induction rs generalizing records disk with
  | nil => simpa using h
  | cons r rs ih =>
      have hStep :
          FilesAgree C dir (records ++ [r])
            (disk.writeFile .done
              (snapshotPath dir r.snapshotId)
              (r.bodyBytes C)) := by
        intro q hq
        rw [Disk.files_writeFile_done]
        by_cases hPath :
            snapshotPath dir q.snapshotId =
              snapshotPath dir r.snapshotId
        · have hBody :=
            hCompatible q (by simp at hq ⊢; tauto) r
              (by simp) hPath
          rw [hPath, Function.update_self, hBody]
        · rw [Function.update_of_ne hPath]
          rcases List.mem_append.mp hq with hOld | hNew
          · exact h q hOld
          · rw [List.mem_singleton.mp hNew] at hPath
            exact (hPath rfl).elim
      have hRest :=
        ih hStep (by simpa using hCompatible)
      simpa using hRest

/- Compatible records agree with what is written of them. -/
theorem filesAgree_writeBodies
    (hCompatible : Compatible C dir records) :
    FilesAgree C dir records
      (disk.writeBodies C dir records) := by
  have hNone : FilesAgree C dir [] disk := by
    intro r hr
    cases hr
  exact hNone.append hCompatible

end UnidppArchive

------------------------------------------------------------
-- Verification
------------------------------------------------------------

namespace UnidppArchive

variable {C : Crates}
variable {dir : String}
variable {records : List SnapshotRecord}
variable {r : SnapshotRecord}
variable {disk disk' : Disk}

/- A file that holds the body, or none, is passed over. -/
theorem verifySnapshotFiles_of_intact
    (h : ∀ b,
      disk.files (snapshotPath dir r.snapshotId) = some b →
        b = r.bodyBytes C) :
    verifySnapshotFiles C .sound dir (r :: records) disk =
      verifySnapshotFiles C .sound dir records
        (disk.writeFile .done (snapshotPath dir r.snapshotId)
          (r.bodyBytes C)) := by
  cases hFile :
      disk.files (snapshotPath dir r.snapshotId) with
  | none =>
      simp [verifySnapshotFiles, OpenIo.sound, hFile,
        WriteResult.error?]
  | some b =>
      rw [h b hFile] at hFile
      rw [Disk.writeFile_of_present hFile]
      simp [verifySnapshotFiles, OpenIo.sound, hFile]

/- Another content is a hard error. -/
theorem verifySnapshotFiles_of_mismatch
    {b : Bytes}
    (hFile :
      disk.files (snapshotPath dir r.snapshotId) = some b)
    (hBody : b ≠ r.bodyBytes C) :
    verifySnapshotFiles C .sound dir (r :: records) disk =
      (.error (.journal
        s!"snapshot file {snapshotPath dir r.snapshotId} does not match the journaled record (tampered or stale)"),
        disk) := by
  simp [verifySnapshotFiles, OpenIo.sound, hFile, hBody]

/- Files that agree are passed over without a change. -/
theorem verifySnapshotFiles_append
    {rs : List SnapshotRecord}
    (h : FilesAgree C dir records disk) :
    verifySnapshotFiles C .sound dir (records ++ rs) disk =
      verifySnapshotFiles C .sound dir rs disk := by
  induction records with
  | nil => rfl
  | cons r records ih =>
      have hFile := h r (by simp)
      rw [List.cons_append,
        verifySnapshotFiles_of_intact
          (fun b hb => h.intact r (by simp) b hb),
        Disk.writeFile_of_present hFile]
      exact ih (fun q hq => h q (by simp [hq]))

theorem intact_and_compatible_cons_iff :
    (Intact C dir (r :: records) disk ∧
      Compatible C dir (r :: records)) ↔
      (∀ b,
        disk.files (snapshotPath dir r.snapshotId) = some b →
          b = r.bodyBytes C) ∧
        Intact C dir records
          (disk.writeFile .done
            (snapshotPath dir r.snapshotId)
            (r.bodyBytes C)) ∧
          Compatible C dir records := by
  constructor
  · rintro ⟨hIntact, hCompatible⟩
    refine ⟨hIntact r (by simp), ?_, ?_⟩
    · intro q hq b hFile
      rw [Disk.files_writeFile_done] at hFile
      by_cases hPath :
          snapshotPath dir q.snapshotId =
            snapshotPath dir r.snapshotId
      · rw [hPath, Function.update_self] at hFile
        rw [← Option.some.inj hFile]
        exact hCompatible r (by simp) q (by simp [hq])
          hPath.symm
      · rw [Function.update_of_ne hPath] at hFile
        exact hIntact q (by simp [hq]) b hFile
    · intro q hq q' hq'
      exact hCompatible q (by simp [hq]) q' (by simp [hq'])
  · rintro ⟨hHead, hIntact, hCompatible⟩
    -- the body of `r` stands where a later record looks
    have hShared :
        ∀ q ∈ records,
          snapshotPath dir r.snapshotId =
              snapshotPath dir q.snapshotId →
            r.bodyBytes C = q.bodyBytes C := by
      intro q hq hPath
      apply hIntact q hq
      rw [Disk.files_writeFile_done, ← hPath,
        Function.update_self]
    refine ⟨?_, ?_⟩
    · intro q hq b hFile
      rcases List.mem_cons.mp hq with rfl | hq
      · exact hHead b hFile
      · by_cases hPath :
            snapshotPath dir r.snapshotId =
              snapshotPath dir q.snapshotId
        · rw [← hPath] at hFile
          rw [hHead b hFile]
          exact hShared q hq hPath
        · apply hIntact q hq
          rw [Disk.files_writeFile_done,
            Function.update_of_ne (Ne.symm hPath)]
          exact hFile
    · intro q hq q' hq' hPath
      rcases List.mem_cons.mp hq with hEq | hTail <;>
        rcases List.mem_cons.mp hq' with hEq' | hTail'
      · rw [hEq, hEq']
      · rw [hEq] at hPath ⊢
        exact hShared q' hTail' hPath
      · rw [hEq'] at hPath ⊢
        exact (hShared q hTail hPath.symm).symm
      · exact hCompatible q hTail q' hTail' hPath

/- Verification heals the files or finds a difference. -/
theorem verifySnapshotFiles_sound_eq_ok_iff :
    verifySnapshotFiles C .sound dir records disk =
        (.ok (), disk') ↔
      (Intact C dir records disk ∧
        Compatible C dir records) ∧
          disk' = disk.writeBodies C dir records := by
  induction records generalizing disk with
  | nil =>
      simp [verifySnapshotFiles, Intact, Compatible, eq_comm]
  | cons r records ih =>
      by_cases hHead :
          ∀ b,
            disk.files (snapshotPath dir r.snapshotId) =
                some b →
              b = r.bodyBytes C
      · rw [verifySnapshotFiles_of_intact hHead, ih,
          intact_and_compatible_cons_iff,
          Disk.writeBodies_cons]
        tauto
      · rw [intact_and_compatible_cons_iff]
        simp only [hHead, false_and, iff_false]
        rw [not_forall] at hHead
        rcases hHead with ⟨b, hb⟩
        rw [Classical.not_imp] at hb
        rw [verifySnapshotFiles_of_mismatch hb.1 hb.2]
        simp

end UnidppArchive

------------------------------------------------------------
-- Opening Without I/O Errors
------------------------------------------------------------

namespace UnidppArchive

variable (C : Crates)

/- What the journal in use replays to. -/
def JournalReads
    (paths : StorePaths)
    (disk : Disk)
    (records : List SnapshotRecord) : Prop :=
  if paths.journal then
    Replayed C (disk.journal.getD []) records
  else
    records = []

namespace Disk

/- The journal in use is created. -/
def withJournal
    (disk : Disk)
    (paths : StorePaths) : Disk :=
  if paths.journal then
    { disk with journal := some (disk.journal.getD []) }
  else
    disk

/- The disk after the records have been opened. -/
def opened
    (disk : Disk)
    (paths : StorePaths)
    (records : List SnapshotRecord) : Disk :=
  match paths.snapshotDir with
  | none => disk.withJournal paths
  | some dir =>
      (disk.withJournal paths).writeBodies C dir records

@[simp] theorem files_withJournal
    (disk : Disk)
    (paths : StorePaths) :
    (disk.withJournal paths).files = disk.files := by
  unfold withJournal
  split <;> rfl

theorem withJournal_of_some
    {disk : Disk}
    {b : Bytes}
    (h : disk.journal = some b)
    (paths : StorePaths) :
    disk.withJournal paths = disk := by
  rcases disk with ⟨journal, files⟩
  change journal = some b at h
  subst h
  unfold withJournal
  split <;> rfl

@[simp] theorem journal_opened
    (disk : Disk)
    (paths : StorePaths)
    (records : List SnapshotRecord) :
    (disk.opened C paths records).journal =
      (disk.withJournal paths).journal := by
  unfold opened
  cases paths.snapshotDir <;> simp

end Disk

variable {C : Crates}
variable {disk disk' : Disk}

theorem openJournal_sound :
    openJournal C .sound disk =
      match replay C (disk.journal.getD []) with
      | .error e => (.error e, disk)
      | .ok records =>
          (.ok records,
            { disk with
              journal := some (disk.journal.getD []) }) := by
  unfold openJournal replayExisting
  cases hJournal : disk.journal with
  | none => simp [OpenIo.sound, replay]
  | some b =>
      simp only [OpenIo.sound, Option.getD_some]
      cases replay C b <;> rfl

/- The error or the success of opening the files. -/
theorem openSnapshots_sound_eq_ok_iff
    {snapshotDir : Option String}
    {records : List SnapshotRecord} :
    openSnapshots C .sound snapshotDir records disk =
        (.ok (), disk') ↔
      (∀ dir, snapshotDir = some dir →
        Intact C dir records disk ∧
          Compatible C dir records) ∧
        disk' =
          match snapshotDir with
          | none => disk
          | some dir => disk.writeBodies C dir records := by
  cases snapshotDir with
  | none => simp [openSnapshots, eq_comm]
  | some dir =>
      have hVerify :
          openSnapshots C .sound (some dir) records disk =
            verifySnapshotFiles C .sound dir records disk := by
        rfl
      rw [hVerify, verifySnapshotFiles_sound_eq_ok_iff]
      simp

namespace SnapshotStore

variable {paths : StorePaths}
variable {store : SnapshotStore}

theorem openRecords_sound_eq_ok_iff
    {records : List SnapshotRecord} :
    openRecords C .sound paths records
          (disk.withJournal paths) = (.ok store, disk') ↔
      (∀ dir, paths.snapshotDir = some dir →
        Intact C dir records disk ∧
          Compatible C dir records) ∧
        store = ⟨records, paths.journal, paths.snapshotDir⟩ ∧
          disk' = disk.opened C paths records := by
  have hSnapshots :
      ∀ disk₁,
        openSnapshots C .sound paths.snapshotDir records
            (disk.withJournal paths) = (.ok (), disk₁) ↔ _ :=
    fun disk₁ => openSnapshots_sound_eq_ok_iff
  simp only [Intact, Disk.files_withJournal] at hSnapshots
  unfold openRecords
  cases hResult :
      openSnapshots C .sound paths.snapshotDir records
        (disk.withJournal paths) with
  | mk result disk₁ =>
      rw [hResult] at hSnapshots
      cases result with
      | error e =>
          have hNot := hSnapshots (disk.opened C paths records)
          simp only [Prod.mk.injEq, reduceCtorEq, false_and,
            false_iff] at hNot ⊢
          rintro ⟨hIntact, -, -⟩
          exact hNot ⟨hIntact, rfl⟩
      | ok u =>
          have hDone := (hSnapshots disk₁).mp rfl
          simp only [Prod.mk.injEq, Except.ok.injEq]
          constructor
          · rintro ⟨rfl, rfl⟩
            exact ⟨hDone.1, rfl, hDone.2⟩
          · rintro ⟨-, rfl, hDisk⟩
            exact ⟨rfl, hDone.2.trans hDisk.symm⟩

/-
  Opening succeeds when the journal replays and the files
  of its records are intact.
-/
theorem openAt_sound_eq_ok_iff :
    openAt C .sound paths disk = (.ok store, disk') ↔
      JournalReads C paths disk store.records ∧
        (∀ dir, paths.snapshotDir = some dir →
          Intact C dir store.records disk ∧
            Compatible C dir store.records) ∧
          store =
              ⟨store.records, paths.journal,
                paths.snapshotDir⟩ ∧
            disk' = disk.opened C paths store.records := by
  -- the records determine the store
  have hRecords :
      ∀ records,
        openRecords C .sound paths records
              (disk.withJournal paths) = (.ok store, disk') ↔
          store.records = records ∧
            (∀ dir, paths.snapshotDir = some dir →
              Intact C dir store.records disk ∧
                Compatible C dir store.records) ∧
              store =
                  ⟨store.records, paths.journal,
                    paths.snapshotDir⟩ ∧
                disk' = disk.opened C paths store.records := by
    intro records
    rw [openRecords_sound_eq_ok_iff]
    constructor
    · rintro ⟨hFiles, rfl, hDisk⟩
      exact ⟨rfl, hFiles, rfl, hDisk⟩
    · rintro ⟨rfl, hFiles, hStore, hDisk⟩
      exact ⟨hFiles, hStore, hDisk⟩
  unfold openAt JournalReads
  by_cases hJournal : paths.journal = true
  · have hDisk :
        disk.withJournal paths =
          { disk with
            journal := some (disk.journal.getD []) } := by
      simp [Disk.withJournal, hJournal]
    rw [if_pos hJournal, if_pos hJournal, openJournal_sound,
      ← replay_eq_ok_iff]
    cases hReplay : replay C (disk.journal.getD []) with
    | error e => simp
    | ok records =>
        simp only [← hDisk, hRecords, Except.ok.injEq]
        rw [eq_comm (a := store.records)]
  · have hDisk : disk.withJournal paths = disk := by
      simp [Disk.withJournal, hJournal]
    rw [if_neg hJournal, if_neg hJournal]
    rw [← hRecords [], hDisk]

end SnapshotStore

end UnidppArchive
