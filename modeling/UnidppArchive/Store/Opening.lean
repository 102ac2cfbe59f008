import UnidppArchive.Store.Files

/-
  What any open does, whatever the operating system reports.

  A store that is returned holds the records of the journal.
  A file that is there and can be read is left as it is,
  whether the open succeeds or not.

  Key definitions include:
    * `Disk.Spared`

  Key theorems include:
    * `SnapshotStore.openAt_reads`
    * `SnapshotStore.openAt_spared`
-/

------------------------------------------------------------
-- The Records of an Opened Store
------------------------------------------------------------

namespace UnidppArchive

variable {C : Crates}
variable {io : OpenIo}
variable {paths : StorePaths}
variable {store : SnapshotStore}
variable {disk disk' : Disk}
variable {records : List SnapshotRecord}

/- A handle is returned with what the journal replays to. -/
theorem openJournal_eq_ok
    (h : openJournal C io disk = (.ok records, disk')) :
    Replayed C (disk.journal.getD []) records ∧
      disk' =
        { disk with
          journal := some (disk.journal.getD []) } := by
  unfold openJournal at h
  cases hDir : io.journalDir with
  | some e => simp [hDir] at h
  | none =>
      rw [hDir] at h
      cases hReplay : replayExisting C io disk with
      | error e => simp [hReplay] at h
      | ok rs =>
          cases hHandle : io.journalOpen with
          | some e => simp [hReplay, hHandle] at h
          | none =>
              simp only [hReplay, hHandle, Prod.mk.injEq,
                Except.ok.injEq] at h
              rcases h with ⟨rfl, rfl⟩
              refine ⟨?_, rfl⟩
              unfold replayExisting at hReplay
              cases hJournal : disk.journal with
              | none =>
                  simp only [hJournal, Except.ok.injEq]
                    at hReplay
                  subst hReplay
                  simp [Replayed]
              | some b =>
                  cases hRead : io.journalRead with
                  | some e => simp [hJournal, hRead] at hReplay
                  | none =>
                      simp only [hJournal, hRead] at hReplay
                      exact replay_eq_ok_iff.mp hReplay

namespace SnapshotStore

theorem openRecords_eq_ok
    (h : openRecords C io paths records disk =
      (.ok store, disk')) :
    store = ⟨records, paths.journal, paths.snapshotDir⟩ := by
  unfold openRecords at h
  cases hFiles :
      openSnapshots C io paths.snapshotDir records disk with
  | mk result disk₁ =>
      cases result with
      | error e => simp [hFiles] at h
      | ok u =>
          simp only [hFiles, Prod.mk.injEq, Except.ok.injEq]
            at h
          exact h.1.symm

/- An opened store holds what the journal in use reads. -/
theorem openAt_reads
    (h : openAt C io paths disk = (.ok store, disk')) :
    JournalReads C paths disk store.records ∧
      store =
        ⟨store.records, paths.journal, paths.snapshotDir⟩ := by
  unfold openAt at h
  unfold JournalReads
  by_cases hJournal : paths.journal = true
  · rw [if_pos hJournal] at h ⊢
    cases hOpen : openJournal C io disk with
    | mk result disk₁ =>
        cases result with
        | error e => simp [hOpen] at h
        | ok records =>
            simp only [hOpen] at h
            rw [openRecords_eq_ok h]
            exact ⟨(openJournal_eq_ok hOpen).1, rfl⟩
  · rw [if_neg hJournal] at h ⊢
    rw [openRecords_eq_ok h]
    exact ⟨rfl, rfl⟩

/- A journal of one torn line opens as an empty one. -/
theorem openAt_torn_line
    {b l : Bytes}
    {files : String → Option Bytes}
    (hJournal : paths.journal = true)
    (hLines : Lines.lines b = [l])
    (hTorn : lineVerdict C l = .torn) :
    openAt C .sound paths ⟨some b, files⟩ =
      (.ok ⟨[], true, paths.snapshotDir⟩,
        ⟨some b, files⟩) := by
  rw [openAt_sound_eq_ok_iff]
  refine ⟨?_, ?_, by rw [hJournal], ?_⟩
  · simp only [JournalReads, hJournal, if_true, Replayed,
      Option.getD_some, hLines]
    exact Or.inr ⟨[], l, rfl, hTorn, .nil []⟩
  · intro dir hDir
    exact ⟨fun q hq => (List.not_mem_nil hq).elim,
      fun q hq => (List.not_mem_nil hq).elim⟩
  · unfold Disk.opened
    rw [Disk.withJournal_of_some rfl]
    cases paths.snapshotDir <;> rfl

end SnapshotStore

end UnidppArchive

------------------------------------------------------------
-- What an Open Leaves Alone
------------------------------------------------------------

namespace UnidppArchive

/-
  The files that are there and can be read are the same, and
  the journal is the same or has been created.
-/
def Disk.Spared
    (io : OpenIo)
    (disk disk' : Disk) : Prop :=
  disk'.journal.getD [] = disk.journal.getD [] ∧
    ∀ path, io.unreadable path = false →
      disk.files path ≠ none →
        disk'.files path = disk.files path

variable {C : Crates}
variable {io : OpenIo}
variable {paths : StorePaths}
variable {disk disk₁ disk' : Disk}
variable {records : List SnapshotRecord}

theorem Disk.Spared.refl :
    Disk.Spared io disk disk :=
  ⟨rfl, fun _ _ _ => rfl⟩

theorem Disk.Spared.trans
    (h : Disk.Spared io disk disk₁)
    (h' : Disk.Spared io disk₁ disk') :
    Disk.Spared io disk disk' := by
  refine ⟨h'.1.trans h.1, ?_⟩
  intro path hRead hThere
  have hSame := h.2 path hRead hThere
  rw [h'.2 path hRead (by rw [hSame]; exact hThere), hSame]

/- Writing a file that was not found spares the others. -/
theorem Disk.spared_writeFile
    {w : WriteResult}
    {path : String}
    {data : Bytes}
    (hFound :
      io.unreadable path = true ∨ disk.files path = none) :
    Disk.Spared io disk (disk.writeFile w path data) := by
  refine ⟨by simp, ?_⟩
  intro q hRead hThere
  have hOther : q ≠ path := by
    rintro rfl
    rcases hFound with hUnreadable | hNone
    · rw [hRead] at hUnreadable
      cases hUnreadable
    · exact hThere hNone
  cases w with
  | refused e => rfl
  | done => exact Function.update_of_ne hOther _ _
  | cut n e => exact Function.update_of_ne hOther _ _

/-
  Verification writes only where it finds no file.  The
  induction is on the records that are still to be verified.
-/
theorem verifySnapshotFiles_spared
    {dir : String}
    (io : OpenIo)
    (records : List SnapshotRecord)
    (disk : Disk) :
    Disk.Spared io disk
      (verifySnapshotFiles C io dir records disk).2 := by
  induction records generalizing disk with
  | nil => exact .refl
  | cons r records ih =>
      unfold verifySnapshotFiles
      simp only
      split
      · split
        · exact .refl
        · exact ih disk
      · rename_i hFound
        have hWritten :
            Disk.Spared io disk
              (disk.writeFile
                (io.snapshotWrite
                  (snapshotPath dir r.snapshotId))
                (snapshotPath dir r.snapshotId)
                (r.bodyBytes C)) := by
          apply Disk.spared_writeFile
          by_cases hUnreadable :
              io.unreadable (snapshotPath dir r.snapshotId) =
                true
          · exact Or.inl hUnreadable
          · rw [if_neg hUnreadable] at hFound
            exact Or.inr hFound
        split
        · exact hWritten
        · exact hWritten.trans (ih _)

theorem openSnapshots_spared
    (io : OpenIo)
    (snapshotDir : Option String)
    (records : List SnapshotRecord)
    (disk : Disk) :
    Disk.Spared io disk
      (openSnapshots C io snapshotDir records disk).2 := by
  unfold openSnapshots
  split
  · exact .refl
  · exact .refl
  · exact verifySnapshotFiles_spared io records disk

theorem openJournal_spared
    (io : OpenIo)
    (disk : Disk) :
    Disk.Spared io disk (openJournal C io disk).2 := by
  unfold openJournal
  split
  · exact .refl
  · split
    · exact .refl
    · exact .refl
    · exact ⟨rfl, fun _ _ _ => rfl⟩

namespace SnapshotStore

theorem openRecords_spared
    (io : OpenIo)
    (paths : StorePaths)
    (records : List SnapshotRecord)
    (disk : Disk) :
    Disk.Spared io disk
      (openRecords C io paths records disk).2 := by
  have hFiles :=
    openSnapshots_spared (C := C) io paths.snapshotDir records
      disk
  unfold openRecords
  split <;> rename_i hResult <;> rwa [hResult] at hFiles

/- An open spares the files whether it succeeds or not. -/
theorem openAt_spared
    (io : OpenIo)
    (paths : StorePaths)
    (disk : Disk) :
    Disk.Spared io disk (openAt C io paths disk).2 := by
  unfold openAt
  split
  · have hJournal := openJournal_spared (C := C) io disk
    split <;> rename_i hResult <;> rw [hResult] at hJournal
    · exact hJournal
    · exact hJournal.trans (openRecords_spared io paths _ _)
  · exact openRecords_spared io paths [] disk

end SnapshotStore

end UnidppArchive
