import UnidppArchive.Store.Files

/-
  Appending a sealed snapshot (`store.rs`).

  Three effects follow one another: the journal line, the
  archival copy, and the index.  The store keeps what was
  done when a later one fails.

  Key definitions include:
    * `AppendIo`
    * `journalEntry`
    * `SnapshotStore.appendSnapshot`
    * `SnapshotStore.recorded`
    * `SnapshotStore.Journaled`
    * `SnapshotStore.Copied`
    * `SnapshotStore.Appends`

  Key theorems include:
    * `SnapshotStore.appendSnapshot_eq_ok_iff`
    * `SnapshotStore.appendSnapshot_eq_error`
    * `SnapshotStore.writeJournal_effect`
    * `SnapshotStore.writeSnapshotFile_effect`
    * `SnapshotStore.Appends.accepted`
-/

------------------------------------------------------------
-- Appending
------------------------------------------------------------

namespace UnidppArchive

/- What becomes of the two writes of an append. -/
structure AppendIo where
  journal : WriteResult
  snapshotFile : WriteResult
  deriving DecidableEq

/- Both writes are done. -/
def AppendIo.sound : AppendIo :=
  ⟨.done, .done⟩

variable (C : Crates)

/- The text of a record in the journal. -/
def journalLine
    (r : SnapshotRecord) : Bytes :=
  Utf8.encode (C.serde.toString (r.toJournalJson C))

/- The line with its newline. -/
def journalEntry
    (r : SnapshotRecord) : Bytes :=
  journalLine C r ++ [10]

namespace SnapshotStore

/- The next sequence number, and the digest of the body. -/
def checkRecord
    (store : SnapshotStore)
    (record : SnapshotRecord) : Except StoreError Unit :=
  if record.seq ≠ store.size then
    .error (.conflict
      s!"snapshot seq {Text.u64ToString record.seq} is not the next sequence number ({Nat.repr store.records.length})")
  else if C.model.sha256 (record.bodyBytes C) ≠
      record.bodyDigest then
    .error (.journal
      "record body digest does not match its rendered bytes")
  else
    .ok ()

def writeJournal
    (store : SnapshotStore)
    (io : AppendIo)
    (record : SnapshotRecord)
    (disk : Disk) : Except StoreError Unit × Disk :=
  if store.journal then
    let disk :=
      disk.appendJournal io.journal (journalEntry C record)
    match io.journal.error? with
    | none => (.ok (), disk)
    | some e =>
        (.error (.journal s!"journal write failed: {e}"), disk)
  else
    (.ok (), disk)

def writeSnapshotFile
    (store : SnapshotStore)
    (io : AppendIo)
    (record : SnapshotRecord)
    (disk : Disk) : Except StoreError Unit × Disk :=
  match store.snapshotDir with
  | none => (.ok (), disk)
  | some dir =>
      let path := snapshotPath dir record.snapshotId
      let disk :=
        disk.writeFile io.snapshotFile path (record.bodyBytes C)
      match io.snapshotFile.error? with
      | none => (.ok (), disk)
      | some e =>
          (.error (.journal
            s!"cannot write snapshot file {path}: {e}"), disk)

/- The index takes the record. -/
def push
    (store : SnapshotStore)
    (record : SnapshotRecord) : SnapshotStore :=
  { store with records := store.records ++ [record] }

/- `append_snapshot`. -/
def appendSnapshot
    (store : SnapshotStore)
    (io : AppendIo)
    (record : SnapshotRecord)
    (disk : Disk) :
    Except StoreError Unit × SnapshotStore × Disk :=
  match store.checkRecord C record with
  | .error e => (.error e, store, disk)
  | .ok () =>
      match store.writeJournal C io record disk with
      | (.error e, disk) => (.error e, store, disk)
      | (.ok (), disk) =>
          match store.writeSnapshotFile C io record disk with
          | (.error e, disk) => (.error e, store, disk)
          | (.ok (), disk) =>
              (.ok (), store.push record, disk)

end SnapshotStore

end UnidppArchive

------------------------------------------------------------
-- Outcomes of an Append
------------------------------------------------------------

namespace UnidppArchive

namespace SnapshotStore

variable (C : Crates)

/- The disk after both writes of a record are done. -/
def recorded
    (store : SnapshotStore)
    (record : SnapshotRecord)
    (disk : Disk) : Disk :=
  let disk :=
    if store.journal then
      disk.appendJournal .done (journalEntry C record)
    else
      disk
  match store.snapshotDir with
  | none => disk
  | some dir =>
      disk.writeFile .done
        (snapshotPath dir record.snapshotId)
        (record.bodyBytes C)

variable {C : Crates}
variable {store store' : SnapshotStore}
variable {io : AppendIo}
variable {record : SnapshotRecord}
variable {disk disk' : Disk}

theorem checkRecord_eq_ok_iff :
    store.checkRecord C record = .ok () ↔
      Admits C store.records record := by
  unfold checkRecord Admits size
  by_cases hSeq :
      record.seq = UInt64.ofNat store.records.length
  · by_cases hDigest :
        C.model.sha256 (record.bodyBytes C) =
          record.bodyDigest <;>
      simp [hSeq, hDigest]
  · simp [hSeq]

/- An append succeeds when the writes in use are done. -/
theorem appendSnapshot_eq_ok_iff :
    store.appendSnapshot C io record disk =
        (.ok (), store', disk') ↔
      Admits C store.records record ∧
        (store.journal = true → io.journal = .done) ∧
          (store.snapshotDir ≠ none →
            io.snapshotFile = .done) ∧
            store' = store.push record ∧
              disk' = store.recorded C record disk := by
  rw [← checkRecord_eq_ok_iff (C := C)]
  unfold appendSnapshot writeJournal writeSnapshotFile recorded
  cases store.checkRecord C record with
  | error e => simp
  | ok u =>
      by_cases hJournal : store.journal = true
      · cases hLine : io.journal with
        | refused e => simp [hJournal, WriteResult.error?]
        | cut n e => simp [hJournal, WriteResult.error?]
        | done =>
            cases store.snapshotDir with
            | none =>
                simp [hJournal, WriteResult.error?, eq_comm]
            | some dir =>
                cases io.snapshotFile <;>
                  simp [hJournal, WriteResult.error?, eq_comm]
      · cases store.snapshotDir with
        | none => simp [hJournal, eq_comm]
        | some dir =>
            cases io.snapshotFile <;>
              simp [hJournal, WriteResult.error?, eq_comm]

/-
  A failed append leaves the index as it was.  The disk is
  untouched when the record is refused; else the line is cut
  short, or it is complete and the archival copy failed.
-/
theorem appendSnapshot_eq_error
    {e : StoreError}
    (hJournal : store.journal = true)
    (h : store.appendSnapshot C io record disk =
      (.error e, store', disk')) :
    store' = store ∧
      ((¬ Admits C store.records record ∧ disk' = disk) ∨
        (Admits C store.records record ∧
          io.journal ≠ .done ∧
            disk' =
              disk.appendJournal io.journal
                (journalEntry C record)) ∨
          (Admits C store.records record ∧
            io.journal = .done ∧
              ∃ dir,
                disk' =
                  (disk.appendJournal .done
                    (journalEntry C record)).writeFile
                      io.snapshotFile
                      (snapshotPath dir record.snapshotId)
                      (record.bodyBytes C))) := by
  rw [← checkRecord_eq_ok_iff (C := C)]
  unfold appendSnapshot writeJournal writeSnapshotFile at h
  cases hCheck : store.checkRecord C record with
  | error e' =>
      simp only [hCheck, Prod.mk.injEq] at h
      simp [h.2.1, h.2.2]
  | ok u =>
      cases hLine : io.journal with
      | refused e' =>
          simp only [hCheck, hJournal, if_true, hLine,
            WriteResult.error?, Prod.mk.injEq] at h
          simp [h.2.1, h.2.2]
      | cut n e' =>
          simp only [hCheck, hJournal, if_true, hLine,
            WriteResult.error?, Prod.mk.injEq] at h
          simp [h.2.1, h.2.2]
      | done =>
          simp only [hCheck, hJournal, if_true, hLine,
            WriteResult.error?] at h
          cases hDir : store.snapshotDir with
          | none => simp [hDir] at h
          | some dir =>
              rw [hDir] at h
              cases hFile : io.snapshotFile with
              | done => simp [hFile] at h
              | refused e' =>
                  simp only [hFile, Prod.mk.injEq] at h
                  exact ⟨h.2.1.symm, Or.inr (Or.inr
                    ⟨rfl, rfl, dir, h.2.2.symm⟩)⟩
              | cut n e' =>
                  simp only [hFile, Prod.mk.injEq] at h
                  exact ⟨h.2.1.symm, Or.inr (Or.inr
                    ⟨rfl, rfl, dir, h.2.2.symm⟩)⟩

end SnapshotStore

end UnidppArchive

------------------------------------------------------------
-- Effects of the Two Writes
------------------------------------------------------------

namespace UnidppArchive

namespace SnapshotStore

section

variable (C : Crates)

/- The line of a record is in the journal, if one is kept. -/
def Journaled
    (store : SnapshotStore)
    (disk : Disk)
    (record : SnapshotRecord) : Prop :=
  store.journal = true →
    journalEntry C record <:+: disk.journal.getD []

/- The file of a record is there, if files are kept. -/
def Copied
    (store : SnapshotStore)
    (disk : Disk)
    (record : SnapshotRecord) : Prop :=
  ∀ dir, store.snapshotDir = some dir →
    disk.files (snapshotPath dir record.snapshotId) =
      some (record.bodyBytes C)

end

variable {C : Crates}
variable {store : SnapshotStore}
variable {io : AppendIo}
variable {record : SnapshotRecord}
variable {disk disk' : Disk}
variable {result : Except StoreError Unit}

/- The journal only grows, and a failure is no conflict. -/
theorem writeJournal_effect
    (h : store.writeJournal C io record disk =
      (result, disk')) :
    disk'.files = disk.files ∧
      disk.journal.getD [] <+: disk'.journal.getD [] ∧
        (result = .ok () → store.Journaled C disk' record) ∧
          ∀ e, result = .error e → ∃ m, e = .journal m := by
  unfold writeJournal at h
  unfold Journaled
  by_cases hJournal : store.journal = true
  · cases hLine : io.journal with
    | done =>
        simp only [hJournal, if_true, hLine,
          WriteResult.error?, Prod.mk.injEq] at h
        rcases h with ⟨rfl, rfl⟩
        refine ⟨rfl, by simp, ?_, by simp⟩
        intro _ _
        exact (List.suffix_append _ _).isInfix
    | refused m =>
        simp only [hJournal, if_true, hLine,
          WriteResult.error?, Prod.mk.injEq] at h
        rcases h with ⟨rfl, rfl⟩
        simp
    | cut n m =>
        simp only [hJournal, if_true, hLine,
          WriteResult.error?, Prod.mk.injEq] at h
        rcases h with ⟨rfl, rfl⟩
        simp
  · simp only [hJournal, Bool.false_eq_true, if_false,
      Prod.mk.injEq] at h
    rcases h with ⟨rfl, rfl⟩
    simp [hJournal]

/- No other file changes, and a failure is no conflict. -/
theorem writeSnapshotFile_effect
    (h : store.writeSnapshotFile C io record disk =
      (result, disk')) :
    disk'.journal = disk.journal ∧
      (∀ path,
        (∀ dir, store.snapshotDir = some dir →
            path ≠ snapshotPath dir record.snapshotId) →
          disk'.files path = disk.files path) ∧
        (result = .ok () → store.Copied C disk' record) ∧
          ∀ e, result = .error e → ∃ m, e = .journal m := by
  unfold writeSnapshotFile at h
  unfold Copied
  cases hDir : store.snapshotDir with
  | none =>
      simp only [hDir, Prod.mk.injEq] at h
      rcases h with ⟨rfl, rfl⟩
      simp
  | some dir =>
      cases hFile : io.snapshotFile with
      | done =>
          simp only [hDir, hFile, WriteResult.error?,
            Prod.mk.injEq] at h
          rcases h with ⟨rfl, rfl⟩
          refine ⟨by simp, ?_, by simp, by simp⟩
          intro path hPath
          rw [Disk.files_writeFile_done]
          exact Function.update_of_ne (hPath dir rfl) _ _
      | refused m =>
          simp only [hDir, hFile, WriteResult.error?,
            Prod.mk.injEq] at h
          rcases h with ⟨rfl, rfl⟩
          simp [Disk.writeFile]
      | cut n m =>
          simp only [hDir, hFile, WriteResult.error?,
            Prod.mk.injEq] at h
          rcases h with ⟨rfl, rfl⟩
          refine ⟨by simp, ?_, by simp, by simp⟩
          intro path hPath
          exact Function.update_of_ne (hPath dir rfl) _ _

end SnapshotStore

end UnidppArchive

------------------------------------------------------------
-- Sequences of Appends
------------------------------------------------------------

namespace UnidppArchive

/- The journal text of some records. -/
def journalText
    (C : Crates)
    (rs : List SnapshotRecord) : Bytes :=
  rs.flatMap (journalEntry C)

namespace SnapshotStore

/- The records are appended one after the other. -/
inductive Appends
    (C : Crates) :
    SnapshotStore → Disk → List SnapshotRecord →
      SnapshotStore → Disk → Prop where
  | nil
      (store : SnapshotStore)
      (disk : Disk) :
      Appends C store disk [] store disk
  | cons
      {store store₁ store₂ : SnapshotStore}
      {disk disk₁ disk₂ : Disk}
      {record : SnapshotRecord}
      {rs : List SnapshotRecord}
      {io : AppendIo}
      (hAppend :
        store.appendSnapshot C io record disk =
          (.ok (), store₁, disk₁))
      (hRest : Appends C store₁ disk₁ rs store₂ disk₂) :
      Appends C store disk (record :: rs) store₂ disk₂

namespace Appends

variable {C : Crates}
variable {store store' : SnapshotStore}
variable {disk disk' : Disk}
variable {rs : List SnapshotRecord}

theorem single
    {io : AppendIo}
    {record : SnapshotRecord}
    (hAppend :
      store.appendSnapshot C io record disk =
        (.ok (), store', disk')) :
    Appends C store disk [record] store' disk' :=
  .cons hAppend (.nil store' disk')

theorem store_eq
    (h : Appends C store disk rs store' disk') :
    store' =
      { store with records := store.records ++ rs } := by
  induction h with
  | nil store disk => simp
  | cons hAppend hRest ih =>
      rcases appendSnapshot_eq_ok_iff.mp hAppend with
        ⟨-, -, -, rfl, -⟩
      rw [ih]
      simp [push]

/- The entries follow the journal. -/
theorem journal_eq
    (h : Appends C store disk rs store' disk')
    (hJournal : store.journal = true) :
    disk'.journal.getD [] =
      disk.journal.getD [] ++ journalText C rs := by
  induction h with
  | nil store disk => simp [journalText]
  | @cons store store₁ store₂ disk disk₁ disk₂ record rs io
      hAppend hRest ih =>
      rcases appendSnapshot_eq_ok_iff.mp hAppend with
        ⟨-, -, -, rfl, rfl⟩
      have hEntry :
          (store.recorded C record disk).journal.getD [] =
            disk.journal.getD [] ++ journalEntry C record := by
        unfold recorded
        cases store.snapshotDir <;>
          simp [hJournal, WriteResult.kept]
      rw [ih (by simpa [push] using hJournal), hEntry]
      simp [journalText]

/- A journal that exists goes on existing. -/
theorem journal_eq_some
    (h : Appends C store disk rs store' disk')
    {b : Bytes}
    (hDisk : disk.journal = some b) :
    disk'.journal = some (disk'.journal.getD []) := by
  induction h generalizing b with
  | nil store disk => simp [hDisk]
  | @cons store store₁ store₂ disk disk₁ disk₂ record rs io
      hAppend hRest ih =>
      rcases appendSnapshot_eq_ok_iff.mp hAppend with
        ⟨-, -, -, -, rfl⟩
      apply ih (b := ((store.recorded C record disk).journal).getD [])
      unfold recorded
      cases store.snapshotDir <;> cases store.journal <;>
        simp [hDisk]

/- A fresh journal holds the entries. -/
theorem journal_of_fresh
    (h : Appends C store disk rs store' disk')
    (hJournal : store.journal = true)
    (hDisk : disk.journal = some []) :
    disk'.journal = some (journalText C rs) := by
  rw [h.journal_eq_some hDisk, h.journal_eq hJournal, hDisk]
  rfl

/- The bodies of the records are written. -/
theorem files_eq
    (h : Appends C store disk rs store' disk') :
    disk'.files =
      match store.snapshotDir with
      | none => disk.files
      | some dir => (disk.writeBodies C dir rs).files := by
  induction h with
  | nil store disk => cases store.snapshotDir <;> rfl
  | @cons store store₁ store₂ disk disk₁ disk₂ record rs io
      hAppend hRest ih =>
      rcases appendSnapshot_eq_ok_iff.mp hAppend with
        ⟨-, -, -, rfl, rfl⟩
      rw [ih]
      unfold recorded push
      cases store.snapshotDir with
      | none =>
          simp only
          split <;> rfl
      | some dir =>
          apply Disk.files_writeBodies_congr
          simp only [Disk.files_writeFile_done]
          split <;> rfl

/- Every record was next in sequence with a right digest. -/
theorem accepted
    (h : Appends C store disk rs store' disk')
    {Line : Type}
    {verdict : Line → Replay.Verdict SnapshotRecord}
    {line : SnapshotRecord → Line}
    (hLine : ∀ r ∈ rs, verdict (line r) = .record r) :
    Replay.Accepted verdict (Admits C) store.records
      (rs.map line) (store.records ++ rs) := by
  induction h with
  | nil store disk =>
      simpa using Replay.Accepted.nil store.records
  | @cons store store₁ store₂ disk disk₁ disk₂ record rs io
      hAppend hRest ih =>
      rcases appendSnapshot_eq_ok_iff.mp hAppend with
        ⟨hAdmits, -, -, rfl, -⟩
      have hTail := ih (fun r hr => hLine r (by simp [hr]))
      apply Replay.Accepted.record
        (hLine record (by simp)) hAdmits
      simpa [push] using hTail

end Appends

end SnapshotStore

end UnidppArchive
