import UnidppArchive.Store.Torn

/-
  Opening verifies and heals the snapshot directory.

  For a journal that the create flow wrote, and any contents
  of the directory, an open stops at a file that differs from
  the body of its record, writes the missing ones, and leaves
  the others as they are.  It does so exactly when each line
  of the journal is read back as its record.

  Key definitions include:
    * `CreateFlow`
    * `Heals`

  Key theorems include:
    * `replayed_journalText_iff`
    * `heals_iff_decodable`
-/

------------------------------------------------------------
-- Journals of the Create Flow
------------------------------------------------------------

namespace UnidppArchive

/-
  The records were sealed by the create flow, one after the
  other, for any requests, clocks and answers of the log.
-/
def CreateFlow
    (C : Crates)
    (notary : C.signatif.KeyPair)
    (records : List SnapshotRecord) : Prop :=
  ∀ i r, records[i]? = some r →
    ∃ notarizedAt req answer,
      ingestRecord C notary (UInt64.ofNat i) notarizedAt req
        answer = .ok r

variable {C : Crates}
variable {notary : C.signatif.KeyPair}
variable {records : List SnapshotRecord}

/- Each of the records is admitted in its place. -/
theorem CreateFlow.accepted
    (h : CreateFlow C notary records) :
    Replay.Accepted Replay.Verdict.record (Admits C) []
      records records := by
  induction records using List.reverseRecOn with
  | nil => exact .nil []
  | append_singleton front r ih =>
      have hFront : CreateFlow C notary front := by
        intro i q hq
        apply h i q
        have hLt := (List.getElem?_eq_some_iff.mp hq).1
        rw [List.getElem?_append_left hLt]
        exact hq
      apply (ih hFront).append
      rw [Replay.accepted_singleton_iff]
      rcases h front.length r List.getElem?_concat_length with
        ⟨notarizedAt, req, answer, hRecord⟩
      exact ⟨r, rfl, admits_ingestRecord hRecord rfl, rfl⟩

theorem CreateFlow.inSequence
    (h : CreateFlow C notary records)
    (hCapacity : records.length ≤ maxRecords) :
    InSequence 0 records := by
  apply inSequence_nil.of_accepted h.accepted hCapacity
  intro r hr
  rcases List.getElem?_of_mem hr with ⟨i, hi⟩
  rcases h i r hi with ⟨notarizedAt, req, answer, hRecord⟩
  rw [(fields_ingestRecord hRecord).2.1,
    (fields_ingestRecord hRecord).1]

/- No line of a written journal is lost at its full length. -/
theorem wholeLines_length
    (records : List SnapshotRecord) :
    wholeLines C records (journalText C records).length =
      records := by
  induction records with
  | nil => rfl
  | cons r records ih =>
      have hLength :
          (journalText C (r :: records)).length =
            (journalLine C r).length + 1 +
              (journalText C records).length := by
        rw [journalText_cons]
        simp
        omega
      rw [wholeLines, if_pos (by omega), hLength,
        Nat.add_sub_cancel_left, ih]

/-
  A journal of admitted records replays to them exactly when
  each line is read back.
-/
theorem replayed_journalText_iff
    (hSerde : C.serde.Lawful)
    (hSequence :
      Replay.Accepted Replay.Verdict.record (Admits C) []
        records records) :
    Replayed C (journalText C records) records ↔
      ∀ r ∈ records, Decodable C r := by
  have hCut :=
    replays_take_journalText_iff hSerde hSequence
      (journalText C records).length
  rw [List.take_length, wholeLines_length, List.nil_append]
    at hCut
  have hText : Utf8.Valid (journalText C records) := by
    clear hCut hSequence
    induction records with
    | nil => exact Utf8.valid_encode ""
    | cons r records ih =>
        rw [journalText_cons, valid_entry_append_iff]
        exact ih
  exact hCut.trans (and_iff_right hText)

end UnidppArchive

------------------------------------------------------------
-- Opening and Healing
------------------------------------------------------------

namespace UnidppArchive

/-
  What an open does with a journal of these records and the
  files of a disk.  It fails exactly when the file of some
  record differs from its body.  When it succeeds, it holds
  the records, every file is the body of its record, and a
  second open yields the same and changes nothing.  No file
  that was there is modified.
-/
structure Heals
    (C : Crates)
    (dir : String)
    (records : List SnapshotRecord)
    (disk : Disk) : Prop where
  fails :
    (∃ e disk',
      SnapshotStore.openAt C .sound ⟨true, some dir⟩ disk =
        (.error e, disk')) ↔
      ∃ r ∈ records, ∃ b,
        disk.files (snapshotPath dir r.snapshotId) = some b ∧
          b ≠ r.bodyBytes C
  heals :
    ∀ store disk',
      SnapshotStore.openAt C .sound ⟨true, some dir⟩ disk =
          (.ok store, disk') →
        store.records = records ∧
          FilesAgree C dir records disk'
  spares :
    ∀ path b, disk.files path = some b →
      (SnapshotStore.openAt C .sound ⟨true, some dir⟩
        disk).2.files path = some b
  again :
    ∀ store disk',
      SnapshotStore.openAt C .sound ⟨true, some dir⟩ disk =
          (.ok store, disk') →
        SnapshotStore.openAt C .sound ⟨true, some dir⟩ disk' =
          (.ok store, disk')

variable {C : Crates}
variable {notary : C.signatif.KeyPair}
variable {dir : String}
variable {records : List SnapshotRecord}
variable {files : String → Option Bytes}

/- An open that succeeds replays the journal to its records. -/
theorem records_of_openAt_journalText
    {store : SnapshotStore}
    {disk' : Disk}
    (hReplayed :
      Replayed C (journalText C records) records)
    (hOpen :
      SnapshotStore.openAt C .sound ⟨true, some dir⟩
          ⟨some (journalText C records), files⟩ =
        (.ok store, disk')) :
    store.records = records := by
  have hReads := (SnapshotStore.openAt_reads hOpen).1
  simp only [JournalReads, if_true, Option.getD_some,
    ← replay_eq_ok_iff] at hReads hReplayed
  rw [hReplayed] at hReads
  exact (Except.ok.inj hReads).symm

/- It succeeds exactly when no file differs. -/
theorem openAt_journalText_iff
    (files : String → Option Bytes)
    (hReplayed :
      Replayed C (journalText C records) records)
    (hCompatible : Compatible C dir records) :
    (∃ store disk',
      SnapshotStore.openAt C .sound ⟨true, some dir⟩
          ⟨some (journalText C records), files⟩ =
        (.ok store, disk')) ↔
      Intact C dir records
        ⟨some (journalText C records), files⟩ := by
  constructor
  · rintro ⟨store, disk', hOpen⟩
    have hRecords :=
      records_of_openAt_journalText hReplayed hOpen
    rcases SnapshotStore.openAt_sound_eq_ok_iff.mp hOpen with
      ⟨-, hFiles, -, -⟩
    rw [hRecords] at hFiles
    exact (hFiles dir rfl).1
  · intro hIntact
    refine ⟨⟨records, true, some dir⟩, _,
      SnapshotStore.openAt_sound_eq_ok_iff.mpr
        ⟨?_, ?_, rfl, rfl⟩⟩
    · simpa [JournalReads] using hReplayed
    · intro dir' hDir
      cases hDir
      exact ⟨hIntact, hCompatible⟩

/- Decodable records of the create flow are healed. -/
theorem heals_of_decodable
    (hSerde : C.serde.Lawful)
    (hFlow : CreateFlow C notary records)
    (hCapacity : records.length ≤ maxRecords)
    (hDecodable : ∀ r ∈ records, Decodable C r) :
    Heals C dir records
      ⟨some (journalText C records), files⟩ := by
  have hReplayed :=
    (replayed_journalText_iff hSerde hFlow.accepted).mpr
      hDecodable
  have hCompatible : Compatible C dir records :=
    (hFlow.inSequence hCapacity).compatible dir
  have hOpens :=
    openAt_journalText_iff files hReplayed hCompatible
  have hClean :
      CleanJournal C
        ⟨some (journalText C records), files⟩ := by
    constructor
    · exact terminated_journalText records
    · intro l hMem
      simp only [Option.getD_some, lines_journalText hSerde,
        List.mem_map] at hMem
      rcases hMem with ⟨r, hr, rfl⟩
      exact ⟨r, (hDecodable r hr).lineVerdict⟩
  constructor
  · rw [← not_iff_not]
    have hResult :
        (¬ ∃ e disk',
          SnapshotStore.openAt C .sound ⟨true, some dir⟩
              ⟨some (journalText C records), files⟩ =
            (.error e, disk')) ↔
          ∃ store disk',
            SnapshotStore.openAt C .sound ⟨true, some dir⟩
                ⟨some (journalText C records), files⟩ =
              (.ok store, disk') := by
      rcases SnapshotStore.openAt C .sound ⟨true, some dir⟩
          ⟨some (journalText C records), files⟩ with
        ⟨e | store, disk'⟩ <;> simp
    rw [hResult, hOpens, Intact]
    simp only [not_exists, not_and, not_not]
  · intro store disk' hOpen
    have hRecords :=
      records_of_openAt_journalText hReplayed hOpen
    refine ⟨hRecords, ?_⟩
    rcases SnapshotStore.openAt_sound_eq_ok_iff.mp hOpen with
      ⟨-, -, -, hDisk⟩
    rw [hDisk, hRecords]
    exact filesAgree_writeBodies hCompatible
  · intro path b hFile
    have hSpared :=
      SnapshotStore.openAt_spared (C := C) .sound
        ⟨true, some dir⟩
        ⟨some (journalText C records), files⟩
    have hThere : files path ≠ none := by
      intro hNone
      cases hNone.symm.trans hFile
    rw [hSpared.2 path rfl hThere, hFile]
  · intro store disk' hOpen
    have hSynced :=
      SnapshotStore.synced_of_openAt rfl hOpen hClean
    have hStore := (SnapshotStore.openAt_reads hOpen).2
    have hAgain := hSynced.openAt (by rw [hStore])
    rw [hStore] at hAgain ⊢
    exact hAgain

/- An empty directory shows what the journal replays to. -/
theorem replayed_of_heals
    (h : Heals C dir records
      ⟨some (journalText C records), fun _ => none⟩) :
    Replayed C (journalText C records) records := by
  rcases hOpen :
      SnapshotStore.openAt C .sound ⟨true, some dir⟩
        ⟨some (journalText C records), fun _ => none⟩ with
    ⟨e | store, disk'⟩
  · -- an empty directory does not differ from the records
    rcases h.fails.mp ⟨e, disk', hOpen⟩ with
      ⟨r, -, b, hFile, -⟩
    cases hFile
  · have hRecords := (h.heals store disk' hOpen).1
    have hReads := (SnapshotStore.openAt_reads hOpen).1
    rw [hRecords] at hReads
    simpa [JournalReads] using hReads

/-
  The directory is verified and healed, whatever it holds,
  exactly when every record is read back from its own line.
-/
theorem heals_iff_decodable
    (hSerde : C.serde.Lawful)
    (hFlow : CreateFlow C notary records)
    (hCapacity : records.length ≤ maxRecords) :
    (∀ files,
      Heals C dir records
        ⟨some (journalText C records), files⟩) ↔
      ∀ r ∈ records, Decodable C r := by
  constructor
  · intro hHeals
    exact (replayed_journalText_iff hSerde
      hFlow.accepted).mp (replayed_of_heals (hHeals _))
  · intro hDecodable files
    exact heals_of_decodable hSerde hFlow hCapacity hDecodable

end UnidppArchive

------------------------------------------------------------
-- A Readable and an Unreadable Journal
------------------------------------------------------------

namespace UnidppArchive

open Reference

/- A journal of one sample record. -/
theorem createFlow_singleton
    {req : CreateRequest}
    {answer : Except String Json.Value}
    {r : SnapshotRecord}
    (h : ingestRecord crates notary 0 now req answer = .ok r) :
    CreateFlow crates notary [r] := by
  intro i q hq
  cases i with
  | zero =>
      cases Option.some.inj hq
      exact ⟨now, req, answer, h⟩
  | succ i => cases hq

/- The journal of an ingest whose log was not reached. -/
theorem heals_iff_decodable_unreachable :
    ∃ r,
      ingestRecord crates notary 0 now request unreachable =
          .ok r ∧
        ∀ files,
          Heals crates "snapshots" [r]
            ⟨some (journalText crates [r]), files⟩ := by
  rcases exists_record 0 request unreachable with
    ⟨r, hRecord⟩
  refine ⟨r, hRecord, ?_⟩
  apply (heals_iff_decodable lawful_serde
    (createFlow_singleton hRecord) (by simp [maxRecords])).mpr
  intro q hq
  rw [List.mem_singleton.mp hq]
  exact decodable_sample hRecord

/-
  The journal of a record that is not read back is opened as
  if it were empty, and the file of the record is missing.
-/
theorem late_record_is_not_healed :
    ∃ receipt r store disk',
      ingestRecord crates notary 0 now request
          (.ok receipt) = .ok r ∧
        SnapshotStore.openAt crates .sound journalAndFiles
            ⟨some (journalText crates [r]), fun _ => none⟩ =
          (.ok store, disk') ∧
        disk'.files (snapshotPath "snapshots" r.snapshotId) =
          none := by
  rcases exists_late_record with
    ⟨receipt, r, hRecord, hTorn⟩
  refine ⟨receipt, r, emptyFiled,
    ⟨some (journalText crates [r]), fun _ => none⟩, hRecord,
    ?_, rfl⟩
  exact SnapshotStore.openAt_torn_line rfl
    (lines_journalText lawful_serde [r]) hTorn

end UnidppArchive
