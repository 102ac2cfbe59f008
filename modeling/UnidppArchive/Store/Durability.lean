import UnidppArchive.Store.Ingested

/-
  Appends after an open, and the open after that.

  The journal is opened for appending as it stands.  Where
  its last line is open, the first entry continues that line
  and is lost.

  Key theorems include:
    * `cleanJournal_of_reopened`
    * `appends_durable_iff`
-/

------------------------------------------------------------
-- What a Second Open Tells of the First Journal
------------------------------------------------------------

namespace UnidppArchive

variable {C : Crates}

/-
  If no record of a longer journal is missing, then the
  journal before it was clean.
-/
theorem cleanJournal_of_reopened
    (hSerde : C.serde.Lawful)
    {disk : Disk}
    {records rs : List SnapshotRecord}
    (hFirst :
      Replayed C (disk.journal.getD []) records)
    (hSecond :
      Replayed C
        (disk.journal.getD [] ++ journalText C rs)
        (records ++ rs))
    (hSome : rs ≠ []) :
    CleanJournal C disk := by
  unfold CleanJournal
  generalize disk.journal.getD [] = b at *
  rcases Lines.exists_open_tail b with
    ⟨front, t, rfl, hFront, ht⟩
  unfold Replayed at hFirst hSecond
  by_cases hTail : t = []
  · -- a torn line would stand before another line
    subst hTail
    rw [List.append_nil] at *
    rw [lines_append_journalText hSerde hFront] at hSecond
    rcases hFirst with hFirst | ⟨ls, l, hLines, hTorn, hFirst⟩
    · exact ⟨hFront, fun l hMem => hFirst.exists_record hMem⟩
    · rw [hLines, List.append_assoc, List.singleton_append,
        Replay.replays_append_iff hFirst,
        Replay.replays_cons_torn_iff hTorn] at hSecond
      exact (hSome (by simpa using hSecond.1)).elim
  · -- the open line is continued by the first entry
    exfalso
    rcases List.exists_cons_of_ne_nil hSome with ⟨r, rest, rfl⟩
    rw [Lines.lines_append_of_terminated hFront,
      Lines.lines_of_not_mem ht hTail] at hFirst
    rw [List.append_assoc,
      Lines.lines_append_of_terminated hFront,
      journalText_cons, ← List.append_assoc,
      lines_open_append_entry hSerde ht,
      lines_journalText hSerde] at hSecond
    rcases hFirst with hFirst | ⟨ls, l, hLines, hTorn, hFirst⟩
    · have hLength := hFirst.length_eq
      have hFewer := hSecond.length_le
      simp at hLength hFewer
      omega
    · rcases List.append_inj' hLines rfl with ⟨rfl, hLast⟩
      cases hLast
      rw [Replay.replays_append_iff hFirst] at hSecond
      have hAccepted :=
        hSecond.accepted_of_length (by simp)
      rcases exists_of_lineVerdict_torn hTorn with
        ⟨line, rfl, hText⟩
      rcases hAccepted.exists_record (List.mem_cons_self ..)
        with ⟨r', hRecord⟩
      rw [lineVerdict_append_journalLine hSerde hText]
        at hRecord
      cases hRecord

end UnidppArchive

------------------------------------------------------------
-- Appends After an Open
------------------------------------------------------------

namespace UnidppArchive

variable {C : Crates}
variable {paths : StorePaths}
variable {store store' : SnapshotStore}
variable {disk disk₁ disk₂ : Disk}
variable {rs : List SnapshotRecord}

/- If nothing is missing, the first journal was clean. -/
theorem cleanJournal_of_recovered
    (hSerde : C.serde.Lawful)
    (hJournal : paths.journal = true)
    (hOpen :
      SnapshotStore.openAt C .sound paths disk =
        (.ok store, disk₁))
    (hAppends :
      SnapshotStore.Appends C store disk₁ rs store' disk₂)
    (hSome : rs ≠ [])
    {store'' : SnapshotStore}
    {disk₃ : Disk}
    (hReopen :
      SnapshotStore.openAt C .sound paths disk₂ =
        (.ok store'', disk₃))
    (hRecords : store''.records = store.records ++ rs) :
    CleanJournal C disk := by
  rcases SnapshotStore.openAt_sound_eq_ok_iff.mp hOpen with
    ⟨hReads, -, hStore, hDisk⟩
  rcases SnapshotStore.openAt_sound_eq_ok_iff.mp hReopen with
    ⟨hAgain, -, -, -⟩
  have hText := hAppends.journal_eq (by
    rw [hStore]
    exact hJournal)
  simp only [JournalReads, hJournal, if_true] at hReads hAgain
  rw [hRecords, hText, hDisk] at hAgain
  apply cleanJournal_of_reopened hSerde hReads ?_ hSome
  simpa [Disk.withJournal, hJournal] using hAgain

/-
  What is appended after an open is read by the next open
  exactly when the journal was clean and the snapshot files
  do not collide.
-/
theorem appends_durable_iff
    (hSerde : C.serde.Lawful)
    (hJournal : paths.journal = true)
    (hOpen :
      SnapshotStore.openAt C .sound paths disk =
        (.ok store, disk₁))
    (hAppends :
      SnapshotStore.Appends C store disk₁ rs store' disk₂)
    (hSome : rs ≠ [])
    (hDecodable : ∀ r ∈ rs, Decodable C r) :
    (∃ store'' disk₃,
      SnapshotStore.openAt C .sound paths disk₂ =
          (.ok store'', disk₃) ∧
        store''.records = store.records ++ rs) ↔
      CleanJournal C disk ∧
        ∀ dir, paths.snapshotDir = some dir →
          Compatible C dir (store.records ++ rs) := by
  rcases SnapshotStore.openAt_sound_eq_ok_iff.mp hOpen with
    ⟨-, -, hStore, -⟩
  have hStoreJournal : store.journal = true := by
    rw [hStore]
    exact hJournal
  have hPaths : store.paths = paths := by
    rw [hStore]
    rfl
  constructor
  · rintro ⟨store'', disk₃, hReopen, hRecords⟩
    rcases SnapshotStore.openAt_sound_eq_ok_iff.mp hReopen
      with ⟨-, hFiles, -, -⟩
    rw [hRecords] at hFiles
    exact ⟨cleanJournal_of_recovered hSerde hJournal hOpen
        hAppends hSome hReopen hRecords,
      fun dir hDir => (hFiles dir hDir).2⟩
  · rintro ⟨hClean, hCompatible⟩
    have hSynced :=
      (SnapshotStore.synced_of_openAt hJournal hOpen
        hClean).appends hSerde hStoreJournal hAppends
          hDecodable (by
            intro dir hDir
            apply hCompatible dir
            rw [← hPaths]
            exact hDir)
    have hStore' := hAppends.store_eq
    have hPaths' : store'.paths = paths := by
      rw [hStore', ← hPaths]
      rfl
    have hReopen := hSynced.openAt (by
      rw [hStore']
      exact hStoreJournal)
    rw [hPaths'] at hReopen
    exact ⟨store', disk₂, hReopen, by rw [hStore']⟩

end UnidppArchive

------------------------------------------------------------
-- Fresh and Torn Journals
------------------------------------------------------------

namespace UnidppArchive

open Reference in
/- One append to a fresh journal. -/
theorem appends_durable_iff_fresh :
    ∃ r store' disk₂,
      SnapshotStore.Appends crates emptyStore
          (diskOf (some [])) [r] store' disk₂ ∧
        ((∃ store'' disk₃,
          SnapshotStore.openAt crates .sound journalOnly
              disk₂ = (.ok store'', disk₃) ∧
            store''.records = emptyStore.records ++ [r]) ↔
          CleanJournal crates (diskOf none) ∧
            ∀ dir, journalOnly.snapshotDir = some dir →
              Compatible crates dir
                (emptyStore.records ++ [r])) := by
  rcases exists_record 0 request unreachable with ⟨r, hRecord⟩
  have hAppends :=
    SnapshotStore.Appends.single
      (append_sample emptyStore hRecord (diskOf (some [])))
  exact ⟨r, _, _, hAppends,
    appends_durable_iff lawful_serde rfl open_absent hAppends
      (by simp) (by simpa using decodable_sample hRecord)⟩

open Reference in
/- What follows an open brace is not read back. -/
theorem append_after_torn_tail_is_lost :
    ∃ r store disk₁ store' disk₂,
      SnapshotStore.openAt crates .sound journalOnly
          (diskOf (some [123])) = (.ok store, disk₁) ∧
        SnapshotStore.Appends crates store disk₁ [r] store'
          disk₂ ∧
        Decodable crates r ∧
        ¬ ∃ store'' disk₃,
          SnapshotStore.openAt crates .sound journalOnly
              disk₂ = (.ok store'', disk₃) ∧
            store''.records = store.records ++ [r] := by
  rcases exists_record 0 request unreachable with ⟨r, hRecord⟩
  have hAppends :=
    SnapshotStore.Appends.single
      (append_sample emptyStore hRecord
        (diskOf (some [123])))
  refine ⟨r, emptyStore, diskOf (some [123]), _, _,
    open_torn, hAppends, decodable_sample hRecord, ?_⟩
  rintro ⟨store'', disk₃, hReopen, hRecords⟩
  have hClean :=
    cleanJournal_of_recovered lawful_serde rfl open_torn
      hAppends (by simp) hReopen hRecords
  have hOpenLine : ¬ Lines.Terminated [123] := by
    decide
  exact hOpenLine hClean.1

end UnidppArchive
