import UnidppArchive.Api.Verification
import UnidppArchive.Model.Fixity
import UnidppArchive.Store.Specification

/-
  What holds of every store.

  A record enters a store by the journal decoder or by the
  create flow.  Each of the two routes checks the number, the
  digest of the body and the fields of an anchor, and nothing
  that happens to a store takes a record away.

  Key definitions include:
    * `SnapshotRecord.Statement`
    * `StoreInvariant`
    * `SnapshotStore.Opened`
    * `SnapshotStore.Ingests`

  Key theorems include:
    * `storeInvariant_of_openAt`
    * `StoreInvariant.ingests`
    * `store_invariant`
-/

------------------------------------------------------------
-- The Invariant
------------------------------------------------------------

namespace UnidppArchive

/-
  The statement of an anchored record is written from fields
  that are present, without a default.
-/
def SnapshotRecord.Statement
    (C : Crates)
    (r : SnapshotRecord) : Prop :=
  ∃ logId receiptSeq treeSize root,
    r.anchoring.logId = some logId ∧
      r.anchoring.receiptSeq = some receiptSeq ∧
      r.anchoring.treeSize = some treeSize ∧
      r.anchoring.root = some root ∧
      r.statementBytes C =
        C.model.writeHash
          (C.model.writeU64
            (C.model.writeU64
              (C.model.writeStr
                (C.model.writeU32
                  (C.model.writeBytesRaw []
                    (r.coreStatementBytes C)) 1)
                logId) receiptSeq) treeSize) root

/-
  Each record has its index as number and the digest of its
  body, and the anchored ones have every field of an anchor.
-/
structure StoreInvariant
    (C : Crates)
    (store : SnapshotStore) : Prop where
  fits :
    ∀ i r, store.records[i]? = some r → FitsPlace C i r
  complete :
    ∀ r ∈ store.records, r.anchoring.status = .anchored →
      r.anchoring.complete = true

variable {C : Crates}

/- No default is used for a complete anchor. -/
theorem SnapshotRecord.statement_of_complete
    {r : SnapshotRecord}
    (hAnchored : r.anchoring.status = .anchored)
    (hComplete : r.anchoring.complete = true) :
    r.Statement C := by
  unfold Anchoring.complete at hComplete
  simp only [Bool.and_eq_true, Option.isSome_iff_exists]
    at hComplete
  rcases hComplete with
    ⟨⟨⟨⟨⟨⟨⟨logId, hLogId⟩, ⟨seq, hSeq⟩⟩, ⟨size, hSize⟩⟩,
      ⟨root, hRoot⟩⟩, -⟩, -⟩, -⟩
  refine ⟨logId, seq, size, root, hLogId, hSeq, hSize, hRoot,
    ?_⟩
  simp [SnapshotRecord.statementBytes, canonicalStatement,
    hAnchored, hLogId, hSeq, hSize, hRoot]

end UnidppArchive

------------------------------------------------------------
-- The Two Routes into a Store
------------------------------------------------------------

namespace UnidppArchive

/- The store is what some open returned. -/
def SnapshotStore.Opened
    (C : Crates)
    (store : SnapshotStore) : Prop :=
  ∃ io paths disk disk',
    SnapshotStore.openAt C io paths disk = (.ok store, disk')

/-
  The create flow seals a record and appends it, with any
  outcome of the two writes.
-/
def SnapshotStore.Ingests
    (C : Crates)
    (notary : C.signatif.KeyPair)
    (store store' : SnapshotStore) : Prop :=
  ∃ now req answer r io disk,
    ingestRecord C notary (store.reserve now).1
        (store.reserve now).2 req answer = .ok r ∧
      store' = (store.appendSnapshot C io r disk).2.1

variable {C : Crates}
variable {notary : C.signatif.KeyPair}
variable {store store' : SnapshotStore}

/- Every record of an opened store comes from a line. -/
theorem exists_line_of_openAt
    {io : OpenIo}
    {paths : StorePaths}
    {disk disk' : Disk}
    (h : SnapshotStore.openAt C io paths disk =
      (.ok store, disk'))
    {i : Nat}
    {r : SnapshotRecord}
    (hi : store.records[i]? = some r) :
    ∃ l ∈ Lines.lines (disk.journal.getD []),
      lineVerdict C l = .record r ∧ FitsPlace C i r := by
  have hReads := (SnapshotStore.openAt_reads h).1
  unfold JournalReads at hReads
  split at hReads
  · exact Replay.Replays.exists_line
      (fun acc a => (admits_iff_fitsPlace acc a).mp)
      hReads hi
  · rw [hReads] at hi
    cases hi

/- The decoder and the replay check what they admit. -/
theorem storeInvariant_of_openAt
    (h : store.Opened C) :
    StoreInvariant C store := by
  rcases h with ⟨io, paths, disk, disk', h⟩
  constructor
  · intro i r hi
    rcases exists_line_of_openAt h hi with
      ⟨l, -, -, hFits⟩
    exact hFits
  · intro r hr hAnchored
    rcases List.getElem?_of_mem hr with ⟨i, hi⟩
    rcases exists_line_of_openAt h hi with
      ⟨l, -, hLine, -⟩
    rcases fromJournalJson_of_lineVerdict hLine with
      ⟨v, hRead⟩
    exact SnapshotRecord.complete_of_fromJournalJson hRead
      hAnchored

/- An append that fails leaves the store as it was. -/
theorem SnapshotStore.appendSnapshot_error
    {io : AppendIo}
    {r : SnapshotRecord}
    {disk disk' : Disk}
    {e : StoreError}
    (h : store.appendSnapshot C io r disk =
      (.error e, store', disk')) :
    store' = store := by
  unfold appendSnapshot at h
  split at h
  · exact (congrArg (fun p => p.2.1) h).symm
  · split at h
    · exact (congrArg (fun p => p.2.1) h).symm
    · split at h
      · exact (congrArg (fun p => p.2.1) h).symm
      · cases congrArg Prod.fst h

/- An append adds a record at the end, or it fails. -/
theorem SnapshotStore.appendSnapshot_cases
    (C : Crates)
    (store : SnapshotStore)
    (io : AppendIo)
    (r : SnapshotRecord)
    (disk : Disk) :
    (Admits C store.records r ∧
        (store.appendSnapshot C io r disk).1 = .ok () ∧
        (store.appendSnapshot C io r disk).2.1 =
          store.push r) ∨
      ((∃ e,
          (store.appendSnapshot C io r disk).1 = .error e) ∧
        (store.appendSnapshot C io r disk).2.1 = store) := by
  rcases hAppend : store.appendSnapshot C io r disk with
    ⟨e | u, store', disk'⟩
  · right
    exact ⟨⟨e, rfl⟩, appendSnapshot_error hAppend⟩
  · left
    rcases appendSnapshot_eq_ok_iff.mp hAppend with
      ⟨hAdmits, -, -, hStore, -⟩
    exact ⟨hAdmits, rfl, hStore⟩

/- An admitted and complete record may be added. -/
theorem StoreInvariant.push
    (h : StoreInvariant C store)
    {r : SnapshotRecord}
    (hAdmits : Admits C store.records r)
    (hComplete :
      r.anchoring.status = .anchored →
        r.anchoring.complete = true) :
    StoreInvariant C (store.push r) := by
  constructor
  · intro i q hi
    rcases Nat.lt_or_ge i store.records.length with
      hOld | hNew
    · apply h.fits i q
      rw [← List.getElem?_append_left hOld]
      exact hi
    · have hEnd := (List.getElem?_eq_some_iff.mp hi).1
      simp only [SnapshotStore.push, List.length_append,
        List.length_singleton] at hEnd
      have hPlace : i = store.records.length := by omega
      subst hPlace
      simp only [SnapshotStore.push,
        List.getElem?_concat_length] at hi
      cases Option.some.inj hi
      exact hAdmits
  · intro q hq hAnchored
    rcases List.mem_append.mp hq with hOld | hNew
    · exact h.complete q hOld hAnchored
    · rw [List.mem_singleton.mp hNew] at hAnchored ⊢
      exact hComplete hAnchored

/- The receipt parser and the store check them as well. -/
theorem StoreInvariant.ingests
    (h : StoreInvariant C store)
    (hIngests : store.Ingests C notary store') :
    StoreInvariant C store' ∧
      store.records <+: store'.records := by
  rcases hIngests with
    ⟨now, req, answer, r, io, disk, hRecord, rfl⟩
  rcases SnapshotStore.appendSnapshot_cases C store io r disk
    with ⟨hAdmits, -, hStore⟩ | ⟨-, hStore⟩
  · rw [hStore]
    exact ⟨h.push hAdmits (complete_ingestRecord hRecord),
      List.prefix_append _ _⟩
  · rw [hStore]
    exact ⟨h, List.prefix_refl _⟩

end UnidppArchive

------------------------------------------------------------
-- Runs
------------------------------------------------------------

namespace UnidppArchive

variable {C : Crates}
variable {notary : C.signatif.KeyPair}
variable {first store : SnapshotStore}

/-
  A store that was opened on any journal and driven by any
  ingests satisfies the invariant and extends the store that
  was opened.  A further append adds its record at the end,
  or it fails and leaves the records as they were.
-/
theorem store_invariant
    (hOpened : first.Opened C)
    (hRun :
      Relation.ReflTransGen (SnapshotStore.Ingests C notary)
        first store) :
    StoreInvariant C store ∧
      (∀ r ∈ store.records,
        r.anchoring.status = .anchored → r.Statement C) ∧
        first.records <+: store.records ∧
          ∀ io r disk result store' disk',
            store.appendSnapshot C io r disk =
                (result, store', disk') →
              store.records <+: store'.records ∧
                (∀ e, result = .error e →
                  store'.records = store.records) := by
  have hInvariant :
      StoreInvariant C store ∧
        first.records <+: store.records := by
    induction hRun with
    | refl =>
        exact ⟨storeInvariant_of_openAt hOpened,
          List.prefix_refl _⟩
    | tail _ hStep ih =>
        rcases ih.1.ingests hStep with ⟨hNext, hPrefix⟩
        exact ⟨hNext, ih.2.trans hPrefix⟩
  refine ⟨hInvariant.1, ?_, hInvariant.2, ?_⟩
  · intro r hr hAnchored
    exact SnapshotRecord.statement_of_complete hAnchored
      (hInvariant.1.complete r hr hAnchored)
  · intro io r disk result store' disk' hAppend
    rcases SnapshotStore.appendSnapshot_cases C store io r
        disk with
      ⟨-, hResult, hStore⟩ | ⟨-, hStore⟩
    · rw [hAppend] at hResult hStore
      simp only at hResult hStore
      rw [hStore]
      refine ⟨List.prefix_append _ _, ?_⟩
      intro e hError
      rw [hResult] at hError
      cases hError
    · rw [hAppend] at hStore
      simp only at hStore
      rw [hStore]
      exact ⟨List.prefix_refl _, fun _ _ => rfl⟩

end UnidppArchive

------------------------------------------------------------
-- An Anchored Sample
------------------------------------------------------------

namespace UnidppArchive

open Reference

/- An anchored record, appended behind a torn line. -/
theorem store_invariant_anchored :
    ∃ receipt r store,
      ingestRecord crates notary 0 now request
          (.ok receipt) = .ok r ∧
        r.anchoring.status = .anchored ∧
          store.records = [r] ∧
            StoreInvariant crates store ∧
              r.Statement crates := by
  have hAccepted := summary_working_day "" ""
  rcases exists_record 0 request
      (.ok (receipt "2026-09-07T10:00:00Z" "" "")) with
    ⟨r, hRecord⟩
  have hAnchored : r.anchoring.status = .anchored :=
    (anchored_ingestRecord hRecord ⟨rfl, hAccepted⟩).1
  have hOpened : emptyStore.Opened crates :=
    ⟨.sound, journalOnly, diskOf (some [123]), _, open_torn⟩
  have hIngests :
      emptyStore.Ingests crates notary
        (emptyStore.push r) := by
    refine ⟨now, request, _, r, .sound, diskOf none, hRecord,
      ?_⟩
    rw [append_sample emptyStore hRecord]
  rcases store_invariant hOpened (.single hIngests) with
    ⟨hInvariant, hStatement, -⟩
  exact ⟨_, r, emptyStore.push r, hRecord, hAnchored, rfl,
    hInvariant, hStatement r
      (List.mem_append_right _ (List.mem_singleton_self r))
      hAnchored⟩

end UnidppArchive
