import UnidppArchive.Api.Concurrency

/-
  Concurrent ingest is gapless and free of conflicts.

  The invariant ties the mutation lock, the reservation of
  its owner, and the length of the store: while a handler
  has the lock no other handler appends, so its reservation
  stays the next place.

  Key definitions include:
    * `Phase.Standing`
    * `AppSystem.Pending`
    * `AppSystem.Coherent`

  Key theorems include:
    * `AppSystem.Coherent.step`
    * `AppSystem.Run.coherent`
    * `concurrent_ingest`
-/

------------------------------------------------------------
-- What Holds of a Handler
------------------------------------------------------------

namespace UnidppArchive

variable (C : Crates)

/- The record can take the next place of the store. -/
def SnapshotStore.Fits
    (store : SnapshotStore)
    (record : SnapshotRecord) : Prop :=
  Admits C store.records record ∧
    record.snapshotId = snapshotIdOf record.seq

/- Both writes of a record are done. -/
def SnapshotStore.Complete
    (store : SnapshotStore)
    (disk : Disk)
    (record : SnapshotRecord) : Prop :=
  store.Journaled C disk record ∧ store.Copied C disk record

namespace Phase

/- What a handler relies on where it stands. -/
def Standing
    (store : SnapshotStore)
    (disk : Disk) :
    Phase → Prop
| .anchoring _ seq _ => seq = store.size
| .noted record => store.Fits C record
| .checked record => store.Fits C record
| .journaled record =>
    store.Fits C record ∧ store.Journaled C disk record
| .copied record =>
    store.Fits C record ∧ store.Complete C disk record
| .appendFailed e => ∃ m, e = .journal m
| _ => True

/- Neither an answer 201 nor a record that waits for one. -/
def Quiet :
    Phase → Prop
| .appended _ => False
| .responded response => response.status ≠ 201
| _ => True

variable {C : Crates}
variable {store : SnapshotStore}
variable {disk : Disk}
variable {p : Phase}

/- Without the mutation lock there is nothing to rely on. -/
theorem standing_of_not_holds
    (h : ¬ p.Holds) :
    p.Standing C store disk := by
  cases p <;> first | trivial | exact absurd trivial h

theorem holds_of_inStore
    (h : p.InStore) :
    p.Holds := by
  cases p <;> trivial

theorem not_appended
    (h : p.Quiet)
    (record : SnapshotRecord) :
    p ≠ .appended record := by
  rintro rfl
  exact h

theorem not_created
    {response : Response}
    (h : p.Quiet)
    (hPhase : p = .responded response) :
    response.status ≠ 201 := by
  subst hPhase
  exact h

end Phase

end UnidppArchive

------------------------------------------------------------
-- The Invariant
------------------------------------------------------------

namespace UnidppArchive

namespace AppSystem

variable {Request : Type}

/- The records that are appended and not answered yet. -/
def Pending
    (s : AppSystem Request)
    (pending : List SnapshotRecord) : Prop :=
  (∀ t r, s.phase t = .appended r → pending = [r]) ∧
    (pending ≠ [] → ∃ t r, s.phase t = .appended r)

/- The records that were appended since the start. -/
def issued
    (s : AppSystem Request)
    (pending : List SnapshotRecord) : List SnapshotRecord :=
  s.acked.map Prod.snd ++ pending

/-
  What every run keeps that started with these records, with
  the appended records that are not answered yet.
-/
structure Coherent
    (C : Crates)
    (first : List SnapshotRecord)
    (pending : List SnapshotRecord)
    (s : AppSystem Request) : Prop where
  holder : Guarded s.mutations Phase.Holds s.phase
  writer : Guarded s.storeLock Phase.InStore s.phase
  standing :
    ∀ t, (s.phase t).Standing C s.store s.disk
  answered :
    ∀ t response,
      (s.phase t = .responded response ∧
          response.status = 201) ↔
        ∃ r, (t, r) ∈ s.acked ∧ response = createdResponse C r
  distinct : (s.acked.map Prod.fst).Nodup
  appended : s.Pending pending
  records : s.store.records = first ++ s.issued pending
  inSequence : InSequence first.length (s.issued pending)
  complete :
    ∀ r ∈ s.issued pending, s.store.Complete C s.disk r

variable {C : Crates}

theorem coherent_start
    (store : SnapshotStore)
    (disk : Disk) :
    (start store disk : AppSystem Request).Coherent C
      store.records [] := by
  refine ⟨?_, ?_, ?_, ?_, by simp [start], ?_, ?_, ?_, ?_⟩
  · intro t
    simp [start, Phase.Holds]
  · intro t
    simp [start, Phase.InStore]
  · intro t
    trivial
  · intro t response
    simp [start]
  · simp [Pending, start]
  · simp [issued, start]
  · exact inSequence_nil
  · simp [issued, start]

namespace Coherent

variable {service : Service C}
variable {first pending : List SnapshotRecord}
variable {s : AppSystem Request}
variable {t : Request}
variable {p : Phase}

/- The owner of the lock waits for no answer of others. -/
theorem pending_eq_nil
    (h : s.Coherent C first pending)
    (hHolds : (s.phase t).Holds)
    (hBefore : (s.phase t).Quiet) :
    pending = [] := by
  by_contra hPending
  rcases h.appended.2 hPending with ⟨u, r, hPhase⟩
  have hHolds' : (s.phase u).Holds := by
    rw [hPhase]
    trivial
  have hThread : u = t := h.holder.eq_of_holds hHolds hHolds'
  subst hThread
  exact Phase.not_appended hBefore r hPhase

theorem length_records
    (h : s.Coherent C first pending) :
    s.store.records.length =
      first.length + (s.issued pending).length := by
  rw [h.records, List.length_append]

/- A line behind the journal leaves the records complete. -/
theorem complete_writeJournal
    {io : AppendIo}
    {record : SnapshotRecord}
    {result : Except StoreError Unit}
    {disk : Disk}
    (h : s.Coherent C first pending)
    (hWrite :
      s.store.writeJournal C io record s.disk =
        (result, disk)) :
    ∀ r ∈ s.issued pending, s.store.Complete C disk r := by
  rcases SnapshotStore.writeJournal_effect hWrite with
    ⟨hFiles, hGrown, -, -⟩
  intro r hr
  rcases h.complete r hr with ⟨hLine, hCopy⟩
  constructor
  · intro hJournal
    exact (hLine hJournal).trans hGrown.isInfix
  · intro dir hDir
    rw [hFiles]
    exact hCopy dir hDir

/- The next record has a file of its own. -/
theorem complete_writeSnapshotFile
    {io : AppendIo}
    {record : SnapshotRecord}
    {result : Except StoreError Unit}
    {disk : Disk}
    (h : s.Coherent C first pending)
    (hFits : s.store.Fits C record)
    (hWrite :
      s.store.writeSnapshotFile C io record s.disk =
        (result, disk)) :
    ∀ r ∈ s.issued pending, s.store.Complete C disk r := by
  rcases SnapshotStore.writeSnapshotFile_effect hWrite with
    ⟨hJournal, hFrame, -, -⟩
  intro r hr
  rcases h.complete r hr with ⟨hLine, hCopy⟩
  constructor
  · intro hKept
    rw [hJournal]
    exact hLine hKept
  · intro dir hDir
    rw [hFrame _ _]
    · exact hCopy dir hDir
    · intro dir' hDir' hPath
      rw [hDir] at hDir'
      cases hDir'
      rcases List.getElem?_of_mem hr with ⟨i, hi⟩
      have hLt := (List.getElem?_eq_some_iff.mp hi).1
      have hPlace := h.inSequence.2 i r hi
      have hBound :=
        h.inSequence.1 (List.ne_nil_of_mem hr)
      have hSeq : r.seq = record.seq := by
        rw [hPlace.2, hFits.2] at hPath
        exact snapshotPath_snapshotIdOf hPath
      rw [hPlace.1, hFits.1.1, h.length_records] at hSeq
      have hSame :=
        ofNat_injective (by omega) (by omega) hSeq
      omega

variable [DecidableEq Request]

/- The owner of the lock moves: the others rely on nothing. -/
theorem standing_update
    {store : SnapshotStore}
    {disk : Disk}
    (h : s.Coherent C first pending)
    (hHolds : (s.phase t).Holds)
    (hStanding : p.Standing C store disk)
    (u : Request) :
    (Function.update s.phase t p u).Standing C store disk := by
  by_cases hThread : u = t
  · subst hThread
    simpa using hStanding
  · rw [Function.update_of_ne hThread]
    apply Phase.standing_of_not_holds
    intro hHolds'
    exact hThread (h.holder.eq_of_holds hHolds hHolds')

/- Only the owner of the lock has a record in the index. -/
theorem eq_of_appended
    {u : Request}
    {r : SnapshotRecord}
    (h : s.Coherent C first pending)
    (hHolds : (s.phase t).Holds)
    (hAppended :
      Function.update s.phase t p u = .appended r) :
    p = .appended r := by
  by_cases hThread : u = t
  · subst hThread
    simpa using hAppended
  · rw [Function.update_of_ne hThread] at hAppended
    have hHolds' : (s.phase u).Holds := by
      rw [hAppended]
      trivial
    exact absurd (h.holder.eq_of_holds hHolds hHolds') hThread

/-
  A handler moves, and no record is put into the index or
  answered.
-/
theorem move
    {mutations storeLock : Option Request}
    {disk : Disk}
    (h : s.Coherent C first pending)
    (hHolder :
      Guarded mutations Phase.Holds
        (Function.update s.phase t p))
    (hWriter :
      Guarded storeLock Phase.InStore
        (Function.update s.phase t p))
    (hBefore : (s.phase t).Quiet)
    (hAfter : p.Quiet)
    (hStanding : p.Standing C s.store disk)
    (hAlone : disk = s.disk ∨ (s.phase t).Holds)
    (hComplete :
      ∀ r ∈ s.issued pending, s.store.Complete C disk r) :
    Coherent C first pending
      { s.setPhase t p with
        mutations := mutations
        storeLock := storeLock
        disk := disk } := by
  have hOther :
      ∀ u, u ≠ t → Function.update s.phase t p u = s.phase u :=
    fun u hThread => Function.update_of_ne hThread _ _
  have hSelf : Function.update s.phase t p t = p := by simp
  refine ⟨hHolder, hWriter, ?_, ?_, h.distinct, ?_, h.records,
    h.inSequence, hComplete⟩
  · rcases hAlone with rfl | hHolds
    · intro u
      simp only [setPhase]
      by_cases hThread : u = t
      · subst hThread
        rw [hSelf]
        exact hStanding
      · rw [hOther u hThread]
        exact h.standing u
    · exact h.standing_update hHolds hStanding
  · intro u response
    simp only [setPhase]
    by_cases hThread : u = t
    · subst hThread
      rw [hSelf, ← h.answered u response]
      constructor
      · rintro ⟨hPhase, hStatus⟩
        exact absurd hStatus (Phase.not_created hAfter hPhase)
      · rintro ⟨hPhase, hStatus⟩
        exact absurd hStatus (Phase.not_created hBefore hPhase)
    · rw [hOther u hThread]
      exact h.answered u response
  · have hSame :
        ∀ u r, Function.update s.phase t p u = .appended r ↔
          s.phase u = .appended r := by
      intro u r
      by_cases hThread : u = t
      · subst hThread
        rw [hSelf]
        exact iff_of_false (Phase.not_appended hAfter r)
          (Phase.not_appended hBefore r)
      · rw [hOther u hThread]
    simp only [Pending, setPhase, hSame]
    exact h.appended

/- The disk stays as it is. -/
theorem move_in_place
    {mutations storeLock : Option Request}
    (h : s.Coherent C first pending)
    (hHolder :
      Guarded mutations Phase.Holds
        (Function.update s.phase t p))
    (hWriter :
      Guarded storeLock Phase.InStore
        (Function.update s.phase t p))
    (hBefore : (s.phase t).Quiet)
    (hAfter : p.Quiet)
    (hStanding : p.Standing C s.store s.disk) :
    Coherent C first pending
      { s.setPhase t p with
        mutations := mutations
        storeLock := storeLock } :=
  h.move hHolder hWriter hBefore hAfter hStanding (Or.inl rfl)
    h.complete

/- A handler moves on without the mutation lock. -/
theorem move_outside
    (h : s.Coherent C first pending)
    (hOutside : ¬ (s.phase t).Holds)
    (hOutside' : ¬ p.Holds)
    (hBefore : (s.phase t).Quiet)
    (hAfter : p.Quiet) :
    Coherent C first pending (s.setPhase t p) := by
  have hIdle : ¬ (s.phase t).InStore :=
    fun hStore => hOutside (Phase.holds_of_inStore hStore)
  have hIdle' : ¬ p.InStore :=
    fun hStore => hOutside' (Phase.holds_of_inStore hStore)
  exact h.move_in_place
    (h.holder.keep (iff_of_false hOutside' hOutside))
    (h.writer.keep (iff_of_false hIdle' hIdle)) hBefore hAfter
    (Phase.standing_of_not_holds hOutside')

/- The owner of the lock moves on outside the store. -/
theorem move_inside
    (h : s.Coherent C first pending)
    (hHolds : (s.phase t).Holds)
    (hHolds' : p.Holds)
    (hIdle : ¬ (s.phase t).InStore)
    (hIdle' : ¬ p.InStore)
    (hBefore : (s.phase t).Quiet)
    (hAfter : p.Quiet)
    (hStanding : p.Standing C s.store s.disk) :
    Coherent C first pending (s.setPhase t p) :=
  h.move_in_place
    (h.holder.keep (iff_of_true hHolds' hHolds))
    (h.writer.keep (iff_of_false hIdle' hIdle)) hBefore hAfter
    hStanding

/- The owner gives the lock back without a new record. -/
theorem give_back
    (h : s.Coherent C first pending)
    (hHolds : (s.phase t).Holds)
    (hGone : ¬ p.Holds)
    (hIdle : ¬ (s.phase t).InStore)
    (hBefore : (s.phase t).Quiet)
    (hAfter : p.Quiet) :
    Coherent C first pending
      { s.setPhase t p with mutations := none } := by
  have hIdle' : ¬ p.InStore :=
    fun hStore => hGone (Phase.holds_of_inStore hStore)
  exact h.move_in_place (h.holder.release hHolds hGone)
    (h.writer.keep (iff_of_false hIdle' hIdle)) hBefore hAfter
    (Phase.standing_of_not_holds hGone)

/- A record goes into the index. -/
theorem push
    {record : SnapshotRecord}
    (h : s.Coherent C first pending)
    (hPhase : s.phase t = .copied record)
    (hCapacity : s.store.records.length < maxRecords) :
    Coherent C first [record]
      { s.setPhase t (.appended record) with
        store := s.store.push record
        storeLock := none } := by
  have hHolds : (s.phase t).Holds := by
    rw [hPhase]
    trivial
  have hStanding := h.standing t
  rw [hPhase] at hStanding
  rcases hStanding with ⟨⟨hAdmits, hId⟩, hComplete⟩
  have hNone : pending = [] :=
    h.pending_eq_nil hHolds (by rw [hPhase]; trivial)
  subst hNone
  have hSeq := hAdmits.1
  rw [h.length_records] at hSeq hCapacity
  have hIssued :
      s.issued [record] = s.issued [] ++ [record] := by
    simp [issued]
  refine ⟨h.holder.keep ?_, h.writer.release ?_ id, ?_, ?_,
    h.distinct, ⟨?_, ?_⟩, ?_, ?_, ?_⟩
  · rw [hPhase]
    exact Iff.rfl
  · rw [hPhase]
    trivial
  · exact h.standing_update hHolds trivial
  · intro u response
    simp only [setPhase]
    by_cases hThread : u = t
    · subst hThread
      rw [← h.answered u response, hPhase]
      simp
    · rw [Function.update_of_ne hThread]
      exact h.answered u response
  · intro u r hAppended
    cases h.eq_of_appended hHolds hAppended
    rfl
  · intro _
    exact ⟨t, record, phase_setPhase s t _⟩
  · change s.store.records ++ [record] = first ++ _
    rw [h.records, List.append_assoc]
    exact congrArg _ hIssued.symm
  · change InSequence first.length (s.issued [record])
    rw [hIssued]
    exact h.inSequence.append hCapacity hSeq hId
  · intro r hr
    change r ∈ s.issued [record] at hr
    rw [hIssued, List.mem_append, List.mem_singleton] at hr
    rcases hr with hOld | rfl
    · exact h.complete r hOld
    · exact hComplete

/- The answer for a record that is in the index. -/
theorem respond
    {record : SnapshotRecord}
    (h : s.Coherent C first pending)
    (hPhase : s.phase t = .appended record) :
    Coherent C first []
      { s.setPhase t
          (.responded (createdResponse C record)) with
        mutations := none
        acked := s.acked ++ [(t, record)] } := by
  have hHolds : (s.phase t).Holds := by
    rw [hPhase]
    trivial
  have hPending : pending = [record] :=
    h.appended.1 t record hPhase
  subst hPending
  have hFresh : ∀ r, (t, r) ∉ s.acked := by
    intro r hMem
    have hAnswered :=
      (h.answered t _).mpr ⟨r, hMem, rfl⟩
    rw [hPhase] at hAnswered
    cases hAnswered.1
  have hIssued :
      (s.acked ++ [(t, record)]).map Prod.snd ++ [] =
        s.issued [record] := by
    simp [issued]
  refine ⟨h.holder.release hHolds id, h.writer.keep ?_, ?_, ?_,
    ?_, ⟨?_, ?_⟩, ?_, ?_, ?_⟩
  · rw [hPhase]
    exact Iff.rfl
  · exact h.standing_update hHolds trivial
  · intro u response
    simp only [setPhase, List.mem_append, List.mem_singleton,
      Prod.mk.injEq]
    by_cases hThread : u = t
    · subst hThread
      simp only [Function.update_self, Phase.responded.injEq,
        true_and, hFresh, false_or, exists_eq_left]
      constructor
      · rintro ⟨rfl, -⟩
        rfl
      · rintro rfl
        exact ⟨rfl, rfl⟩
    · rw [Function.update_of_ne hThread, h.answered u response]
      simp [hThread]
  · simp only [List.map_append, List.map_cons, List.map_nil]
    rw [List.nodup_append]
    refine ⟨h.distinct, by simp, ?_⟩
    intro u hu v hv
    rcases List.mem_map.mp hu with ⟨⟨u', r⟩, hMem, rfl⟩
    rw [List.mem_singleton.mp hv]
    rintro rfl
    exact hFresh r hMem
  · intro u r hAppended
    cases h.eq_of_appended hHolds hAppended
  · simp
  · change s.store.records = first ++ (_ ++ [])
    rw [h.records, hIssued]
  · change InSequence first.length (_ ++ [])
    rw [hIssued]
    exact h.inSequence
  · intro r hr
    change r ∈ _ ++ [] at hr
    rw [hIssued] at hr
    exact h.complete r hr

end Coherent

end AppSystem

end UnidppArchive

------------------------------------------------------------
-- Steps and Runs
------------------------------------------------------------

namespace UnidppArchive

namespace AppSystem

variable {Request : Type} [DecidableEq Request]
variable {C : Crates}
variable {service : Service C}
variable {first pending : List SnapshotRecord}
variable {s s' : AppSystem Request}

attribute [local simp] Phase.Holds Phase.InStore Phase.Quiet
  Phase.Standing

/- Every step keeps the invariant. -/
theorem Coherent.step
    (h : s.Coherent C first pending)
    (hStep : Step C service s s') :
    ∃ pending', s'.Coherent C first pending' := by
  cases hStep with
  | @refuse t now post deny hPhase hAccept =>
      exact ⟨pending, h.move_outside (by simp [hPhase]) id
        (by simp [hPhase]) (status_of_refused hAccept)⟩
  | @accept t now post req hPhase hAccept =>
      exact ⟨pending, h.move_outside (by simp [hPhase]) id
        (by simp [hPhase]) trivial⟩
  | @dropWaiting t req hPhase =>
      exact ⟨pending, h.move_outside (by simp [hPhase]) id
        (by simp [hPhase]) trivial⟩
  | @lock t req hPhase hFree =>
      have hHolder := h.holder
      rw [hFree] at hHolder
      exact ⟨pending, h.move_in_place
        (hHolder.acquire trivial)
        (h.writer.keep (by simp [hPhase])) (by simp [hPhase])
        trivial trivial⟩
  | @reserve t req now hPhase hFree =>
      exact ⟨pending, h.move_inside (by simp [hPhase]) trivial
        (by simp [hPhase]) id (by simp [hPhase]) trivial rfl⟩
  | @dropAnchoring t req seq notarizedAt hPhase =>
      exact ⟨pending, h.give_back (by simp [hPhase]) id
        (by simp [hPhase]) (by simp [hPhase]) trivial⟩
  | @sealFails t req seq notarizedAt e transport hPhase
      hRecord =>
      exact ⟨pending, h.move_inside (by simp [hPhase]) trivial
        (by simp [hPhase]) id (by simp [hPhase]) trivial
        trivial⟩
  | @note t req seq notarizedAt record transport hPhase
      hRecord =>
      -- the reservation is still the next place
      have hSeq := h.standing t
      rw [hPhase] at hSeq
      have hFits : s.store.Fits C record := by
        refine ⟨admits_ingestRecord hRecord hSeq, ?_⟩
        rcases fields_ingestRecord hRecord with
          ⟨hNumber, hId, -⟩
        rw [hId, hNumber]
      exact ⟨pending, h.move_inside (by simp [hPhase]) trivial
        (by simp [hPhase]) id (by simp [hPhase]) trivial
        hFits⟩
  | @checkFails t record e hPhase hFree hCheck =>
      have hFits := h.standing t
      rw [hPhase] at hFits
      have hPasses : s.store.checkRecord C record = .ok () :=
        SnapshotStore.checkRecord_eq_ok_iff.mpr hFits.1
      rw [hCheck] at hPasses
      cases hPasses
  | @check t record hPhase hFree hCheck =>
      have hFits := h.standing t
      rw [hPhase] at hFits
      have hWriter := h.writer
      rw [hFree] at hWriter
      exact ⟨pending, h.move_in_place
        (h.holder.keep (by simp [hPhase]))
        (hWriter.acquire trivial) (by simp [hPhase]) trivial
        hFits⟩
  | @journalFails t record disk e io hPhase hWrite =>
      have hEffect := SnapshotStore.writeJournal_effect hWrite
      exact ⟨pending, h.move
        (h.holder.keep (by simp [hPhase]))
        (h.writer.release (by simp [hPhase]) id)
        (by simp [hPhase]) trivial (hEffect.2.2.2 e rfl)
        (Or.inr (by simp [hPhase]))
        (h.complete_writeJournal hWrite)⟩
  | @journal t record disk io hPhase hWrite =>
      have hFits := h.standing t
      rw [hPhase] at hFits
      have hEffect := SnapshotStore.writeJournal_effect hWrite
      exact ⟨pending, h.move
        (h.holder.keep (by simp [hPhase]))
        (h.writer.keep (by simp [hPhase]))
        (by simp [hPhase]) trivial
        ⟨hFits, hEffect.2.2.1 rfl⟩
        (Or.inr (by simp [hPhase]))
        (h.complete_writeJournal hWrite)⟩
  | @copyFails t record disk e io hPhase hWrite =>
      have hStanding := h.standing t
      rw [hPhase] at hStanding
      have hEffect :=
        SnapshotStore.writeSnapshotFile_effect hWrite
      exact ⟨pending, h.move
        (h.holder.keep (by simp [hPhase]))
        (h.writer.release (by simp [hPhase]) id)
        (by simp [hPhase]) trivial (hEffect.2.2.2 e rfl)
        (Or.inr (by simp [hPhase]))
        (h.complete_writeSnapshotFile hStanding.1 hWrite)⟩
  | @copy t record disk io hPhase hWrite =>
      have hStanding := h.standing t
      rw [hPhase] at hStanding
      have hEffect :=
        SnapshotStore.writeSnapshotFile_effect hWrite
      have hJournaled : s.store.Journaled C disk record := by
        intro hJournal
        rw [hEffect.1]
        exact hStanding.2 hJournal
      exact ⟨pending, h.move
        (h.holder.keep (by simp [hPhase]))
        (h.writer.keep (by simp [hPhase]))
        (by simp [hPhase]) trivial
        ⟨hStanding.1, hJournaled, hEffect.2.2.1 rfl⟩
        (Or.inr (by simp [hPhase]))
        (h.complete_writeSnapshotFile hStanding.1 hWrite)⟩
  | @push t record hPhase hCapacity =>
      exact ⟨[record], h.push hPhase hCapacity⟩
  | @respond t record hPhase =>
      exact ⟨[], h.respond hPhase⟩
  | @respondUnsealed t e now hPhase =>
      exact ⟨pending, h.give_back (by simp [hPhase]) id
        (by simp [hPhase]) (by simp [hPhase]) (by simp)⟩
  | @respondFailed t e now hPhase =>
      exact ⟨pending, h.give_back (by simp [hPhase]) id
        (by simp [hPhase]) (by simp [hPhase])
        (status_storeError now e)⟩
  | read hFree => exact ⟨pending, h⟩

/- The invariant holds along every run. -/
theorem Run.coherent
    {store : SnapshotStore}
    {disk : Disk}
    (hRun : Run C service (start store disk) s) :
    ∃ pending, s.Coherent C store.records pending := by
  induction hRun with
  | refl => exact ⟨[], coherent_start store disk⟩
  | tail hFront hStep ih =>
      rcases ih with ⟨pending, h⟩
      exact h.step hStep

end AppSystem

end UnidppArchive

------------------------------------------------------------
-- Gapless and Conflict-Free Ingest
------------------------------------------------------------

namespace UnidppArchive

variable {Request : Type}
variable {C : Crates}
variable {first pending : List SnapshotRecord}
variable {s : AppSystem Request}

/- Acknowledgements of one snapshot are of one request. -/
theorem AppSystem.Coherent.eq_of_snapshotId
    {t t' : Request}
    {r r' : SnapshotRecord}
    (h : s.Coherent C first pending)
    (hAcked : (t, r) ∈ s.acked)
    (hAcked' : (t', r') ∈ s.acked)
    (hId : r.snapshotId = r'.snapshotId) :
    t = t' := by
  rcases List.getElem?_of_mem hAcked with ⟨i, hi⟩
  rcases List.getElem?_of_mem hAcked' with ⟨j, hj⟩
  have hSequence := h.inSequence.of_append
  have hRecord : (s.acked.map Prod.snd)[i]? = some r := by
    simp [hi]
  have hRecord' : (s.acked.map Prod.snd)[j]? = some r' := by
    simp [hj]
  have hSeq : r.seq = r'.seq := by
    rw [(hSequence.2 i r hRecord).2,
      (hSequence.2 j r' hRecord').2] at hId
    exact snapshotIdOf_injective hId
  have hPlace := hSequence.place_eq hRecord hRecord' hSeq
  subst hPlace
  rw [hi] at hj
  cases hj
  rfl

/- No more than one record waits for its answer. -/
theorem AppSystem.Coherent.length_pending
    (h : s.Coherent C first pending) :
    pending.length ≤ 1 := by
  rcases pending with _ | ⟨r, rest⟩
  · simp
  · rcases h.appended.2 (by simp) with ⟨t, q, hPhase⟩
    rw [h.appended.1 t q hPhase]
    simp

variable [DecidableEq Request]

/-
  Requests in any interleaving, from any store of records.
  No append reports a conflict.  Different requests are not
  acknowledged with one snapshot.  The acknowledged requests
  are numbered from the size of the store on, in the order
  of their records there, and at most one more record waits
  for its answer.  While a read is possible no append is
  under way, and both writes of every new record are done.
-/
theorem concurrent_ingest
    {service : Service C}
    {store : SnapshotStore}
    {disk : Disk}
    (hRun :
      AppSystem.Run C service (AppSystem.start store disk) s) :
    (∀ t m, s.phase t ≠ .appendFailed (.conflict m)) ∧
      (∀ t t' response response',
        s.phase t = .responded response →
          s.phase t' = .responded response' →
            response.status = 201 →
              response'.status = 201 →
                response.header? "x-snapshot-id" =
                    response'.header? "x-snapshot-id" →
                  t = t') ∧
        (∀ t response,
          (s.phase t = .responded response ∧
              response.status = 201) ↔
            ∃ r, (t, r) ∈ s.acked ∧
              response = createdResponse C r) ∧
          (s.acked.map Prod.fst).Nodup ∧
            s.acked.map (fun a => a.2.seq.toNat) =
                List.range' store.records.length
                  s.acked.length ∧
              (∃ pending : List SnapshotRecord,
                pending.length ≤ 1 ∧
                  s.store.records =
                    store.records ++
                      (s.acked.map Prod.snd ++ pending)) ∧
                (s.storeLock = none →
                  (∀ t, ¬ (s.phase t).InStore) ∧
                    ∀ r ∈ s.store.records.drop
                        store.records.length,
                      s.store.Complete C s.disk r) := by
  rcases hRun.coherent with ⟨pending, h⟩
  refine ⟨?_, ?_, h.answered, h.distinct, ?_,
    ⟨pending, h.length_pending, h.records⟩, ?_⟩
  · intro t m hPhase
    have hStanding := h.standing t
    rw [hPhase] at hStanding
    rcases hStanding with ⟨m', hConflict⟩
    cases hConflict
  · intro t t' response response' hPhase hPhase' hStatus
      hStatus' hHeader
    rcases (h.answered t response).mp ⟨hPhase, hStatus⟩ with
      ⟨r, hAcked, rfl⟩
    rcases (h.answered t' response').mp ⟨hPhase', hStatus'⟩
      with ⟨r', hAcked', rfl⟩
    rw [snapshotId_createdResponse,
      snapshotId_createdResponse] at hHeader
    exact h.eq_of_snapshotId hAcked hAcked'
      (Option.some.inj hHeader)
  · have hSeq := h.inSequence.of_append.map_seq
    simpa [Function.comp_def] using hSeq
  · intro hFree
    constructor
    · have hWriter := h.writer
      rw [hFree] at hWriter
      exact hWriter.free
    · intro r hr
      rw [h.records, List.drop_left] at hr
      exact h.complete r hr

namespace Reference

/-
  One handler is dropped while it anchors, and the other,
  which waits for the lock, is acknowledged.
-/
theorem exists_run_dropped :
    ∃ s : AppSystem Bool,
      AppSystem.Run crates service
          (AppSystem.start emptyFiled (diskOf (some []))) s ∧
        s.phase false = .dropped ∧ ∃ r, (true, r) ∈ s.acked := by
  have hAccept :
      acceptPost crates service now createPost = .ok request :=
    acceptPost_createPost
  have hAdmitted :
      AppSystem.Run crates service
        (AppSystem.start emptyFiled (diskOf (some []))) _ :=
    .single (.accept (t := false) rfl hAccept)
  have hLocked := hAdmitted.tail (.lock (t := false) rfl rfl)
  have hReserved :=
    hLocked.tail (.reserve (t := false) now rfl rfl)
  have hWaiting :=
    hReserved.tail (.accept (t := true) rfl hAccept)
  have hDropped :=
    hWaiting.tail (.dropAnchoring (t := false) rfl)
  have hTaken := hDropped.tail (.lock (t := true) rfl rfl)
  have hAgain :=
    hTaken.tail (.reserve (t := true) now rfl rfl)
  rcases exists_record emptyFiled.size request
      (anchorDraft crates service createEnv.transport
        (draftRecord emptyFiled.size now request)) with
    ⟨r, hRecord⟩
  have hNoted :=
    hAgain.tail
      (.note (t := true) createEnv.transport rfl hRecord)
  have hAppend :
      emptyFiled.appendSnapshot crates .sound r
          (diskOf (some [])) =
        (.ok (), emptyFiled.push r,
          emptyFiled.recorded crates r (diskOf (some []))) :=
    append_sample emptyFiled hRecord _
  have hCapacity :
      emptyFiled.records.length < maxRecords := by
    decide
  have hAppended :=
    hNoted.trans
      (AppSystem.run_appendSnapshot (t := true) rfl rfl
        hCapacity hAppend)
  have hAnswered := hAppended.tail (.respond (t := true) rfl)
  exact ⟨_, hAnswered, rfl, r, by simp⟩

end Reference

open Reference in
/- The other request got the first number. -/
theorem concurrent_ingest_dropped :
    ∃ s : AppSystem Bool,
      s.phase false = .dropped ∧
        (∃ r, (true, r) ∈ s.acked) ∧
          s.acked.map (fun a => a.2.seq.toNat) =
            List.range' 0 s.acked.length := by
  rcases exists_run_dropped with ⟨s, hRun, hDropped, hAcked⟩
  exact ⟨s, hDropped, hAcked,
    (concurrent_ingest hRun).2.2.2.2.1⟩

end UnidppArchive
