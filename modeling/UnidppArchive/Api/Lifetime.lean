import UnidppArchive.Api.Gapless
import UnidppArchive.Api.Reservation
import UnidppArchive.Store.Growth
import UnidppArchive.Store.Invariant

/-
  The archive over its lifetime.

  A deployment is a wall clock, the process with its disk,
  and what was posted to the log.  The clock is set to any
  instant, handlers take their steps, requests to the log
  leave, and the process is stopped anywhere and started on
  the disk that it left.

  Key definitions include:
    * `Reopens`
    * `restored`
    * `Deployment`
    * `Deployment.Step`
    * `Deployment.Steady`

  Key theorems include:
    * `Deployment.Steady.step`
    * `Deployment.steady_of_run`
    * `Deployment.Steady.restored_cases`
-/

------------------------------------------------------------
-- Deployments
------------------------------------------------------------

namespace UnidppArchive

/-
  The process is started until it opens its store; a start
  that fails may have written copies.  A `Vec` holds the
  records that are opened.
-/
inductive Reopens
    (C : Crates)
    (paths : StorePaths) :
    Disk → SnapshotStore → Disk → Prop where
  | opened
      {io : OpenIo}
      {disk disk' : Disk}
      {store : SnapshotStore}
      (hOpen :
        SnapshotStore.openAt C io paths disk =
          (.ok store, disk'))
      (hCapacity : store.records.length ≤ maxRecords) :
      Reopens C paths disk store disk'
  | again
      {io : OpenIo}
      {disk disk₁ disk' : Disk}
      {store : SnapshotStore}
      {e : StoreError}
      (hFails :
        SnapshotStore.openAt C io paths disk =
          (.error e, disk₁))
      (hRest : Reopens C paths disk₁ store disk') :
      Reopens C paths disk store disk'

/- The records that a process reads back from the disk. -/
def restored
    (C : Crates)
    (paths : StorePaths)
    (disk : Disk) : List SnapshotRecord :=
  if paths.journal then
    readRecords C (disk.journal.getD [])
  else
    []

/-
  The wall clock, the process with its disk, and the subjects
  and commitments that were posted to the log.
-/
structure Deployment
    (Request : Type) where
  clock : Timestamp
  app : AppSystem Request
  posted : List (String × Hash)

namespace Deployment

variable {Request : Type} [DecidableEq Request]

/- Every new reservation has the reading of the clock. -/
def ReadsClock
    (C : Crates)
    (clock : Timestamp)
    (s s' : AppSystem Request) : Prop :=
  ∀ t ρ, (s'.phase t).reservation? C = some ρ →
    (s.phase t).reservation? C = some ρ ∨
      ρ.notarizedAt = clock

/-
  The clock is set; a handler takes a step; the request of a
  handler that anchors leaves for the log; the process ends,
  with all its handlers, and another one is started.
-/
inductive Step
    (C : Crates)
    (service : Service C)
    (paths : StorePaths) :
    Deployment Request → Deployment Request → Prop where
  | tick
      (d : Deployment Request)
      (clock : Timestamp) :
      Step C service paths d { d with clock := clock }
  | handle
      {d : Deployment Request}
      {app : AppSystem Request}
      (hStep : AppSystem.Step C service d.app app)
      (hClock : ReadsClock C d.clock d.app app) :
      Step C service paths d { d with app := app }
  | post
      {d : Deployment Request}
      {t : Request}
      {req : CreateRequest}
      {seq : UInt64}
      {notarizedAt : Timestamp}
      {post : AnchorPost}
      (hPhase :
        d.app.phase t = .anchoring req seq notarizedAt)
      (hPost :
        anchorPost C service.log
            (anchorSubject (draftRecord seq notarizedAt req))
            ((draftRecord seq notarizedAt req).commitment C) =
          .ok post) :
      Step C service paths d
        { d with
          posted := d.posted ++
            [(anchorSubject (draftRecord seq notarizedAt req),
              (draftRecord seq notarizedAt req).commitment
                C)] }
  | restart
      {d : Deployment Request}
      {store : SnapshotStore}
      {disk : Disk}
      (hReopens : Reopens C paths d.app.disk store disk) :
      Step C service paths d
        { d with app := AppSystem.start store disk }

/- The first process, over no journal or an empty one. -/
def Starts
    (C : Crates)
    (paths : StorePaths)
    (d : Deployment Request) : Prop :=
  d.posted = [] ∧
    ∃ first store disk,
      first.journal.getD [] = [] ∧
        Reopens C paths first store disk ∧
        d.app = AppSystem.start store disk

end Deployment

end UnidppArchive

------------------------------------------------------------
-- What Every Deployment Keeps
------------------------------------------------------------

namespace UnidppArchive

variable {C : Crates}
variable {paths : StorePaths}

/- The process that was started holds what it read back. -/
theorem Reopens.reads
    {disk disk' : Disk}
    {store : SnapshotStore}
    (h : Reopens C paths disk store disk') :
    disk'.journal.getD [] = disk.journal.getD [] ∧
      store.records = restored C paths disk ∧
        store.Opened C ∧
          store.records.length ≤ maxRecords := by
  induction h with
  | opened hOpen hCapacity =>
      rename_i io disk disk' store
      have hSpared :=
        SnapshotStore.openAt_spared (C := C) io paths disk
      rw [hOpen] at hSpared
      refine ⟨hSpared.1, ?_, ⟨io, paths, disk, disk', hOpen⟩,
        hCapacity⟩
      have hReads := (SnapshotStore.openAt_reads hOpen).1
      unfold JournalReads at hReads
      unfold restored
      by_cases hJournal : paths.journal = true
      · rw [if_pos hJournal] at hReads ⊢
        exact hReads.eq_readRecords
      · rw [if_neg hJournal] at hReads ⊢
        exact hReads
  | again hFails _ ih =>
      rename_i io disk disk₁ disk' store e _
      have hSpared :=
        SnapshotStore.openAt_spared (C := C) io paths disk
      rw [hFails] at hSpared
      rcases ih with ⟨hJournal, hRecords, hRest⟩
      refine ⟨hJournal.trans hSpared.1, ?_, hRest⟩
      rw [hRecords, restored, restored, hSpared.1]

/- A handler with a reservation has the mutation lock. -/
theorem Phase.holds_of_reservation
    {p : Phase}
    {ρ : Reservation}
    (h : p.reservation? C = some ρ) :
    p.Holds := by
  cases p with
  | idle | waiting _ | responded _ | dropped => cases h
  | _ => trivial

variable {Request : Type}

namespace Deployment

/-
  The process is coherent, its records are numbered and fit
  into memory, and the journal has the shape that the service
  leaves.
-/
structure Steady
    (C : Crates)
    (d : Deployment Request) : Prop where
  coherent :
    ∃ first pending, d.app.Coherent C first pending
  numbered :
    ∀ i r, d.app.store.records[i]? = some r →
      r.seq = UInt64.ofNat i
  capacity : d.app.store.records.length ≤ maxRecords
  written :
    ∃ front t,
      d.app.disk.journal.getD [] = front ++ t ∧
        Written C front t

/- A process that was just started, over such a journal. -/
theorem Steady.of_reopens
    {disk disk' : Disk}
    {store : SnapshotStore}
    {clock : Timestamp}
    {posted : List (String × Hash)}
    (hReopens : Reopens C paths disk store disk')
    (hWritten :
      ∃ front t,
        disk.journal.getD [] = front ++ t ∧
          Written C front t) :
    Steady C
      (⟨clock, AppSystem.start store disk', posted⟩ :
        Deployment Request) := by
  rcases hReopens.reads with
    ⟨hJournal, -, hOpened, hCapacity⟩
  refine ⟨⟨_, _, AppSystem.coherent_start store disk'⟩, ?_,
    hCapacity, ?_⟩
  · intro i r hi
    exact ((storeInvariant_of_openAt hOpened).fits i r hi).1
  · change ∃ front t,
      disk'.journal.getD [] = front ++ t ∧ Written C front t
    rw [hJournal]
    exact hWritten

theorem steady_start
    {d : Deployment Request}
    (hStarts : Starts C paths d) :
    Steady C d := by
  rcases hStarts with
    ⟨-, first, store, disk, hFresh, hReopens, hApp⟩
  have hSteady : Steady C ⟨d.clock, d.app, d.posted⟩ := by
    rw [hApp]
    apply Steady.of_reopens hReopens
    exact ⟨[], [], hFresh, written_nil⟩
  exact hSteady

variable {d d' : Deployment Request}

/- A reservation is of the next number. -/
theorem Steady.seq_of_reservation
    (h : Steady C d)
    {t : Request}
    {ρ : Reservation}
    (hReserved : (d.app.phase t).reservation? C = some ρ) :
    ρ.seq = d.app.store.size := by
  rcases h.coherent with ⟨first, pending, hCoherent⟩
  have hStanding := hCoherent.standing t
  cases hPhase : d.app.phase t with
  | anchoring req seq now =>
      rw [hPhase] at hReserved hStanding
      cases hReserved
      exact hStanding
  | noted r | checked r =>
      rw [hPhase] at hReserved hStanding
      cases hReserved
      exact hStanding.1.1
  | journaled r | copied r =>
      rw [hPhase] at hReserved hStanding
      cases hReserved
      exact hStanding.1.1.1
  | _ =>
      rw [hPhase] at hReserved
      cases hReserved

/- A record that is pushed has the next number. -/
theorem Steady.push
    (h : Steady C d)
    {t : Request}
    {r : SnapshotRecord}
    (hPhase : d.app.phase t = .copied r) :
    ∀ i q, (d.app.store.push r).records[i]? = some q →
      q.seq = UInt64.ofNat i := by
  have hSeq :
      r.seq = UInt64.ofNat d.app.store.records.length :=
    h.seq_of_reservation
      (AppSystem.reservation_of_copied hPhase)
  intro i q hi
  change (d.app.store.records ++ [r])[i]? = some q at hi
  rcases Nat.lt_or_ge i d.app.store.records.length with
    hOld | hNew
  · rw [List.getElem?_append_left hOld] at hi
    exact h.numbered i q hi
  · rw [List.getElem?_append_right hNew] at hi
    rcases List.getElem?_eq_some_iff.mp hi with ⟨hPlace, rfl⟩
    simp only [List.length_singleton] at hPlace
    have hLast : i = d.app.store.records.length := by omega
    subst hLast
    simpa using hSeq

/- No handler has a reservation while the lock is free. -/
theorem Steady.no_reservation
    (h : Steady C d)
    (hFree : d.app.mutations = none)
    (t : Request) :
    (d.app.phase t).reservation? C = none := by
  rcases h.coherent with ⟨first, pending, hCoherent⟩
  have hHolder := hCoherent.holder
  rw [hFree] at hHolder
  cases hReserved : (d.app.phase t).reservation? C with
  | none => rfl
  | some ρ =>
      exact (hHolder.free t
        (Phase.holds_of_reservation hReserved)).elim

/- Two handlers do not have a reservation each. -/
theorem Steady.reservation_eq
    (h : Steady C d)
    {t u : Request}
    {ρ σ : Reservation}
    (ht : (d.app.phase t).reservation? C = some ρ)
    (hu : (d.app.phase u).reservation? C = some σ) :
    ρ = σ := by
  rcases h.coherent with ⟨first, pending, hCoherent⟩
  have hSame : u = t :=
    hCoherent.holder.eq_of_holds
      (Phase.holds_of_reservation ht)
      (Phase.holds_of_reservation hu)
  subst hSame
  exact Option.some.inj (ht.symm.trans hu)

variable [DecidableEq Request]
variable {service : Service C}

/- Every step keeps it. -/
theorem Steady.step
    (hSerde : C.serde.Lawful)
    (h : Steady C d)
    (hStep : Step C service paths d d') :
    Steady C d' := by
  cases hStep with
  | tick clock
  | post hPhase hPost =>
      exact ⟨h.coherent, h.numbered, h.capacity, h.written⟩
  | restart hReopens =>
      exact Steady.of_reopens hReopens h.written
  | @handle app hStep hClock =>
      refine ⟨?_, ?_, ?_, ?_⟩
      · rcases h.coherent with ⟨first, pending, hCoherent⟩
        rcases hCoherent.step hStep with ⟨pending', hNext⟩
        exact ⟨first, pending', hNext⟩
      · rcases hStep.store_cases with
          hSame | ⟨t, r, hPhase, hPush, -⟩
        · change ∀ i r, app.store.records[i]? = some r → _
          rw [hSame]
          exact h.numbered
        · change ∀ i r, app.store.records[i]? = some r → _
          rw [hPush]
          exact h.push hPhase
      · change app.store.records.length ≤ maxRecords
        rcases hStep.store_cases with
          hSame | ⟨t, r, hPhase, hPush, hCapacity⟩
        · rw [hSame]
          exact h.capacity
        · rw [hPush, SnapshotStore.push, List.length_append]
          exact hCapacity
      · change ∃ front t,
          app.disk.journal.getD [] = front ++ t ∧
            Written C front t
        rcases h.written with ⟨front, t, hJournal, hWritten⟩
        rcases hStep.journal_cases with
          hSame | ⟨u, r, w, -, hGrown⟩
        · rw [hSame]
          exact ⟨front, t, hJournal, hWritten⟩
        · rcases hWritten.grows hSerde r w with
            ⟨front', t', hSplit, hWritten', -⟩
          refine ⟨front', t', ?_, hWritten'⟩
          rw [hGrown, Option.getD_some, hJournal]
          exact hSplit

/-
  What a restart reads back stays, or loses the record of an
  open tail, or gains the record that a handler writes.
-/
theorem Steady.restored_cases
    {app : AppSystem Request}
    (hSerde : C.serde.Lawful)
    (h : Steady C d)
    (paths : StorePaths)
    (hStep : AppSystem.Step C service d.app app) :
    restored C paths app.disk =
        restored C paths d.app.disk ∨
      ∃ u r kept new,
        d.app.phase u = .checked r ∧
          restored C paths app.disk = kept ++ new ∧
            kept.Sublist (restored C paths d.app.disk) ∧
              ∀ q ∈ new, ReadBack C r q := by
  rcases hStep.journal_cases with
    hSame | ⟨u, r, w, hPhase, hGrown⟩
  · left
    rw [restored, restored, hSame]
  · by_cases hJournal : paths.journal = true
    · right
      rcases h.written with ⟨front, t, hSplit, hWritten⟩
      rcases hWritten.grows hSerde r w with
        ⟨front', t', hSplit', hWritten', hCases⟩
      rw [restored, restored, if_pos hJournal,
        if_pos hJournal, hGrown, Option.getD_some, hSplit,
        hSplit', readRecords_append hWritten.terminated,
        readRecords_append hWritten'.terminated]
      rcases hCases with
        ⟨rfl, rfl | hTail⟩ | ⟨rfl, new, hFront, hNew⟩
      · exact ⟨u, r, _, [], hPhase, (List.append_nil _).symm,
          List.Sublist.refl _, by simp⟩
      · exact ⟨u, r, _, _, hPhase, rfl,
          List.sublist_append_left _ _, hTail⟩
      · refine ⟨u, r, _, new, hPhase, ?_,
          List.sublist_append_left _ _, hNew⟩
        rw [hFront]
        exact List.append_nil _
    · left
      rw [restored, restored, if_neg hJournal,
        if_neg hJournal]

/- It holds along every run. -/
theorem steady_of_run
    (hSerde : C.serde.Lawful)
    (hStarts : Starts C paths d)
    (hRun :
      Relation.ReflTransGen (Step C service paths) d d') :
    Steady C d' := by
  induction hRun with
  | refl => exact steady_start hStarts
  | tail _ hStep ih => exact ih.step hSerde hStep

end Deployment

end UnidppArchive
