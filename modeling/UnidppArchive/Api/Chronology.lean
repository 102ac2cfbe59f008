import UnidppArchive.Foundations.Chronicle
import UnidppArchive.Api.Progress

/-
  Instants and the sequence.

  Nothing compares the clock at a reservation with the record
  ahead of it.  The instants follow the sequence as long as
  no reservation reads a clock that is behind a record of the
  store or of the journal.

  Key definitions include:
    * `SnapshotRecord.instant`
    * `view`
    * `Deployment.Timely`
    * `Deployment.Orderly`

  Key theorems include:
    * `Deployment.Orderly.step`
    * `instants_follow_sequence`
    * `instants_step_back`
-/

------------------------------------------------------------
-- The View of an Instant
------------------------------------------------------------

namespace UnidppArchive

open Chronicle

/- The second at which a record is notarized. -/
def SnapshotRecord.instant
    (r : SnapshotRecord) : Int :=
  r.notarizedAt.secs

/- A passport is listed with this filter. -/
def Listed
    (passportId : Option String)
    (p : String) : Prop :=
  passportId.all (fun q => p == q) = true

/- The listed records up to an instant. -/
def view
    (passportId : Option String)
    (t : Timestamp)
    (records : List SnapshotRecord) : List SnapshotRecord :=
  upTo SnapshotRecord.instant t.secs
    (records.filter fun r =>
      passportId.all fun p => r.passportId == p)

variable {passportId : Option String}
variable {t : Timestamp}
variable {records : List SnapshotRecord}

theorem SnapshotStore.list_some
    (store : SnapshotStore)
    (passportId : Option String)
    (t : Timestamp) :
    store.list passportId (some t) =
      view passportId t store.records := by
  simp only [SnapshotStore.list, view, upTo, Option.all_some]
  exact List.filter_congr fun r _ => decide_eq_decide.mpr Iff.rfl

theorem view_none :
    view none t records =
      upTo SnapshotRecord.instant t.secs records := by
  simp [view]

theorem view_append
    (front back : List SnapshotRecord) :
    view passportId t (front ++ back) =
      view passportId t front ++ view passportId t back := by
  rw [view, List.filter_append, upTo_append]
  rfl

theorem view_nil :
    view passportId t [] = [] := by
  rfl

/- Later records are not in the view. -/
theorem view_eq_nil
    (h :
      ∀ r ∈ records, Listed passportId r.passportId →
        t.secs < r.instant) :
    view passportId t records = [] := by
  apply upTo_eq_nil_iff.mpr
  intro r hr
  rcases List.mem_filter.mp hr with ⟨hMem, hListed⟩
  exact h r hMem hListed

end UnidppArchive

------------------------------------------------------------
-- The Condition on the Clock
------------------------------------------------------------

namespace UnidppArchive

open Chronicle

namespace Deployment

variable {Request : Type}

/-
  A reservation reads a clock that is not behind a record of
  the store, or of the journal that a restart reads back.
-/
def Timely
    (C : Crates)
    (paths : StorePaths)
    (d d' : Deployment Request) : Prop :=
  ∀ t req seq now,
    d.app.phase t = .locked req →
      d'.app.phase t = .anchoring req seq now →
        ∀ r ∈ d.app.store.records ++
            restored C paths d.app.disk,
          r.instant ≤ d.clock.secs

/-
  The instants follow the order of the store and of the
  journal, and no reservation is behind them.
-/
structure Orderly
    (C : Crates)
    (paths : StorePaths)
    (d : Deployment Request) : Prop where
  store :
    Chronological SnapshotRecord.instant d.app.store.records
  journal :
    Chronological SnapshotRecord.instant
      (restored C paths d.app.disk)
  ahead :
    ∀ t ρ, (d.app.phase t).reservation? C = some ρ →
      ∀ r ∈ d.app.store.records ++
          restored C paths d.app.disk,
        r.instant ≤ ρ.notarizedAt.secs

end Deployment

end UnidppArchive

------------------------------------------------------------
-- Steps and Runs
------------------------------------------------------------

namespace UnidppArchive

open Chronicle

variable {C : Crates}
variable {paths : StorePaths}
variable {Request : Type}
variable {d d' : Deployment Request}

namespace Deployment

/- The store and the journal are the ones of a start. -/
theorem Orderly.of_reopens
    {disk disk' : Disk}
    {store : SnapshotStore}
    {clock : Timestamp}
    {posted : List (String × Hash)}
    (hReopens : Reopens C paths disk store disk')
    (hJournal :
      Chronological SnapshotRecord.instant
        (restored C paths disk)) :
    Orderly C paths
      (⟨clock, AppSystem.start store disk', posted⟩ :
        Deployment Request) := by
  rcases hReopens.reads with ⟨hSame, hRecords, -⟩
  have hRestored :
      restored C paths disk' = restored C paths disk := by
    rw [restored, restored, hSame]
  refine ⟨?_, ?_, ?_⟩
  · change Chronological _ store.records
    rw [hRecords]
    exact hJournal
  · change Chronological _ (restored C paths disk')
    rw [hRestored]
    exact hJournal
  · intro t ρ hNone
    cases hNone

/- The first process holds no record. -/
theorem orderly_start
    (hStarts : Starts C paths d) :
    Orderly C paths d := by
  rcases hStarts with
    ⟨-, first, store, disk, hFresh, hReopens, hApp⟩
  have hNone : restored C paths first = [] := by
    rw [restored, hFresh]
    split <;> rfl
  have hOrderly : Orderly C paths ⟨d.clock, d.app, d.posted⟩ := by
    rw [hApp]
    apply Orderly.of_reopens hReopens
    rw [hNone]
    exact chronological_nil
  exact hOrderly

variable [DecidableEq Request]
variable {service : Service C}
variable {app : AppSystem Request}

/- What a handler adds is not behind, and nothing is later. -/
theorem Orderly.handle
    (hSerde : C.serde.Lawful)
    (hStrings : C.serde.KeepsStrings)
    (hSteady : Steady C d)
    (h : Orderly C paths d)
    (hStep : AppSystem.Step C service d.app app)
    (hClock : ReadsClock C d.clock d.app app)
    (hTimely : Timely C paths d { d with app := app }) :
    Orderly C paths { d with app := app } := by
  have hStore :
      app.store = d.app.store ∨
        ∃ u r,
          (d.app.phase u).reservation? C =
              some (Reservation.of C r) ∧
            app.store = d.app.store.push r := by
    rcases hStep.store_cases with
      hSame | ⟨u, r, hPhase, hPush, -⟩
    · exact Or.inl hSame
    · exact Or.inr
        ⟨u, r, AppSystem.reservation_of_copied hPhase, hPush⟩
  have hJournal :
      restored C paths app.disk =
          restored C paths d.app.disk ∨
        ∃ u ρ kept new,
          (d.app.phase u).reservation? C = some ρ ∧
            restored C paths app.disk = kept ++ new ∧
              kept.Sublist (restored C paths d.app.disk) ∧
                ∀ q ∈ new,
                  q.instant = ρ.notarizedAt.secs := by
    rcases hSteady.restored_cases hSerde paths hStep with
      hSame | ⟨u, r, kept, new, hPhase, hRest⟩
    · exact Or.inl hSame
    · right
      refine ⟨u, Reservation.of C r, kept, new,
        AppSystem.reservation_of_checked hPhase, hRest.1,
        hRest.2.1, ?_⟩
      intro q hq
      have hSame :=
        named_of_readBack hStrings (hRest.2.2 q hq)
      exact congrArg Timestamp.secs hSame.1
  refine ⟨?_, ?_, ?_⟩
  · change Chronological _ app.store.records
    rcases hStore with hSame | ⟨u, r, hReserved, hPush⟩
    · rw [hSame]
      exact h.store
    · rw [hPush]
      apply h.store.append (List.pairwise_singleton _ r)
      intro a ha b hb
      rw [List.mem_singleton.mp hb]
      exact h.ahead u _ hReserved a
        (List.mem_append_left _ ha)
  · change Chronological _ (restored C paths app.disk)
    rcases hJournal with
      hSame | ⟨u, ρ, kept, new, hReserved, hSplit, hKept, hNew⟩
    · rw [hSame]
      exact h.journal
    · rw [hSplit]
      apply (h.journal.sublist hKept).append
        (chronological_of_const hNew)
      intro a ha b hb
      rw [hNew b hb]
      exact h.ahead u ρ hReserved a
        (List.mem_append_right _ (hKept.mem ha))
  · intro t ρ hReserved r hr
    change (app.phase t).reservation? C = some ρ at hReserved
    change r ∈ app.store.records ++ restored C paths app.disk
      at hr
    rcases hStep.new_reservation hReserved with
      hOld | ⟨req, now, hLocked, hAnchoring, -⟩
    · -- what is added has this very reservation
      rcases List.mem_append.mp hr with hInStore | hInJournal
      · rcases hStore with hSame | ⟨u, q, hOther, hPush⟩
        · rw [hSame] at hInStore
          exact h.ahead t ρ hOld r
            (List.mem_append_left _ hInStore)
        · rw [hPush] at hInStore
          rcases List.mem_append.mp hInStore with
            hFront | hLast
          · exact h.ahead t ρ hOld r
              (List.mem_append_left _ hFront)
          · rw [List.mem_singleton.mp hLast,
              hSteady.reservation_eq hOld hOther]
            exact le_refl _
      · rcases hJournal with
          hSame | ⟨u, σ, kept, new, hOther, hSplit, hKept, hNew⟩
        · rw [hSame] at hInJournal
          exact h.ahead t ρ hOld r
            (List.mem_append_right _ hInJournal)
        · rw [hSplit] at hInJournal
          rcases List.mem_append.mp hInJournal with
            hFront | hLast
          · exact h.ahead t ρ hOld r
              (List.mem_append_right _ (hKept.mem hFront))
          · rw [hNew r hLast,
              hSteady.reservation_eq hOld hOther]
    · -- a new reservation has the reading of the clock
      have hFrame := hStep.reserve_frame hLocked hAnchoring
      rw [hFrame.1, hFrame.2] at hr
      have hNow : ρ.notarizedAt = d.clock := by
        rcases hClock t ρ hReserved with hOld | hNow
        · rw [hLocked] at hOld
          cases hOld
        · exact hNow
      rw [hNow]
      exact hTimely t req _ now hLocked hAnchoring r hr

/- Every timely step keeps the order. -/
theorem Orderly.step
    (hSerde : C.serde.Lawful)
    (hStrings : C.serde.KeepsStrings)
    (hSteady : Steady C d)
    (h : Orderly C paths d)
    (hStep : Step C service paths d d')
    (hTimely : Timely C paths d d') :
    Orderly C paths d' := by
  cases hStep with
  | tick clock => exact ⟨h.store, h.journal, h.ahead⟩
  | post hPhase hPost => exact ⟨h.store, h.journal, h.ahead⟩
  | restart hReopens => exact .of_reopens hReopens h.journal
  | handle hStep hClock =>
      exact h.handle hSerde hStrings hSteady hStep hClock
        hTimely

end Deployment

end UnidppArchive

------------------------------------------------------------
-- Instants Along a Run
------------------------------------------------------------

namespace UnidppArchive

open Chronicle

variable {C : Crates}
variable {paths : StorePaths}
variable {Request : Type}
variable {service : Service C}
variable {d₀ d : Deployment Request}

/- Records in order of their numbers are in order of places. -/
theorem Deployment.Steady.instant_le
    (h : Steady C d)
    (hOrder :
      Chronological SnapshotRecord.instant d.app.store.records)
    {a b : SnapshotRecord}
    (ha : a ∈ d.app.store.records)
    (hb : b ∈ d.app.store.records)
    (hSeq : a.seq < b.seq) :
    a.instant ≤ b.instant := by
  rcases List.mem_iff_getElem.mp ha with ⟨i, hi, rfl⟩
  rcases List.mem_iff_getElem.mp hb with ⟨j, hj, rfl⟩
  rw [h.numbered i _ (List.getElem?_eq_getElem hi),
    h.numbered j _ (List.getElem?_eq_getElem hj),
    UInt64.lt_iff_toNat_lt, UInt64.toNat_ofNat',
    UInt64.toNat_ofNat'] at hSeq
  have hCapacity := h.capacity
  unfold maxRecords at hCapacity
  have hPlace : i < j := by omega
  exact List.pairwise_iff_getElem.mp hOrder i j hi hj hPlace

variable [DecidableEq Request]

/-
  Ingests and restarts from the first process on, and any
  readings of the clock, as long as every reservation is
  timely: the instants do not decrease with the number, and
  every as-of catalogue is a prefix of the journal.
-/
theorem instants_follow_sequence
    (hSerde : C.serde.Lawful)
    (hStrings : C.serde.KeepsStrings)
    (hStarts : Deployment.Starts C paths d₀)
    (hRun :
      Relation.ReflTransGen
        (fun d d' =>
          Deployment.Step C service paths d d' ∧
            Deployment.Timely C paths d d') d₀ d) :
    (∀ a ∈ d.app.store.records,
        ∀ b ∈ d.app.store.records,
          a.seq < b.seq →
            a.notarizedAt.secs ≤ b.notarizedAt.secs) ∧
      ∀ t : Timestamp,
        d.app.store.list none (some t) <+:
          d.app.store.records := by
  have hBoth :
      Deployment.Steady C d ∧
        Deployment.Orderly C paths d := by
    induction hRun with
    | refl =>
        exact ⟨Deployment.steady_start hStarts,
          Deployment.orderly_start hStarts⟩
    | tail _ hLast ih =>
        rcases ih with ⟨hSteady, hOrderly⟩
        exact ⟨hSteady.step hSerde hLast.1,
          hOrderly.step hSerde hStrings hSteady hLast.1
            hLast.2⟩
  rcases hBoth with ⟨hSteady, hOrderly⟩
  constructor
  · intro a ha b hb hSeq
    exact hSteady.instant_le hOrderly.store ha hb hSeq
  · intro t
    rw [SnapshotStore.list_some, view_none]
    exact hOrderly.store.upTo_prefix

/- A handler that reserves nothing is timely. -/
theorem Deployment.Advances.timely
    {t : Request}
    {d' : Deployment Request}
    (h : Advances C service paths t d d') :
    Timely C paths d d' := by
  intro u req seq now hLocked hAnchoring
  by_cases hSame : u = t
  · subst hSame
    exact (h.settled _ _ _ hAnchoring).elim
  · rw [h.others u hSame, hLocked] at hAnchoring
    cases hAnchoring

end UnidppArchive

------------------------------------------------------------
-- Two Ingests
------------------------------------------------------------

namespace UnidppArchive

open Reference Chronicle

namespace Reference

/- A step, which is timely if a clock does not go back. -/
def StepOf
    (first second : Timestamp)
    (d d' : Deployment Bool) : Prop :=
  Deployment.Step crates service journalOnly d d' ∧
    (first.secs ≤ second.secs →
      Deployment.Timely crates journalOnly d d')

/- Two requests, each at its reading of the clock. -/
theorem exists_two_ingests
    (first second : Timestamp) :
    ∃ (a b : SnapshotRecord) (d : Deployment Bool),
      Relation.ReflTransGen (StepOf first second)
          (deploymentAt first) d ∧
        d.app.store.records = [a, b] ∧ a.seq = 0 ∧
          b.seq = 1 ∧ a.notarizedAt = first ∧
            b.notarizedAt = second := by
  have hAdvances (t : Bool) (d d' : Deployment Bool)
      (h :
        Deployment.Advances crates service journalOnly t d
          d') :
      StepOf first second d d' :=
    ⟨h.step, fun _ => h.timely⟩
  -- no record is there at the first reservation
  have hFirst :
      ∀ d₁ d₂,
        Deployment.Step crates service journalOnly d₁ d₂ →
          d₁.clock = first → d₂.clock = first →
            d₁.app.store = emptyStore →
              d₁.app.disk = diskOf (some []) →
                StepOf first second d₁ d₂ := by
    intro d₁ d₂ hStep _ _ hStore hDisk
    refine ⟨hStep, ?_⟩
    intro _ u req seq now _ _ r hr
    rw [hStore, hDisk] at hr
    cases hr
  rcases exists_first_ingest first (hAdvances false) hFirst with
    ⟨a, app, hRunFirst, hSeqA, hAtA, -, hStore, hJournal, hFree,
      hIdle, hNext⟩
  have hTick :
      StepOf first second ⟨first, app, []⟩
        ⟨second, app, []⟩ := by
    refine ⟨.tick _ second, ?_⟩
    intro _ u req seq now hLocked hAnchoring
    rw [hLocked] at hAnchoring
    cases hAnchoring
  -- the first record is there at the second one
  have hSecond :
      ∀ d₁ d₂,
        Deployment.Step crates service journalOnly d₁ d₂ →
          d₁.clock = second → d₂.clock = second →
            d₁.app.store = app.store →
              d₁.app.disk = app.disk →
                StepOf first second d₁ d₂ := by
    intro d₁ d₂ hStep hClock _ hStore' hDisk'
    refine ⟨hStep, ?_⟩
    intro hLater u req seq now _ _ r hr
    rw [hStore', hDisk', hClock] at *
    have hInstant : r.notarizedAt = first := by
      rcases List.mem_append.mp hr with hInStore | hRead
      · rw [hStore] at hInStore
        rw [List.mem_singleton.mp hInStore]
        exact hAtA
      · rw [restored, hJournal] at hRead
        have hBack :=
          (mem_readRecords_entry_iff lawful_serde).mp hRead
        rw [(named_of_readBack keepsStrings_serde hBack).1]
        exact hAtA
    rw [SnapshotRecord.instant, hInstant]
    exact hLater
  rcases exists_ingest_sample
      (d := (⟨second, app, []⟩ : Deployment Bool))
      (hAdvances true) hSecond hNext hFree hIdle
      (capacity_of_push hStore) with
    ⟨b, app', hRunSecond, hSeqB, hAtB, -, hStore', -⟩
  refine ⟨a, b, _, (hRunFirst.tail hTick).trans hRunSecond,
    ?_, hSeqA, ?_, hAtA, hAtB⟩
  · change app'.store.records = [a, b]
    rw [hStore']
    change app.store.records ++ [b] = [a, b]
    rw [hStore]
    rfl
  · rw [hSeqB]
    change app.store.size = 1
    rw [hStore]
    rfl

end Reference

/- The second request comes a minute after the first. -/
theorem instants_follow_sequence_twice :
    ∃ (a b : SnapshotRecord) (d : Deployment Bool),
      d.app.store.records = [a, b] ∧
        a.notarizedAt = minuteBefore ∧ b.notarizedAt = now ∧
          (∀ a ∈ d.app.store.records,
            ∀ b ∈ d.app.store.records,
              a.seq < b.seq →
                a.notarizedAt.secs ≤ b.notarizedAt.secs) ∧
            ∀ t : Timestamp,
              d.app.store.list none (some t) <+:
                d.app.store.records := by
  rcases exists_two_ingests minuteBefore now with
    ⟨a, b, d, hRun, hRecords, -, -, hFirst, hSecond⟩
  have hTimely :
      Relation.ReflTransGen
        (fun d d' =>
          Deployment.Step crates service journalOnly d d' ∧
            Deployment.Timely crates journalOnly d d')
        (deploymentAt minuteBefore) d :=
    Relation.ReflTransGen.mono
      (fun _ _ h => ⟨h.1, h.2 (by decide)⟩) _ _ hRun
  exact ⟨a, b, d, hRecords, hFirst, hSecond,
    instants_follow_sequence lawful_serde keepsStrings_serde
      (starts_deploymentAt minuteBefore) hTimely⟩

/-
  The clock is set back a minute between two requests.  The
  second record is in the catalogue of an instant at which
  the first one is not.
-/
theorem instants_step_back :
    ∃ (d₀ d : Deployment Bool) (a b : SnapshotRecord),
      Deployment.Starts crates journalOnly d₀ ∧
        Relation.ReflTransGen
            (Deployment.Step crates service journalOnly)
            d₀ d ∧
          d.app.store.records = [a, b] ∧ a.seq < b.seq ∧
            b.notarizedAt.secs < a.notarizedAt.secs ∧
              d.app.store.list none (some minuteBefore) =
                  [b] ∧
                ¬ [b] <+: d.app.store.records := by
  rcases exists_two_ingests now minuteBefore with
    ⟨a, b, d, hRun, hRecords, hSeqA, hSeqB, hFirst, hSecond⟩
  have hBack : b.notarizedAt.secs < a.notarizedAt.secs := by
    rw [hFirst, hSecond]
    decide
  refine ⟨deploymentAt now, d, a, b, starts_deploymentAt now,
    Relation.ReflTransGen.mono (fun _ _ h => h.1) _ _ hRun,
    hRecords, ?_, hBack, ?_, ?_⟩
  · rw [hSeqA, hSeqB]
    decide
  · have hOut : ¬ a.instant ≤ minuteBefore.secs := by
      rw [SnapshotRecord.instant, hFirst]
      decide
    have hIn : b.instant ≤ minuteBefore.secs := by
      rw [SnapshotRecord.instant, hSecond]
    rw [SnapshotStore.list_some, view_none, hRecords]
    simp [upTo, hOut, hIn]
  · intro hPrefix
    rw [hRecords, List.cons_prefix_cons] at hPrefix
    rw [hPrefix.1] at hBack
    exact lt_irrefl _ hBack

end UnidppArchive
