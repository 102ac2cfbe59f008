import UnidppArchive.Api.Lifetime

/-
  An ingest that nothing goes wrong with.

  Key definitions include:
    * `Deployment.Advances`

  Key theorems include:
    * `Deployment.advances_lock`
    * `Deployment.advances_file`
    * `Deployment.exists_ingest`
-/

------------------------------------------------------------
-- Handlers That Advance
------------------------------------------------------------

namespace UnidppArchive

variable {C : Crates}
variable {service : Service C}
variable {paths : StorePaths}
variable {Request : Type} [DecidableEq Request]

/- The writes of an append that succeeds. -/
theorem SnapshotStore.writes_of_append
    {io : AppendIo}
    {r : SnapshotRecord}
    {store store' : SnapshotStore}
    {disk disk' : Disk}
    (h :
      store.appendSnapshot C io r disk =
        (.ok (), store', disk')) :
    ∃ disk₁,
      store.checkRecord C r = .ok () ∧
        store.writeJournal C io r disk = (.ok (), disk₁) ∧
          store.writeSnapshotFile C io r disk₁ =
              (.ok (), disk') ∧
            store' = store.push r := by
  unfold appendSnapshot at h
  split at h
  · cases h
  · rename_i u hCheck
    split at h
    · cases h
    · rename_i disk₁ hJournal
      split at h
      · cases h
      · rename_i disk₂ hFile
        cases h
        exact ⟨disk₁, hCheck, hJournal, hFile, rfl⟩

namespace Deployment

/-
  A handler takes a step that is no reservation, and neither
  the others nor the clock nor the log notice.
-/
structure Advances
    (C : Crates)
    (service : Service C)
    (paths : StorePaths)
    (t : Request)
    (d d' : Deployment Request) : Prop where
  step : Step C service paths d d'
  clock : d'.clock = d.clock
  posted : d'.posted = d.posted
  others : ∀ u, u ≠ t → d'.app.phase u = d.app.phase u
  started : d'.app.phase t ≠ .idle
  unfailed : ¬ (d'.app.phase t).Failed
  settled :
    ∀ req seq now, d'.app.phase t ≠ .anchoring req seq now

variable {t : Request}
variable {d : Deployment Request}

/- Only a handler that reserves reads the clock. -/
theorem readsClock_of_setPhase
    {clock : Timestamp}
    {s s' : AppSystem Request}
    {p : Phase}
    (hStep : AppSystem.Step C service s s')
    (hPhase : s'.phase = (s.setPhase t p).phase)
    (hSettled : ∀ req seq now, p ≠ .anchoring req seq now) :
    ReadsClock C clock s s' := by
  intro u ρ hReserved
  left
  rcases hStep.new_reservation hReserved with
    hOld | ⟨req, now, hLocked, hAnchoring, -⟩
  · exact hOld
  · rw [hPhase] at hAnchoring
    rcases AppSystem.setPhase_cases s t p u with
      ⟨rfl, hMoved⟩ | hStays
    · rw [hMoved] at hAnchoring
      exact (hSettled _ _ _ hAnchoring).elim
    · rw [hStays, hLocked] at hAnchoring
      cases hAnchoring

theorem advances_of_setPhase
    {app : AppSystem Request}
    {p : Phase}
    (hStep : AppSystem.Step C service d.app app)
    (hPhase : app.phase = (d.app.setPhase t p).phase)
    (hStarted : p ≠ .idle)
    (hUnfailed : ¬ p.Failed)
    (hSettled : ∀ req seq now, p ≠ .anchoring req seq now) :
    Advances C service paths t d { d with app := app } := by
  have hSelf : app.phase t = p := by
    rw [hPhase]
    exact AppSystem.phase_setPhase _ _ _
  refine ⟨.handle hStep
      (readsClock_of_setPhase hStep hPhase hSettled),
    rfl, rfl, ?_, ?_, ?_, ?_⟩
  · intro u hOther
    change app.phase u = d.app.phase u
    rw [hPhase]
    exact Function.update_of_ne hOther _ _
  · change app.phase t ≠ .idle
    rw [hSelf]
    exact hStarted
  · change ¬ (app.phase t).Failed
    rw [hSelf]
    exact hUnfailed
  · change ∀ req seq now, app.phase t ≠ .anchoring req seq now
    rw [hSelf]
    exact hSettled

theorem advances_frame
    {d' : Deployment Request}
    (hRun :
      Relation.ReflTransGen (Advances C service paths t) d d') :
    d'.clock = d.clock ∧ d'.posted = d.posted ∧
      ∀ u, u ≠ t → d'.app.phase u = d.app.phase u := by
  induction hRun with
  | refl => exact ⟨rfl, rfl, fun _ _ => rfl⟩
  | tail _ hStep ih =>
      rcases ih with ⟨hClock, hPosted, hOthers⟩
      refine ⟨hStep.clock.trans hClock,
        hStep.posted.trans hPosted, ?_⟩
      intro u hOther
      exact (hStep.others u hOther).trans (hOthers u hOther)

/- From the request to the lock. -/
theorem advances_lock
    {now : Timestamp}
    {post : CreatePost}
    {req : CreateRequest}
    (hPhase : d.app.phase t = .idle)
    (hFree : d.app.mutations = none)
    (hAccept : acceptPost C service now post = .ok req) :
    ∃ app,
      Relation.ReflTransGen (Advances C service paths t) d
          { d with app := app } ∧
        app.phase t = .locked req ∧
          app.store = d.app.store ∧ app.disk = d.app.disk ∧
            app.storeLock = d.app.storeLock := by
  have hAccepted : Advances C service paths t d _ :=
    advances_of_setPhase (.accept hPhase hAccept) rfl (by simp)
      id (by simp)
  have hLocked :
      Advances C service paths t
        { d with app := d.app.setPhase t (.waiting req) } _ :=
    advances_of_setPhase
      (.lock (AppSystem.phase_setPhase d.app t _) hFree) rfl
      (by simp) id (by simp)
  have hRun : Relation.ReflTransGen _ d _ :=
    (Relation.ReflTransGen.single hAccepted).tail hLocked
  exact ⟨_, hRun, AppSystem.phase_setPhase _ t _, rfl, rfl,
    rfl⟩

/- From the anchored draft to the answer. -/
theorem advances_file
    {req : CreateRequest}
    {seq : UInt64}
    {now : Timestamp}
    {transport : AnchorPost → Except String HttpResponse}
    {io : AppendIo}
    {r : SnapshotRecord}
    {store : SnapshotStore}
    {disk : Disk}
    (hPhase : d.app.phase t = .anchoring req seq now)
    (hFree : d.app.storeLock = none)
    (hRecord :
      ingestRecord C service.notary seq now req
          (anchorDraft C service transport
            (draftRecord seq now req)) = .ok r)
    (hAppend :
      d.app.store.appendSnapshot C io r d.app.disk =
        (.ok (), store, disk))
    (hCapacity : d.app.store.records.length < maxRecords) :
    ∃ app,
      Relation.ReflTransGen (Advances C service paths t) d
          { d with app := app } ∧
        app.store = store ∧ app.disk = disk ∧
          app.mutations = none ∧ app.storeLock = none := by
  rcases SnapshotStore.writes_of_append hAppend with
    ⟨disk₁, hCheck, hJournal, hFile, rfl⟩
  let noted : AppSystem Request :=
    d.app.setPhase t (.noted r)
  let checked : AppSystem Request :=
    { noted.setPhase t (.checked r) with storeLock := some t }
  let journaled : AppSystem Request :=
    { checked.setPhase t (.journaled r) with disk := disk₁ }
  let copied : AppSystem Request :=
    { journaled.setPhase t (.copied r) with disk := disk }
  have hNoted :
      Advances C service paths t d { d with app := noted } :=
    advances_of_setPhase (.note transport hPhase hRecord) rfl
      (by simp) id (by simp)
  have hChecked :
      Advances C service paths t { d with app := noted }
        { d with app := checked } :=
    advances_of_setPhase
      (.check (AppSystem.phase_setPhase d.app t _) hFree
        hCheck) rfl (by simp) id (by simp)
  have hJournaled :
      Advances C service paths t { d with app := checked }
        { d with app := journaled } :=
    advances_of_setPhase
      (.journal io (AppSystem.phase_setPhase noted t _)
        hJournal) rfl (by simp) id (by simp)
  have hCopied :
      Advances C service paths t { d with app := journaled }
        { d with app := copied } :=
    advances_of_setPhase
      (.copy io (AppSystem.phase_setPhase checked t _) hFile)
      rfl (by simp) id (by simp)
  let pushed : AppSystem Request :=
    { copied.setPhase t (.appended r) with
      store := d.app.store.push r
      storeLock := none }
  have hPushed :
      Advances C service paths t { d with app := copied }
        { d with app := pushed } :=
    advances_of_setPhase
      (.push (AppSystem.phase_setPhase journaled t _)
        hCapacity) rfl (by simp) id (by simp)
  have hAnswered :
      Advances C service paths t { d with app := pushed } _ :=
    advances_of_setPhase
      (.respond (AppSystem.phase_setPhase copied t _)) rfl
      (by simp) id (by simp)
  have hRun : Relation.ReflTransGen _ d _ :=
    (Relation.ReflTransGen.single hNoted).tail hChecked
  exact ⟨_,
    (((hRun.tail hJournaled).tail hCopied).tail hPushed).tail
      hAnswered, rfl, rfl, rfl, rfl⟩

/- The number and the instant are taken. -/
theorem step_reserve
    {req : CreateRequest}
    (hPhase : d.app.phase t = .locked req)
    (hFree : d.app.storeLock = none) :
    Step C service paths d
      { d with
        app := d.app.setPhase t
          (.anchoring req d.app.store.size d.clock) } := by
  have hStep :
      AppSystem.Step C service d.app
        (d.app.setPhase t
          (.anchoring req d.app.store.size d.clock)) :=
    .reserve d.clock hPhase hFree
  refine .handle hStep ?_
  intro u ρ hReserved
  rcases hStep.new_reservation hReserved with
    hOld | ⟨req', now, hLocked, hAnchoring, rfl⟩
  · exact Or.inl hOld
  · right
    rcases AppSystem.setPhase_cases d.app t
        (.anchoring req d.app.store.size d.clock) u with
      ⟨rfl, hMoved⟩ | hStays
    · rw [hMoved] at hAnchoring
      cases hAnchoring
      rfl
    · rw [hStays, hLocked] at hAnchoring
      cases hAnchoring

/-
  A request that runs alone, at one reading of the clock, and
  what holds of its steps.
-/
theorem exists_ingest
    {R : Deployment Request → Deployment Request → Prop}
    {acceptedAt : Timestamp}
    {post : CreatePost}
    {req : CreateRequest}
    {transport : AnchorPost → Except String HttpResponse}
    {io : AppendIo}
    {r : SnapshotRecord}
    {store : SnapshotStore}
    {disk : Disk}
    (hAdvances :
      ∀ d d', Advances C service paths t d d' → R d d')
    (hReserve :
      ∀ d₁ d₂, Step C service paths d₁ d₂ →
        d₁.clock = d.clock → d₂.clock = d.clock →
          d₁.app.store = d.app.store →
            d₁.app.disk = d.app.disk → R d₁ d₂)
    (hPhase : d.app.phase t = .idle)
    (hMutations : d.app.mutations = none)
    (hFree : d.app.storeLock = none)
    (hAccept : acceptPost C service acceptedAt post = .ok req)
    (hRecord :
      ingestRecord C service.notary d.app.store.size d.clock
          req
          (anchorDraft C service transport
            (draftRecord d.app.store.size d.clock req)) =
        .ok r)
    (hAppend :
      d.app.store.appendSnapshot C io r d.app.disk =
        (.ok (), store, disk))
    (hCapacity : d.app.store.records.length < maxRecords) :
    ∃ app,
      Relation.ReflTransGen R d { d with app := app } ∧
        app.store = store ∧ app.disk = disk ∧
          app.mutations = none ∧ app.storeLock = none ∧
            ∀ u, u ≠ t → app.phase u = d.app.phase u := by
  have hLocks :
      ∃ app,
        Relation.ReflTransGen (Advances C service paths t) d
            { d with app := app } ∧
          app.phase t = .locked req ∧
            app.store = d.app.store ∧
              app.disk = d.app.disk ∧
                app.storeLock = d.app.storeLock :=
    advances_lock hPhase hMutations hAccept
  rcases hLocks with
    ⟨app₁, hLock, hLocked, hStore, hDisk, hFree₁⟩
  rw [hFree] at hFree₁
  rw [← hStore] at hRecord hAppend hCapacity
  rw [← hDisk] at hAppend
  let app₂ : AppSystem Request :=
    app₁.setPhase t (.anchoring req app₁.store.size d.clock)
  have hReserved :
      Step C service paths { d with app := app₁ }
        { d with app := app₂ } :=
    step_reserve hLocked hFree₁
  have hDraft :
      app₂.phase t =
        .anchoring req app₁.store.size d.clock :=
    AppSystem.phase_setPhase app₁ t _
  have hFile :
      ∃ app,
        Relation.ReflTransGen (Advances C service paths t)
            { d with app := app₂ } { d with app := app } ∧
          app.store = store ∧ app.disk = disk ∧
            app.mutations = none ∧ app.storeLock = none :=
    advances_file hDraft hFree₁ hRecord hAppend hCapacity
  rcases hFile with ⟨app, hFile, hRest⟩
  refine ⟨app, ?_, hRest.1, hRest.2.1, hRest.2.2.1,
    hRest.2.2.2, ?_⟩
  · have hStep :
        R { d with app := app₁ } { d with app := app₂ } :=
      hReserve _ _ hReserved rfl rfl hStore hDisk
    have hFront :=
      Relation.ReflTransGen.mono hAdvances _ _ hLock
    have hBack :=
      Relation.ReflTransGen.mono hAdvances _ _ hFile
    exact (hFront.tail hStep).trans hBack
  · intro u hOther
    have hMoved : app₂.phase u = app₁.phase u :=
      Function.update_of_ne hOther _ _
    exact ((advances_frame hFile).2.2 u hOther).trans
      (hMoved.trans ((advances_frame hLock).2.2 u hOther))

end Deployment

end UnidppArchive

------------------------------------------------------------
-- Sample Deployments
------------------------------------------------------------

namespace UnidppArchive

namespace Reference

/- A minute before the wall clock of the samples. -/
def minuteBefore : Timestamp :=
  ⟨1899999940⟩

/- A first process, with a journal that was just created. -/
def deploymentAt
    (clock : Timestamp) : Deployment Bool :=
  ⟨clock, AppSystem.start emptyStore (diskOf (some [])), []⟩

theorem starts_deploymentAt
    (clock : Timestamp) :
    Deployment.Starts crates journalOnly
      (deploymentAt clock) :=
  ⟨rfl, diskOf none, emptyStore, diskOf (some []), rfl,
    .opened open_absent (by simp [emptyStore]), rfl⟩

theorem journal_recorded_sample
    {store : SnapshotStore}
    {journal : Option Bytes}
    {r : SnapshotRecord}
    {disk : Disk}
    (hJournal : store.journal = true)
    (hDir : store.snapshotDir = none)
    (hDisk : disk.journal = journal) :
    (store.recorded crates r disk).journal =
      some (journal.getD [] ++ journalEntry crates r) := by
  simp [SnapshotStore.recorded, hJournal, hDir, hDisk,
    WriteResult.kept]

/- A sample request that runs alone. -/
theorem exists_ingest_sample
    {paths : StorePaths}
    {R : Deployment Bool → Deployment Bool → Prop}
    {d : Deployment Bool}
    {t : Bool}
    (hAdvances :
      ∀ d d',
        Deployment.Advances crates service paths t d d' →
          R d d')
    (hReserve :
      ∀ d₁ d₂, Deployment.Step crates service paths d₁ d₂ →
        d₁.clock = d.clock → d₂.clock = d.clock →
          d₁.app.store = d.app.store →
            d₁.app.disk = d.app.disk → R d₁ d₂)
    (hPhase : d.app.phase t = .idle)
    (hMutations : d.app.mutations = none)
    (hFree : d.app.storeLock = none)
    (hCapacity : d.app.store.records.length < maxRecords) :
    ∃ r app,
      Relation.ReflTransGen R d { d with app := app } ∧
        r.seq = d.app.store.size ∧ r.notarizedAt = d.clock ∧
          (d.clock.OnClock → ReadBack crates r r) ∧
            app.store = d.app.store.push r ∧
              app.disk =
                d.app.store.recorded crates r d.app.disk ∧
                app.mutations = none ∧ app.storeLock = none ∧
                  ∀ u, u ≠ t →
                    app.phase u = d.app.phase u := by
  rcases exists_sealed
      (anchoredDraft crates d.app.store.size d.clock request
        (anchorDraft crates service createEnv.transport
          (draftRecord d.app.store.size d.clock request))) with
    ⟨r, hRecord⟩
  have hFields := fields_ingestRecord hRecord
  have hAppend := append_sample d.app.store hRecord d.app.disk
  rcases Deployment.exists_ingest hAdvances hReserve hPhase
      hMutations hFree acceptPost_createPost hRecord hAppend
      hCapacity with
    ⟨app, hRun, hStore, hDisk, hRest⟩
  refine ⟨r, app, hRun, hFields.1, hFields.2.2.1, ?_, hStore,
    hDisk, hRest⟩
  intro hClock
  have hReplay : r.anchoring.Replayable := by
    rw [replayable_ingestRecord_iff hRecord]
    rintro receipt summary ⟨hAnswer, -⟩
    rcases anchorDraft_error createEnv.transport
        (draftRecord d.app.store.size d.clock request) with
      ⟨e, hError⟩
    rw [hError] at hAnswer
    cases hAnswer
  exact lineVerdict_journalLine_iff.mpr
    (decodable_ingestRecord hexLaw hClock hRecord hReplay
      (inverts_serde _))

/- The first request of a first process. -/
theorem exists_first_ingest
    {R : Deployment Bool → Deployment Bool → Prop}
    (clock : Timestamp)
    (hAdvances :
      ∀ d d',
        Deployment.Advances crates service journalOnly false d
            d' →
          R d d')
    (hReserve :
      ∀ d₁ d₂,
        Deployment.Step crates service journalOnly d₁ d₂ →
          d₁.clock = clock → d₂.clock = clock →
            d₁.app.store = emptyStore →
              d₁.app.disk = diskOf (some []) → R d₁ d₂) :
    ∃ r app,
      Relation.ReflTransGen R (deploymentAt clock)
          ⟨clock, app, []⟩ ∧
        r.seq = 0 ∧ r.notarizedAt = clock ∧
          (clock.OnClock → ReadBack crates r r) ∧
            app.store = emptyStore.push r ∧
              app.disk.journal =
                some (journalEntry crates r) ∧
                app.mutations = none ∧ app.storeLock = none ∧
                  app.phase true = .idle := by
  have hNone : 0 < maxRecords := by decide
  rcases exists_ingest_sample (d := deploymentAt clock)
      hAdvances hReserve rfl rfl rfl hNone with
    ⟨r, app, hRun, hSeq, hInstant, hRead, hStore, hDisk,
      hFree, hIdle, hOthers⟩
  have hFresh :
      (deploymentAt clock).app.disk.journal = some [] :=
    rfl
  refine ⟨r, app, hRun, hSeq, hInstant, hRead, hStore, ?_,
    hFree, hIdle, hOthers true (by decide)⟩
  rw [hDisk, journal_recorded_sample rfl rfl hFresh,
    Option.getD_some, List.nil_append]

/- A store of one record takes another one. -/
theorem capacity_of_push
    {store : SnapshotStore}
    {r : SnapshotRecord}
    (hStore : store = emptyStore.push r) :
    store.records.length < maxRecords := by
  have hOne : 1 < maxRecords := by decide
  rw [hStore]
  exact hOne

end Reference

end UnidppArchive
