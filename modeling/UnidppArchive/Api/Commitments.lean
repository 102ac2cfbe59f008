import UnidppArchive.Api.Progress

/-
  Commitments that are posted to the log.

  A number is reserved anew until a record takes it, and the
  log has every commitment that it was sent.  There is one
  commitment for each snapshot as long as no handler fails
  whose commitment was posted, and every restart reads back
  the numbers under which something was posted.

  Key definitions include:
    * `subjectOf`
    * `Deployment.KeepsPosted`
    * `Deployment.Answered`

  Key theorems include:
    * `Deployment.Answered.step`
    * `one_commitment_per_snapshot`
    * `two_commitments_for_a_snapshot`
-/

------------------------------------------------------------
-- The Condition on Failures
------------------------------------------------------------

namespace UnidppArchive

/- The subject under which a number is anchored. -/
def subjectOf
    (seq : UInt64) : String :=
  s!"urn:unidpp:archive:snapshot:{snapshotIdOf seq}"

theorem anchorSubject_draftRecord
    (seq : UInt64)
    (notarizedAt : Timestamp)
    (req : CreateRequest) :
    anchorSubject (draftRecord seq notarizedAt req) =
      subjectOf seq := by
  have hId :
      (draftRecord seq notarizedAt req).snapshotId =
        snapshotIdOf seq := by
    unfold draftRecord SnapshotRecord.new
    with_reducible rfl
  unfold anchorSubject subjectOf
  rw [hId]

theorem subjectOf_injective
    {m n : UInt64}
    (h : subjectOf m = subjectOf n) :
    m = n := by
  unfold subjectOf at h
  exact snapshotIdOf_injective
    ((String.append_right_inj _).mp h)

namespace Deployment

variable {Request : Type}

/-
  A handler under whose subject something was posted does not
  fail, and a restart reads back every number that a posted
  subject has.
-/
def KeepsPosted
    (C : Crates)
    (paths : StorePaths)
    (d d' : Deployment Request) : Prop :=
  (∀ t ρ, (d.app.phase t).reservation? C = some ρ →
      (d'.app.phase t).Failed →
        ∀ p ∈ d.posted, p.1 ≠ subjectOf ρ.seq) ∧
    (∀ store disk,
      Reopens C paths d.app.disk store disk →
        d'.app = AppSystem.start store disk →
          ∀ p ∈ d.posted,
            ∃ i < (restored C paths d.app.disk).length,
              p.1 = subjectOf (UInt64.ofNat i))

/-
  A posted subject is of a record of the store, or it was
  posted with the reservation that a handler still has.  It
  was posted with one commitment.
-/
structure Answered
    (C : Crates)
    (d : Deployment Request) : Prop where
  settled :
    ∀ p ∈ d.posted,
      (∃ i < d.app.store.records.length,
        p.1 = subjectOf (UInt64.ofNat i)) ∨
        ∃ t ρ,
          (d.app.phase t).reservation? C = some ρ ∧
            p = (subjectOf ρ.seq, ρ.commitment)
  single :
    ∀ p ∈ d.posted, ∀ q ∈ d.posted, p.1 = q.1 → p.2 = q.2

end Deployment

end UnidppArchive

------------------------------------------------------------
-- Steps and Runs
------------------------------------------------------------

namespace UnidppArchive

variable {C : Crates}
variable {paths : StorePaths}
variable {Request : Type}
variable {d d' : Deployment Request}

namespace Deployment

/- The next number is above those of the store. -/
theorem Steady.subject_ne
    (h : Steady C d)
    {i : Nat}
    (hi : i < d.app.store.records.length) :
    subjectOf (UInt64.ofNat i) ≠
      subjectOf d.app.store.size := by
  intro hSame
  have hCapacity := h.capacity
  have hPlace :=
    ofNat_injective (by omega) (by omega)
      (subjectOf_injective hSame)
  omega

/- What is posted is posted once with this subject. -/
theorem Answered.post
    (hSteady : Steady C d)
    (h : Answered C d)
    {t : Request}
    {req : CreateRequest}
    {seq : UInt64}
    {now : Timestamp}
    (hPhase : d.app.phase t = .anchoring req seq now) :
    Answered C
      { d with
        posted := d.posted ++
          [(subjectOf seq,
            (draftRecord seq now req).commitment C)] } := by
  have hReserved :
      (d.app.phase t).reservation? C =
        some (Reservation.of C (draftRecord seq now req)) := by
    rw [hPhase]
    rfl
  have hSeq : seq = d.app.store.size :=
    hSteady.seq_of_reservation hReserved
  have hSame (q : String × Hash) (hq : q ∈ d.posted)
      (hSubject : q.1 = subjectOf seq) :
      q.2 = (draftRecord seq now req).commitment C := by
    rcases h.settled q hq with
      ⟨i, hi, hStored⟩ | ⟨u, ρ, hOther, rfl⟩
    · rw [hStored, hSeq] at hSubject
      exact (hSteady.subject_ne hi hSubject).elim
    · rw [hSteady.reservation_eq hOther hReserved]
      rfl
  constructor
  · intro p hp
    rcases List.mem_append.mp hp with hOld | hNew
    · exact h.settled p hOld
    · right
      refine ⟨t, _, hReserved, ?_⟩
      rw [List.mem_singleton.mp hNew]
      rfl
  · intro p hp q hq hSubject
    rcases List.mem_append.mp hp with hOld | hNew
    · rcases List.mem_append.mp hq with hOld' | hNew'
      · exact h.single p hOld q hOld' hSubject
      · rw [List.mem_singleton.mp hNew'] at hSubject ⊢
        exact hSame p hOld hSubject
    · rcases List.mem_append.mp hq with hOld' | hNew'
      · rw [List.mem_singleton.mp hNew] at hSubject ⊢
        exact (hSame q hOld' hSubject.symm).symm
      · rw [List.mem_singleton.mp hNew,
          List.mem_singleton.mp hNew']

variable [DecidableEq Request]
variable {service : Service C}

/- Every step that gives up nothing keeps it. -/
theorem Answered.step
    (hSteady : Steady C d)
    (h : Answered C d)
    (hStep : Step C service paths d d')
    (hKeeps : KeepsPosted C paths d d') :
    Answered C d' := by
  cases hStep with
  | tick clock => exact ⟨h.settled, h.single⟩
  | post hPhase hPost =>
      rw [anchorSubject_draftRecord]
      exact h.post hSteady hPhase
  | @restart store disk hReopens =>
      refine ⟨?_, h.single⟩
      intro p hp
      left
      change ∃ i < store.records.length, _
      rw [hReopens.reads.2.1]
      exact hKeeps.2 store disk hReopens rfl p hp
  | @handle app hStep hClock =>
      refine ⟨?_, h.single⟩
      intro p hp
      rcases h.settled p hp with
        ⟨i, hi, hStored⟩ | ⟨t, ρ, hReserved, rfl⟩
      · left
        refine ⟨i, ?_, hStored⟩
        change i < app.store.records.length
        rcases hStep.store_cases with
          hSame | ⟨u, r, -, hPush, -⟩
        · rw [hSame]
          exact hi
        · rw [hPush, SnapshotStore.push, List.length_append]
          omega
      · rcases hStep.kept_reservation hReserved with
          hKept | ⟨r, hPhase, hPush⟩ | hFailed
        · exact Or.inr ⟨t, ρ, hKept, rfl⟩
        · left
          refine ⟨d.app.store.records.length, ?_, ?_⟩
          · change _ < app.store.records.length
            rw [hPush, SnapshotStore.push, List.length_append]
            simp
          · exact congrArg subjectOf
              (hSteady.seq_of_reservation hReserved)
        · exact (hKeeps.1 t ρ hReserved hFailed _ hp rfl).elim

end Deployment

/-
  Requests and restarts from the first process on, as long as
  no step gives up what was posted: what was posted under one
  subject is one commitment.
-/
theorem one_commitment_per_snapshot
    [DecidableEq Request]
    {d₀ : Deployment Request}
    {service : Service C}
    (hSerde : C.serde.Lawful)
    (hStarts : Deployment.Starts C paths d₀)
    (hRun :
      Relation.ReflTransGen
        (fun d d' =>
          Deployment.Step C service paths d d' ∧
            Deployment.KeepsPosted C paths d d') d₀ d) :
    ∀ p ∈ d.posted, ∀ q ∈ d.posted,
      p.1 = q.1 → p.2 = q.2 := by
  have hBoth :
      Deployment.Steady C d ∧ Deployment.Answered C d := by
    induction hRun with
    | refl =>
        refine ⟨Deployment.steady_start hStarts, ?_, ?_⟩
        · rw [hStarts.1]
          simp
        · rw [hStarts.1]
          simp
    | tail _ hLast ih =>
        rcases ih with ⟨hSteady, hAnswered⟩
        exact ⟨hSteady.step hSerde hLast.1,
          hAnswered.step hSteady hLast.1 hLast.2⟩
  exact hBoth.2.single

end UnidppArchive

------------------------------------------------------------
-- Posts One After the Other
------------------------------------------------------------

namespace UnidppArchive

variable {C : Crates}
variable {paths : StorePaths}
variable {Request : Type}
variable {d d' : Deployment Request}
variable {t : Request}

/- A handler with a reservation has not failed. -/
theorem Phase.not_failed_of_reservation
    {p : Phase}
    {ρ : Reservation}
    (h : p.reservation? C = some ρ) :
    ¬ p.Failed := by
  intro hFailed
  cases p with
  | dropped | unsealed _ | appendFailed _ => cases h
  | _ => exact hFailed

/- One handler moves on and does not fail. -/
theorem Deployment.keepsPosted_of_moved
    (hOthers : ∀ u, u ≠ t → d'.app.phase u = d.app.phase u)
    (hStarted : d'.app.phase t ≠ .idle)
    (hUnfailed : ¬ (d'.app.phase t).Failed) :
    KeepsPosted C paths d d' := by
  constructor
  · intro u ρ hReserved hFailed
    exfalso
    by_cases hSame : u = t
    · subst hSame
      exact hUnfailed hFailed
    · rw [hOthers u hSame] at hFailed
      exact Phase.not_failed_of_reservation hReserved hFailed
  · intro store disk _ hApp
    rw [hApp] at hStarted
    exact (hStarted rfl).elim

namespace Reference

/- A service in dev mode, with a transparency log. -/
def loggedService : Service crates :=
  ⟨none, ⟨some "http://127.0.0.1:8470", none, 10000⟩, notary⟩

/- A step that gives up nothing that was posted. -/
def KeepingStep
    (d d' : Deployment Bool) : Prop :=
  Deployment.Step crates loggedService journalOnly d d' ∧
    Deployment.KeepsPosted crates journalOnly d d'

theorem exists_anchorPost
    (subject : String)
    (commitment : Hash) :
    ∃ post,
      anchorPost crates loggedService.log subject commitment =
        .ok post :=
  ⟨_, rfl⟩

theorem keepingStep_of_advances
    {d d' : Deployment Bool}
    {t : Bool}
    (h :
      Deployment.Advances crates loggedService journalOnly t d
        d') :
    KeepingStep d d' :=
  ⟨h.step, Deployment.keepsPosted_of_moved h.others h.started
    h.unfailed⟩

/- A request is handled until its commitment is posted. -/
theorem exists_post
    {d : Deployment Bool}
    {t : Bool}
    (hPhase : d.app.phase t = .idle)
    (hMutations : d.app.mutations = none)
    (hFree : d.app.storeLock = none) :
    ∃ app : AppSystem Bool,
      Relation.ReflTransGen KeepingStep d
          { d with
            app := app
            posted := d.posted ++
              [(subjectOf d.app.store.size,
                (draftRecord d.app.store.size d.clock
                  request).commitment crates)] } ∧
        app.phase t =
            .anchoring request d.app.store.size d.clock ∧
          app.store = d.app.store ∧ app.disk = d.app.disk ∧
            app.storeLock = none ∧
              ∀ u, u ≠ t → app.phase u = d.app.phase u := by
  have hAccept :
      acceptPost crates loggedService now createPost =
        .ok request :=
    acceptPost_of_inverts rfl (inverts_serde requestJson)
      parse_requestJson
  have hLocks :
      ∃ app : AppSystem Bool,
        Relation.ReflTransGen
            (Deployment.Advances crates loggedService
              journalOnly t) d { d with app := app } ∧
          app.phase t = .locked request ∧
            app.store = d.app.store ∧
              app.disk = d.app.disk ∧
                app.storeLock = d.app.storeLock :=
    Deployment.advances_lock hPhase hMutations hAccept
  rcases hLocks with
    ⟨app₁, hLock, hLocked, hStore, hDisk, hFree₁⟩
  rw [hFree] at hFree₁
  let app₂ : AppSystem Bool :=
    app₁.setPhase t
      (.anchoring request app₁.store.size d.clock)
  have hDraft :
      app₂.phase t =
        .anchoring request app₁.store.size d.clock :=
    AppSystem.phase_setPhase app₁ t _
  have hMoved :
      ∀ u, u ≠ t → app₂.phase u = app₁.phase u :=
    fun u hOther => Function.update_of_ne hOther _ _
  have hReserved :
      KeepingStep { d with app := app₁ }
        { d with app := app₂ } := by
    refine ⟨Deployment.step_reserve hLocked hFree₁,
      Deployment.keepsPosted_of_moved hMoved ?_ ?_⟩
    · change app₂.phase t ≠ .idle
      simp [hDraft]
    · change ¬ (app₂.phase t).Failed
      rw [hDraft]
      exact id
  have hPosted :
      KeepingStep { d with app := app₂ }
        { d with
          app := app₂
          posted := d.posted ++
            [(subjectOf app₁.store.size,
              (draftRecord app₁.store.size d.clock
                request).commitment crates)] } := by
    rcases exists_anchorPost
        (anchorSubject
          (draftRecord app₁.store.size d.clock request))
        ((draftRecord app₁.store.size d.clock
          request).commitment crates) with
      ⟨post, hPost⟩
    have hStep :
        Deployment.Step crates loggedService journalOnly
          { d with app := app₂ } _ :=
      .post hDraft hPost
    rw [anchorSubject_draftRecord] at hStep
    refine ⟨hStep, Deployment.keepsPosted_of_moved (t := t)
      (fun _ _ => rfl) ?_ ?_⟩
    · change app₂.phase t ≠ .idle
      simp [hDraft]
    · change ¬ (app₂.phase t).Failed
      rw [hDraft]
      exact id
  have hFront :=
    Relation.ReflTransGen.mono
      (fun _ _ h => keepingStep_of_advances h) _ _ hLock
  have hRun := (hFront.tail hReserved).tail hPosted
  rw [hStore] at hRun hDraft
  refine ⟨app₂, hRun, hDraft, hStore, hDisk, hFree₁, ?_⟩
  intro u hOther
  exact (hMoved u hOther).trans
    ((Deployment.advances_frame hLock).2.2 u hOther)

/- The commitment covers the instant. -/
theorem commitment_ne :
    (draftRecord 0 minuteBefore request).commitment crates ≠
      (draftRecord 0 now request).commitment crates := by
  decide +kernel

end Reference

open Reference

/- The first request is answered, and the second one posts. -/
theorem one_commitment_per_snapshot_twice :
    ∃ d : Deployment Bool,
      d.posted.map Prod.fst = [subjectOf 0, subjectOf 1] ∧
        ∀ p ∈ d.posted, ∀ q ∈ d.posted,
          p.1 = q.1 → p.2 = q.2 := by
  rcases exists_post (d := deploymentAt minuteBefore)
      (t := false) rfl rfl rfl with
    ⟨app₁, hFirst, hDraft, hStore, hDisk, hFree, hOthers⟩
  let posted : List (String × Hash) :=
    [(subjectOf 0,
      (draftRecord 0 minuteBefore request).commitment crates)]
  rcases exists_sealed
      (anchoredDraft crates 0 minuteBefore request
        (anchorDraft crates loggedService createEnv.transport
          (draftRecord 0 minuteBefore request))) with
    ⟨r, hRecord⟩
  have hStore₁ : app₁.store = emptyStore := hStore
  have hAppend := append_sample emptyStore hRecord app₁.disk
  rw [← hStore₁] at hAppend
  have hCapacity : app₁.store.records.length < maxRecords := by
    have hNone : 0 < maxRecords := by decide
    rw [hStore₁]
    exact hNone
  have hFiles :
      ∃ app,
        Relation.ReflTransGen
            (Deployment.Advances crates loggedService
              journalOnly false)
            ⟨minuteBefore, app₁, posted⟩
            ⟨minuteBefore, app, posted⟩ ∧
          app.store = app₁.store.push r ∧ _ ∧
            app.mutations = none ∧ app.storeLock = none :=
    Deployment.advances_file hDraft hFree hRecord hAppend
      hCapacity
  rcases hFiles with
    ⟨app₂, hFile, hStore₂, -, hMutations, hFree₂⟩
  have hIdle : app₂.phase true = .idle := by
    have hFrame := (Deployment.advances_frame hFile).2.2
    exact (hFrame true (by decide)).trans
      (hOthers true (by decide))
  rcases exists_post (d := ⟨minuteBefore, app₂, posted⟩)
      (t := true) hIdle hMutations hFree₂ with
    ⟨app₃, hSecond, -⟩
  have hSize : app₂.store.size = 1 := by
    rw [hStore₂, hStore₁]
    rfl
  simp only [hSize] at hSecond
  have hMiddle :=
    Relation.ReflTransGen.mono
      (fun _ _ h => keepingStep_of_advances h) _ _ hFile
  have hRun := (hFirst.trans hMiddle).trans hSecond
  exact ⟨_, rfl,
    one_commitment_per_snapshot lawful_serde
      (starts_deploymentAt minuteBefore) hRun⟩

/-
  A client disconnects after its commitment was posted, and a
  minute later it tries again: the number is the same, and
  another commitment is posted under its subject.
-/
theorem two_commitments_for_a_snapshot :
    ∃ d₀ d : Deployment Bool,
      Deployment.Starts crates journalOnly d₀ ∧
        Relation.ReflTransGen
            (Deployment.Step crates loggedService journalOnly)
            d₀ d ∧
          ∃ p ∈ d.posted, ∃ q ∈ d.posted,
            p.1 = q.1 ∧ p.2 ≠ q.2 := by
  have hKeeps (d d' : Deployment Bool)
      (h : Relation.ReflTransGen KeepingStep d d') :
      Relation.ReflTransGen
        (Deployment.Step crates loggedService journalOnly)
        d d' :=
    Relation.ReflTransGen.mono (fun _ _ h => h.1) _ _ h
  rcases exists_post (d := deploymentAt minuteBefore)
      (t := false) rfl rfl rfl with
    ⟨app₁, hFirst, hDraft, hStore, hDisk, hFree, hOthers⟩
  let app₂ : AppSystem Bool :=
    { app₁.setPhase false .dropped with mutations := none }
  let first : String × Hash :=
    (subjectOf 0,
      (draftRecord 0 minuteBefore request).commitment crates)
  have hDropped :
      Deployment.Step crates loggedService journalOnly
        ⟨minuteBefore, app₁, [first]⟩
        ⟨minuteBefore, app₂, [first]⟩ := by
    have hStep :
        AppSystem.Step crates loggedService app₁ app₂ :=
      .dropAnchoring hDraft
    exact .handle hStep
      (Deployment.readsClock_of_setPhase hStep rfl (by simp))
  have hTick :
      Deployment.Step crates loggedService journalOnly
        ⟨minuteBefore, app₂, [first]⟩
        ⟨now, app₂, [first]⟩ :=
    .tick _ now
  have hIdle : app₂.phase true = .idle :=
    hOthers true (by decide)
  rcases exists_post (d := ⟨now, app₂, [first]⟩)
      (t := true) hIdle rfl hFree with
    ⟨app₃, hSecond, -⟩
  have hSize : app₂.store.size = 0 := by
    change app₁.store.size = 0
    rw [hStore]
    rfl
  simp only [hSize] at hSecond
  have hRun :=
    (((hKeeps _ _ hFirst).tail hDropped).tail hTick).trans
      (hKeeps _ _ hSecond)
  refine ⟨_, _, starts_deploymentAt minuteBefore, hRun, first,
    by simp, _,
    List.mem_append_right _ (List.mem_singleton_self _), rfl,
    commitment_ne⟩

end UnidppArchive
