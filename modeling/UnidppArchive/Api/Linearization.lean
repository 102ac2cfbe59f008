import UnidppArchive.Api.Gapless
import UnidppArchive.Api.Requests
import UnidppArchive.Foundations.Machine

/-
  Concurrent traffic as a sequence of requests (`api.rs`).

  Handlers interleave, reads come between their steps, and
  clients go away.  The answers are those of a server that
  takes the same requests one after the other: a snapshot is
  there for a reader from the moment at which its record is
  in the index, and every other request at its answer.

  Key definitions include:
    * `Phase.Underway`
    * `Traffic`
    * `Traffic.Step`
    * `Traffic.SoundRun`
    * `Linear`

  Key theorems include:
    * `exists_handle_of_sealResult`
    * `Linearizing.step`
    * `concurrent_traffic_is_sequential`
-/

------------------------------------------------------------
-- Requests Under Way
------------------------------------------------------------

namespace UnidppArchive

variable (C : Crates)
variable (service : Service C)

/- The post was accepted as this request. -/
def AcceptedAs
    (post : CreatePost)
    (req : CreateRequest) : Prop :=
  ∃ now, acceptPost C service now post = .ok req

/- What sealing a draft of the post comes to. -/
def SealResult
    (post : CreatePost)
    (store : SnapshotStore)
    (result : Except String SnapshotRecord) : Prop :=
  ∃ req now transport,
    AcceptedAs C service post req ∧
      ingestRecord C service.notary store.size now req
          (anchorDraft C service transport
            (draftRecord store.size now req)) =
        result

/- What a server does with a draft that was sealed, or not. -/
def settled
    (s : ServerState)
    (errorAt : Timestamp)
    (io : AppendIo) :
    Except String SnapshotRecord → Response × ServerState
| .error e =>
    (errorResponse C errorAt 500 s!"notarization failed: {e}",
      s)
| .ok r =>
    match s.store.appendSnapshot C io r s.disk with
    | (.error e, store, disk) =>
        (storeError C errorAt e, ⟨store, disk⟩)
    | (.ok (), store, disk) =>
        (createdResponse C r, ⟨store, disk⟩)

/-
  What the handler of a post has done since the server was in
  its last state between two requests.
-/
def Phase.Underway
    (post : CreatePost)
    (base : ServerState)
    (disk : Disk) :
    Phase → Prop
| .idle | .responded _ | .dropped => True
| .waiting req => AcceptedAs C service post req
| .locked req =>
    AcceptedAs C service post req ∧ disk = base.disk
| .anchoring req seq _ =>
    AcceptedAs C service post req ∧ seq = base.store.size ∧
      disk = base.disk
| .noted r =>
    SealResult C service post base.store (.ok r) ∧
      disk = base.disk
| .checked r =>
    SealResult C service post base.store (.ok r) ∧
      base.store.checkRecord C r = .ok () ∧ disk = base.disk
| .journaled r =>
    SealResult C service post base.store (.ok r) ∧
      base.store.checkRecord C r = .ok () ∧
        ∃ io, base.store.writeJournal C io r base.disk =
          (.ok (), disk)
| .copied r =>
    SealResult C service post base.store (.ok r) ∧
      ∃ io, base.store.appendSnapshot C io r base.disk =
        (.ok (), base.store.push r, disk)
| .appended _ => disk = base.disk
| .unsealed e =>
    SealResult C service post base.store (.error e) ∧
      disk = base.disk
| .appendFailed e =>
    ∃ r io,
      SealResult C service post base.store (.ok r) ∧
        base.store.appendSnapshot C io r base.disk =
          (.error e, base.store, disk)

/- The answer is given, or all that it takes is done. -/
def Phase.Answers
    (response : Response) :
    Phase → Prop
| .responded given => response = given
| .appended r => response = createdResponse C r
| _ => False

variable {C : Crates}
variable {service : Service C}
variable {post : CreatePost}
variable {req : CreateRequest}

/- Who is admitted at one time is admitted at every time. -/
theorem requireAdmin_at
    {now : Timestamp}
    {authorization : Option String}
    (h : requireAdmin C service now authorization = none)
    (now' : Timestamp) :
    requireAdmin C service now' authorization = none := by
  unfold requireAdmin at h ⊢
  cases hToken : service.adminToken with
  | none => rfl
  | some token =>
      simp only [hToken] at h ⊢
      split at h
      · rename_i hBearer
        rw [if_pos hBearer]
      · cases h

theorem AcceptedAs.at
    (h : AcceptedAs C service post req)
    (now : Timestamp) :
    acceptPost C service now post = .ok req := by
  rcases h with ⟨before, hAccept⟩
  unfold acceptPost at hAccept ⊢
  cases hAdmin : requireAdmin C service before
      post.authorization with
  | some deny =>
      rw [hAdmin] at hAccept
      cases hAccept
  | none =>
      rw [hAdmin] at hAccept
      rw [requireAdmin_at hAdmin now]
      cases hRead :
          parseBody C post.body >>= parseCreateRequest C with
      | error e =>
          rw [hRead] at hAccept
          cases hAccept
      | ok found =>
          rw [hRead] at hAccept
          exact hAccept

/- The request is answered so, whatever time it takes. -/
theorem exists_handle_of_sealResult
    {s : ServerState}
    {result : Except String SnapshotRecord}
    (h : SealResult C service post s.store result)
    (errorAt : Timestamp)
    (io : AppendIo) :
    ∃ env,
      handle C service s
          ⟨post.authorization,
            .createSnapshot env post.body⟩ =
        settled C s errorAt io result := by
  rcases h with ⟨req, now, transport, hAccepted, hResult⟩
  refine ⟨⟨now, errorAt, transport, io⟩, ?_⟩
  have hAccept : acceptPost C service errorAt post = .ok req :=
    hAccepted.at errorAt
  unfold handle createSnapshot
  simp only [hAccept, storeDraft, SnapshotStore.reserve,
    hResult]
  cases result with
  | error e => rfl
  | ok r =>
      simp only [settled]
      rcases s.store.appendSnapshot C io r s.disk with
        ⟨e | u, store, disk⟩ <;> rfl

/- A refused request is refused again, and changes nothing. -/
theorem exists_handle_of_refused
    {now : Timestamp}
    {deny : Response}
    (h : acceptPost C service now post = .error deny)
    (s : ServerState) :
    ∃ env,
      handle C service s
          ⟨post.authorization,
            .createSnapshot env post.body⟩ =
        (deny, s) := by
  refine ⟨⟨now, now, fun _ => .error "", .sound⟩, ?_⟩
  unfold handle createSnapshot
  simp only [h]

/- Without the lock, a handler relies on no state. -/
theorem Phase.Underway.frame
    {p : Phase}
    {base base' : ServerState}
    {disk disk' : Disk}
    (h : p.Underway C service post base disk)
    (hFree : ¬ p.Holds) :
    p.Underway C service post base' disk' := by
  cases p with
  | idle | responded _ | dropped => trivial
  | waiting req => exact h
  | _ => exact absurd trivial hFree

/- The writes of an append, each with its own outcome. -/
theorem appendSnapshot_of_journalFails
    {store : SnapshotStore}
    {io : AppendIo}
    {r : SnapshotRecord}
    {disk disk' : Disk}
    {e : StoreError}
    (hCheck : store.checkRecord C r = .ok ())
    (hWrite :
      store.writeJournal C io r disk = (.error e, disk')) :
    store.appendSnapshot C io r disk =
      (.error e, store, disk') := by
  unfold SnapshotStore.appendSnapshot
  rw [hCheck, hWrite]

theorem exists_append_of_copied
    {store : SnapshotStore}
    {io io' : AppendIo}
    {r : SnapshotRecord}
    {disk disk₁ disk' : Disk}
    {result : Except StoreError Unit}
    (hCheck : store.checkRecord C r = .ok ())
    (hJournal :
      store.writeJournal C io r disk = (.ok (), disk₁))
    (hCopy :
      store.writeSnapshotFile C io' r disk₁ =
        (result, disk')) :
    ∃ io, store.appendSnapshot C io r disk =
      (result, AppSystem.indexOutcome store r result,
        disk') := by
  refine ⟨⟨io.journal, io'.snapshotFile⟩, ?_⟩
  have hFirst :
      store.writeJournal C ⟨io.journal, io'.snapshotFile⟩ r
          disk = (.ok (), disk₁) :=
    hJournal
  have hSecond :
      store.writeSnapshotFile C ⟨io.journal, io'.snapshotFile⟩
          r disk₁ = (result, disk') :=
    hCopy
  unfold SnapshotStore.appendSnapshot
  rw [hCheck]
  simp only [hFirst, hSecond]
  cases result <;> rfl

end UnidppArchive

------------------------------------------------------------
-- Traffic
------------------------------------------------------------

namespace UnidppArchive

variable {Request : Type} [DecidableEq Request]

/- The handlers, and the reads that were answered so far. -/
structure Traffic
    (Request : Type) where
  app : AppSystem Request
  reads : List (ApiRequest × Response)

/- Who asks, if it is a post, and what is asked. -/
abbrev Turn
    (Request : Type) : Type :=
  Option Request × ApiRequest

/- Answer one request, whoever asks. -/
def takeTurn
    (C : Crates)
    (service : Service C)
    (s : ServerState)
    (turn : Turn Request) : Response × ServerState :=
  handle C service s turn.2

/- The request is no POST that is read by its handler. -/
def ApiRequest.Reads
    (request : ApiRequest) : Prop :=
  ∀ env body, request.call ≠ .createSnapshot env body

/- A handler that begins has the post of its request. -/
def Sent
    (C : Crates)
    (service : Service C)
    (posts : Request → CreatePost)
    (s s' : AppSystem Request) : Prop :=
  ∀ t, s.phase t = .idle →
    (∀ req, s'.phase t = .waiting req →
        AcceptedAs C service (posts t) req) ∧
      ∀ response, s'.phase t = .responded response →
        ∃ now, acceptPost C service now (posts t) =
          .error response

namespace Traffic

/-
  A handler takes a step, or a read is answered while no
  handler has the lock of the store.
-/
inductive Step
    (C : Crates)
    (service : Service C)
    (posts : Request → CreatePost) :
    Traffic Request → Traffic Request → Prop where
  | handle
      {d : Traffic Request}
      {app : AppSystem Request}
      (hStep : AppSystem.Step C service d.app app)
      (hSent : Sent C service posts d.app app) :
      Step C service posts d { d with app := app }
  | read
      {d : Traffic Request}
      (request : ApiRequest)
      (hReads : request.Reads)
      (hFree : d.app.storeLock = none) :
      Step C service posts d
        { d with
          reads := d.reads ++
            [(request,
              (UnidppArchive.handle C service
                ⟨d.app.store, d.app.disk⟩ request).1)] }

/- Any number of steps and reads. -/
def Run
    (C : Crates)
    (service : Service C)
    (posts : Request → CreatePost) :
    Traffic Request → Traffic Request → Prop :=
  Relation.ReflTransGen (Step C service posts)

/- No append of the run has failed. -/
def Sound
    (d : Traffic Request) : Prop :=
  ∀ t e, d.app.phase t ≠ .appendFailed e

/- Steps and reads, after none of which an append has failed. -/
def SoundRun
    (C : Crates)
    (service : Service C)
    (posts : Request → CreatePost) :
    Traffic Request → Traffic Request → Prop :=
  Relation.ReflTransGen fun d d' =>
    Step C service posts d d' ∧ d'.Sound

/- Before the first request. -/
def start
    (s : ServerState) : Traffic Request :=
  ⟨AppSystem.start s.store s.disk, []⟩

end Traffic

/- The reads among the answers of a sequence of turns. -/
def readsOf
    (answers : List (Turn Request × Response)) :
    List (ApiRequest × Response) :=
  (answers.filter fun a => a.1.1.isNone).map
    fun a => (a.1.2, a.2)

/-
  The answers of a server that takes turns account for the
  traffic: it has the same store, and the same disk between
  two requests; a handler is answered as in its turn, which
  comes at most once; and the reads are the same.
-/
structure Linear
    (C : Crates)
    (service : Service C)
    (posts : Request → CreatePost)
    (first : ServerState)
    (answers : List (Turn Request × Response))
    (base : ServerState)
    (d : Traffic Request) : Prop where
  ran :
    Machine.run (takeTurn C service) first
        (answers.map Prod.fst) =
      (answers, base)
  store : base.store = d.app.store
  disk : d.app.mutations = none → base.disk = d.app.disk
  answered :
    ∀ t response,
      (∃ request, ((some t, request), response) ∈ answers) ↔
        (d.app.phase t).Answers C response
  own :
    ∀ t request, (some t, request) ∈ answers.map Prod.fst →
      ∃ env,
        request =
          ⟨(posts t).authorization,
            .createSnapshot env (posts t).body⟩
  once : (answers.filterMap fun a => a.1.1).Nodup
  reads : readsOf answers = d.reads

/-
  What a step makes of the last state between two requests:
  nothing, or what an append of a sealed record that has been
  carried out makes of it, or of one that failed.
-/
inductive Settles
    (C : Crates)
    (service : Service C)
    (posts : Request → CreatePost)
    (d : Traffic Request)
    (base : ServerState) :
    ServerState → Prop where
  | kept : Settles C service posts d base base
  | stored
      {t : Request}
      {r : SnapshotRecord}
      {io : AppendIo}
      {store : SnapshotStore}
      {disk : Disk}
      (hPhase : d.app.phase t = .copied r)
      (hSealed :
        SealResult C service (posts t) base.store (.ok r))
      (hAppend :
        base.store.appendSnapshot C io r base.disk =
          (.ok (), store, disk))
      (hCapacity : base.store.records.length < maxRecords) :
      Settles C service posts d base ⟨store, disk⟩
  | failed
      {t : Request}
      {e : StoreError}
      {base' : ServerState}
      (hPhase : d.app.phase t = .appendFailed e) :
      Settles C service posts d base base'

/- What a step of the traffic keeps besides. -/
structure Linearizing
    (C : Crates)
    (service : Service C)
    (posts : Request → CreatePost)
    (first : ServerState)
    (answers : List (Turn Request × Response))
    (base : ServerState)
    (d : Traffic Request) : Prop where
  linear : Linear C service posts first answers base d
  coherent :
    ∃ pending, d.app.Coherent C first.store.records pending
  underway :
    ∀ t, (d.app.phase t).Underway C service (posts t) base
      d.app.disk

variable {C : Crates}
variable {service : Service C}

/- A read leaves the server, and asks for its store alone. -/
theorem handle_of_reads
    {request : ApiRequest}
    (h : request.Reads)
    (store : SnapshotStore)
    (disk disk' : Disk) :
    handle C service ⟨store, disk⟩ request =
      ((handle C service ⟨store, disk'⟩ request).1,
        ⟨store, disk⟩) := by
  rcases request with ⟨authorization, call⟩
  cases call with
  | createSnapshot env body => exact absurd rfl (h env body)
  | _ => rfl

omit [DecidableEq Request] in
/- A turn of a handler is no read. -/
theorem readsOf_append
    (answers : List (Turn Request × Response))
    (t : Request)
    (request : ApiRequest)
    (response : Response) :
    readsOf (answers ++ [((some t, request), response)]) =
      readsOf answers := by
  simp [readsOf]

omit [DecidableEq Request] in
/- A handler without an answer has had no turn. -/
theorem Linear.once_append
    {posts : Request → CreatePost}
    {first base : ServerState}
    {answers : List (Turn Request × Response)}
    {d : Traffic Request}
    {t : Request}
    (h : Linear C service posts first answers base d)
    (hBefore :
      ∀ given, ¬ (d.app.phase t).Answers C given)
    (request : ApiRequest)
    (response : Response) :
    ((answers ++ [((some t, request), response)]).filterMap
      fun a => a.1.1).Nodup := by
  rw [List.filterMap_append]
  apply List.nodup_append.mpr
  refine ⟨h.once, by simp, ?_⟩
  intro u hOld v hNew hSame
  have hThread : v = t := by simpa using hNew
  rw [hSame, hThread] at hOld
  rcases List.mem_filterMap.mp hOld with
    ⟨⟨⟨who, asked⟩, given⟩, hMem, hWho⟩
  have hName : who = some t := hWho
  subst hName
  exact hBefore given
    ((h.answered t given).mp ⟨asked, hMem⟩)

end UnidppArchive

------------------------------------------------------------
-- Steps Between Two Turns
------------------------------------------------------------

namespace UnidppArchive

namespace Linearizing

variable {Request : Type}
variable {C : Crates}
variable {service : Service C}
variable {posts : Request → CreatePost}
variable {first base base' : ServerState}
variable {answers : List (Turn Request × Response)}
variable {d : Traffic Request}
variable {app : AppSystem Request}
variable {t : Request}
variable {q : Phase}

/- One more turn after the others. -/
theorem ran_append
    (h : Linearizing C service posts first answers base d)
    (turn : Turn Request) :
    Machine.run (takeTurn C service) first
        ((answers ++
          [(turn, (takeTurn C service base turn).1)]).map
            Prod.fst) =
      (answers ++ [(turn, (takeTurn C service base turn).1)],
        (takeTurn C service base turn).2) := by
  rw [List.map_append, List.map_cons, List.map_nil,
    Machine.run_append, h.linear.ran, Machine.run_singleton]

theorem underway_at
    {p : Phase}
    (h : Linearizing C service posts first answers base d)
    (hPhase : d.app.phase t = p) :
    p.Underway C service (posts t) base d.app.disk := by
  rw [← hPhase]
  exact h.underway t

variable [DecidableEq Request]

/- The other handlers are where they were. -/
theorem others
    (h : Linearizing C service posts first answers base d)
    (hPhase : app.phase = Function.update d.app.phase t q)
    (hFrame :
      (app.disk = d.app.disk ∧ base' = base) ∨
        (d.app.phase t).Holds)
    (hUnderway :
      q.Underway C service (posts t) base' app.disk) :
    ∀ u, (app.phase u).Underway C service (posts u) base'
      app.disk := by
  intro u
  rw [hPhase]
  by_cases hSame : u = t
  · subst hSame
    rw [Function.update_self]
    exact hUnderway
  · rw [Function.update_of_ne hSame]
    rcases hFrame with ⟨hDisk, rfl⟩ | hHolds
    · rw [hDisk]
      exact h.underway u
    · rcases h.coherent with ⟨pending, hCoherent⟩
      exact (h.underway u).frame fun hOther =>
        hSame (hCoherent.holder.eq_of_holds hHolds hOther)

/- A handler goes on, and its answer does not change. -/
theorem silent
    (h : Linearizing C service posts first answers base d)
    (hCoherent :
      ∃ pending, app.Coherent C first.store.records pending)
    (hPhase : app.phase = Function.update d.app.phase t q)
    (hStore : app.store = d.app.store)
    (hFrame :
      app.disk = d.app.disk ∨ (d.app.phase t).Holds)
    (hIdle : app.mutations = none → base.disk = app.disk)
    (hUnderway :
      q.Underway C service (posts t) base app.disk)
    (hAnswers :
      ∀ response,
        q.Answers C response ↔
          (d.app.phase t).Answers C response) :
    Linearizing C service posts first answers base
      { d with app := app } where
  linear :=
    { ran := h.linear.ran
      store := h.linear.store.trans hStore.symm
      disk := hIdle
      answered := by
        intro u response
        rw [h.linear.answered]
        change _ ↔ (app.phase u).Answers C response
        rw [hPhase]
        by_cases hSame : u = t
        · subst hSame
          rw [Function.update_self, hAnswers]
        · rw [Function.update_of_ne hSame]
      own := h.linear.own
      once := h.linear.once
      reads := h.linear.reads }
  coherent := hCoherent
  underway :=
    h.others hPhase
      (hFrame.imp_left fun hDisk => ⟨hDisk, rfl⟩) hUnderway

/- A handler whose turn has come is answered as in it. -/
theorem turn
    {env : CreateEnv}
    {response : Response}
    (h : Linearizing C service posts first answers base d)
    (hTurn :
      handle C service base
          ⟨(posts t).authorization,
            .createSnapshot env (posts t).body⟩ =
        (response, base'))
    (hCoherent :
      ∃ pending, app.Coherent C first.store.records pending)
    (hPhase : app.phase = Function.update d.app.phase t q)
    (hStore : app.store = base'.store)
    (hFrame :
      (app.disk = d.app.disk ∧ base' = base) ∨
        (d.app.phase t).Holds)
    (hIdle : app.mutations = none → base'.disk = app.disk)
    (hUnderway :
      q.Underway C service (posts t) base' app.disk)
    (hBefore :
      ∀ given, ¬ (d.app.phase t).Answers C given)
    (hAfter :
      ∀ given, q.Answers C given ↔ given = response) :
    Linearizing C service posts first
      (answers ++
        [((some t,
            ⟨(posts t).authorization,
              .createSnapshot env (posts t).body⟩),
          response)])
      base' { d with app := app } where
  linear :=
    { ran := by
        have hRan :=
          h.ran_append
            (some t,
              ⟨(posts t).authorization,
                .createSnapshot env (posts t).body⟩)
        unfold takeTurn at hRan
        rw [hTurn] at hRan
        exact hRan
      store := hStore.symm
      disk := hIdle
      answered := by
        intro u given
        change _ ↔ (app.phase u).Answers C given
        simp only [List.mem_append, List.mem_singleton,
          exists_or, h.linear.answered u given, hPhase]
        by_cases hSame : u = t
        · subst hSame
          rw [Function.update_self, hAfter]
          simp [hBefore]
        · rw [Function.update_of_ne hSame]
          simp [hSame]
      own := by
        intro u request hMem
        rw [List.map_append, List.mem_append] at hMem
        rcases hMem with hOld | hNew
        · exact h.linear.own u request hOld
        · rw [List.map_singleton, List.mem_singleton,
            Prod.mk.injEq, Option.some.injEq] at hNew
          rw [hNew.1, hNew.2]
          exact ⟨env, rfl⟩
      once := h.linear.once_append hBefore _ _
      reads := by
        rw [readsOf_append]
        exact h.linear.reads }
  coherent := hCoherent
  underway := h.others hPhase hFrame hUnderway

omit [DecidableEq Request] in
/- A read is answered in the last state. -/
theorem read
    {request : ApiRequest}
    (h : Linearizing C service posts first answers base d)
    (hReads : request.Reads) :
    Linearizing C service posts first
      (answers ++
        [((none, request),
          (handle C service ⟨d.app.store, d.app.disk⟩
            request).1)])
      base
      { d with
        reads := d.reads ++
          [(request,
            (handle C service ⟨d.app.store, d.app.disk⟩
              request).1)] } where
  linear :=
    { ran := by
        have hSame :
            handle C service base request =
              ((handle C service ⟨d.app.store, d.app.disk⟩
                request).1, base) := by
          rw [← h.linear.store]
          exact handle_of_reads hReads _ _ _
        have hRan := h.ran_append (none, request)
        unfold takeTurn at hRan
        rw [hSame] at hRan
        exact hRan
      store := h.linear.store
      disk := h.linear.disk
      answered := by
        intro u given
        simp only [List.mem_append, List.mem_singleton,
          exists_or, h.linear.answered u given]
        simp
      own := by
        intro u post hMem
        rw [List.map_append, List.mem_append] at hMem
        rcases hMem with hOld | hNew
        · exact h.linear.own u post hOld
        · simp at hNew
      once := by
        rw [List.filterMap_append]
        simpa using h.linear.once
      reads := by
        rw [readsOf, List.filter_append, List.map_append]
        change readsOf answers ++ _ = _
        rw [h.linear.reads]
        rfl }
  coherent := h.coherent
  underway := h.underway

end Linearizing

end UnidppArchive

------------------------------------------------------------
-- Every Step
------------------------------------------------------------

namespace UnidppArchive

namespace Linearizing

variable {Request : Type} [DecidableEq Request]
variable {C : Crates}
variable {service : Service C}
variable {posts : Request → CreatePost}
variable {first base : ServerState}
variable {answers : List (Turn Request × Response)}
variable {d : Traffic Request}
variable {app : AppSystem Request}

attribute [local simp] Phase.Answers Phase.Holds

/- A step of a handler takes no turn, or its own. -/
theorem moved
    (h : Linearizing C service posts first answers base d)
    (hStep : AppSystem.Step C service d.app app)
    (hSent : Sent C service posts d.app app) :
    ∃ more base',
      Linearizing C service posts first (answers ++ more) base'
          { d with app := app } ∧
        Settles C service posts d base base' := by
  rcases h.coherent with ⟨pending, hBefore⟩
  have hCoherent :
      ∃ pending,
        app.Coherent C first.store.records pending :=
    hBefore.step hStep
  have hStore := h.linear.store
  have hOn
      (hNext :
        Linearizing C service posts first answers base
          { d with app := app }) :
      ∃ more base',
        Linearizing C service posts first (answers ++ more)
            base' { d with app := app } ∧
          Settles C service posts d base base' :=
    ⟨[], base, by rw [List.append_nil]; exact hNext, .kept⟩
  have hBusy {t : Request} {goal : Prop}
      (hHolds : (d.app.phase t).Holds)
      (hNone : d.app.mutations = none) : goal := by
    rw [(hBefore.holder t).mp hHolds] at hNone
    cases hNone
  cases hStep with
  | @refuse t now post deny hPhase hAccept =>
      rcases (hSent t hPhase).2 deny
          (AppSystem.phase_setPhase d.app t _) with
        ⟨now, hDenied⟩
      rcases exists_handle_of_refused hDenied base with
        ⟨env, hTurn⟩
      exact ⟨_, _, h.turn hTurn hCoherent rfl hStore.symm
        (Or.inl ⟨rfl, rfl⟩) h.linear.disk trivial
        (by simp [hPhase]) (by simp), .kept⟩
  | @accept t now post req hPhase hAccept =>
      have hAccepted : AcceptedAs C service (posts t) req :=
        (hSent t hPhase).1 req
          (AppSystem.phase_setPhase d.app t _)
      exact hOn (h.silent hCoherent rfl rfl (Or.inl rfl)
        h.linear.disk hAccepted (by simp [hPhase]))
  | @dropWaiting t req hPhase =>
      exact hOn (h.silent hCoherent rfl rfl (Or.inl rfl)
        h.linear.disk trivial (by simp [hPhase]))
  | @lock t req hPhase hFree =>
      have hUnderway := h.underway_at hPhase
      exact hOn (h.silent hCoherent rfl rfl (Or.inl rfl) nofun
        ⟨hUnderway, (h.linear.disk hFree).symm⟩
        (by simp [hPhase]))
  | @reserve t req now hPhase hFree =>
      have hUnderway := h.underway_at hPhase
      exact hOn (h.silent hCoherent rfl rfl (Or.inl rfl)
        h.linear.disk
        ⟨hUnderway.1, by rw [hStore]; rfl, hUnderway.2⟩
        (by simp [hPhase]))
  | @dropAnchoring t req seq notarizedAt hPhase =>
      have hUnderway := h.underway_at hPhase
      exact hOn (h.silent hCoherent rfl rfl (Or.inl rfl)
        (fun _ => hUnderway.2.2.symm) trivial
        (by simp [hPhase]))
  | @sealFails t req seq notarizedAt e transport hPhase
      hRecord =>
      rcases h.underway_at hPhase with ⟨hAccepted, rfl, hDisk⟩
      exact hOn (h.silent hCoherent rfl rfl (Or.inl rfl)
        h.linear.disk
        ⟨⟨req, notarizedAt, transport, hAccepted, hRecord⟩,
          hDisk⟩
        (by simp [hPhase]))
  | @note t req seq notarizedAt record transport hPhase
      hRecord =>
      rcases h.underway_at hPhase with ⟨hAccepted, rfl, hDisk⟩
      exact hOn (h.silent hCoherent rfl rfl (Or.inl rfl)
        h.linear.disk
        ⟨⟨req, notarizedAt, transport, hAccepted, hRecord⟩,
          hDisk⟩
        (by simp [hPhase]))
  | @checkFails t record e hPhase hFree hCheck =>
      have hUnderway := h.underway_at hPhase
      have hAppend :
          base.store.appendSnapshot C .sound record base.disk =
            (.error e, base.store, d.app.disk) := by
        unfold SnapshotStore.appendSnapshot
        rw [hStore, hCheck, hUnderway.2]
      exact hOn (h.silent hCoherent rfl rfl (Or.inl rfl)
        h.linear.disk
        ⟨record, .sound, hUnderway.1, hAppend⟩
        (by simp [hPhase]))
  | @check t record hPhase hFree hCheck =>
      have hUnderway := h.underway_at hPhase
      rw [← hStore] at hCheck
      exact hOn (h.silent hCoherent rfl rfl (Or.inl rfl)
        h.linear.disk ⟨hUnderway.1, hCheck, hUnderway.2⟩
        (by simp [hPhase]))
  | @journalFails t record disk e io hPhase hWrite =>
      rcases h.underway_at hPhase with ⟨hSealed, hCheck, hDisk⟩
      rw [← hStore, hDisk] at hWrite
      have hHolds : (d.app.phase t).Holds := by simp [hPhase]
      exact hOn (h.silent hCoherent rfl rfl (Or.inr hHolds)
        (hBusy hHolds)
        ⟨record, io, hSealed,
          appendSnapshot_of_journalFails hCheck hWrite⟩
        (by simp [hPhase]))
  | @journal t record disk io hPhase hWrite =>
      rcases h.underway_at hPhase with ⟨hSealed, hCheck, hDisk⟩
      rw [← hStore, hDisk] at hWrite
      have hHolds : (d.app.phase t).Holds := by simp [hPhase]
      exact hOn (h.silent hCoherent rfl rfl (Or.inr hHolds)
        (hBusy hHolds) ⟨hSealed, hCheck, io, hWrite⟩
        (by simp [hPhase]))
  | @copyFails t record disk e io hPhase hWrite =>
      rcases h.underway_at hPhase with
        ⟨hSealed, hCheck, io', hJournal⟩
      rw [← hStore] at hWrite
      have hHolds : (d.app.phase t).Holds := by simp [hPhase]
      rcases exists_append_of_copied hCheck hJournal hWrite
        with ⟨both, hAppend⟩
      exact hOn (h.silent hCoherent rfl rfl (Or.inr hHolds)
        (hBusy hHolds) ⟨record, both, hSealed, hAppend⟩
        (by simp [hPhase]))
  | @copy t record disk io hPhase hWrite =>
      rcases h.underway_at hPhase with
        ⟨hSealed, hCheck, io', hJournal⟩
      rw [← hStore] at hWrite
      have hHolds : (d.app.phase t).Holds := by simp [hPhase]
      rcases exists_append_of_copied hCheck hJournal hWrite
        with ⟨both, hAppend⟩
      exact hOn (h.silent hCoherent rfl rfl (Or.inr hHolds)
        (hBusy hHolds) ⟨hSealed, both, hAppend⟩
        (by simp [hPhase]))
  | @push t record hPhase hCapacity =>
      -- the record is seen from here on: this is the turn
      rcases h.underway_at hPhase with ⟨hSealed, io, hAppend⟩
      rcases exists_handle_of_sealResult hSealed
          record.notarizedAt io with
        ⟨env, hTurn⟩
      simp only [settled, hAppend] at hTurn
      exact ⟨_, _, h.turn hTurn hCoherent rfl
        (by rw [hStore]) (Or.inr (by simp [hPhase]))
        (fun _ => rfl) rfl (by simp [hPhase]) (by simp),
        .stored hPhase hSealed hAppend
          (by rw [hStore]; exact hCapacity)⟩
  | @respond t record hPhase =>
      have hUnderway := h.underway_at hPhase
      exact hOn (h.silent hCoherent rfl rfl (Or.inl rfl)
        (fun _ => hUnderway.symm) trivial (by simp [hPhase]))
  | @respondUnsealed t e now hPhase =>
      have hUnderway := h.underway_at hPhase
      rcases exists_handle_of_sealResult hUnderway.1 now .sound
        with ⟨env, hTurn⟩
      exact ⟨_, _, h.turn hTurn hCoherent rfl hStore.symm
        (Or.inl ⟨rfl, rfl⟩) (fun _ => hUnderway.2.symm)
        trivial (by simp [hPhase]) (by simp), .kept⟩
  | @respondFailed t e now hPhase =>
      rcases h.underway_at hPhase with ⟨record, io, hSealed, hAppend⟩
      rcases exists_handle_of_sealResult hSealed now io with
        ⟨env, hTurn⟩
      simp only [settled, hAppend] at hTurn
      exact ⟨_, _, h.turn hTurn hCoherent rfl hStore.symm
        (Or.inr (by simp [hPhase])) (fun _ => rfl) trivial
        (by simp [hPhase]) (by simp), .failed hPhase⟩
  | read hFree => exact hOn h

theorem step
    {d' : Traffic Request}
    (h : Linearizing C service posts first answers base d)
    (hStep : Traffic.Step C service posts d d') :
    ∃ more base',
      Linearizing C service posts first (answers ++ more) base'
          d' ∧
        Settles C service posts d base base' := by
  cases hStep with
  | handle hStep hSent => exact h.moved hStep hSent
  | read request hReads hFree =>
      exact ⟨_, _, h.read hReads, .kept⟩

/- The turns of a run go on with those of its rest. -/
theorem run
    {d' : Traffic Request}
    (h : Linearizing C service posts first answers base d)
    (hRun : Traffic.Run C service posts d d') :
    ∃ more base',
      Linearizing C service posts first (answers ++ more) base'
        d' := by
  induction hRun with
  | refl => exact ⟨[], base, by rw [List.append_nil]; exact h⟩
  | tail _ hStep ih =>
      rcases ih with ⟨more, base', hFront⟩
      rcases hFront.step hStep with
        ⟨last, base'', hLast, -⟩
      rw [List.append_assoc] at hLast
      exact ⟨_, _, hLast⟩

end Linearizing

end UnidppArchive

------------------------------------------------------------
-- Linearizability
------------------------------------------------------------

namespace UnidppArchive

variable {Request : Type} [DecidableEq Request]
variable {C : Crates}
variable {service : Service C}
variable {posts : Request → CreatePost}

omit [DecidableEq Request] in
theorem linearizing_start
    (first : ServerState) :
    Linearizing C service posts first [] first
      (Traffic.start first) where
  linear :=
    { ran := rfl
      store := rfl
      disk := fun _ => rfl
      answered := by
        intro t response
        constructor
        · rintro ⟨request, hMem⟩
          cases hMem
        · exact False.elim
      own := by
        intro t request hMem
        cases hMem
      once := List.nodup_nil
      reads := rfl }
  coherent :=
    ⟨[], AppSystem.coherent_start first.store first.disk⟩
  underway := fun _ => trivial

/-
  However handlers and reads interleave, there is an order of
  the same requests in which a server without concurrency
  answers each of them alike, and has the same records and,
  between two requests, the same disk.  What comes later in
  the run comes later in the order.
-/
theorem concurrent_traffic_is_sequential
    (first : ServerState)
    {d : Traffic Request}
    (hRun :
      Traffic.Run C service posts (Traffic.start first) d) :
    ∃ answers base,
      Linear C service posts first answers base d ∧
        ∀ d', Traffic.Run C service posts d d' →
          ∃ more base',
            Linear C service posts first (answers ++ more)
              base' d' := by
  rcases (linearizing_start first).run hRun with
    ⟨answers, base, hLinear⟩
  rw [List.nil_append] at hLinear
  refine ⟨answers, base, hLinear.linear, ?_⟩
  intro d' hRest
  rcases hLinear.run hRest with ⟨more, base', hNext⟩
  exact ⟨more, base', hNext.linear⟩

end UnidppArchive

namespace UnidppArchive

namespace Reference

/- The count of snapshots, asked for at any time. -/
def countRead : ApiRequest :=
  ⟨none, .healthz now now⟩

/- The sample server on a fresh journal and directory. -/
def filedServer : ServerState :=
  ⟨emptyFiled, diskOf (some [])⟩

/- A post on its way: its line is written, then it is stored. -/
theorem exists_posting :
    ∃ (r : SnapshotRecord) (d d' : Traffic Unit),
      ingestRecord crates service.notary emptyFiled.size now
            request
            (anchorDraft crates service createEnv.transport
              (draftRecord emptyFiled.size now request)) =
          .ok r ∧
        Traffic.SoundRun crates service (fun _ => createPost)
          (Traffic.start filedServer) d ∧
        d.app.phase () = .journaled r ∧
        d.app.store = emptyFiled ∧
        Traffic.SoundRun crates service (fun _ => createPost)
          (Traffic.start filedServer) d' ∧
        d'.app.phase () = .appended r ∧
        d'.app.store = emptyFiled.push r ∧
        d'.app.storeLock = none ∧ d'.reads = [] := by
  have hBusy {s s' : AppSystem Unit}
      (h : s.phase () ≠ .idle) :
      Sent crates service (fun _ => createPost) s s' :=
    fun _ hIdle => absurd hIdle h
  have hSound {d : Traffic Unit} {p : Phase}
      (hPhase : d.app.phase () = p)
      (hNot : ∀ e, p ≠ .appendFailed e) : d.Sound := by
    intro t e hFailed
    exact hNot e (hPhase.symm.trans hFailed)
  have hSent :
      Sent crates service (fun _ => createPost)
        (AppSystem.start emptyFiled (diskOf (some [])))
        ((AppSystem.start emptyFiled
          (diskOf (some []))).setPhase ()
            (.waiting request)) := by
    intro t _
    constructor
    · intro req hReq
      rw [AppSystem.phase_setPhase] at hReq
      cases hReq
      exact ⟨now, acceptPost_createPost⟩
    · intro response hResponse
      rw [AppSystem.phase_setPhase] at hResponse
      cases hResponse
  rcases exists_record emptyFiled.size request
      (anchorDraft crates service createEnv.transport
        (draftRecord emptyFiled.size now request)) with
    ⟨r, hRecord⟩
  have hCheck : emptyFiled.checkRecord crates r = .ok () :=
    SnapshotStore.checkRecord_eq_ok_iff.mpr
      (admits_ingestRecord hRecord rfl)
  have hCapacity : emptyFiled.records.length < maxRecords := by
    decide
  have hAdmitted :
      Traffic.SoundRun crates service (fun _ => createPost)
        (Traffic.start filedServer) _ :=
    .single
      ⟨.handle (.accept (t := ()) rfl acceptPost_createPost)
        hSent, hSound rfl nofun⟩
  have hLocked :=
    hAdmitted.tail
      ⟨.handle (.lock (t := ()) rfl rfl) (hBusy nofun),
        hSound rfl nofun⟩
  have hReserved :=
    hLocked.tail
      ⟨.handle (.reserve (t := ()) now rfl rfl) (hBusy nofun),
        hSound rfl nofun⟩
  have hNoted :=
    hReserved.tail
      ⟨.handle
        (.note (t := ()) createEnv.transport rfl hRecord)
        (hBusy nofun), hSound rfl nofun⟩
  have hChecked :=
    hNoted.tail
      ⟨.handle (.check (t := ()) rfl rfl hCheck) (hBusy nofun),
        hSound rfl nofun⟩
  have hJournaled :=
    hChecked.tail
      ⟨.handle (.journal (t := ()) .sound rfl rfl)
        (hBusy nofun), hSound rfl nofun⟩
  have hCopied :=
    hJournaled.tail
      ⟨.handle (.copy (t := ()) .sound rfl rfl) (hBusy nofun),
        hSound rfl nofun⟩
  have hPushed :=
    hCopied.tail
      ⟨.handle (.push (t := ()) rfl hCapacity) (hBusy nofun),
        hSound rfl nofun⟩
  exact ⟨r, _, _, hRecord, hJournaled, rfl, rfl, hPushed, rfl,
    rfl, rfl, rfl⟩

/- A snapshot that is counted before it is acknowledged. -/
theorem exists_early_read :
    ∃ (r : SnapshotRecord) (d : Traffic Unit),
      Traffic.Run crates service (fun _ => createPost)
          (Traffic.start filedServer) d ∧
        d.app.phase () = .appended r ∧
        d.reads =
          [(countRead,
            healthz crates service (emptyFiled.push r) now
              now)] := by
  rcases exists_posting with
    ⟨r, -, d, -, -, -, -, hSound, hPhase, hStore, hFree,
      hReads⟩
  have hRun :
      Traffic.Run crates service (fun _ => createPost)
        (Traffic.start filedServer) d :=
    Relation.ReflTransGen.mono (fun _ _ h => h.1) _ _ hSound
  refine ⟨r, _,
    hRun.tail (.read countRead (fun _ _ => nofun) hFree),
    hPhase, ?_⟩
  rw [hReads, hStore]
  rfl

end Reference

open Reference in
/- In the order, the snapshot comes before the read. -/
theorem concurrent_traffic_is_sequential_sample :
    ∃ (r : SnapshotRecord) (d : Traffic Unit)
        (answers :
          List (Turn Unit × Response))
        (base : ServerState),
      d.app.phase () = .appended r ∧
        Linear crates service (fun _ => createPost)
          ⟨emptyFiled, diskOf (some [])⟩ answers base d ∧
        ∃ request,
          ((some (), request), createdResponse crates r) ∈
            answers := by
  rcases exists_early_read with ⟨r, d, hRun, hPhase, -⟩
  rcases concurrent_traffic_is_sequential
      ⟨emptyFiled, diskOf (some [])⟩ hRun with
    ⟨answers, base, hLinear, -⟩
  refine ⟨r, d, answers, base, hPhase, hLinear, ?_⟩
  apply (hLinear.answered () _).mpr
  rw [hPhase]
  rfl

end UnidppArchive
