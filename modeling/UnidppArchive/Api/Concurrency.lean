import UnidppArchive.Api.Service
import UnidppArchive.Foundations.Mutex
import Mathlib.Logic.Relation

/-
  Concurrent ingest (`api.rs`).

  Handlers run in parallel and interleave between any two
  of their steps.  The mutation lock is held from before the
  reservation to the response, across the anchoring hop; the
  store lock is held for a reservation and for the writes of
  an append.  A handler whose client is gone is dropped where
  it awaits, and gives its lock back.

  Key definitions include:
    * `Phase`
    * `AppSystem`
    * `AppSystem.Step`
    * `AppSystem.Run`

  Key theorems include:
    * `AppSystem.run_appendSnapshot`
    * `AppSystem.run_createSnapshot`
-/

------------------------------------------------------------
-- Handlers and Their Steps
------------------------------------------------------------

namespace UnidppArchive

open Json

/- Where the handler of one request stands. -/
inductive Phase where
  | idle
  | waiting (req : CreateRequest)
  | locked (req : CreateRequest)
  | anchoring
      (req : CreateRequest)
      (seq : UInt64)
      (notarizedAt : Timestamp)
  | noted (record : SnapshotRecord)
  | checked (record : SnapshotRecord)
  | journaled (record : SnapshotRecord)
  | copied (record : SnapshotRecord)
  | appended (record : SnapshotRecord)
  | unsealed (e : String)
  | appendFailed (e : StoreError)
  | responded (response : Response)
  | dropped

namespace Phase

/- The handler holds the guard of the mutation lock. -/
def Holds :
    Phase → Prop
| .locked _ | .anchoring _ _ _ | .noted _ | .checked _
| .journaled _ | .copied _ | .appended _ | .unsealed _
| .appendFailed _ => True
| .idle | .waiting _ | .responded _ | .dropped => False

/- The handler is inside an append. -/
def InStore :
    Phase → Prop
| .checked _ | .journaled _ | .copied _ => True
| _ => False

end Phase

/-
  The shared state, the handlers by request, and the records
  that were acknowledged so far, in that order.
-/
structure AppSystem
    (Request : Type) where
  store : SnapshotStore
  disk : Disk
  mutations : Option Request
  storeLock : Option Request
  phase : Request → Phase
  acked : List (Request × SnapshotRecord)

namespace AppSystem

variable {Request : Type} [DecidableEq Request]

/- A handler moves on. -/
def setPhase
    (s : AppSystem Request)
    (t : Request)
    (phase : Phase) : AppSystem Request :=
  { s with phase := Function.update s.phase t phase }

variable (C : Crates)
variable (service : Service C)

/- One step of one handler, or a read. -/
inductive Step :
    AppSystem Request → AppSystem Request → Prop where
  | refuse
      {s : AppSystem Request}
      {t : Request}
      {now : Timestamp}
      {post : CreatePost}
      {deny : Response}
      (hPhase : s.phase t = .idle)
      (hAccept : acceptPost C service now post = .error deny) :
      Step s (s.setPhase t (.responded deny))
  | accept
      {s : AppSystem Request}
      {t : Request}
      {now : Timestamp}
      {post : CreatePost}
      {req : CreateRequest}
      (hPhase : s.phase t = .idle)
      (hAccept : acceptPost C service now post = .ok req) :
      Step s (s.setPhase t (.waiting req))
  | dropWaiting
      {s : AppSystem Request}
      {t : Request}
      {req : CreateRequest}
      (hPhase : s.phase t = .waiting req) :
      Step s (s.setPhase t .dropped)
  | lock
      {s : AppSystem Request}
      {t : Request}
      {req : CreateRequest}
      (hPhase : s.phase t = .waiting req)
      (hFree : s.mutations = none) :
      Step s
        { s.setPhase t (.locked req) with mutations := some t }
  | reserve
      {s : AppSystem Request}
      {t : Request}
      {req : CreateRequest}
      (now : Timestamp)
      (hPhase : s.phase t = .locked req)
      (hFree : s.storeLock = none) :
      Step s
        (s.setPhase t
          (.anchoring req (s.store.reserve now).1
            (s.store.reserve now).2))
  | dropAnchoring
      {s : AppSystem Request}
      {t : Request}
      {req : CreateRequest}
      {seq : UInt64}
      {notarizedAt : Timestamp}
      (hPhase : s.phase t = .anchoring req seq notarizedAt) :
      Step s
        { s.setPhase t .dropped with mutations := none }
  | sealFails
      {s : AppSystem Request}
      {t : Request}
      {req : CreateRequest}
      {seq : UInt64}
      {notarizedAt : Timestamp}
      {e : String}
      (transport : AnchorPost → Except String HttpResponse)
      (hPhase : s.phase t = .anchoring req seq notarizedAt)
      (hRecord :
        ingestRecord C service.notary seq notarizedAt req
            (anchorDraft C service transport
              (draftRecord seq notarizedAt req)) = .error e) :
      Step s (s.setPhase t (.unsealed e))
  | note
      {s : AppSystem Request}
      {t : Request}
      {req : CreateRequest}
      {seq : UInt64}
      {notarizedAt : Timestamp}
      {record : SnapshotRecord}
      (transport : AnchorPost → Except String HttpResponse)
      (hPhase : s.phase t = .anchoring req seq notarizedAt)
      (hRecord :
        ingestRecord C service.notary seq notarizedAt req
            (anchorDraft C service transport
              (draftRecord seq notarizedAt req)) =
          .ok record) :
      Step s (s.setPhase t (.noted record))
  | checkFails
      {s : AppSystem Request}
      {t : Request}
      {record : SnapshotRecord}
      {e : StoreError}
      (hPhase : s.phase t = .noted record)
      (hFree : s.storeLock = none)
      (hCheck : s.store.checkRecord C record = .error e) :
      Step s (s.setPhase t (.appendFailed e))
  | check
      {s : AppSystem Request}
      {t : Request}
      {record : SnapshotRecord}
      (hPhase : s.phase t = .noted record)
      (hFree : s.storeLock = none)
      (hCheck : s.store.checkRecord C record = .ok ()) :
      Step s
        { s.setPhase t (.checked record) with
          storeLock := some t }
  | journalFails
      {s : AppSystem Request}
      {t : Request}
      {record : SnapshotRecord}
      {disk : Disk}
      {e : StoreError}
      (io : AppendIo)
      (hPhase : s.phase t = .checked record)
      (hWrite :
        s.store.writeJournal C io record s.disk =
          (.error e, disk)) :
      Step s
        { s.setPhase t (.appendFailed e) with
          disk := disk
          storeLock := none }
  | journal
      {s : AppSystem Request}
      {t : Request}
      {record : SnapshotRecord}
      {disk : Disk}
      (io : AppendIo)
      (hPhase : s.phase t = .checked record)
      (hWrite :
        s.store.writeJournal C io record s.disk =
          (.ok (), disk)) :
      Step s
        { s.setPhase t (.journaled record) with disk := disk }
  | copyFails
      {s : AppSystem Request}
      {t : Request}
      {record : SnapshotRecord}
      {disk : Disk}
      {e : StoreError}
      (io : AppendIo)
      (hPhase : s.phase t = .journaled record)
      (hWrite :
        s.store.writeSnapshotFile C io record s.disk =
          (.error e, disk)) :
      Step s
        { s.setPhase t (.appendFailed e) with
          disk := disk
          storeLock := none }
  | copy
      {s : AppSystem Request}
      {t : Request}
      {record : SnapshotRecord}
      {disk : Disk}
      (io : AppendIo)
      (hPhase : s.phase t = .journaled record)
      (hWrite :
        s.store.writeSnapshotFile C io record s.disk =
          (.ok (), disk)) :
      Step s
        { s.setPhase t (.copied record) with disk := disk }
  | push
      {s : AppSystem Request}
      {t : Request}
      {record : SnapshotRecord}
      (hPhase : s.phase t = .copied record)
      (hCapacity : s.store.records.length < maxRecords) :
      Step s
        { s.setPhase t (.appended record) with
          store := s.store.push record
          storeLock := none }
  | respond
      {s : AppSystem Request}
      {t : Request}
      {record : SnapshotRecord}
      (hPhase : s.phase t = .appended record) :
      Step s
        { s.setPhase t
            (.responded (createdResponse C record)) with
          mutations := none
          acked := s.acked ++ [(t, record)] }
  | respondUnsealed
      {s : AppSystem Request}
      {t : Request}
      {e : String}
      (now : Timestamp)
      (hPhase : s.phase t = .unsealed e) :
      Step s
        { s.setPhase t
            (.responded (errorResponse C now 500
              s!"notarization failed: {e}")) with
          mutations := none }
  | respondFailed
      {s : AppSystem Request}
      {t : Request}
      {e : StoreError}
      (now : Timestamp)
      (hPhase : s.phase t = .appendFailed e) :
      Step s
        { s.setPhase t (.responded (storeError C now e)) with
          mutations := none }
  | read
      {s : AppSystem Request}
      (hFree : s.storeLock = none) :
      Step s s

/- Any number of steps of any handlers. -/
def Run :
    AppSystem Request → AppSystem Request → Prop :=
  Relation.ReflTransGen (Step C service)

/- Before the first request. -/
def start
    (store : SnapshotStore)
    (disk : Disk) : AppSystem Request :=
  ⟨store, disk, none, none, fun _ => .idle, []⟩

end AppSystem

end UnidppArchive

------------------------------------------------------------
-- A Handler Without Others Beside It
------------------------------------------------------------

namespace UnidppArchive

namespace AppSystem

variable {Request : Type} [DecidableEq Request]
variable {C : Crates}
variable {service : Service C}
variable {s : AppSystem Request}
variable {t : Request}

@[simp] theorem phase_setPhase
    (s : AppSystem Request)
    (t : Request)
    (p : Phase) :
    (s.setPhase t p).phase t = p := by
  simp [setPhase]

/- Where a handler stands after its append. -/
def appendOutcome
    (record : SnapshotRecord) :
    Except StoreError Unit → Phase
| .ok () => .appended record
| .error e => .appendFailed e

/- The index after its append. -/
def indexOutcome
    (store : SnapshotStore)
    (record : SnapshotRecord) :
    Except StoreError Unit → SnapshotStore
| .ok () => store.push record
| .error _ => store

/- The archival copy, and the index when it is written. -/
theorem run_copy
    {record : SnapshotRecord}
    {io : AppendIo}
    {result : Except StoreError Unit}
    {disk : Disk}
    (hPhase : s.phase t = .journaled record)
    (hCapacity : s.store.records.length < maxRecords)
    (hCopy :
      s.store.writeSnapshotFile C io record s.disk =
        (result, disk)) :
    Run C service s
      { s.setPhase t (appendOutcome record result) with
        store := indexOutcome s.store record result
        disk := disk
        storeLock := none } := by
  cases result with
  | error e => exact .single (.copyFails io hPhase hCopy)
  | ok u =>
      have hCopied : Run C service s _ :=
        .single (.copy io hPhase hCopy)
      have hRun : Run C service s _ :=
        hCopied.tail (.push (phase_setPhase _ t _) hCapacity)
      simpa [setPhase, appendOutcome, indexOutcome] using hRun

/- The steps of an append, taken in a row, are the append. -/
theorem run_appendSnapshot
    {record : SnapshotRecord}
    {io : AppendIo}
    {result : Except StoreError Unit}
    {store : SnapshotStore}
    {disk : Disk}
    (hPhase : s.phase t = .noted record)
    (hFree : s.storeLock = none)
    (hCapacity : s.store.records.length < maxRecords)
    (hAppend :
      s.store.appendSnapshot C io record s.disk =
        (result, store, disk)) :
    Run C service s
      { s.setPhase t (appendOutcome record result) with
        store := store
        disk := disk } := by
  unfold SnapshotStore.appendSnapshot at hAppend
  cases hCheck : s.store.checkRecord C record with
  | error e =>
      simp only [hCheck, Prod.mk.injEq] at hAppend
      rcases hAppend with ⟨rfl, rfl, rfl⟩
      exact .single (.checkFails hPhase hFree hCheck)
  | ok u =>
      have hChecked : Run C service s _ :=
        .single (.check hPhase hFree hCheck)
      cases hJournal :
          s.store.writeJournal C io record s.disk with
      | mk written disk₁ =>
          cases written with
          | error e =>
              simp only [hCheck, hJournal, Prod.mk.injEq]
                at hAppend
              rcases hAppend with ⟨rfl, rfl, rfl⟩
              have hRun : Run C service s _ :=
                hChecked.tail
                  (.journalFails io (phase_setPhase s t _)
                    hJournal)
              simpa [setPhase, appendOutcome, hFree] using hRun
          | ok u =>
              have hJournaled : Run C service s _ :=
                hChecked.tail
                  (.journal io (phase_setPhase s t _) hJournal)
              cases hCopy :
                  s.store.writeSnapshotFile C io record disk₁
                with
              | mk copied disk₂ =>
                  have hRun : Run C service s _ :=
                    hJournaled.trans
                      (run_copy (phase_setPhase _ t _)
                        hCapacity hCopy)
                  cases copied <;>
                    simp only [hCheck, hJournal, hCopy,
                      Prod.mk.injEq] at hAppend <;>
                    rcases hAppend with ⟨rfl, rfl, rfl⟩ <;>
                    simpa [setPhase, appendOutcome,
                      indexOutcome, hFree] using hRun

/- The steps from the mutation lock to the response. -/
theorem run_storeDraft
    {env : CreateEnv}
    {seq : UInt64}
    {notarizedAt : Timestamp}
    {req : CreateRequest}
    {response : Response}
    {store : SnapshotStore}
    {disk : Disk}
    (hPhase : s.phase t = .anchoring req seq notarizedAt)
    (hFree : s.storeLock = none)
    (hCapacity : s.store.records.length < maxRecords)
    (hStore :
      storeDraft C service env s.store seq notarizedAt req
        s.disk = (response, store, disk)) :
    ∃ acked,
      Run C service s
        { s.setPhase t (.responded response) with
          store := store
          disk := disk
          mutations := none
          acked := acked } := by
  unfold storeDraft at hStore
  cases hRecord :
      ingestRecord C service.notary seq notarizedAt req
        (anchorDraft C service env.transport
          (draftRecord seq notarizedAt req)) with
  | error e =>
      simp only [hRecord, Prod.mk.injEq] at hStore
      rcases hStore with ⟨rfl, rfl, rfl⟩
      have hRun₁ : Run C service s _ :=
        .single (.sealFails env.transport hPhase hRecord)
      have hRun : Run C service s _ :=
        hRun₁.tail
          (.respondUnsealed env.errorAt (phase_setPhase s t _))
      refine ⟨s.acked, ?_⟩
      simpa [setPhase] using hRun
  | ok record =>
      have hNoted : Run C service s _ :=
        .single (.note env.transport hPhase hRecord)
      cases hAppend :
          s.store.appendSnapshot C env.io record s.disk with
      | mk result rest =>
          have hAppended :
              Run C service (s.setPhase t (.noted record)) _ :=
            run_appendSnapshot (phase_setPhase s t _) hFree
              hCapacity hAppend
          have hRun₁ : Run C service s _ :=
            hNoted.trans hAppended
          cases result with
          | error e =>
              simp only [hRecord, hAppend, Prod.mk.injEq]
                at hStore
              rcases hStore with ⟨rfl, rfl, rfl⟩
              have hRun : Run C service s _ :=
                hRun₁.tail
                  (.respondFailed env.errorAt
                    (phase_setPhase _ t _))
              refine ⟨s.acked, ?_⟩
              simpa [setPhase] using hRun
          | ok u =>
              simp only [hRecord, hAppend, Prod.mk.injEq]
                at hStore
              rcases hStore with ⟨rfl, rfl, rfl⟩
              have hRun : Run C service s _ :=
                hRun₁.tail
                  (.respond (phase_setPhase _ t _))
              refine ⟨s.acked ++ [(t, record)], ?_⟩
              simpa [setPhase] using hRun

/- The steps from the wait for the lock to the response. -/
theorem run_waiting
    {env : CreateEnv}
    {req : CreateRequest}
    {response : Response}
    {store : SnapshotStore}
    {disk : Disk}
    (hPhase : s.phase t = .waiting req)
    (hMutations : s.mutations = none)
    (hFree : s.storeLock = none)
    (hCapacity : s.store.records.length < maxRecords)
    (hStore :
      storeDraft C service env s.store s.store.size env.now req
        s.disk = (response, store, disk)) :
    ∃ acked,
      Run C service s
        { s.setPhase t (.responded response) with
          store := store
          disk := disk
          acked := acked } := by
  have hLocked : Run C service s _ :=
    .single (.lock hPhase hMutations)
  have hReserved : Run C service s _ :=
    hLocked.tail
      (.reserve env.now (phase_setPhase _ t _) hFree)
  let s₁ : AppSystem Request :=
    { s.setPhase t
        (.anchoring req s.store.size env.now) with
      mutations := some t }
  have hState : Run C service s s₁ := by
    simpa [s₁, setPhase, SnapshotStore.reserve]
      using hReserved
  have hPhase₁ :
      s₁.phase t = .anchoring req s.store.size env.now :=
    phase_setPhase s t _
  rcases run_storeDraft hPhase₁ hFree hCapacity hStore with
    ⟨acked, hStored⟩
  have hRun : Run C service s _ := hState.trans hStored
  refine ⟨acked, ?_⟩
  simpa [s₁, setPhase, hMutations] using hRun

/- A request that runs alone is answered as if sequential. -/
theorem run_createSnapshot
    {env : CreateEnv}
    {post : CreatePost}
    {response : Response}
    {store : SnapshotStore}
    {disk : Disk}
    (hPhase : s.phase t = .idle)
    (hMutations : s.mutations = none)
    (hFree : s.storeLock = none)
    (hCapacity : s.store.records.length < maxRecords)
    (hCreate :
      createSnapshot C service env s.store post s.disk =
        (response, store, disk)) :
    ∃ acked,
      Run C service s
        { s.setPhase t (.responded response) with
          store := store
          disk := disk
          acked := acked } := by
  unfold createSnapshot at hCreate
  cases hAccept : acceptPost C service env.errorAt post with
  | error deny =>
      simp only [hAccept, Prod.mk.injEq] at hCreate
      rcases hCreate with ⟨rfl, rfl, rfl⟩
      exact ⟨s.acked, .single (.refuse hPhase hAccept)⟩
  | ok req =>
      simp only [hAccept] at hCreate
      have hAdmitted : Run C service s _ :=
        .single (.accept hPhase hAccept)
      have hWaiting :
          ∃ acked,
            Run C service (s.setPhase t (.waiting req)) _ :=
        run_waiting (phase_setPhase s t _) hMutations hFree
          hCapacity hCreate
      rcases hWaiting with ⟨acked, hAnswered⟩
      have hRun : Run C service s _ :=
        hAdmitted.trans hAnswered
      refine ⟨acked, ?_⟩
      simpa [setPhase] using hRun

end AppSystem

end UnidppArchive
