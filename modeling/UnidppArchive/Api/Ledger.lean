import UnidppArchive.Foundations.Ledger
import UnidppArchive.Api.Crashes
import UnidppArchive.Api.Views

/-
  The archive is a ledger (`main.rs`, `api.rs`, `store.rs`).

  What the service is for, without handlers, files and
  processes: records are published one after the other, and
  readers are shown some of them.  However the handlers
  interleave, and however often processes are killed, the
  service does what is done with one ledger, which takes
  exactly the records that are answered as created.

  Key definitions include:
    * `ApiRequest.act`
    * `Performs`
    * `NeverBack`
    * `Publishes`

  Key theorems include:
    * `exists_performs`
    * `archive_is_a_ledger`
    * `readers_never_go_back`
    * `acknowledged_stays_published`
-/

------------------------------------------------------------
-- What a Request Does
------------------------------------------------------------

namespace UnidppArchive

/- A server that has these records, and keeps no files. -/
def ofRecords
    (records : List SnapshotRecord) : ServerState :=
  ⟨⟨records, false, none⟩, ⟨none, fun _ => none⟩⟩

/- What a request that is no post does with the records. -/
def ApiRequest.act
    (C : Crates)
    (service : Service C)
    (request : ApiRequest) :
    Ledger.Act SnapshotRecord String :=
  match request.call with
  | .getSnapshot _ id => .look (Text.trim id)
  | .listSnapshots _ params =>
      match Api.parseAt params with
      | .error _ => .pass
      | .ok at? =>
          .select fun r =>
            (at?.all fun t =>
              decide (r.notarizedAt.secs ≤ t.secs)) &&
              (Api.optQuery params "passport_id").all
                fun p => r.passportId == p
  | .healthz _ _ => .select fun _ => true
  | .adminLog now _ =>
      match requireAdmin C service now request.authorization
        with
      | some _ => .pass
      | none => .select fun _ => true
  | .createSnapshot _ _ | .unreadablePost _ | .other _ => .pass

/-
  The response to a request is what the ledger did.  A record
  that is published is the sealed one of its post, and is what
  a post is told; who posts in vain is not told of one; and
  who reads is answered from what is shown, and nothing else.
-/
inductive Performs
    (C : Crates)
    (service : Service C)
    (request : ApiRequest) :
    Response → Ledger.Act SnapshotRecord String →
      List SnapshotRecord → Prop where
  | entered
      {env : CreateEnv}
      {body : String}
      {req : CreateRequest}
      {r : SnapshotRecord}
      (hCall : request.call = .createSnapshot env body)
      (hAccept :
        acceptPost C service env.errorAt
            ⟨request.authorization, body⟩ =
          .ok req)
      (hRecord :
        ingestRecord C service.notary r.seq env.now req
            (anchorDraft C service env.transport
              (draftRecord r.seq env.now req)) =
          .ok r) :
      Performs C service request (createdResponse C r)
        (.publish r) [r]
  | refused
      {env : CreateEnv}
      {body : String}
      {response : Response}
      (hCall : request.call = .createSnapshot env body)
      (hStatus : response.status ≠ 201) :
      Performs C service request response .pass []
  | shown
      (hReads : request.Reads)
      (records : List SnapshotRecord) :
      Performs C service request
        (handle C service (ofRecords records) request).1
        (request.act C service) records

/- The archive as a ledger of records under their ids. -/
abbrev publish :
    List SnapshotRecord → Ledger.Act SnapshotRecord String →
      List SnapshotRecord × List SnapshotRecord :=
  Ledger.step SnapshotRecord.snapshotId

end UnidppArchive

------------------------------------------------------------
-- One Request
------------------------------------------------------------

namespace UnidppArchive

variable {C : Crates}
variable {service : Service C}
variable {s : ServerState}
variable {request : ApiRequest}
variable {response : Response}
variable {act : Ledger.Act SnapshotRecord String}
variable {rs : List SnapshotRecord}

/- What is found among the records is found in what is shown. -/
theorem get_of_look
    (store : SnapshotStore)
    (id : String) :
    (ofRecords
        (publish store.records (.look id)).1).store.get id =
      store.get id := by
  unfold publish Ledger.step ofRecords SnapshotStore.get
  simp only
  cases hFound :
      store.records.find? (·.snapshotId == id) with
  | none => rfl
  | some r =>
      have hName := List.find?_some hFound
      simp only [Option.toList_some, List.find?_singleton,
        hName, if_true]

theorem list_of_select
    (store : SnapshotStore)
    (passportId : Option String)
    (at? : Option Timestamp) :
    (ofRecords
        (publish store.records
          (.select fun r =>
            (at?.all fun t =>
              decide (r.notarizedAt.secs ≤ t.secs)) &&
              passportId.all fun p => r.passportId == p)).1
      ).store.list passportId at? =
      store.list passportId at? := by
  unfold publish Ledger.step ofRecords SnapshotStore.list
  simp only
  rw [List.filter_filter, List.filter_filter,
    List.filter_filter]
  simp only [Bool.and_self]

/- A read is answered from what it is shown. -/
theorem handle_of_shown
    (hReads : request.Reads) :
    (handle C service
        (ofRecords
          (publish s.store.records
            (request.act C service)).1)
        request).1 =
      (handle C service s request).1 := by
  rcases request with ⟨authorization, call⟩
  cases call with
  | createSnapshot env body => exact absurd rfl (hReads env body)
  | unreadablePost answer => rfl
  | other answer => rfl
  | getSnapshot now id =>
      have hGet := get_of_look s.store (Text.trim id)
      simp only [handle, getSnapshot, ApiRequest.act]
      rw [hGet]
  | listSnapshots now params =>
      simp only [handle, listSnapshots, ApiRequest.act]
      cases Api.parseAt params with
      | error e => rfl
      | ok at? =>
          simp only
          rw [list_of_select]
  | healthz shownAt stampedAt =>
      simp [handle, healthz, ApiRequest.act, publish,
        Ledger.step, ofRecords, SnapshotStore.size]
  | adminLog now params =>
      simp only [handle, adminLog, ApiRequest.act]
      cases requireAdmin C service now authorization with
      | some deny => rfl
      | none =>
          simp [publish, Ledger.step, ofRecords,
            SnapshotStore.auditJson, SnapshotStore.size]

/- A post that is not answered as created leaves the store. -/
theorem store_of_refused
    {env : CreateEnv}
    {post : CreatePost}
    {store store' : SnapshotStore}
    {disk disk' : Disk}
    (h :
      createSnapshot C service env store post disk =
        (response, store', disk'))
    (hStatus : response.status ≠ 201) :
    store' = store := by
  unfold createSnapshot at h
  cases hAccept : acceptPost C service env.errorAt post with
  | error deny =>
      rw [hAccept] at h
      cases h
      rfl
  | ok req =>
      rw [hAccept] at h
      simp only [storeDraft, SnapshotStore.reserve] at h
      generalize ingestRecord C service.notary store.size
        env.now req _ = sealed at h
      cases sealed with
      | error e =>
          cases h
          rfl
      | ok r =>
          simp only at h
          rcases hAppend :
              store.appendSnapshot C env.io r disk with
            ⟨e | u, store₁, disk₁⟩
          · rw [hAppend] at h
            cases h
            exact SnapshotStore.appendSnapshot_error hAppend
          · rw [hAppend] at h
            cases h
            exact absurd rfl hStatus

theorem reads_getSnapshot
    (authorization : Option String)
    (now : Timestamp)
    (id : String) :
    ApiRequest.Reads ⟨authorization, .getSnapshot now id⟩ := by
  intro env body hCall
  cases hCall

theorem reads_listSnapshots
    (authorization : Option String)
    (now : Timestamp)
    (params : String → Option String) :
    ApiRequest.Reads
      ⟨authorization, .listSnapshots now params⟩ := by
  intro env body hCall
  cases hCall

/- Only a post publishes. -/
theorem reads_act
    (C : Crates)
    (service : Service C)
    (request : ApiRequest) :
    (request.act C service).Reads := by
  rcases request with ⟨authorization, call⟩
  unfold ApiRequest.act
  cases call with
  | listSnapshots now params =>
      simp only
      cases Api.parseAt params <;> trivial
  | adminLog now params =>
      simp only
      cases requireAdmin C service now authorization <;>
        trivial
  | _ => trivial

/- A post that is told of a record has published it. -/
theorem Performs.exists_published
    (h : Performs C service request response act rs)
    (hPost : ¬ request.Reads)
    (hStatus : response.status = 201) :
    ∃ r, act = .publish r ∧ response = createdResponse C r := by
  cases h with
  | @entered env body req r => exact ⟨r, rfl, rfl⟩
  | refused _ hNot => exact absurd hStatus hNot
  | shown hReads => exact absurd hReads hPost

theorem Performs.eq_of_reads
    (h : Performs C service request response act rs)
    (hReads : request.Reads) :
    act = request.act C service ∧
      response =
        (handle C service (ofRecords rs) request).1 := by
  cases h with
  | entered hCall => exact absurd hCall (hReads _ _)
  | refused hCall => exact absurd hCall (hReads _ _)
  | shown => exact ⟨rfl, rfl⟩

/- The server does what is done with the ledger. -/
theorem exists_performs
    (C : Crates)
    (service : Service C)
    (s : ServerState)
    (request : ApiRequest) :
    ∃ act,
      Performs C service request
          (handle C service s request).1 act
          (publish s.store.records act).1 ∧
        (handle C service s request).2.store.records =
          (publish s.store.records act).2 := by
  by_cases hReads : request.Reads
  · refine ⟨request.act C service, ?_, ?_⟩
    · rw [← handle_of_shown hReads]
      exact .shown hReads _
    · rw [handle_of_reads hReads s.store s.disk s.disk]
      exact (Ledger.entries_of_reads
        (reads_act C service request)).symm
  · simp only [ApiRequest.Reads, not_forall, not_not]
      at hReads
    rcases request with ⟨authorization, call⟩
    rcases hReads with ⟨env, body, rfl⟩
    rcases hCreate :
        createSnapshot C service env s.store
          ⟨authorization, body⟩ s.disk with
      ⟨response, store, disk⟩
    rw [handle_of_createSnapshot hCreate]
    by_cases hStatus : response.status = 201
    · rcases createSnapshot_eq_created_iff.mp
          ⟨hCreate, hStatus⟩ with
        ⟨req, r, hAccept, hRecord, hAppend, rfl⟩
      have hStore : store = s.store.push r :=
        (SnapshotStore.appendSnapshot_eq_ok_iff.mp
          hAppend).2.2.2.1
      have hSeq := (fields_ingestRecord hRecord).1
      rw [← hSeq] at hRecord
      exact ⟨.publish r, .entered rfl hAccept hRecord,
        congrArg SnapshotStore.records hStore⟩
    · exact ⟨.pass, .refused rfl hStatus,
        congrArg SnapshotStore.records
          (store_of_refused hCreate hStatus)⟩

end UnidppArchive

------------------------------------------------------------
-- All Processes
------------------------------------------------------------

namespace UnidppArchive

variable {Request : Type} [DecidableEq Request]
variable {C : Crates}
variable {service : Service C}
variable {paths : StorePaths}
variable {first s : ServerState}
variable {eras : List (Era Request)}
variable {disk : Disk}

omit [DecidableEq Request] in
/- One server that takes turns does what a ledger does. -/
theorem exists_ledger_run
    (C : Crates)
    (service : Service C)
    {entries : List SnapshotRecord}
    (hFirst : first.store.records = entries)
    (turns : List (Turn Request)) :
    ∃ acts,
      List.Forall₂
          (fun a b => Performs C service a.1.2 a.2 b.1 b.2)
          (Machine.run (takeTurn C service) first turns).1
          (Machine.run publish entries acts).1 ∧
        (Machine.run (takeTurn C service) first
            turns).2.store.records =
          (Machine.run publish entries acts).2 := by
  have hStep (u : ServerState)
      (rs : List SnapshotRecord)
      (turn : Turn Request)
      (hSame : u.store.records = rs) :
      ∃ act,
        Performs C service turn.2 (takeTurn C service u turn).1
            act (publish rs act).1 ∧
          (takeTurn C service u turn).2.store.records =
            (publish rs act).2 := by
    rw [← hSame]
    exact exists_performs C service u turn.2
  exact Machine.exists_run_matched
    (S := fun (u : ServerState) rs => u.store.records = rs)
    (R := fun a b => Performs C service a.1.2 a.2 b.1 b.2)
    hStep turns hFirst

/- What all processes answered is done with one ledger. -/
theorem Lives.exists_ledger
    (hSerde : C.serde.Lawful)
    (hJournal : paths.journal = true)
    (hFresh : disk.journal.getD [] = [])
    (hClear : ∀ path, disk.files path = none)
    (hOpen :
      SnapshotStore.openAt C .sound paths disk =
        (.ok first.store, first.disk))
    (h : Lives C service paths first eras s) :
    ∃ histories acts,
      List.Forall₂
          (fun era answers =>
            Accounts C era.posts era.last answers)
          eras histories ∧
        List.Forall₂
          (fun a b => Performs C service a.1.2 a.2 b.1 b.2)
          histories.flatten
          (Machine.run publish [] acts).1 ∧
        s.store.records = (Machine.run publish [] acts).2 ∧
        InSequence 0 s.store.records := by
  have hEmpty : first.store.records = [] := by
    rw [(records_of_openAt_fresh hJournal hFresh hOpen).1]
  have hCapacity :
      first.store.records.length ≤ maxRecords := by
    rw [hEmpty]
    exact Nat.zero_le _
  rcases h.sequential hSerde hJournal
      (recorded_start hJournal hFresh hOpen)
      (tidy_start hJournal hFresh hClear hOpen) hCapacity with
    ⟨hRecorded, -, hRoom, histories, hAccounts, hRan⟩
  rcases exists_ledger_run C service hEmpty
      (histories.flatten.map Prod.fst) with
    ⟨acts, hMatched, hLast⟩
  rw [hRan] at hMatched hLast
  exact ⟨histories, acts, hAccounts, hMatched, hLast,
    hRecorded.flow.inSequence hRoom⟩

/-
  However the handlers interleaved, and wherever processes
  were killed, one ledger does what they answered, and its
  entries are the records that the next process has, each
  under the identifier of its place.
-/
theorem archive_is_a_ledger
    (hSerde : C.serde.Lawful)
    (hJournal : paths.journal = true)
    (hFresh : disk.journal.getD [] = [])
    (hClear : ∀ path, disk.files path = none)
    (hOpen :
      SnapshotStore.openAt C .sound paths disk =
        (.ok first.store, first.disk))
    (hLives : Lives C service paths first eras s) :
    ∃ histories acts,
      List.Forall₂
          (fun era answers =>
            Accounts C era.posts era.last answers)
          eras histories ∧
        List.Forall₂
          (fun a b => Performs C service a.1.2 a.2 b.1 b.2)
          histories.flatten
          (Machine.run publish [] acts).1 ∧
        s.store.records = (Machine.run publish [] acts).2 ∧
        InSequence 0 s.store.records := by
  exact hLives.exists_ledger hSerde hJournal hFresh hClear hOpen

end UnidppArchive

namespace UnidppArchive

namespace Reference

/- What a client asks that wants the document of a record. -/
def documentRead
    (r : SnapshotRecord) : ApiRequest :=
  ⟨none, .getSnapshot now r.snapshotId⟩

/- The traffic, and one read after it. -/
def withRead
    (d : Traffic Unit)
    (request : ApiRequest) : Traffic Unit :=
  { d with
    reads := d.reads ++
      [(request,
        (handle crates service ⟨d.app.store, d.app.disk⟩
          request).1)] }

/-
  A process that is killed when it has told of a snapshot and
  served it, and one that serves it after that.
-/
theorem exists_two_lives :
    ∃ (r : SnapshotRecord) (era later : Era Unit)
        (s : ServerState) (a b : Response),
      Lives crates service journalAndFiles filedServer
          [era, later] s ∧
        era.last.app.phase () = .appended r ∧
        era.last.reads = [(documentRead r, a)] ∧
        a.status = 200 ∧
        later.last.reads = [(documentRead r, b)] := by
  rcases exists_posting with
    ⟨r, -, d, hRecord, -, -, -, hRun, hPhase, hStore, hFree,
      hReads⟩
  rcases anchorDraft_error createEnv.transport
      (draftRecord emptyFiled.size now request) with
    ⟨e, hError⟩
  have hDecodable : Decodable crates r :=
    decodable_of_error hRecord ⟨e, hError⟩
  have hBegun :
      Recorded crates service.notary journalAndFiles
        filedServer :=
    recorded_start rfl rfl open_filedServer
  have hTidy : Tidy journalAndFiles filedServer :=
    tidy_start rfl rfl (fun _ => rfl) open_filedServer
  rcases exists_recorded_base rfl hBegun hTidy hRun with
    ⟨answers, base, hLinear, hRecorded, -⟩
  have hBase : base.store = emptyFiled.push r :=
    hLinear.linear.store.trans hStore
  have hDisk : d.app.disk = base.disk :=
    hLinear.underway_at hPhase
  have hMem : ∀ q ∈ base.store.records, q = r := by
    intro q hq
    rw [hBase] at hq
    exact List.mem_singleton.mp hq
  have hReadable :
      ∀ q ∈ base.store.records, Decodable crates q := by
    intro q hq
    rw [hMem q hq]
    exact hDecodable
  have hRoom : base.store.records.length < maxRecords := by
    have hOne : 1 < maxRecords := by decide
    rw [hBase]
    exact hOne
  have hOpened := hRecorded.openAt lawful_serde rfl hReadable
  let era : Era Unit :=
    ⟨fun _ => createPost, withRead d (documentRead r)⟩
  let later : Era Unit :=
    ⟨fun _ => createPost,
      withRead (Traffic.start base) (documentRead r)⟩
  have hFirst : era.From crates service filedServer := by
    refine ⟨hRun.tail ⟨.read (documentRead r)
      (reads_getSnapshot _ _ _) hFree, hRun.sound⟩, ?_, ?_⟩
    · change d.app.store.records.length < maxRecords
      rw [← hLinear.linear.store]
      exact hRoom
    · intro q hq
      rcases hq with hOld | ⟨t, hLine | hCopy⟩
      · change q ∈ d.app.store.records at hOld
        rw [← hLinear.linear.store] at hOld
        exact hReadable q hOld
      · cases hPhase.symm.trans hLine
      · cases hPhase.symm.trans hCopy
  have hSecond : later.From crates service base := by
    refine ⟨.single ⟨.read (documentRead r)
      (reads_getSnapshot _ _ _) rfl,
      Traffic.sound_start base⟩, hRoom, ?_⟩
    intro q hq
    rcases hq with hOld | ⟨t, hLine | hCopy⟩
    · exact hReadable q hOld
    · cases hLine
    · cases hCopy
  have hKilled :
      Lives crates service journalAndFiles filedServer [era]
        base := by
    refine .killed .born hFirst ?_
    change SnapshotStore.openAt crates .sound journalAndFiles
      d.app.disk = _
    rw [hDisk]
    exact hOpened
  have hBoth :
      Lives crates service journalAndFiles filedServer
        [era, later] base :=
    .killed hKilled hSecond hOpened
  refine ⟨r, era, later, base,
    getSnapshot crates d.app.store now r.snapshotId, _, hBoth,
    hPhase, ?_, ?_, rfl⟩
  · exact congrArg (· ++ _) hReads
  · rw [← hLinear.linear.store, getSnapshot_of_mem
      (hRecorded.flow.inSequence (Nat.le_of_lt hRoom))
      (by rw [hBase]; simp [SnapshotStore.push])]
    rfl

end Reference

open Reference in
/- One ledger for two processes. -/
theorem archive_is_a_ledger_sample :
    ∃ (era later : Era Unit) (s : ServerState)
        (answers : List (Turn Unit × Response))
        (acts : List (Ledger.Act SnapshotRecord String)),
      Lives crates service journalAndFiles filedServer
          [era, later] s ∧
        List.Forall₂
          (fun a b =>
            Performs crates service a.1.2 a.2 b.1 b.2)
          answers (Machine.run publish [] acts).1 ∧
        s.store.records = (Machine.run publish [] acts).2 := by
  rcases exists_two_lives with
    ⟨r, era, later, s, a, b, hLives, -⟩
  rcases archive_is_a_ledger lawful_serde rfl rfl
      (fun _ => rfl) open_filedServer hLives with
    ⟨histories, acts, -, hPerforms, hRecords, -⟩
  exact ⟨era, later, s, histories.flatten, acts, hLives,
    hPerforms, hRecords⟩

end UnidppArchive

------------------------------------------------------------
-- Readers
------------------------------------------------------------

namespace UnidppArchive

/-
  Who asks again is answered no less: a document that was
  served is served alike, and a catalogue has the same rows
  first.
-/
structure NeverBack
    (C : Crates)
    (a b : ApiRequest × Response) : Prop where
  document :
    ∀ now now' id,
      a.1.call = .getSnapshot now id →
        b.1.call = .getSnapshot now' id →
          a.2.status = 200 → b.2 = a.2
  catalogue :
    ∀ now now' params,
      a.1.call = .listSnapshots now params →
        b.1.call = .listSnapshots now' params →
          a.2.status = 200 →
            ∃ rows more,
              a.2.Lists C rows ∧ b.2.Lists C (rows ++ more)

variable {C : Crates}
variable {service : Service C}
variable {store store' : SnapshotStore}

/- A document that is served is served with more records. -/
theorem getSnapshot_of_prefix
    {now now' : Timestamp}
    {id : String}
    (hPrefix : store.records <+: store'.records)
    (hStatus : (getSnapshot C store now id).status = 200) :
    getSnapshot C store' now' id =
      getSnapshot C store now id := by
  unfold getSnapshot at hStatus ⊢
  cases hFound : store.get (Text.trim id) with
  | none =>
      simp only [hFound] at hStatus
      cases hStatus
  | some r =>
      have hLater : store'.get (Text.trim id) = some r :=
        hPrefix.find?_eq_some hFound
      simp only [hFound, hLater]

/- A catalogue of more records has more rows. -/
theorem lists_of_prefix
    {now now' : Timestamp}
    {params : String → Option String}
    (hPrefix : store.records <+: store'.records)
    (hStatus :
      (listSnapshots C store now params).status = 200) :
    ∃ rows more,
      (listSnapshots C store now params).Lists C rows ∧
        (listSnapshots C store' now' params).Lists C
          (rows ++ more) := by
  rcases exists_parseAt hStatus with ⟨at?, hAt⟩
  rcases hPrefix with ⟨rs, hMore⟩
  have hSplit :
      store'.list (Api.optQuery params "passport_id") at? =
        store.list (Api.optQuery params "passport_id") at? ++
          (ofRecords rs).store.list
            (Api.optQuery params "passport_id") at? := by
    unfold SnapshotStore.list
    rw [← hMore, List.filter_append, List.filter_append]
    rfl
  refine ⟨_, ((ofRecords rs).store.list
    (Api.optQuery params "passport_id") at?).map
      (catalogueRow C), lists_of_parseAt hAt, ?_⟩
  rw [← List.map_append, ← hSplit]
  exact lists_of_parseAt hAt

/- A ledger that shows no less answers no less. -/
theorem neverBack_of_performs
    {request request' : ApiRequest}
    {response response' : Response}
    {act act' : Ledger.Act SnapshotRecord String}
    {rs rs' : List SnapshotRecord}
    (hBefore : Performs C service request response act rs)
    (hLater : Performs C service request' response' act' rs')
    (hShown : act = act' → act.Reads → rs <+: rs') :
    NeverBack C (request, response) (request', response') := by
  rcases request with ⟨authorization, call⟩
  rcases request' with ⟨authorization', call'⟩
  constructor
  · intro now now' id hCall hCall' hStatus
    subst hCall hCall'
    rcases hBefore.eq_of_reads (reads_getSnapshot _ _ _) with
      ⟨rfl, rfl⟩
    rcases hLater.eq_of_reads (reads_getSnapshot _ _ _) with
      ⟨rfl, rfl⟩
    have hPrefix : rs <+: rs' := hShown rfl trivial
    exact getSnapshot_of_prefix hPrefix hStatus
  · intro now now' params hCall hCall' hStatus
    subst hCall hCall'
    rcases hBefore.eq_of_reads (reads_listSnapshots _ _ _) with
      ⟨rfl, rfl⟩
    rcases hLater.eq_of_reads (reads_listSnapshots _ _ _) with
      ⟨rfl, rfl⟩
    have hPrefix : rs <+: rs' :=
      hShown rfl (reads_act C service _)
    exact lists_of_prefix hPrefix hStatus

end UnidppArchive

namespace UnidppArchive

variable {Request : Type} [DecidableEq Request]
variable {C : Crates}
variable {service : Service C}
variable {paths : StorePaths}
variable {first s : ServerState}
variable {eras : List (Era Request)}
variable {disk : Disk}

omit [DecidableEq Request] in
/- The reads of all processes are those of their turns. -/
theorem readsOf_flatten
    {histories : List (List (Turn Request × Response))}
    (h :
      List.Forall₂
        (fun era answers =>
          Accounts C era.posts era.last answers)
        eras histories) :
    readsOf histories.flatten =
      eras.flatMap (·.last.reads) := by
  induction h with
  | nil => rfl
  | cons hHead _ ih =>
      rw [List.flatten_cons, List.flatMap_cons, ← ih,
        ← hHead.reads]
      simp [readsOf]

/-
  In the order in which the processes, one after the other,
  answer their readers, nobody is answered less than before,
  whichever process answered then.
-/
theorem readers_never_go_back
    (hSerde : C.serde.Lawful)
    (hJournal : paths.journal = true)
    (hFresh : disk.journal.getD [] = [])
    (hClear : ∀ path, disk.files path = none)
    (hOpen :
      SnapshotStore.openAt C .sound paths disk =
        (.ok first.store, first.disk))
    (hLives : Lives C service paths first eras s) :
    List.Pairwise (NeverBack C)
      (eras.flatMap (·.last.reads)) := by
  rcases hLives.exists_ledger hSerde hJournal hFresh hClear
      hOpen with
    ⟨histories, acts, hAccounts, hMatched, -⟩
  have hTurns :
      List.Pairwise
        (fun a b => NeverBack C (a.1.2, a.2) (b.1.2, b.2))
        histories.flatten := by
    refine Machine.pairwise_of_matched ?_ hMatched
      (Ledger.pairwise_run _ [] acts)
    rintro a b done done' hBefore hLater
      ⟨before, later, hShown, hShown', hKept, -⟩
    refine neverBack_of_performs hBefore hLater ?_
    intro hSame hReads
    rw [hShown, hShown', ← hSame]
    exact Ledger.shown_prefix hReads
      ((Ledger.prefix_step done.1).trans hKept)
  rw [← readsOf_flatten hAccounts, readsOf, List.pairwise_map]
  exact hTurns.filter _

end UnidppArchive

namespace UnidppArchive

open Reference in
/- The next process answers as the killed one did. -/
theorem readers_never_go_back_sample :
    ∃ (r : SnapshotRecord) (era later : Era Unit)
        (a b : Response),
      era.last.reads = [(documentRead r, a)] ∧
        later.last.reads = [(documentRead r, b)] ∧
        a.status = 200 ∧ b = a := by
  rcases exists_two_lives with
    ⟨r, era, later, s, a, b, hLives, -, hReads, hStatus,
      hReads'⟩
  have hPairs :=
    readers_never_go_back lawful_serde rfl rfl (fun _ => rfl)
      open_filedServer hLives
  rw [List.flatMap_cons, List.flatMap_singleton, hReads,
    hReads'] at hPairs
  have hPair :=
    (List.pairwise_cons.mp hPairs).1 _
      (List.mem_singleton.mpr rfl)
  exact ⟨r, era, later, a, b, hReads, hReads', hStatus,
    hPair.document now now r.snapshotId rfl rfl hStatus⟩

end UnidppArchive

------------------------------------------------------------
-- Acknowledged Snapshots
------------------------------------------------------------

namespace UnidppArchive

/-
  A read after a post was told of its snapshot: the document
  is the one that was sent then, under the tag that was sent,
  and a catalogue of everything has its row.
-/
structure StillFound
    (C : Crates)
    (told : Response)
    (b : ApiRequest × Response) : Prop where
  document :
    ∀ now id,
      b.1.call = .getSnapshot now id →
        told.header? "x-snapshot-id" = some (Text.trim id) →
          b.2.status = 200 ∧ b.2.body = told.body ∧
            b.2.header? "etag" = told.header? "etag"
  catalogue :
    ∀ now params,
      b.1.call = .listSnapshots now params →
        Api.parseAt params = .ok none →
          Api.optQuery params "passport_id" = none →
            ∃ rows, b.2.Lists C rows ∧
              ∃ row ∈ rows,
                rowId row = told.header? "x-snapshot-id"

variable {C : Crates}
variable {service : Service C}
variable {request : ApiRequest}
variable {response : Response}
variable {act : Ledger.Act SnapshotRecord String}
variable {rs : List SnapshotRecord}

/- Whoever asks a ledger that has the record finds it. -/
theorem stillFound_of_performs
    {entries : List SnapshotRecord}
    {r : SnapshotRecord}
    (h : Performs C service request response act rs)
    (hShown : rs = (publish entries act).1)
    (hMem : r ∈ entries)
    (hAlone :
      ∀ q ∈ entries, q.snapshotId = r.snapshotId → q = r) :
    StillFound C (createdResponse C r) (request, response) := by
  rcases request with ⟨authorization, call⟩
  constructor
  · intro now id hCall hTold
    subst hCall
    rcases h.eq_of_reads (reads_getSnapshot _ _ _) with
      ⟨rfl, rfl⟩
    have hId : Text.trim id = r.snapshotId :=
      Option.some.inj (hTold.symm.trans
        (snapshotId_createdResponse C r))
    have hFound : rs = [r] := by
      rw [hShown]
      simp only [ApiRequest.act, hId]
      exact Ledger.found_of_mem hAlone hMem
    have hGet :
        (ofRecords rs).store.get (Text.trim id) = some r := by
      rw [hFound, hId]
      simp [ofRecords, SnapshotStore.get]
    simp only [handle, getSnapshot, hGet]
    exact ⟨rfl, rfl, rfl⟩
  · intro now params hCall hAt hAll
    subst hCall
    rcases h.eq_of_reads (reads_listSnapshots _ _ _) with
      ⟨rfl, rfl⟩
    have hEverything : r ∈ rs := by
      rw [hShown]
      simp only [ApiRequest.act, hAt, hAll]
      exact List.mem_filter.mpr ⟨hMem, rfl⟩
    refine ⟨_, lists_of_parseAt hAt, catalogueRow C r, ?_, ?_⟩
    · rw [hAll]
      exact List.mem_map.mpr ⟨r,
        List.mem_filter.mpr ⟨List.mem_filter.mpr
          ⟨hEverything, rfl⟩, rfl⟩, rfl⟩
    · rw [snapshotId_createdResponse]
      simp [rowId, catalogueRow, Json.Value.asStr?]

/- Records in sequence have an identifier alone. -/
theorem InSequence.eq_of_snapshotId
    {first : Nat}
    {records : List SnapshotRecord}
    {q r : SnapshotRecord}
    (h : InSequence first records)
    (hq : q ∈ records)
    (hr : r ∈ records)
    (hId : q.snapshotId = r.snapshotId) :
    q = r := by
  rcases List.getElem?_of_mem hq with ⟨i, hi⟩
  rcases List.getElem?_of_mem hr with ⟨j, hj⟩
  rw [(h.2 i q hi).2, (h.2 j r hj).2] at hId
  exact h.eq_of_seq hq hr (snapshotIdOf_injective hId)

variable {Request : Type} [DecidableEq Request]
variable {paths : StorePaths}
variable {first s : ServerState}
variable {eras : List (Era Request)}
variable {disk : Disk}

/-
  What a process acknowledged before it was killed is found
  by every reader of every process after it.
-/
theorem acknowledged_stays_published
    (hSerde : C.serde.Lawful)
    (hJournal : paths.journal = true)
    (hFresh : disk.journal.getD [] = [])
    (hClear : ∀ path, disk.files path = none)
    (hOpen :
      SnapshotStore.openAt C .sound paths disk =
        (.ok first.store, first.disk))
    (hLives : Lives C service paths first eras s) :
    List.Pairwise
      (fun era later : Era Request =>
        ∀ t response,
          (era.last.app.phase t).Answers C response →
            response.status = 201 →
              ∀ b ∈ later.last.reads, StillFound C response b)
      eras := by
  rcases hLives.exists_ledger hSerde hJournal hFresh hClear
      hOpen with
    ⟨histories, acts, hAccounts, hMatched, hLast, hSequence⟩
  rw [hLast] at hSequence
  have hTurns :
      List.Pairwise
        (fun a b =>
          ¬ a.1.2.Reads → a.2.status = 201 →
            StillFound C a.2 (b.1.2, b.2))
        histories.flatten := by
    refine Machine.pairwise_of_matched ?_ hMatched
      (Ledger.pairwise_run _ [] acts)
    rintro a b done done' hBefore hLater
      ⟨before, later, -, hShown', hKept, hAfter⟩ hPost hStatus
    rcases hBefore.exists_published hPost hStatus with
      ⟨r, hAct, hTold⟩
    rw [hAct] at hKept
    have hMem : r ∈ later :=
      hKept.subset (List.mem_append_right _ (by simp))
    rw [hTold]
    refine stillFound_of_performs hLater hShown' hMem ?_
    intro q hq hId
    exact hSequence.eq_of_snapshotId (hAfter.subset hq)
      (hAfter.subset hMem) hId
  refine Machine.pairwise_of_matched ?_ hAccounts
    (List.pairwise_flatten.mp hTurns).2
  intro era later answers answers' hEra hLater hOrder t response
    hAnswers hStatus b hb
  rcases hEra.answered t response hAnswers with
    ⟨request, hTurn⟩
  rcases hEra.own t request
      (List.mem_map.mpr ⟨_, hTurn, rfl⟩) with
    ⟨env, hRequest⟩
  rw [← hLater.reads, readsOf, List.mem_map] at hb
  rcases hb with ⟨turn, hIn, rfl⟩
  have hPost : ¬ request.Reads := by
    intro hReads
    rw [hRequest] at hReads
    exact hReads _ _ rfl
  exact hOrder _ hTurn turn (List.mem_filter.mp hIn).1 hPost
    hStatus

open Reference in
/- The next process serves what the killed one had stored. -/
theorem acknowledged_stays_published_sample :
    ∃ (r : SnapshotRecord) (era later : Era Unit)
        (b : ApiRequest × Response),
      era.last.app.phase () = .appended r ∧
        later.last.reads = [b] ∧
        StillFound crates (createdResponse crates r) b := by
  rcases exists_two_lives with
    ⟨r, era, later, s, a, b, hLives, hPhase, -, -, hReads⟩
  have hPairs :=
    acknowledged_stays_published lawful_serde rfl rfl
      (fun _ => rfl) open_filedServer hLives
  have hAnswers :
      (era.last.app.phase ()).Answers crates
        (createdResponse crates r) := by
    rw [hPhase]
    rfl
  have hFound :=
    (List.pairwise_cons.mp hPairs).1 later
      (List.mem_singleton.mpr rfl) () _ hAnswers rfl
      (documentRead r, b)
      (by rw [hReads]; exact List.mem_singleton.mpr rfl)
  exact ⟨r, era, later, _, hPhase, hReads, hFound⟩

end UnidppArchive
