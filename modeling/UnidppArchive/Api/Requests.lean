import UnidppArchive.Api.Catalogue

/-
  A server that answers request after request (`api.rs`).

  A request comes with what the server meets while it answers
  it: the clock, and for an ingest the log and the writes of
  the store.  An answer that does not depend on the store (the
  discovery document, the keyring, the contract, a refusal of
  the framework) is a parameter.

  Key definitions include:
    * `Call`
    * `ApiRequest`
    * `handle`
    * `logPosts`

  Key theorems include:
    * `storeDraft_cases`
    * `handle_of_logPosts`
-/

------------------------------------------------------------
-- The Remaining Handlers
------------------------------------------------------------

namespace UnidppArchive

open Json

/- `LogAnchorConfig::is_enabled`. -/
def LogAnchorConfig.isEnabled
    (config : LogAnchorConfig) : Bool :=
  config.baseUrl.isSome

variable (C : Crates)

/- `GET /healthz`, its clock read for body and header. -/
def healthz
    (service : Service C)
    (store : SnapshotStore)
    (shownAt stampedAt : Timestamp) : Response :=
  jsonResponse C 200
    (object
      [("status", .string "ok"),
        ("service", .string serviceId),
        ("snapshots", u64 store.size),
        ("anchoring_enabled", .bool service.log.isEnabled),
        ("as_of", .string shownAt.toString)])
    stampedAt .current

/- A record in the audit view. -/
def auditEntry
    (r : SnapshotRecord) : Value :=
  match r.toJournalJson C with
  | .object fs =>
      .object (Map.insert fs "body_sha256"
        (.string (C.model.hex r.bodyDigest)))
  | v => v

/- A window of the journal. -/
def SnapshotStore.auditJson
    (store : SnapshotStore)
    (limit offset : UInt64) : Value :=
  let slice :=
    ((store.records.drop offset.toNat).take limit.toNat).map
      (auditEntry C)
  object
    [("count", u64 (UInt64.ofNat slice.length)),
      ("total", u64 store.size),
      ("limit", u64 limit),
      ("offset", u64 offset),
      ("records", .array (Values.ofList slice))]

/- `GET /admin/log`, with a `usize` of 64 bits. -/
def adminLog
    (service : Service C)
    (store : SnapshotStore)
    (now : Timestamp)
    (authorization : Option String)
    (params : String → Option String) : Response :=
  match requireAdmin C service now authorization with
  | some deny => deny
  | none =>
      let limit :=
        min (((params "limit").bind Text.parseU64).getD 100)
          10000
      let offset :=
        ((params "offset").bind Text.parseU64).getD 0
      jsonResponse C 200 (store.auditJson C limit offset) now
        .current

end UnidppArchive

------------------------------------------------------------
-- Requests
------------------------------------------------------------

namespace UnidppArchive

/-
  What is asked for, and what the server meets.  A POST whose
  body is no text is refused by the framework.
-/
inductive Call where
  | createSnapshot (env : CreateEnv) (body : String)
  | unreadablePost (answer : Response)
  | getSnapshot (now : Timestamp) (id : String)
  | listSnapshots
      (now : Timestamp)
      (params : String → Option String)
  | healthz (shownAt stampedAt : Timestamp)
  | adminLog
      (now : Timestamp)
      (params : String → Option String)
  | other (answer : Response)

/- The call is a `POST /snapshots`. -/
def Call.PostsSnapshot :
    Call → Prop
| .createSnapshot _ _ | .unreadablePost _ => True
| _ => False

/-
  A call, with the text of its first authorization header,
  if there is one that `to_str` reads.
-/
structure ApiRequest where
  authorization : Option String
  call : Call

/- The records in memory, and the journal and the files. -/
structure ServerState where
  store : SnapshotStore
  disk : Disk

variable (C : Crates)
variable (service : Service C)

/- Answer one request. -/
def handle
    (s : ServerState)
    (request : ApiRequest) : Response × ServerState :=
  match request.call with
  | .createSnapshot env body =>
      let (response, store, disk) :=
        createSnapshot C service env s.store
          ⟨request.authorization, body⟩ s.disk
      (response, ⟨store, disk⟩)
  | .unreadablePost answer => (answer, s)
  | .getSnapshot now id => (getSnapshot C s.store now id, s)
  | .listSnapshots now params =>
      (listSnapshots C s.store now params, s)
  | .healthz shownAt stampedAt =>
      (healthz C service s.store shownAt stampedAt, s)
  | .adminLog now params =>
      (adminLog C service s.store now request.authorization
        params, s)
  | .other answer => (answer, s)

/- The requests that go to the transparency log meanwhile. -/
def logPosts
    (s : ServerState)
    (request : ApiRequest) : List AnchorPost :=
  match request.call with
  | .createSnapshot env body =>
      match
        acceptPost C service env.errorAt
          ⟨request.authorization, body⟩
      with
      | .error _ => []
      | .ok req =>
          let reservation := s.store.reserve env.now
          let draft := draftRecord reservation.1 reservation.2 req
          match
            anchorPost C service.log (anchorSubject draft)
              (draft.commitment C)
          with
          | .error _ => []
          | .ok post => [post]
  | _ => []

end UnidppArchive

------------------------------------------------------------
-- What a Request Does
------------------------------------------------------------

namespace UnidppArchive

variable {C : Crates}
variable {service : Service C}

/-
  A draft that is not sealed, or not stored, or stored: only
  an unsealed one is answered before the store is touched.
-/
theorem storeDraft_cases
    (service : Service C)
    (env : CreateEnv)
    (store : SnapshotStore)
    (seq : UInt64)
    (notarizedAt : Timestamp)
    (req : CreateRequest)
    (disk : Disk) :
    (∃ e : String,
        storeDraft C service env store seq notarizedAt req disk =
          (errorResponse C env.errorAt 500
            s!"notarization failed: {e}", store, disk)) ∨
      (∃ e,
        (storeDraft C service env store seq notarizedAt req
            disk).1 = storeError C env.errorAt e) ∨
      ∃ record,
        (storeDraft C service env store seq notarizedAt req
            disk).1 = createdResponse C record := by
  unfold storeDraft
  simp only
  generalize anchorDraft C service env.transport
    (draftRecord seq notarizedAt req) = answer
  cases ingestRecord C service.notary seq notarizedAt req answer
    with
  | error e => exact Or.inl ⟨e, rfl⟩
  | ok record =>
      simp only
      cases store.appendSnapshot C env.io record disk with
      | mk result rest =>
          cases result with
          | error e => exact Or.inr (Or.inl ⟨e, rfl⟩)
          | ok u => exact Or.inr (Or.inr ⟨record, rfl⟩)

/- The log is asked for nothing but what is posted to it. -/
theorem handle_of_logPosts
    {s : ServerState}
    {env : CreateEnv}
    {authorization : Option String}
    {body : String}
    {transport : AnchorPost → Except String HttpResponse}
    (h :
      ∀ post ∈
          logPosts C service s
            ⟨authorization, .createSnapshot env body⟩,
        transport post = env.transport post) :
    handle C service s
        ⟨authorization,
          .createSnapshot { env with transport := transport }
            body⟩ =
      handle C service s
        ⟨authorization, .createSnapshot env body⟩ := by
  unfold handle createSnapshot
  unfold logPosts at h
  simp only at h ⊢
  cases hAccept :
      acceptPost C service env.errorAt ⟨authorization, body⟩
    with
  | error deny => rfl
  | ok req =>
      rw [hAccept] at h
      have hAnswer :
          anchorDraft C service transport
              (draftRecord (s.store.reserve env.now).1
                (s.store.reserve env.now).2 req) =
            anchorDraft C service env.transport
              (draftRecord (s.store.reserve env.now).1
                (s.store.reserve env.now).2 req) := by
        unfold anchorDraft anchor
        cases hPost :
            anchorPost C service.log
              (anchorSubject
                (draftRecord (s.store.reserve env.now).1
                  (s.store.reserve env.now).2 req))
              ((draftRecord (s.store.reserve env.now).1
                (s.store.reserve env.now).2 req).commitment C)
          with
        | error e => rfl
        | ok post =>
            simp only [hPost, List.mem_singleton,
              forall_eq] at h
            exact congrArg (anchorReceipt C) h
      simp only [storeDraft, hAnswer]

end UnidppArchive
