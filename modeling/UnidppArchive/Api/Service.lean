import UnidppArchive.Store.Ingested

/-
  The handlers that create and serve snapshots (`api.rs`).

  The clock, the transparency log and the writes of the
  store are the environment's, fixed for one request.

  Key definitions include:
    * `Response`
    * `Service`
    * `acceptPost`
    * `createSnapshot`
    * `getSnapshot`

  Key theorems include:
    * `createSnapshot_eq_created_iff`
-/

------------------------------------------------------------
-- Responses
------------------------------------------------------------

namespace UnidppArchive

open Json

/- Cache strategy for a response. -/
inductive CachePolicy where
  | current
  | pointInTime
  | noStore
  deriving DecidableEq

def CachePolicy.headerValue :
    CachePolicy → String
| .current => "public, max-age=30, must-revalidate"
| .pointInTime => "public, max-age=86400, immutable"
| .noStore => "no-store"

structure Response where
  status : Nat
  headers : List (String × String)
  body : String
  deriving DecidableEq

/- The first header of a name. -/
def Response.header?
    (response : Response)
    (name : String) : Option String :=
  (response.headers.find? (·.1 == name)).map Prod.snd

def buildResponse
    (status : Nat)
    (headers : List (String × String))
    (body : String)
    (cache : CachePolicy) : Response :=
  ⟨status, headers ++ [("cache-control", cache.headerValue)],
    body⟩

variable (C : Crates)

def jsonResponse
    (status : Nat)
    (doc : Value)
    (asOf : Timestamp)
    (cache : CachePolicy) : Response :=
  buildResponse status
    [("content-type", "application/json"),
      ("x-as-of", asOf.toString)]
    (C.serde.toStringPretty doc) cache

def errorResponse
    (now : Timestamp)
    (status : Nat)
    (msg : String) : Response :=
  jsonResponse C status (object [("error", .string msg)]) now
    .noStore

def badRequest
    (now : Timestamp)
    (msg : String) : Response :=
  errorResponse C now 400 msg

def notFound
    (now : Timestamp)
    (msg : String) : Response :=
  errorResponse C now 404 msg

def storeError
    (now : Timestamp) :
    StoreError → Response
| .journal m =>
    errorResponse C now 500 s!"storage integrity failure: {m}"
| .conflict m => errorResponse C now 409 m

@[simp] theorem status_errorResponse
    (now : Timestamp)
    (status : Nat)
    (msg : String) :
    (errorResponse C now status msg).status = status := by
  rfl

/- A strong entity tag: half of the body digest. -/
def etagOf
    (digest : Hash) : String :=
  let hex := String.ofList ((C.model.hex digest).toList.take 32)
  "\"sha-" ++ hex ++ "\""

end UnidppArchive

------------------------------------------------------------
-- Creating Snapshots
------------------------------------------------------------

namespace UnidppArchive

open Json

/- The configuration and the notary key of a service. -/
structure Service
    (C : Crates) where
  adminToken : Option String
  log : LogAnchorConfig
  notary : C.signatif.KeyPair

/-
  A request, with the text of its first authorization
  header, if there is one that `to_str` reads.
-/
structure CreatePost where
  authorization : Option String
  body : String

/-
  What one request meets: the clock at the reservation and
  at an error, the log, as long as the client does not panic
  on what it answers, and the writes of the store.
-/
structure CreateEnv where
  now : Timestamp
  errorAt : Timestamp
  transport : AnchorPost → Except String HttpResponse
  io : AppendIo

/- `strip_prefix("Bearer ")`. -/
def bearerToken
    (authorization : String) : Option String :=
  if "Bearer ".toList.isPrefixOf authorization.toList then
    some (String.ofList (authorization.toList.drop 7))
  else
    none

variable (C : Crates)

def requireAdmin
    (service : Service C)
    (now : Timestamp)
    (authorization : Option String) : Option Response :=
  match service.adminToken with
  | none => none
  | some token =>
      if authorization.bind bearerToken = some token then
        none
      else
        some (errorResponse C now 401 "unauthorized")

/- The parsed request, or the response that refuses it. -/
def acceptPost
    (service : Service C)
    (now : Timestamp)
    (post : CreatePost) : Except Response CreateRequest :=
  match requireAdmin C service now post.authorization with
  | some deny => .error deny
  | none =>
      match parseBody C post.body >>= parseCreateRequest C with
      | .error e => .error (badRequest C now e)
      | .ok req => .ok req

/- The answer of the log for a draft. -/
def anchorDraft
    (service : Service C)
    (transport : AnchorPost → Except String HttpResponse)
    (draft : SnapshotRecord) : Except String Value :=
  anchor C service.log transport (anchorSubject draft)
    (draft.commitment C)

/- The response to an ingest that was stored. -/
def createdResponse
    (record : SnapshotRecord) : Response :=
  buildResponse 201
    ([("content-type", "application/json"),
      ("location", s!"/snapshots/{record.snapshotId}"),
      ("x-snapshot-id", record.snapshotId),
      ("x-as-of", record.notarizedAt.toString),
      ("etag", etagOf C record.bodyDigest)] ++
      if record.anchoring.status = .anchored then
        [("x-anchored-receipt",
          (record.anchoring.receiptSeq.map
            Text.u64ToString).getD "")]
      else
        [])
    (record.renderBody C) .pointInTime

theorem snapshotId_createdResponse
    (record : SnapshotRecord) :
    (createdResponse C record).header? "x-snapshot-id" =
      some record.snapshotId := by
  rfl

/- Seal the draft of a reservation, and store it. -/
def storeDraft
    (service : Service C)
    (env : CreateEnv)
    (store : SnapshotStore)
    (seq : UInt64)
    (notarizedAt : Timestamp)
    (req : CreateRequest)
    (disk : Disk) : Response × SnapshotStore × Disk :=
  let answer :=
    anchorDraft C service env.transport
      (draftRecord seq notarizedAt req)
  match
    ingestRecord C service.notary seq notarizedAt req answer
  with
  | .error e =>
      (errorResponse C env.errorAt 500
        s!"notarization failed: {e}", store, disk)
  | .ok record =>
      match store.appendSnapshot C env.io record disk with
      | (.error e, store, disk) =>
          (storeError C env.errorAt e, store, disk)
      | (.ok (), store, disk) =>
          (createdResponse C record, store, disk)

/- `POST /snapshots`, without other requests beside it. -/
def createSnapshot
    (service : Service C)
    (env : CreateEnv)
    (store : SnapshotStore)
    (post : CreatePost)
    (disk : Disk) : Response × SnapshotStore × Disk :=
  match acceptPost C service env.errorAt post with
  | .error deny => (deny, store, disk)
  | .ok req =>
      let reservation := store.reserve env.now
      storeDraft C service env store reservation.1
        reservation.2 req disk

/- `GET /snapshots/{id}`. -/
def getSnapshot
    (store : SnapshotStore)
    (now : Timestamp)
    (id : String) : Response :=
  let id := Text.trim id
  match store.get id with
  | some r =>
      buildResponse 200
        [("content-type", "application/json"),
          ("x-as-of", r.notarizedAt.toString),
          ("etag", etagOf C r.bodyDigest)]
        (r.renderBody C) .pointInTime
  | none => notFound C now s!"no snapshot `{id}`"

end UnidppArchive

------------------------------------------------------------
-- Created Snapshots
------------------------------------------------------------

namespace UnidppArchive

open Json

variable {C : Crates}
variable {service : Service C}
variable {env : CreateEnv}
variable {store store' : SnapshotStore}
variable {post : CreatePost}
variable {disk disk' : Disk}
variable {response : Response}

/- Without a token, a printed request is accepted. -/
theorem acceptPost_of_inverts
    {now : Timestamp}
    {authorization : Option String}
    {v : Value}
    {req : CreateRequest}
    (hToken : service.adminToken = none)
    (hInverts : C.serde.Inverts v)
    (hParse : parseCreateRequest C v = .ok req) :
    acceptPost C service now
      ⟨authorization, C.serde.toString v⟩ = .ok req := by
  have hRead : C.serde.fromStr (C.serde.toString v) = .ok v :=
    hInverts
  have hBody :
      parseBody C (C.serde.toString v) = .ok v := by
    rw [parseBody, hRead]
    rfl
  have hBoth :
      (parseBody C (C.serde.toString v) >>=
        parseCreateRequest C) = .ok req :=
    bind_eq_ok_iff.mpr ⟨v, hBody, hParse⟩
  simp only [acceptPost, requireAdmin, hToken, hBoth]

/- A refusal is no success. -/
theorem status_of_refused
    {now : Timestamp}
    {deny : Response}
    (h : acceptPost C service now post = .error deny) :
    deny.status ≠ 201 := by
  unfold acceptPost at h
  cases hAdmin : requireAdmin C service now post.authorization
    with
  | some deny' =>
      rw [hAdmin] at h
      cases h
      unfold requireAdmin at hAdmin
      cases hToken : service.adminToken with
      | none => simp [hToken] at hAdmin
      | some token =>
          simp only [hToken] at hAdmin
          split at hAdmin
          · cases hAdmin
          · cases hAdmin
            simp
  | none =>
      rw [hAdmin] at h
      simp only at h
      split at h
      · cases h
        simp [badRequest]
      · cases h

theorem status_storeError
    (now : Timestamp)
    (e : StoreError) :
    (storeError C now e).status ≠ 201 := by
  cases e with
  | journal m => simp [storeError]
  | conflict m => simp [storeError]

/- A record that is sealed and appended is answered. -/
theorem storeDraft_of_appended
    {seq : UInt64}
    {req : CreateRequest}
    {record : SnapshotRecord}
    (hRecord :
      ingestRecord C service.notary seq env.now req
          (anchorDraft C service env.transport
            (draftRecord seq env.now req)) =
        .ok record)
    (hAppend :
      store.appendSnapshot C env.io record disk =
        (.ok (), store', disk')) :
    storeDraft C service env store seq env.now req disk =
      (createdResponse C record, store', disk') := by
  unfold storeDraft
  simp only [hRecord, hAppend]

/-
  A request is answered 201 exactly when its record was
  sealed with the next number and appended.
-/
theorem createSnapshot_eq_created_iff :
    (createSnapshot C service env store post disk =
        (response, store', disk') ∧
      response.status = 201) ↔
      ∃ req record,
        acceptPost C service env.errorAt post = .ok req ∧
          ingestRecord C service.notary store.size env.now req
              (anchorDraft C service env.transport
                (draftRecord store.size env.now req)) =
            .ok record ∧
          store.appendSnapshot C env.io record disk =
            (.ok (), store', disk') ∧
          response = createdResponse C record := by
  unfold createSnapshot
  cases hAccept : acceptPost C service env.errorAt post with
  | error deny =>
      have hStatus := status_of_refused hAccept
      simp only [Prod.mk.injEq, reduceCtorEq, false_and,
        exists_false, iff_false, not_and]
      rintro ⟨rfl, -, -⟩
      exact hStatus
  | ok req =>
      simp only [Except.ok.injEq, exists_and_left,
        exists_eq_left']
      unfold storeDraft SnapshotStore.reserve
      simp only
      generalize hAnswer : anchorDraft C service env.transport
        (draftRecord store.size env.now req) = answer
      cases hRecord :
          ingestRecord C service.notary store.size env.now req
            answer with
      | error e =>
          simp only [Prod.mk.injEq, reduceCtorEq, false_and,
            exists_false, iff_false, not_and]
          rintro ⟨rfl, -, -⟩
          simp
      | ok record =>
          simp only [Except.ok.injEq, exists_eq_left']
          cases hAppend :
              store.appendSnapshot C env.io record disk with
          | mk result rest =>
              cases result with
              | error e =>
                  have hStatus :=
                    status_storeError (C := C) env.errorAt e
                  simp only [Prod.mk.injEq, reduceCtorEq,
                    false_and, iff_false, not_and]
                  rintro ⟨rfl, -, -⟩
                  exact hStatus
              | ok u =>
                  rcases rest with ⟨store₁, disk₁⟩
                  simp only [Prod.mk.injEq, true_and]
                  constructor
                  · rintro ⟨⟨rfl, rfl, rfl⟩, -⟩
                    exact ⟨⟨rfl, rfl⟩, rfl⟩
                  · rintro ⟨⟨rfl, rfl⟩, rfl⟩
                    exact ⟨⟨rfl, rfl, rfl⟩, rfl⟩

end UnidppArchive

------------------------------------------------------------
-- A Sample Service
------------------------------------------------------------

namespace UnidppArchive

namespace Reference

open Json

/- A service in dev mode, without a transparency log. -/
def service : Service crates :=
  ⟨none, ⟨none, none, 10000⟩, notary⟩

def createPost : CreatePost :=
  ⟨none, crates.serde.toString requestJson⟩

def createEnv : CreateEnv :=
  ⟨now, now, fun _ => .error "connection refused", .sound⟩

theorem acceptPost_createPost :
    acceptPost crates service now createPost = .ok request :=
  acceptPost_of_inverts rfl (inverts_serde requestJson)
    parse_requestJson

/- No log is configured, so no receipt is accepted. -/
theorem anchorDraft_error
    (transport : AnchorPost → Except String HttpResponse)
    (draft : SnapshotRecord) :
    ∃ e, anchorDraft crates service transport draft =
      .error e :=
  ⟨_, rfl⟩

/- The sample service with a log. -/
def withLog
    (log : LogAnchorConfig) : Service crates :=
  ⟨none, log, notary⟩

/- A log that is configured. -/
def someLog : LogAnchorConfig :=
  ⟨some "http://log", none, 3000⟩

/- The receipt that it sends. -/
def someReceipt : Value :=
  receipt "2026-09-07T10:00:00Z" "s" "c"

def receiptReply :
    AnchorPost → Except String HttpResponse :=
  fun _ => .ok ⟨201, crates.serde.toString someReceipt⟩

theorem anchorDraft_receiptReply
    (draft : SnapshotRecord) :
    anchorDraft crates (withLog someLog)
        receiptReply draft = .ok someReceipt := by
  have hRead :
      crates.serde.fromStr
          (crates.serde.toString someReceipt) =
        .ok someReceipt :=
    inverts_serde someReceipt
  have hBase :
      (someLog.baseUrl.map Text.trim).filter (· ≠ "") =
        some "http://log" := by
    decide
  have hPost :
      ∃ post,
        anchorPost crates someLog (anchorSubject draft)
          (draft.commitment crates) = .ok post := by
    unfold anchorPost
    rw [hBase]
    exact ⟨_, rfl⟩
  rcases hPost with ⟨post, hPost⟩
  have hReply :
      anchorReceipt crates (receiptReply post) =
        .ok someReceipt :=
    anchorReceipt_of_read ⟨by decide, by decide⟩ hRead
  unfold anchorDraft anchor
  exact bind_eq_ok_iff.mpr ⟨post, hPost, hReply⟩

/- Without a token, the sample is stored in any store. -/
theorem exists_created
    {service : Service crates}
    (hToken : service.adminToken = none)
    (transport : AnchorPost → Except String HttpResponse)
    (store : SnapshotStore)
    (disk : Disk) :
    ∃ r,
      ingestRecord crates service.notary store.size now request
            (anchorDraft crates service transport
              (draftRecord store.size now request)) =
          .ok r ∧
        createSnapshot crates service
              ⟨now, now, transport, .sound⟩ store
              ⟨none, createPost.body⟩ disk =
            (createdResponse crates r, store.push r,
              store.recorded crates r disk) ∧
        (createdResponse crates r).status = 201 := by
  rcases exists_sealedWith service.notary store.size request
      (anchorDraft crates service transport
        (draftRecord store.size now request)) with
    ⟨r, hRecord⟩
  have hAccept :
      acceptPost crates service now ⟨none, createPost.body⟩ =
        .ok request :=
    acceptPost_of_inverts hToken (inverts_serde requestJson)
      parse_requestJson
  exact ⟨r, hRecord,
    createSnapshot_eq_created_iff.mpr
      ⟨request, r, hAccept, hRecord,
        append_sample store hRecord disk, rfl⟩⟩

end Reference

end UnidppArchive
