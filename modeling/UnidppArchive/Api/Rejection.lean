import UnidppArchive.Api.Gapless
import UnidppArchive.Api.Requests
import UnidppArchive.Api.Reservation
import UnidppArchive.Foundations.Machine
import UnidppArchive.Reference.Crates

/-
  Rejected requests are invisible.

  A POST that is answered 401, 400 or with a failed
  notarization leaves the store as it was: it is refused
  before the reservation, or its reservation is not used.
  The run without it is the same, for requests that come one
  after the other and for handlers that interleave.

  Key definitions include:
    * `Refusal`
    * `Rejected`
    * `AppSystem.without`

  Key theorems include:
    * `handle_of_rejected`
    * `AppSystem.Run.without`
    * `rejected_requests_invisible`
-/

------------------------------------------------------------
-- Rejections
------------------------------------------------------------

namespace UnidppArchive

open Json

/- An answer 401 or 400, or a notarization that failed. -/
def Refusal
    (C : Crates)
    (response : Response) : Prop :=
  response.status = 401 ∨ response.status = 400 ∨
    ∃ (now : Timestamp) (e : String),
      response =
        errorResponse C now 500 s!"notarization failed: {e}"

/- A POST of a snapshot that is answered so. -/
def Rejected
    (C : Crates)
    (request : ApiRequest)
    (response : Response) : Prop :=
  request.call.PostsSnapshot ∧ Refusal C response

/- The texts of error documents are read back. -/
def Json.SerdeJson.KeepsErrors
    (S : SerdeJson) : Prop :=
  ∀ msg, S.InvertsPretty (object [("error", .string msg)])

variable {C : Crates}

/- Error documents with one text have one message. -/
theorem message_of_errorResponse
    {now now' : Timestamp}
    {status status' : Nat}
    {msg msg' : String}
    (hErrors : C.serde.KeepsErrors)
    (h :
      errorResponse C now status msg =
        errorResponse C now' status' msg') :
    msg = msg' := by
  have hBody :
      C.serde.toStringPretty
          (object [("error", .string msg)]) =
        C.serde.toStringPretty
          (object [("error", .string msg')]) :=
    congrArg Response.body h
  have hRead := hErrors msg
  rw [SerdeJson.InvertsPretty, hBody] at hRead
  have hSame :=
    Except.ok.inj ((hErrors msg').symm.trans hRead)
  have hMember := congrArg (fun v => v.get? "error") hSame
  simpa using hMember.symm

/- A failure of the store is no refusal. -/
theorem not_refusal_storeError
    (hErrors : C.serde.KeepsErrors)
    (now : Timestamp)
    (e : StoreError) :
    ¬ Refusal C (storeError C now e) := by
  cases e with
  | conflict m =>
      rintro (h | h | ⟨now', e, h⟩)
      · cases h
      · cases h
      · cases congrArg Response.status h
  | journal m =>
      rintro (h | h | ⟨now', e, h⟩)
      · cases h
      · cases h
      · have hMsg := message_of_errorResponse hErrors h
        have hFirst :=
          congrArg (fun msg => msg.toList.head?) hMsg
        simp [toString] at hFirst

/- Nor is a snapshot that was created. -/
theorem not_refusal_createdResponse
    (record : SnapshotRecord) :
    ¬ Refusal C (createdResponse C record) := by
  rintro (h | h | ⟨now, e, h⟩)
  · cases h
  · cases h
  · cases congrArg Response.status h

end UnidppArchive

------------------------------------------------------------
-- Requests One After the Other
------------------------------------------------------------

namespace UnidppArchive

variable {C : Crates}
variable {service : Service C}

/- A rejected request leaves everything as it was. -/
theorem handle_of_rejected
    (hErrors : C.serde.KeepsErrors)
    {s : ServerState}
    {request : ApiRequest}
    (h : Rejected C request (handle C service s request).1) :
    (handle C service s request).2 = s := by
  rcases request with ⟨authorization, call⟩
  cases call with
  | createSnapshot env body =>
      have hRefusal := h.2
      unfold handle createSnapshot at hRefusal ⊢
      simp only at hRefusal ⊢
      cases hAccept :
          acceptPost C service env.errorAt
            ⟨authorization, body⟩ with
      | error deny => rfl
      | ok req =>
          rw [hAccept] at hRefusal
          simp only at hRefusal ⊢
          rcases storeDraft_cases service env s.store
              (s.store.reserve env.now).1
              (s.store.reserve env.now).2 req s.disk with
            ⟨e, hUnsealed⟩ | ⟨e, hFailed⟩ | ⟨record, hCreated⟩
          · rw [hUnsealed]
          · rw [hFailed] at hRefusal
            exact absurd hRefusal
              (not_refusal_storeError hErrors env.errorAt e)
          · rw [hCreated] at hRefusal
            exact absurd hRefusal
              (not_refusal_createdResponse record)
  | _ => rfl

/- The text behind the scheme is the rest of the header. -/
theorem eq_of_bearerToken
    {authorization token : String}
    (h : bearerToken authorization = some token) :
    authorization = "Bearer " ++ token := by
  unfold bearerToken at h
  split at h
  next hScheme =>
    rcases List.isPrefixOf_iff_prefix.mp hScheme with
      ⟨rest, hRest⟩
    cases h
    apply String.toList_injective
    rw [← hRest]
    simp
  next => cases h

/- A header without the token is refused. -/
theorem requireAdmin_of_ne
    {now : Timestamp}
    {token : String}
    {authorization : Option String}
    (hToken : service.adminToken = some token)
    (hHeader : authorization ≠ some ("Bearer " ++ token)) :
    requireAdmin C service now authorization =
      some (errorResponse C now 401 "unauthorized") := by
  have hOther : authorization.bind bearerToken ≠ some token := by
    intro hSame
    rcases Option.bind_eq_some_iff.mp hSame with
      ⟨value, hValue, hBearer⟩
    rw [hValue, eq_of_bearerToken hBearer] at hHeader
    exact hHeader rfl
  simp only [requireAdmin, hToken, if_neg hOther]

theorem acceptPost_of_unauthorized
    {now : Timestamp}
    {token : String}
    {post : CreatePost}
    (hToken : service.adminToken = some token)
    (hHeader :
      post.authorization ≠ some ("Bearer " ++ token)) :
    acceptPost C service now post =
      .error (errorResponse C now 401 "unauthorized") := by
  unfold acceptPost
  rw [requireAdmin_of_ne hToken hHeader]

/- It neither changes anything nor reaches the log. -/
theorem handle_of_unauthorized
    {token : String}
    {request : ApiRequest}
    (s : ServerState)
    (hToken : service.adminToken = some token)
    (hHeader :
      request.authorization ≠ some ("Bearer " ++ token)) :
    (handle C service s request).2 = s ∧
      logPosts C service s request = [] := by
  rcases request with ⟨authorization, call⟩
  cases call with
  | createSnapshot env body =>
      have hRefused :
          acceptPost C service env.errorAt
              ⟨authorization, body⟩ =
            .error
              (errorResponse C env.errorAt 401
                "unauthorized") :=
        acceptPost_of_unauthorized hToken hHeader
      constructor
      · simp only [handle, createSnapshot, hRefused]
      · simp only [logPosts, hRefused]
  | _ => exact ⟨rfl, rfl⟩

end UnidppArchive

------------------------------------------------------------
-- Handlers That Interleave
------------------------------------------------------------

namespace UnidppArchive

namespace Phase

/- The handler was refused, or may still be. -/
def Refusable
    (C : Crates) :
    Phase → Prop
| .idle | .waiting _ | .locked _ | .anchoring _ _ _
| .unsealed _ => True
| .responded response => Refusal C response
| .noted _ | .checked _ | .journaled _ | .copied _
| .appended _ | .appendFailed _ | .dropped => False

end Phase

namespace AppSystem

variable {Request : Type}

/- The handlers without those of the rejected requests. -/
def others
    (rejected : Request → Bool)
    (phase : Request → Phase)
    (t : Request) : Phase :=
  if rejected t = true then .idle else phase t

/- The system that never got the rejected requests. -/
def without
    (s : AppSystem Request)
    (rejected : Request → Bool) : AppSystem Request :=
  { s with
    mutations := s.mutations.filter fun t => !rejected t
    phase := others rejected s.phase }

variable {s s' : AppSystem Request}
variable {rejected : Request → Bool}
variable {t : Request}
variable {p : Phase}

theorem phase_without
    (hKept : rejected t = false)
    (hPhase : s.phase t = p) :
    (s.without rejected).phase t = p := by
  simp [without, others, hKept, hPhase]

theorem mutations_without
    (hFree : s.mutations = none) :
    (s.without rejected).mutations = none := by
  simp [without, hFree]

theorem without_start
    (store : SnapshotStore)
    (disk : Disk)
    (rejected : Request → Bool) :
    (start store disk).without rejected = start store disk := by
  simp only [without, start, Option.filter_none]
  congr
  funext t
  simp [others]

variable [DecidableEq Request]
variable {C : Crates}
variable {service : Service C}

theorem others_update_of_kept
    (phase : Request → Phase)
    (p : Phase)
    (hKept : rejected t = false) :
    others rejected (Function.update phase t p) =
      Function.update (others rejected phase) t p := by
  funext u
  by_cases hSame : u = t
  · subst hSame
    simp [others, hKept]
  · simp [others, Function.update_of_ne hSame]

theorem others_update_of_rejected
    (phase : Request → Phase)
    (p : Phase)
    (hRejected : rejected t = true) :
    others rejected (Function.update phase t p) =
      others rejected phase := by
  funext u
  by_cases hSame : u = t
  · subst hSame
    simp [others, hRejected]
  · simp [others, Function.update_of_ne hSame]

/- Only a handler that was refusable is refused. -/
theorem Step.refusable
    (hErrors : C.serde.KeepsErrors)
    (hStep : Step C service s s')
    (h : (s'.phase t).Refusable C) :
    (s.phase t).Refusable C := by
  let R (before after : Phase) : Prop :=
    after.Refusable C → before.Refusable C
  have hMoved (u : Request) (p q : Phase)
      (hNext : s'.phase = (s.setPhase u q).phase)
      (hPhase : s.phase u = p)
      (hBefore : q.Refusable C → p.Refusable C) :
      (s.phase t).Refusable C := by
    have hRelated : R (s.phase t) (s'.phase t) := by
      refine related_of_moved (fun _ => id) hNext ?_ t
      rw [hPhase]
      exact hBefore
    exact hRelated h
  cases hStep with
  | read hFree => exact h
  | refuse hPhase _ | accept hPhase _ | dropWaiting hPhase
  | lock hPhase _ | reserve _ hPhase _ | dropAnchoring hPhase
  | sealFails _ hPhase _ | note _ hPhase _
  | respondUnsealed _ hPhase =>
      exact hMoved _ _ _ rfl hPhase (fun _ => trivial)
  | checkFails hPhase _ _ | check hPhase _ _
  | journalFails _ hPhase _ | journal _ hPhase _
  | copyFails _ hPhase _ | copy _ hPhase _ | push hPhase _ =>
      exact hMoved _ _ _ rfl hPhase False.elim
  | respond hPhase =>
      exact hMoved _ _ _ rfl hPhase
        (fun h => not_refusal_createdResponse _ h)
  | respondFailed now hPhase =>
      exact hMoved _ _ _ rfl hPhase
        (fun h => not_refusal_storeError hErrors now _ h)

/- A kept handler moves as it does beside the rejected. -/
theorem without_update_of_kept
    (store : SnapshotStore)
    (disk : Disk)
    (mutations storeLock : Option Request)
    (s : AppSystem Request)
    (p : Phase)
    (acked : List (Request × SnapshotRecord))
    (hKept : rejected t = false) :
    without
        ⟨store, disk, mutations, storeLock,
          Function.update s.phase t p, acked⟩ rejected =
      ⟨store, disk, mutations.filter fun t => !rejected t,
        storeLock, Function.update (s.without rejected).phase t p,
        acked⟩ := by
  simp only [without, others_update_of_kept s.phase p hKept]

/- The moves of a rejected handler are not seen. -/
theorem without_setPhase_of_rejected
    (s : AppSystem Request)
    (p : Phase)
    (hRejected : rejected t = true) :
    (s.setPhase t p).without rejected = s.without rejected := by
  simp only [without, setPhase,
    others_update_of_rejected s.phase p hRejected]

/- A step is a step without the rejected, or none. -/
theorem Step.without
    (hErrors : C.serde.KeepsErrors)
    (hHolder : Guarded s.mutations Phase.Holds s.phase)
    (hStep : Step C service s s')
    (hAll :
      ∀ t, rejected t = true → (s'.phase t).Refusable C) :
    Run C service (s.without rejected)
      (s'.without rejected) := by
  -- a handler that ends here is no rejected one
  have hShown (u : Request) (q : Phase)
      (hNew : s'.phase u = q)
      (hNot : ¬ q.Refusable C) : rejected u = false := by
    cases hCase : rejected u with
    | false => rfl
    | true =>
        have hRefusable := hAll u hCase
        rw [hNew] at hRefusable
        exact absurd hRefusable hNot
  have hTaken {s₁ : AppSystem Request}
      (hNext : Step C service (s.without rejected) s₁)
      (hSame : s'.without rejected = s₁) :
      Run C service (s.without rejected)
        (s'.without rejected) := by
    rw [hSame]
    exact .single hNext
  have hUnseen
      (hSame : s'.without rejected = s.without rejected) :
      Run C service (s.without rejected)
        (s'.without rejected) := by
    rw [hSame]
    exact .refl
  cases hStep with
  | read hFree => exact .refl
  | @refuse t now post deny hPhase hAccept =>
      cases hCase : rejected t with
      | false =>
          exact hTaken
            (.refuse (phase_without hCase hPhase) hAccept)
            (without_update_of_kept _ _ _ _ s _ _ hCase)
      | true =>
          exact hUnseen (without_setPhase_of_rejected s _ hCase)
  | @accept t now post req hPhase hAccept =>
      cases hCase : rejected t with
      | false =>
          exact hTaken
            (.accept (phase_without hCase hPhase) hAccept)
            (without_update_of_kept _ _ _ _ s _ _ hCase)
      | true =>
          exact hUnseen (without_setPhase_of_rejected s _ hCase)
  | @dropWaiting t req hPhase =>
      have hCase := hShown t _ (phase_setPhase s t _) id
      exact hTaken (.dropWaiting (phase_without hCase hPhase))
        (without_update_of_kept _ _ _ _ s _ _ hCase)
  | @lock t req hPhase hFree =>
      cases hCase : rejected t with
      | false =>
          refine hTaken
            (.lock (phase_without hCase hPhase)
              (mutations_without hFree)) ?_
          simp [AppSystem.without, setPhase, hCase,
            others_update_of_kept]
      | true =>
          refine hUnseen ?_
          simp [AppSystem.without, setPhase, hCase, hFree,
            others_update_of_rejected]
  | @reserve t req now hPhase hFree =>
      cases hCase : rejected t with
      | false =>
          exact hTaken
            (.reserve now (phase_without hCase hPhase) hFree)
            (without_update_of_kept _ _ _ _ s _ _ hCase)
      | true =>
          exact hUnseen (without_setPhase_of_rejected s _ hCase)
  | @dropAnchoring t req seq notarizedAt hPhase =>
      have hCase := hShown t _ (phase_setPhase s t _) id
      exact hTaken
        (.dropAnchoring (phase_without hCase hPhase))
        (without_update_of_kept _ _ _ _ s _ _ hCase)
  | @sealFails t req seq notarizedAt e transport hPhase
      hRecord =>
      cases hCase : rejected t with
      | false =>
          exact hTaken
            (.sealFails transport (phase_without hCase hPhase)
              hRecord)
            (without_update_of_kept _ _ _ _ s _ _ hCase)
      | true =>
          exact hUnseen (without_setPhase_of_rejected s _ hCase)
  | @note t req seq notarizedAt record transport hPhase
      hRecord =>
      have hCase := hShown t _ (phase_setPhase s t _) id
      exact hTaken
        (.note transport (phase_without hCase hPhase) hRecord)
        (without_update_of_kept _ _ _ _ s _ _ hCase)
  | @checkFails t record e hPhase hFree hCheck =>
      have hCase := hShown t _ (phase_setPhase s t _) id
      exact hTaken
        (.checkFails (phase_without hCase hPhase) hFree hCheck)
        (without_update_of_kept _ _ _ _ s _ _ hCase)
  | @check t record hPhase hFree hCheck =>
      have hCase := hShown t _ (phase_setPhase s t _) id
      exact hTaken
        (.check (phase_without hCase hPhase) hFree hCheck)
        (without_update_of_kept _ _ _ _ s _ _ hCase)
  | @journalFails t record disk e io hPhase hWrite =>
      have hCase := hShown t _ (phase_setPhase s t _) id
      exact hTaken
        (.journalFails io (phase_without hCase hPhase) hWrite)
        (without_update_of_kept _ _ _ _ s _ _ hCase)
  | @journal t record disk io hPhase hWrite =>
      have hCase := hShown t _ (phase_setPhase s t _) id
      exact hTaken
        (.journal io (phase_without hCase hPhase) hWrite)
        (without_update_of_kept _ _ _ _ s _ _ hCase)
  | @copyFails t record disk e io hPhase hWrite =>
      have hCase := hShown t _ (phase_setPhase s t _) id
      exact hTaken
        (.copyFails io (phase_without hCase hPhase) hWrite)
        (without_update_of_kept _ _ _ _ s _ _ hCase)
  | @copy t record disk io hPhase hWrite =>
      have hCase := hShown t _ (phase_setPhase s t _) id
      exact hTaken
        (.copy io (phase_without hCase hPhase) hWrite)
        (without_update_of_kept _ _ _ _ s _ _ hCase)
  | @push t record hPhase hCapacity =>
      have hCase := hShown t _ (phase_setPhase s t _) id
      exact hTaken
        (.push (phase_without hCase hPhase) hCapacity)
        (without_update_of_kept _ _ _ _ s _ _ hCase)
  | @respond t record hPhase =>
      have hCase :=
        hShown t _ (phase_setPhase s t _)
          (not_refusal_createdResponse record)
      exact hTaken
        (.respond (phase_without hCase hPhase))
        (without_update_of_kept _ _ _ _ s _ _ hCase)
  | @respondUnsealed t e now hPhase =>
      cases hCase : rejected t with
      | false =>
          exact hTaken
            (.respondUnsealed now (phase_without hCase hPhase))
            (without_update_of_kept _ _ _ _ s _ _ hCase)
      | true =>
          have hOwner : s.mutations = some t := by
            apply (hHolder t).mp
            rw [hPhase]
            trivial
          refine hUnseen ?_
          simp [AppSystem.without, setPhase, hCase, hOwner,
            others_update_of_rejected, Option.filter]
  | @respondFailed t e now hPhase =>
      have hCase :=
        hShown t _ (phase_setPhase s t _)
          (not_refusal_storeError hErrors now e)
      exact hTaken
        (.respondFailed now (phase_without hCase hPhase))
        (without_update_of_kept _ _ _ _ s _ _ hCase)

/-
  A run is a run without the requests that are rejected at
  its end, through the same stores and disks.
-/
theorem Run.without
    {store : SnapshotStore}
    {disk : Disk}
    (hErrors : C.serde.KeepsErrors)
    (hBefore : Run C service (start store disk) s)
    (hRun : Run C service s s')
    (hAll :
      ∀ t, rejected t = true → (s'.phase t).Refusable C) :
    Run C service (s.without rejected)
        (s'.without rejected) ∧
      ∀ t, rejected t = true → (s.phase t).Refusable C := by
  induction hRun with
  | refl => exact ⟨.refl, hAll⟩
  | tail hRun hStep ih =>
      have hReached : Run C service (start store disk) _ :=
        hBefore.trans hRun
      rcases hReached.coherent with ⟨pending, hCoherent⟩
      rcases ih fun t ht => hStep.refusable hErrors (hAll t ht)
        with ⟨hKept, hFirst⟩
      exact
        ⟨hKept.trans
          (hStep.without hErrors hCoherent.holder hAll), hFirst⟩

end AppSystem

end UnidppArchive

------------------------------------------------------------
-- Rejected Requests Are Invisible
------------------------------------------------------------

namespace UnidppArchive

open Json

/-
  Deleting rejected requests from a run, whether its requests
  come one after the other or its handlers interleave, leaves
  the other answers and the last state; and without the
  configured token nothing is changed or posted to the log.
-/
theorem rejected_requests_invisible
    {C : Crates}
    (hErrors : C.serde.KeepsErrors)
    (service : Service C) :
    (∀ (s : ServerState) (requests : List ApiRequest)
        (delete : ApiRequest × Response → Bool),
        (∀ a, delete a = true → Rejected C a.1 a.2) →
          Machine.run (handle C service) s
              (((Machine.run (handle C service) s
                requests).1.filter fun a => !delete a).map
                  Prod.fst) =
            ((Machine.run (handle C service) s
                requests).1.filter fun a => !delete a,
              (Machine.run (handle C service) s requests).2)) ∧
      (∀ (Request : Type) [DecidableEq Request]
        (store : SnapshotStore) (disk : Disk)
        (s s' : AppSystem Request)
        (rejected : Request → Bool),
        AppSystem.Run C service (AppSystem.start store disk)
            s →
          AppSystem.Run C service s s' →
            (∀ t, rejected t = true →
              ∃ response,
                s'.phase t = .responded response ∧
                  Refusal C response) →
              AppSystem.Run C service
                  (AppSystem.start store disk)
                  (s.without rejected) ∧
                AppSystem.Run C service (s.without rejected)
                  (s'.without rejected)) ∧
        ∀ (token : String) (s : ServerState)
          (request : ApiRequest),
          service.adminToken = some token →
            request.authorization ≠
                some ("Bearer " ++ token) →
              (handle C service s request).2 = s ∧
                logPosts C service s request = [] := by
  refine ⟨?_, ?_, ?_⟩
  · intro s requests delete hDelete
    apply Machine.run_kept
    intro s i hDeleted
    exact handle_of_rejected hErrors (hDelete _ hDeleted)
  · intro Request _ store disk s s' rejected hBefore hRun hAll
    have hRefusable :
        ∀ t, rejected t = true → (s'.phase t).Refusable C := by
      intro t ht
      rcases hAll t ht with ⟨response, hPhase, hRefusal⟩
      rw [hPhase]
      exact hRefusal
    rcases AppSystem.Run.without hErrors hBefore hRun
        hRefusable with
      ⟨hAfter, hFirst⟩
    have hStart :=
      (AppSystem.Run.without hErrors .refl hBefore hFirst).1
    rw [AppSystem.without_start] at hStart
    exact ⟨hStart, hAfter⟩
  · intro token s request hToken hHeader
    exact handle_of_unauthorized s hToken hHeader

namespace Reference

/- A service that wants a token. -/
def guarded : Service crates :=
  { service with adminToken := some "secret" }

def anonymousPost : ApiRequest :=
  ⟨none, .createSnapshot createEnv createPost.body⟩

def authorizedPost : ApiRequest :=
  ⟨some "Bearer secret",
    .createSnapshot createEnv createPost.body⟩

/- A POST that is answered 401. -/
def denied
    (a : ApiRequest × Response) : Bool :=
  match a.1.call with
  | .createSnapshot _ _ => a.2.status == 401
  | _ => false

/- A POST without the token, then one with it. -/
def mixedRun :
    List (ApiRequest × Response) × ServerState :=
  Machine.run (handle crates guarded)
    ⟨emptyStore, diskOf (some [])⟩
    [anonymousPost, authorizedPost]

end Reference

open Reference in
/- The refused POST is not seen, and reaches no log. -/
theorem rejected_requests_invisible_sample :
    (∃ answer,
        (anonymousPost, answer) ∈ mixedRun.1 ∧
          denied (anonymousPost, answer) = true) ∧
      Machine.run (handle crates guarded)
          ⟨emptyStore, diskOf (some [])⟩
          ((mixedRun.1.filter fun a => !denied a).map
            Prod.fst) =
        (mixedRun.1.filter fun a => !denied a, mixedRun.2) ∧
        AppSystem.Run crates guarded
            (AppSystem.start emptyStore (diskOf (some [])))
            (((AppSystem.start emptyStore (diskOf (some [])) :
              AppSystem Unit).setPhase ()
                (.responded
                  (errorResponse crates now 401
                    "unauthorized"))).without
              fun _ => true) ∧
          logPosts crates guarded
              ⟨emptyStore, diskOf (some [])⟩ anonymousPost =
            [] := by
  have hHeader : (none : Option String) ≠
      some ("Bearer " ++ "secret") := by
    intro h
    cases h
  have hRefused :
      acceptPost crates guarded now ⟨none, createPost.body⟩ =
        .error (errorResponse crates now 401 "unauthorized") :=
    acceptPost_of_unauthorized rfl hHeader
  rcases rejected_requests_invisible
      (fun msg => invertsPretty_serde _) guarded with
    ⟨hSequence, hInterleaved, hToken⟩
  unfold mixedRun
  refine ⟨⟨errorResponse crates now 401 "unauthorized", ?_,
    rfl⟩, ?_, ?_, ?_⟩
  · have hAnswer :
        (handle crates guarded ⟨emptyStore, diskOf (some [])⟩
            anonymousPost).1 =
          errorResponse crates now 401 "unauthorized" := by
      simp only [handle, anonymousPost, createSnapshot]
      rw [show createEnv.errorAt = now from rfl, hRefused]
    rw [← hAnswer]
    exact Machine.head_mem_run _ _ _ _
  · apply hSequence
    rintro ⟨⟨authorization, call⟩, response⟩ hDenied
    cases call with
    | createSnapshot env body =>
        exact ⟨trivial, Or.inl (beq_iff_eq.mp hDenied)⟩
    | _ => cases hDenied
  · exact (hInterleaved Unit emptyStore (diskOf (some [])) _ _
      (fun _ => true) .refl
      (.single (.refuse rfl hRefused))
      (fun _ _ => ⟨_, AppSystem.phase_setPhase _ () _,
        Or.inl rfl⟩)).2
  · exact (hToken "secret" _ anonymousPost rfl hHeader).2

end UnidppArchive
