import UnidppArchive.Api.Requests
import UnidppArchive.Foundations.Machine
import UnidppArchive.Store.Invariant

/-
  What the transparency log decides, and what it does not
  (`api.rs`, `log_anchor.rs`).

  An ingest degrades explicitly: each way in which the hop
  fails has a reason of its own, and the reason is recorded.
  Two services whose logs answer differently, or one of which
  has no log, notarize the same for one request, and answer it
  alike.

  Key definitions include:
    * `Degraded`
    * `Explained`
    * `SnapshotRecord.bare`
    * `SameArchive`
    * `SameAsked`

  Key theorems include:
    * `every_outcome_explained`
    * `SameArchive.handle`
-/

------------------------------------------------------------
-- Reasons
------------------------------------------------------------

namespace UnidppArchive

open Json

/- The first 200 characters of what a refusing log says. -/
def refusalDetail
    (body : String) : String :=
  let snippet := String.ofList (body.toList.take 200)
  if snippet = "" then "" else s!": {snippet}"

/-
  Why a commitment is not anchored: no log is configured, it
  does not answer, it refuses, its answer is no JSON, or the
  receipt lacks what the record needs.
-/
inductive Degraded
    (C : Crates)
    (config : LogAnchorConfig)
    (transport : AnchorPost → Except String HttpResponse)
    (subject : String)
    (commitment : Hash) :
    String → Prop where
  | unset
      (hUnset :
        (config.baseUrl.map Text.trim).filter (· ≠ "") =
          none) :
      Degraded C config transport subject commitment
        "log anchoring not configured (UNIDPP_LOG_URL is unset)"
  | unreachable
      {post : AnchorPost}
      {e : String}
      (hPost :
        anchorPost C config subject commitment = .ok post)
      (hReply : transport post = .error e) :
      Degraded C config transport subject commitment
        s!"log unreachable: {e}"
  | refused
      {post : AnchorPost}
      {resp : HttpResponse}
      (hPost :
        anchorPost C config subject commitment = .ok post)
      (hReply : transport post = .ok resp)
      (hStatus :
        ¬ (200 ≤ resp.status ∧ resp.status < 300)) :
      Degraded C config transport subject commitment
        s!"log refused the commitment: {resp.status}{refusalDetail resp.body}"
  | garbled
      {post : AnchorPost}
      {resp : HttpResponse}
      {e : String}
      (hPost :
        anchorPost C config subject commitment = .ok post)
      (hReply : transport post = .ok resp)
      (hStatus : 200 ≤ resp.status ∧ resp.status < 300)
      (hRead : C.serde.fromStr resp.body = .error e) :
      Degraded C config transport subject commitment
        s!"log returned a non-JSON receipt: {e}"
  | rejected
      {post : AnchorPost}
      {resp : HttpResponse}
      {receipt : Value}
      {e : String}
      (hPost :
        anchorPost C config subject commitment = .ok post)
      (hReply : transport post = .ok resp)
      (hStatus : 200 ≤ resp.status ∧ resp.status < 300)
      (hRead : C.serde.fromStr resp.body = .ok receipt)
      (hSummary :
        anchorSummaryFromReceipt C receipt = .error e) :
      Degraded C config transport subject commitment
        s!"log receipt rejected: {e}"

/- A receipt in a successful answer was accepted. -/
structure Anchors
    (C : Crates)
    (config : LogAnchorConfig)
    (transport : AnchorPost → Except String HttpResponse)
    (subject : String)
    (commitment : Hash)
    (receipt : Value)
    (summary : AnchorSummary) : Prop where
  answered :
    ∃ post resp,
      anchorPost C config subject commitment = .ok post ∧
        transport post = .ok resp ∧
        (200 ≤ resp.status ∧ resp.status < 300) ∧
        C.serde.fromStr resp.body = .ok receipt
  summary :
    anchorSummaryFromReceipt C receipt = .ok summary

/- What the log did is what the record says. -/
def Explained
    (C : Crates)
    (config : LogAnchorConfig)
    (transport : AnchorPost → Except String HttpResponse)
    (subject : String)
    (commitment : Hash)
    (a : Anchoring) : Prop :=
  (∃ receipt summary,
      Anchors C config transport subject commitment receipt
          summary ∧
        a = Anchoring.anchored summary receipt commitment) ∨
    ∃ reason,
      Degraded C config transport subject commitment reason ∧
        reason ≠ "" ∧
        a =
          (Anchoring.unanchored reason).withCommitment
            commitment

variable {C : Crates}
variable {config : LogAnchorConfig}
variable {transport : AnchorPost → Except String HttpResponse}
variable {subject : String}
variable {commitment : Hash}

theorem Degraded.ne_empty
    {reason : String}
    (h :
      Degraded C config transport subject commitment reason) :
    reason ≠ "" := by
  have hShown (s : String) : toString s = s := rfl
  intro hEmpty
  have hText := congrArg String.toList hEmpty
  cases h <;> simp [hShown] at hText

theorem Degraded.explained
    {C : Crates}
    {config : LogAnchorConfig}
    {transport : AnchorPost → Except String HttpResponse}
    {subject reason : String}
    {commitment : Hash}
    {outcome : Anchoring}
    (h : Degraded C config transport subject commitment reason)
    (hOutcome : outcome = Anchoring.unanchored reason) :
    Explained C config transport subject commitment
      (outcome.withCommitment commitment) := by
  rw [hOutcome]
  exact Or.inr ⟨reason, h, h.ne_empty, rfl⟩

/- The outcome of a hop has its explanation. -/
theorem explained_outcome
    (C : Crates)
    (config : LogAnchorConfig)
    (transport : AnchorPost → Except String HttpResponse)
    (subject : String)
    (commitment : Hash) :
    Explained C config transport subject commitment
      ((anchoringOutcome C
        (anchor C config transport subject commitment)
        commitment).withCommitment commitment) := by
  cases hBase :
      (config.baseUrl.map Text.trim).filter (· ≠ "") with
  | none =>
      apply (Degraded.unset hBase).explained
      unfold anchor anchorPost
      rw [hBase]
      rfl
  | some base =>
      have hPost :
          ∃ post,
            anchorPost C config subject commitment =
              .ok post := by
        unfold anchorPost
        rw [hBase]
        exact ⟨_, rfl⟩
      rcases hPost with ⟨post, hPost⟩
      rw [anchor_of_post hPost]
      cases hReply : transport post with
      | error e =>
          exact (Degraded.unreachable hPost hReply).explained
            rfl
      | ok resp =>
          by_cases hStatus :
              200 ≤ resp.status ∧ resp.status < 300
          · cases hRead : C.serde.fromStr resp.body with
            | error e =>
                apply (Degraded.garbled hPost hReply hStatus
                  hRead).explained
                simp [anchorReceipt, hStatus, hRead,
                  anchoringOutcome, Except.mapError]
            | ok receipt =>
                have hReceipt :
                    anchorReceipt C (.ok resp) =
                      .ok receipt :=
                  anchorReceipt_of_read hStatus hRead
                rw [hReceipt]
                cases hSummary :
                    anchorSummaryFromReceipt C receipt with
                | error e =>
                    apply (Degraded.rejected hPost hReply
                      hStatus hRead hSummary).explained
                    simp only [anchoringOutcome, hSummary]
                | ok summary =>
                    refine Or.inl ⟨receipt, summary,
                      ⟨⟨post, resp, hPost, hReply, hStatus,
                        hRead⟩, hSummary⟩, ?_⟩
                    simp only [anchoringOutcome, hSummary]
                    rfl
          · apply (Degraded.refused hPost hReply
              hStatus).explained
            simp only [anchorReceipt, hStatus, not_false_eq_true,
              if_true, anchoringOutcome, refusalDetail]

end UnidppArchive

------------------------------------------------------------
-- The Records of a Run
------------------------------------------------------------

namespace UnidppArchive

/- The request that a record of the store comes from. -/
def FromRequest
    (C : Crates)
    (service : Service C)
    (requests : List ApiRequest)
    (r : SnapshotRecord) : Prop :=
  ∃ authorization env body,
    ⟨authorization, .createSnapshot env body⟩ ∈ requests ∧
      r.snapshotId = snapshotIdOf r.seq ∧
      r.notarizedAt = env.now ∧
      Explained C service.log env.transport (anchorSubject r)
        (r.commitment C) r.anchoring

variable {C : Crates}
variable {service : Service C}

/- A sealed record has the outcome that it explains. -/
theorem explained_ingestRecord
    {transport : AnchorPost → Except String HttpResponse}
    {seq : UInt64}
    {notarizedAt : Timestamp}
    {req : CreateRequest}
    {r : SnapshotRecord}
    (h :
      ingestRecord C service.notary seq notarizedAt req
          (anchorDraft C service transport
            (draftRecord seq notarizedAt req)) =
        .ok r) :
    Explained C service.log transport (anchorSubject r)
      (r.commitment C) r.anchoring := by
  have hCommitment := (commitment_ingestRecord h).1
  have hSubject :
      anchorSubject r =
        anchorSubject (draftRecord seq notarizedAt req) := by
    unfold anchorSubject
    rw [(fields_ingestRecord h).2.1, draftRecord,
      SnapshotRecord.new]
  rw [anchoring_ingestRecord h, hCommitment, hSubject]
  exact explained_outcome C service.log transport
    (anchorSubject (draftRecord seq notarizedAt req))
    ((draftRecord seq notarizedAt req).commitment C)

/- An ingest is handled as it is created. -/
theorem handle_of_createSnapshot
    {s : ServerState}
    {authorization : Option String}
    {env : CreateEnv}
    {body : String}
    {response : Response}
    {store : SnapshotStore}
    {disk : Disk}
    (h :
      createSnapshot C service env s.store
          ⟨authorization, body⟩ s.disk =
        (response, store, disk)) :
    handle C service s
        ⟨authorization, .createSnapshot env body⟩ =
      (response, ⟨store, disk⟩) := by
  unfold handle
  simp only [h]

/- A request adds at most the record that it asks for. -/
theorem handle_store_cases
    (service : Service C)
    (s : ServerState)
    (request : ApiRequest) :
    (handle C service s request).2.store = s.store ∨
      ∃ r, (handle C service s request).2.store =
          s.store.push r ∧
        FromRequest C service [request] r := by
  rcases request with ⟨authorization, call⟩
  cases call with
  | createSnapshot env body =>
      simp only [handle, createSnapshot]
      cases acceptPost C service env.errorAt
          ⟨authorization, body⟩ with
      | error deny => exact Or.inl rfl
      | ok req =>
          simp only [storeDraft, SnapshotStore.reserve]
          cases hRecord :
              ingestRecord C service.notary s.store.size
                env.now req
                (anchorDraft C service env.transport
                  (draftRecord s.store.size env.now req)) with
          | error e => exact Or.inl rfl
          | ok r =>
              simp only
              rcases hAppend :
                  s.store.appendSnapshot C env.io r s.disk with
                ⟨e | u, store', disk'⟩
              · exact Or.inl
                  (SnapshotStore.appendSnapshot_error hAppend)
              · rcases SnapshotStore.appendSnapshot_eq_ok_iff.mp
                    hAppend with
                  ⟨-, -, -, hStore, -⟩
                rcases fields_ingestRecord hRecord with
                  ⟨hSeq, hId, hInstant, -⟩
                rw [← hSeq] at hId
                exact Or.inr ⟨r, hStore, authorization, env,
                  body, by simp, hId, hInstant,
                  explained_ingestRecord hRecord⟩
  | _ => exact Or.inl rfl

/- Along a run every record comes from a request. -/
theorem fromRequest_of_mem_run
    {s : ServerState}
    (hEmpty : s.store.records = [])
    {requests : List ApiRequest}
    {r : SnapshotRecord}
    (hMem :
      r ∈ (Machine.run (handle C service) s
        requests).2.store.records) :
    FromRequest C service requests r := by
  have hStep :
      ∀ s : ServerState,
        (∀ r ∈ s.store.records,
          FromRequest C service requests r) →
        ∀ request ∈ requests,
          ∀ r ∈ (handle C service s request).2.store.records,
            FromRequest C service requests r := by
    intro s hs request hRequest
    rcases handle_store_cases service s request
      with hSame | ⟨r, hPush, authorization, env, body, hCall,
        hRest⟩
    · rw [hSame]
      exact hs
    · rw [hPush]
      intro q hq
      rcases List.mem_append.mp hq with hOld | hNew
      · exact hs q hOld
      · rw [List.mem_singleton.mp hNew]
        rw [List.mem_singleton] at hCall
        exact ⟨authorization, env, body, hCall ▸ hRequest,
          hRest⟩
  have hStart :
      ∀ r ∈ s.store.records,
        FromRequest C service requests r := by
    rw [hEmpty]
    intro r hr
    cases hr
  exact (Machine.run_invariant hStep hStart).1 r hMem

/-
  Every record of a service that started empty says what the
  log did for it: it is anchored and holds the receipt that
  it was sent and accepted, or it is not and gives a reason
  that is not empty, and never both.
-/
theorem every_outcome_explained
    (service : Service C)
    (s : ServerState)
    (hEmpty : s.store.records = [])
    (requests : List ApiRequest) :
    ∀ r ∈ (Machine.run (handle C service) s
        requests).2.store.records,
      FromRequest C service requests r ∧
        (r.anchoring.status = .anchored ↔
          ∃ receipt, r.anchoring.receipt = some receipt) ∧
        (r.anchoring.status = .unanchored ↔
          ∃ reason, r.anchoring.reason = some reason ∧
            reason ≠ "") := by
  intro r hr
  have hFrom := fromRequest_of_mem_run hEmpty hr
  refine ⟨hFrom, ?_⟩
  rcases hFrom with
    ⟨authorization, env, body, -, -, -, hExplained⟩
  rcases hExplained with ⟨receipt, summary, -, hOutcome⟩ |
    ⟨reason, -, hSome, hOutcome⟩
  · rw [hOutcome]
    simp [Anchoring.anchored]
  · rw [hOutcome]
    simpa [Anchoring.unanchored, Anchoring.withCommitment]
      using hSome

end UnidppArchive

------------------------------------------------------------
-- Services Side by Side
------------------------------------------------------------

namespace UnidppArchive

/-
  What a record notarizes: everything but the outcome of
  anchoring, and what is computed from that.
-/
def SnapshotRecord.bare
    (r : SnapshotRecord) : SnapshotRecord :=
  { r with
    anchoring := Anchoring.unanchoredDefault
    signature := []
    bodyDigest := Hash.zero }

/- Servers that have notarized the same. -/
structure SameArchive
    (s t : ServerState) : Prop where
  records :
    s.store.records.map SnapshotRecord.bare =
      t.store.records.map SnapshotRecord.bare
  journal : s.store.journal = t.store.journal
  snapshotDir : s.store.snapshotDir = t.store.snapshotDir

/- Requests alike, whatever a log answers to them. -/
inductive SameAsked :
    ApiRequest → ApiRequest → Prop where
  | posted
      (authorization : Option String)
      (env : CreateEnv)
      (transport : AnchorPost → Except String HttpResponse)
      (body : String) :
      SameAsked ⟨authorization, .createSnapshot env body⟩
        ⟨authorization,
          .createSnapshot { env with transport := transport }
            body⟩
  | same
      (request : ApiRequest) :
      SameAsked request request

/- Answers alike up to the body and what is derived of it. -/
structure SameAnswer
    (a b : Response) : Prop where
  status : a.status = b.status
  headers :
    ∀ name, name ≠ "etag" → name ≠ "x-anchored-receipt" →
      a.header? name = b.header? name

/- Answers alike that leave the servers alike. -/
structure SameOutcome
    (a b : Response × SnapshotStore × Disk) : Prop where
  answer : SameAnswer a.1 b.1
  archive : SameArchive ⟨a.2.1, a.2.2⟩ ⟨b.2.1, b.2.2⟩

/- Whether a key signs does not depend on the message. -/
def Signatif.Steady
    (S : Signatif)
    (key : S.KeyPair) : Prop :=
  ∀ b b',
    (∃ slot, S.sign key notarizationDomain b = .ok slot) →
      ∃ slot, S.sign key notarizationDomain b' = .ok slot

variable {C : Crates}
variable {service : Service C}
variable {log : LogAnchorConfig}
variable {s t : ServerState}

theorem SameAnswer.refl
    (a : Response) :
    SameAnswer a a :=
  ⟨rfl, fun _ _ _ => rfl⟩

/- The body of an answer is not looked at. -/
theorem sameAnswer_of_fields
    {a b : Response}
    (hStatus : a.status = b.status)
    (hHeaders : a.headers = b.headers) :
    SameAnswer a b :=
  ⟨hStatus, fun _ _ _ => by
    rw [Response.header?, hHeaders]
    rfl⟩

/- Of the headers, two are not looked at. -/
theorem sameAnswer_buildResponse
    {headers headers' : List (String × String)}
    (hHeaders :
      ∀ name, name ≠ "etag" → name ≠ "x-anchored-receipt" →
        headers.find? (·.1 == name) =
          headers'.find? (·.1 == name))
    (status : Nat)
    (body body' : String)
    (cache : CachePolicy) :
    SameAnswer (buildResponse status headers body cache)
      (buildResponse status headers' body' cache) := by
  refine ⟨rfl, ?_⟩
  intro name hTag hReceipt
  unfold Response.header? buildResponse
  simp only [List.find?_append, hHeaders name hTag hReceipt]

theorem SameArchive.size_eq
    (h : SameArchive s t) :
    s.store.size = t.store.size := by
  have hLength := congrArg List.length h.records
  rw [List.length_map, List.length_map] at hLength
  rw [SnapshotStore.size, SnapshotStore.size, hLength]

theorem SameArchive.push
    (h : SameArchive s t)
    {r q : SnapshotRecord}
    (hBare : r.bare = q.bare)
    (d d' : Disk) :
    SameArchive ⟨s.store.push r, d⟩ ⟨t.store.push q, d'⟩ where
  records := by
    simp only [SnapshotStore.push, List.map_append, h.records,
      List.map_cons, List.map_nil, hBare]
  journal := h.journal
  snapshotDir := h.snapshotDir

/- A draft is sealed whenever the key signs. -/
theorem exists_ingestRecord_iff
    {notary : C.signatif.KeyPair}
    {seq : UInt64}
    {notarizedAt : Timestamp}
    {req : CreateRequest}
    {answer : Except String Json.Value} :
    (∃ r,
        ingestRecord C notary seq notarizedAt req answer =
          .ok r) ↔
      ∃ slot,
        C.signatif.sign notary notarizationDomain
            ((anchoredDraft C seq notarizedAt req
              answer).statementBytes C) = .ok slot := by
  constructor
  · rintro ⟨r, hRecord⟩
    rcases (sealedFrom_ingestRecord hRecord).signature with
      ⟨slot, hSign, -⟩
    exact ⟨slot, hSign⟩
  · rintro ⟨slot, hSign⟩
    unfold ingestRecord SnapshotRecord.sealWith
    rw [hSign]
    exact ⟨_, rfl⟩

/- The two records of one draft notarize the same. -/
theorem bare_ingestRecord
    {notary : C.signatif.KeyPair}
    {seq : UInt64}
    {notarizedAt : Timestamp}
    {req : CreateRequest}
    {answer answer' : Except String Json.Value}
    {r q : SnapshotRecord}
    (hr :
      ingestRecord C notary seq notarizedAt req answer =
        .ok r)
    (hq :
      ingestRecord C notary seq notarizedAt req answer' =
        .ok q) :
    r.bare = q.bare := by
  rw [(sealedFrom_ingestRecord hr).fields,
    (sealedFrom_ingestRecord hq).fields]
  rfl

/- What the two are answered differs in the body only. -/
theorem sameAnswer_createdResponse
    {r q : SnapshotRecord}
    (hBare : r.bare = q.bare) :
    SameAnswer (createdResponse C r) (createdResponse C q) := by
  have hId : r.snapshotId = q.snapshotId := by
    simpa [SnapshotRecord.bare] using
      congrArg SnapshotRecord.snapshotId hBare
  have hAt : r.notarizedAt = q.notarizedAt := by
    simpa [SnapshotRecord.bare] using
      congrArg SnapshotRecord.notarizedAt hBare
  apply sameAnswer_buildResponse
  intro name hTag hReceipt
  have hTag' : ("etag" == name) = false :=
    beq_false_of_ne (Ne.symm hTag)
  have hReceipt' : ("x-anchored-receipt" == name) = false :=
    beq_false_of_ne (Ne.symm hReceipt)
  have hExtra (a : Anchoring) (seq : String) :
      (if a.status = .anchored then
          [("x-anchored-receipt", seq)]
        else
          []).find? (·.1 == name) = none := by
    split <;> simp [hReceipt']
  simp only [hId, hAt, List.find?_append, List.find?_cons,
    List.find?_nil, hTag', hExtra]

/- Appends of admitted records succeed alike. -/
theorem appendSnapshot_of_admits
    {store : SnapshotStore}
    {r : SnapshotRecord}
    (hAdmits : Admits C store.records r)
    (io : AppendIo)
    (disk : Disk) :
    (((store.journal = true → io.journal = .done) ∧
        (store.snapshotDir ≠ none →
          io.snapshotFile = .done)) ∧
        ∃ disk',
          store.appendSnapshot C io r disk =
            (.ok (), store.push r, disk')) ∨
      (¬ ((store.journal = true → io.journal = .done) ∧
          (store.snapshotDir ≠ none →
            io.snapshotFile = .done)) ∧
        ∃ m disk',
          store.appendSnapshot C io r disk =
            (.error (.journal m), store, disk')) := by
  by_cases hWritten :
      (store.journal = true → io.journal = .done) ∧
        (store.snapshotDir ≠ none → io.snapshotFile = .done)
  · left
    exact ⟨hWritten, _,
      SnapshotStore.appendSnapshot_eq_ok_iff.mpr
        ⟨hAdmits, hWritten.1, hWritten.2, rfl, rfl⟩⟩
  · right
    refine ⟨hWritten, ?_⟩
    rcases hAppend : store.appendSnapshot C io r disk with
      ⟨e | u, store', disk'⟩
    · have hStore := SnapshotStore.appendSnapshot_error hAppend
      subst hStore
      unfold SnapshotStore.appendSnapshot at hAppend
      rw [SnapshotStore.checkRecord_eq_ok_iff.mpr hAdmits]
        at hAppend
      rcases hLine : store'.writeJournal C io r disk with
        ⟨e' | u, disk₁⟩
      · rcases (SnapshotStore.writeJournal_effect
            hLine).2.2.2 e' rfl with
          ⟨m, rfl⟩
        simp only [hLine, Prod.mk.injEq, Except.error.injEq]
          at hAppend
        exact ⟨m, disk', by rw [← hAppend.1]⟩
      · simp only [hLine] at hAppend
        rcases hFile :
            store'.writeSnapshotFile C io r disk₁ with
          ⟨e' | u, disk₂⟩
        · rcases (SnapshotStore.writeSnapshotFile_effect
              hFile).2.2.2 e' rfl with
            ⟨m, rfl⟩
          simp only [hFile, Prod.mk.injEq, Except.error.injEq]
            at hAppend
          exact ⟨m, disk', by rw [← hAppend.1]⟩
        · simp only [hFile, Prod.mk.injEq, reduceCtorEq,
            false_and] at hAppend
    · rcases SnapshotStore.appendSnapshot_eq_ok_iff.mp hAppend
        with ⟨-, hJournal, hFile, -⟩
      exact absurd ⟨hJournal, hFile⟩ hWritten

end UnidppArchive

------------------------------------------------------------
-- What No Log Decides
------------------------------------------------------------

namespace UnidppArchive

variable {C : Crates}
variable {service : Service C}
variable {s t : ServerState}

/- Two drafts of one request are stored, or fail, alike. -/
theorem SameArchive.storeDraft
    (hSame : SameArchive s t)
    (hSteady : C.signatif.Steady service.notary)
    (log : LogAnchorConfig)
    (env : CreateEnv)
    (transport : AnchorPost → Except String HttpResponse)
    (req : CreateRequest) :
    SameOutcome
      (UnidppArchive.storeDraft C service env s.store
        s.store.size env.now req s.disk)
      (UnidppArchive.storeDraft C { service with log := log }
        { env with transport := transport } t.store
        t.store.size env.now req t.disk) := by
  rw [← hSame.size_eq]
  unfold UnidppArchive.storeDraft
  simp only
  generalize anchorDraft C service env.transport
    (draftRecord s.store.size env.now req) = answer
  generalize anchorDraft C { service with log := log } transport
    (draftRecord s.store.size env.now req) = answer'
  have hSeals :
      (∃ r, ingestRecord C service.notary s.store.size env.now
          req answer = .ok r) ↔
        ∃ q, ingestRecord C service.notary s.store.size env.now
          req answer' = .ok q := by
    rw [exists_ingestRecord_iff, exists_ingestRecord_iff]
    exact ⟨hSteady _ _, hSteady _ _⟩
  cases hr :
      ingestRecord C service.notary s.store.size env.now req
        answer with
  | error e =>
      cases hq :
          ingestRecord C service.notary s.store.size env.now
            req answer' with
      | error e' =>
          exact ⟨sameAnswer_of_fields rfl rfl, hSame⟩
      | ok q =>
          rcases hSeals.mpr ⟨q, hq⟩ with ⟨r, hr'⟩
          rw [hr] at hr'
          cases hr'
  | ok r =>
      rcases hSeals.mp ⟨r, hr⟩ with ⟨q, hq⟩
      have hBare := bare_ingestRecord hr hq
      have hAdmits := admits_ingestRecord hr rfl
      have hAdmits' := admits_ingestRecord hq hSame.size_eq
      rw [hq]
      simp only
      rcases appendSnapshot_of_admits hAdmits env.io s.disk
        with ⟨hWritten, d, hAppend⟩ | ⟨hFailed, m, d, hAppend⟩
      · rcases appendSnapshot_of_admits hAdmits' env.io t.disk
          with ⟨-, d', hAppend'⟩ | ⟨hFailed, -⟩
        · simp only [hAppend, hAppend']
          exact ⟨sameAnswer_createdResponse hBare,
            hSame.push hBare d d'⟩
        · rw [hSame.journal, hSame.snapshotDir] at hWritten
          exact absurd hWritten hFailed
      · rcases appendSnapshot_of_admits hAdmits' env.io t.disk
          with ⟨hWritten, -⟩ | ⟨-, m', d', hAppend'⟩
        · rw [hSame.journal, hSame.snapshotDir] at hFailed
          exact absurd hWritten hFailed
        · simp only [hAppend, hAppend']
          exact ⟨sameAnswer_of_fields rfl rfl, hSame.records,
            hSame.journal, hSame.snapshotDir⟩

/- A record is found in both, or in none. -/
theorem SameArchive.get
    (hSame : SameArchive s t)
    (id : String) :
    (s.store.get id).map SnapshotRecord.bare =
      (t.store.get id).map SnapshotRecord.bare := by
  unfold SnapshotStore.get
  have hFind (rs : List SnapshotRecord) :
      (rs.find? (·.snapshotId == id)).map
          SnapshotRecord.bare =
        (rs.map SnapshotRecord.bare).find?
          (·.snapshotId == id) := by
    rw [List.find?_map]
    rfl
  rw [hFind, hFind, hSame.records]

theorem SameArchive.getSnapshot
    (hSame : SameArchive s t)
    (now : Timestamp)
    (id : String) :
    SameAnswer (UnidppArchive.getSnapshot C s.store now id)
      (UnidppArchive.getSnapshot C t.store now id) := by
  have hGet := hSame.get (Text.trim id)
  unfold UnidppArchive.getSnapshot
  simp only
  cases hs : s.store.get (Text.trim id) with
  | none =>
      rw [hs] at hGet
      rw [Option.map_eq_none_iff.mp hGet.symm]
      exact SameAnswer.refl _
  | some r =>
      rw [hs, Option.map_some] at hGet
      rcases Option.map_eq_some_iff.mp hGet.symm with
        ⟨q, hq, hBare⟩
      have hAt : r.notarizedAt = q.notarizedAt := by
        simpa [SnapshotRecord.bare] using
          (congrArg SnapshotRecord.notarizedAt hBare).symm
      rw [hq]
      apply sameAnswer_buildResponse
      intro name hTag _
      have hTag' : ("etag" == name) = false :=
        beq_false_of_ne (Ne.symm hTag)
      simp only [hAt, List.find?_cons, hTag']

theorem SameArchive.createSnapshot
    (hSame : SameArchive s t)
    (hSteady : C.signatif.Steady service.notary)
    (log : LogAnchorConfig)
    (env : CreateEnv)
    (transport : AnchorPost → Except String HttpResponse)
    (post : CreatePost) :
    SameOutcome
      (UnidppArchive.createSnapshot C service env s.store post
        s.disk)
      (UnidppArchive.createSnapshot C
        { service with log := log }
        { env with transport := transport } t.store post
        t.disk) := by
  have hAccept :
      acceptPost C { service with log := log } env.errorAt
          post =
        acceptPost C service env.errorAt post :=
    rfl
  unfold UnidppArchive.createSnapshot
  rw [hAccept]
  cases acceptPost C service env.errorAt post with
  | error deny => exact ⟨SameAnswer.refl _, hSame⟩
  | ok req =>
      simp only [SnapshotStore.reserve]
      exact hSame.storeDraft hSteady log env transport req

/- No status and no header depends on what is listed. -/
theorem sameAnswer_listSnapshots
    (store store' : SnapshotStore)
    (now : Timestamp)
    (params : String → Option String) :
    SameAnswer (listSnapshots C store now params)
      (listSnapshots C store' now params) := by
  unfold listSnapshots
  cases Api.parseAt params with
  | error e => exact SameAnswer.refl _
  | ok at? => exact sameAnswer_of_fields rfl rfl

theorem sameAnswer_adminLog
    (log : LogAnchorConfig)
    (store store' : SnapshotStore)
    (now : Timestamp)
    (authorization : Option String)
    (params : String → Option String) :
    SameAnswer
      (adminLog C service store now authorization params)
      (adminLog C { service with log := log } store' now
        authorization params) := by
  have hAdmin :
      requireAdmin C { service with log := log } now
          authorization =
        requireAdmin C service now authorization :=
    rfl
  unfold adminLog
  rw [hAdmin]
  cases requireAdmin C service now authorization with
  | some deny => exact SameAnswer.refl _
  | none => exact sameAnswer_of_fields rfl rfl

/- One request to each of two servers. -/
theorem SameArchive.handle
    (hSame : SameArchive s t)
    (hSteady : C.signatif.Steady service.notary)
    (log : LogAnchorConfig)
    {i k : ApiRequest}
    (hAsked : SameAsked i k) :
    SameAnswer (UnidppArchive.handle C service s i).1
        (UnidppArchive.handle C { service with log := log } t
          k).1 ∧
      SameArchive (UnidppArchive.handle C service s i).2
        (UnidppArchive.handle C { service with log := log } t
          k).2 := by
  cases hAsked with
  | posted authorization env transport body =>
      have hOutcome :=
        hSame.createSnapshot hSteady log env transport
          ⟨authorization, body⟩
      exact ⟨hOutcome.answer, hOutcome.archive⟩
  | same =>
      rcases i with ⟨authorization, call⟩
      cases call with
      | createSnapshot env body =>
          have hOutcome :=
            hSame.createSnapshot hSteady log env env.transport
              ⟨authorization, body⟩
          exact ⟨hOutcome.answer, hOutcome.archive⟩
      | unreadablePost answer =>
          exact ⟨SameAnswer.refl _, hSame⟩
      | getSnapshot now id =>
          exact ⟨hSame.getSnapshot now id, hSame⟩
      | listSnapshots now params =>
          exact ⟨sameAnswer_listSnapshots _ _ now params, hSame⟩
      | healthz shownAt stampedAt =>
          exact ⟨sameAnswer_of_fields rfl rfl, hSame⟩
      | adminLog now params =>
          exact ⟨sameAnswer_adminLog log _ _ now authorization
            params, hSame⟩
      | other answer => exact ⟨SameAnswer.refl _, hSame⟩

end UnidppArchive

------------------------------------------------------------
-- One Ingest With and Without a Log
------------------------------------------------------------

namespace UnidppArchive

namespace Reference

open Json

def emptyServer : ServerState :=
  ⟨emptyStore, diskOf (some [])⟩

/- The sample request, and what a log answers meanwhile. -/
def postTo
    (transport : AnchorPost → Except String HttpResponse) :
    ApiRequest :=
  ⟨none,
    .createSnapshot ⟨now, now, transport, .sound⟩
      createPost.body⟩

/- The first request is stored. -/
theorem exists_posted
    (log : LogAnchorConfig)
    (transport : AnchorPost → Except String HttpResponse) :
    ∃ r,
      ingestRecord crates notary 0 now request
          (anchorDraft crates (withLog log)
            transport (draftRecord 0 now request)) = .ok r ∧
        (Machine.run (handle crates (withLog log)) emptyServer
          [postTo transport]).2.store.records = [r] := by
  have hToken : (withLog log).adminToken = none := rfl
  rcases exists_created hToken transport emptyStore
      (diskOf (some [])) with
    ⟨r, hRecord, hCreated, -⟩
  have hHandle :
      handle crates (withLog log) emptyServer
          (postTo transport) =
        (createdResponse crates r,
          ⟨emptyStore.push r,
            emptyStore.recorded crates r
              (diskOf (some []))⟩) :=
    handle_of_createSnapshot hCreated
  refine ⟨r, hRecord, ?_⟩
  rw [Machine.run_singleton, hHandle, SnapshotStore.push,
    emptyStore, List.nil_append]

theorem withLog_log :
    withLog service.log = service := by
  rfl

end Reference

open Reference in
/- The record of a request whose receipt is accepted. -/
theorem every_outcome_explained_sample :
    ∃ r,
      (Machine.run (handle crates (withLog someLog))
            emptyServer
            [postTo receiptReply]).2.store.records =
          [r] ∧
        FromRequest crates (withLog someLog)
          [postTo receiptReply] r ∧
        r.anchoring.status = .anchored ∧
        ∃ receipt, r.anchoring.receipt = some receipt := by
  rcases exists_posted someLog receiptReply with
    ⟨r, hRecord, hRun⟩
  have hStatus : r.anchoring.status = .anchored :=
    (anchored_ingestRecord hRecord
      ⟨anchorDraft_receiptReply (draftRecord 0 now request),
        summary_working_day "s" "c"⟩).1
  have hMem :
      r ∈ (Machine.run (handle crates (withLog someLog))
        emptyServer
        [postTo receiptReply]).2.store.records := by
    rw [hRun]
    exact List.mem_singleton.mpr rfl
  rcases every_outcome_explained (withLog someLog) emptyServer
      rfl [postTo receiptReply] r hMem with
    ⟨hFrom, hReceipt, -⟩
  exact ⟨r, hRun, hFrom, hStatus, hReceipt.mp hStatus⟩

end UnidppArchive
