import UnidppArchive.Api.Exchange

/-
  An archive whose log is reached over a network
  (`api.rs`, `http.rs`).

  The client panics on some answers of a log.  Then the
  request gets no response, and the archive is as it was.
  Otherwise nothing that the log answers changes what is
  notarized.

  Key definitions include:
    * `clientPanics`
    * `handleOver`

  Key theorems include:
    * `handleOver_cases`
    * `log_never_decides`
-/

------------------------------------------------------------
-- Requests over a Network
------------------------------------------------------------

namespace UnidppArchive

open Http

/- What the hop gets, when the client does not panic. -/
def overNet
    (width : Nat)
    (net : Network)
    (post : AnchorPost) : Except String HttpResponse :=
  (wireTransport width net post).getD (.error "")

/- The request, with its hop over this network. -/
def ApiRequest.over
    (width : Nat)
    (net : Network)
    (request : ApiRequest) : ApiRequest :=
  match request.call with
  | .createSnapshot env body =>
      ⟨request.authorization,
        .createSnapshot
          { env with transport := overNet width net } body⟩
  | _ => request

variable (C : Crates)

/- The client panics on the answer to a commitment. -/
def clientPanics
    (width : Nat)
    (service : Service C)
    (s : ServerState)
    (i : ApiRequest × Network) : Bool :=
  (logPosts C service s i.1).any fun post =>
    (wireTransport width i.2 post).isNone

/-
  Answer one request, with the network as it is meanwhile.  A
  panic of the client ends the handler between the reserving
  and the sealing of the record, without a response.
-/
def handleOver
    (width : Nat)
    (service : Service C)
    (s : ServerState)
    (i : ApiRequest × Network) :
    Option Response × ServerState :=
  if clientPanics C width service s i then
    (none, s)
  else
    let (response, s') :=
      handle C service s (i.1.over width i.2)
    (some response, s')

variable {C}
variable {width : Nat}
variable {service : Service C}
variable {s t : ServerState}

/- The client panics, or the request is handled. -/
theorem handleOver_cases
    (width : Nat)
    (service : Service C)
    (s : ServerState)
    (i : ApiRequest × Network) :
    ((∃ post ∈ logPosts C service s i.1,
          wireTransport width i.2 post = none) ∧
        handleOver C width service s i = (none, s)) ∨
      (∀ post ∈ logPosts C service s i.1,
          wireTransport width i.2 post ≠ none) ∧
        handleOver C width service s i =
          (some (handle C service s (i.1.over width i.2)).1,
            (handle C service s (i.1.over width i.2)).2) := by
  have hPanics :
      clientPanics C width service s i = true ↔
        ∃ post ∈ logPosts C service s i.1,
          wireTransport width i.2 post = none := by
    simp only [clientPanics, List.any_eq_true,
      Option.isNone_iff_eq_none]
  unfold handleOver
  cases hClient : clientPanics C width service s i with
  | true => exact Or.inl ⟨hPanics.mp hClient, rfl⟩
  | false =>
      refine Or.inr ⟨?_, rfl⟩
      intro post hPost hNone
      rw [hPanics.mpr ⟨post, hPost, hNone⟩] at hClient
      cases hClient

/- Without a response a request leaves nothing behind. -/
theorem handleOver_eq_none_iff
    {i : ApiRequest × Network} :
    (handleOver C width service s i).1 = none ↔
      handleOver C width service s i = (none, s) ∧
        ∃ post ∈ logPosts C service s i.1,
          wireTransport width i.2 post = none := by
  rcases handleOver_cases width service s i with
    ⟨hPanics, hNone⟩ | ⟨-, hHandled⟩
  · rw [hNone]
    exact ⟨fun _ => ⟨rfl, hPanics⟩, fun _ => rfl⟩
  · rw [hHandled]
    simp

/- On networks without panics every request is handled. -/
theorem run_handleOver
    (width : Nat)
    (service : Service C)
    (s : ServerState)
    {requests : List (ApiRequest × Network)}
    (h :
      ∀ i ∈ requests, ∀ post,
        wireTransport width i.2 post ≠ none) :
    (∀ a ∈ (Machine.run (handleOver C width service) s
        requests).1, a.2 ≠ none) ∧
      (Machine.run (handleOver C width service) s
          requests).2 =
        (Machine.run (handle C service) s
          (requests.map fun i => i.1.over width i.2)).2 := by
  induction requests generalizing s with
  | nil => exact ⟨by simp [Machine.run], rfl⟩
  | cons i requests ih =>
      rw [List.forall_mem_cons] at h
      rcases handleOver_cases width service s i with
        ⟨⟨post, -, hNone⟩, -⟩ | ⟨-, hHandled⟩
      · exact absurd hNone (h.1 post)
      · rw [List.map_cons, Machine.run_cons, Machine.run_cons,
          hHandled]
        rcases ih _ h.2 with ⟨hAnswered, hLast⟩
        refine ⟨?_, hLast⟩
        rw [List.forall_mem_cons]
        exact ⟨by simp, hAnswered⟩

end UnidppArchive

------------------------------------------------------------
-- Two Logs
------------------------------------------------------------

namespace UnidppArchive

open Http

variable {C : Crates}
variable {width : Nat}
variable {service : Service C}
variable {s t : ServerState}

/- One request over two networks is the same request. -/
theorem sameAsked_over
    (width : Nat)
    (net net' : Network)
    (request : ApiRequest) :
    SameAsked (request.over width net)
      (request.over width net') := by
  rcases request with ⟨authorization, call⟩
  cases call with
  | createSnapshot env body =>
      exact .posted authorization
        { env with transport := overNet width net }
        (overNet width net') body
  | _ => exact .same _

/- Answers that are both given, and alike. -/
def BothAnswer
    (a b : Option Response) : Prop :=
  ∃ x y, a = some x ∧ b = some y ∧ SameAnswer x y

/- One request to each of two servers, and two networks. -/
theorem SameArchive.handleOver
    (hSame : SameArchive s t)
    (hSteady : C.signatif.Steady service.notary)
    (log : LogAnchorConfig)
    {i k : ApiRequest × Network}
    (hAsked : i.1 = k.1)
    (hAnswered :
      (UnidppArchive.handleOver C width service s i).1 ≠ none)
    (hAnswered' :
      (UnidppArchive.handleOver C width
          { service with log := log } t k).1 ≠
        none) :
    BothAnswer
        (UnidppArchive.handleOver C width service s i).1
        (UnidppArchive.handleOver C width
          { service with log := log } t k).1 ∧
      SameArchive
        (UnidppArchive.handleOver C width service s i).2
        (UnidppArchive.handleOver C width
          { service with log := log } t k).2 := by
  rcases handleOver_cases width service s i with
    ⟨-, hNone⟩ | ⟨-, hFirst⟩
  · rw [hNone] at hAnswered
    exact absurd rfl hAnswered
  rcases handleOver_cases width
      { service with log := log } t k with
    ⟨-, hNone⟩ | ⟨-, hSecond⟩
  · rw [hNone] at hAnswered'
    exact absurd rfl hAnswered'
  rcases hSame.handle hSteady log
      (sameAsked_over width i.2 k.2 k.1) with
    ⟨hAnswer, hNext⟩
  rw [hFirst, hSecond, hAsked]
  exact ⟨⟨_, _, rfl, rfl, hAnswer⟩, hNext⟩

/-
  Two services with one token and one key, whatever logs they
  have and whatever these answer, give alike answers to the
  same requests, and end with the same snapshots and
  commitments, as long as their clients do not panic on what
  the logs answer.  A client that does leaves nothing behind.
-/
theorem log_never_decides
    (width : Nat)
    (hSteady : C.signatif.Steady service.notary)
    (log : LogAnchorConfig)
    (hSame : SameArchive s t)
    {requests requests' : List (ApiRequest × Network)}
    (hAsked :
      List.Forall₂ (fun i k => i.1 = k.1) requests requests')
    (hAnswered :
      ∀ a ∈ (Machine.run (handleOver C width service) s
        requests).1, a.2 ≠ none)
    (hAnswered' :
      ∀ a ∈ (Machine.run
        (handleOver C width { service with log := log }) t
        requests').1, a.2 ≠ none) :
    List.Forall₂ (fun a b => BothAnswer a.2 b.2)
        (Machine.run (handleOver C width service) s
          requests).1
        (Machine.run
          (handleOver C width { service with log := log }) t
          requests').1 ∧
      SameArchive
        (Machine.run (handleOver C width service) s
          requests).2
        (Machine.run
          (handleOver C width { service with log := log }) t
          requests').2 ∧
      (Machine.run (handleOver C width service) s
          requests).2.store.records.map
            (fun r => (r.snapshotId, r.commitment C)) =
        (Machine.run
          (handleOver C width { service with log := log }) t
          requests').2.store.records.map
            (fun r => (r.snapshotId, r.commitment C)) ∧
      ∀ (service : Service C) s i,
        (handleOver C width service s i).1 = none ↔
          handleOver C width service s i = (none, s) ∧
            ∃ post ∈ logPosts C service s i.1,
              wireTransport width i.2 post = none := by
  have hStep (s t : ServerState)
      (i k : ApiRequest × Network)
      (hSame : SameArchive s t)
      (hAsked : i.1 = k.1)
      (hAnswered : (handleOver C width service s i).1 ≠ none)
      (hAnswered' :
        (handleOver C width { service with log := log } t
          k).1 ≠ none) :=
    hSame.handleOver hSteady log hAsked hAnswered hAnswered'
  rcases Machine.run_related (P := (· ≠ none))
      (Q := (· ≠ none)) hStep hAsked hSame hAnswered
      hAnswered' with
    ⟨hAnswers, hLast⟩
  refine ⟨hAnswers.imp fun _ _ h => h.2, hLast, ?_,
    fun _ _ _ => handleOver_eq_none_iff⟩
  have hNames (rs : List SnapshotRecord) :
      rs.map (fun r => (r.snapshotId, r.commitment C)) =
        (rs.map SnapshotRecord.bare).map
          (fun r => (r.snapshotId, r.commitment C)) := by
    rw [List.map_map]
    rfl
  exact (hNames _).trans
    ((congrArg _ hLast.records).trans (hNames _).symm)

namespace Reference

/- A network on which nothing can be reached. -/
def noNet : Network :=
  fun _ _ _ => .error ⟨.unexpectedEof, "closed"⟩

theorem wireTransport_noNet
    (post : AnchorPost) :
    wireTransport 64 noNet post ≠ none := by
  unfold wireTransport jsonRequest
  cases Url.parse post.url with
  | error e => simp
  | ok u => simp [Http.request, noNet, requestOutcome]

/- No receipt of the sample log makes the client panic. -/
theorem wireTransport_logNet
    (post : AnchorPost) :
    wireTransport 64 logNet post ≠ none := by
  unfold wireTransport jsonRequest
  cases Url.parse post.url with
  | error e => simp
  | ok u =>
      simp only [Http.request, logNet]
      generalize readPost _ = answer
      cases answer with
      | none => simp [requestOutcome]
      | some parts =>
          have hOutcome :=
            requestOutcome_of_carries
              (sentHead_sentReceipt parts.1 parts.2)
              (carries_sentReceipt parts.1 parts.2)
          simp [hOutcome]

/- Over that network the sample log sends its receipt. -/
theorem anchorDraft_logNet :
    ∃ subject commitment,
      anchorDraft crates (withLog logConfig)
          (overNet 64 logNet) (draftRecord 0 now request) =
        .ok (issued subject commitment) := by
  have hInverts :
      crates.serde.Inverts
        (anchorBody crates
          (anchorSubject (draftRecord 0 now request))
          ((draftRecord 0 now request).commitment crates)) :=
    inverts_serde _
  have hFits :
      Text.byteLen
          (crates.serde.toString
            (anchorBody crates
              (anchorSubject (draftRecord 0 now request))
              ((draftRecord 0 now request).commitment
                crates))) <
        2 ^ 64 := by
    decide +kernel
  rcases honestLog_logNet.wireTransport_eq hexLaw hInverts rfl
      parse_logConfig plainRequest_logConfig hFits with
    ⟨post, status, text, hPost, hStatus, hArrives, hReads⟩
  have hReply :
      overNet 64 logNet post = .ok ⟨status, text⟩ := by
    rw [overNet, hArrives, Option.getD_some]
  have hReceipt := anchorReceipt_of_read hStatus hReads
  rw [← hReply, ← anchor_of_post hPost] at hReceipt
  exact ⟨_, _, hReceipt⟩

/- Over a network without panics the ingest is stored. -/
theorem exists_postedOver
    (log : LogAnchorConfig)
    {net : Network}
    (hNet : ∀ post, wireTransport 64 net post ≠ none) :
    ∃ r,
      ingestRecord crates notary 0 now request
          (anchorDraft crates (withLog log) (overNet 64 net)
            (draftRecord 0 now request)) =
        .ok r ∧
      (∀ a ∈ (Machine.run (handleOver crates 64 (withLog log))
          emptyServer [(postTo wired, net)]).1,
        a.2 ≠ none) ∧
      (Machine.run (handleOver crates 64 (withLog log))
          emptyServer
          [(postTo wired, net)]).2.store.records =
        [r] := by
  have hSteps :
      ∀ i ∈ [(postTo wired, net)], ∀ post,
        wireTransport 64 i.2 post ≠ none := by
    simpa using hNet
  rcases run_handleOver 64 (withLog log) emptyServer hSteps
    with
    ⟨hAnswered, hRun⟩
  have hOver :
      [(postTo wired, net)].map (fun i => i.1.over 64 i.2) =
        [postTo (overNet 64 net)] :=
    rfl
  rcases exists_posted log (overNet 64 net) with
    ⟨r, hRecord, hLast⟩
  rw [← hOver, ← hRun] at hLast
  exact ⟨r, hRecord, hAnswered, hLast⟩

end Reference

open Reference in
/- One is anchored, and the other has no log. -/
theorem log_never_decides_sample :
    ∃ r q,
      (Machine.run
            (handleOver crates 64 Reference.service) emptyServer
            [(postTo wired, noNet)]).2.store.records =
          [r] ∧
        (Machine.run (handleOver crates 64 (withLog logConfig))
            emptyServer
            [(postTo wired, logNet)]).2.store.records =
          [q] ∧
        r.anchoring.status = .unanchored ∧
        q.anchoring.status = .anchored ∧
        r.bare = q.bare := by
  have hSteady :
      crates.signatif.Steady Reference.service.notary :=
    fun _ _ _ => ⟨_, rfl⟩
  have hStart : SameArchive emptyServer emptyServer :=
    ⟨rfl, rfl, rfl⟩
  have hAsked :
      List.Forall₂ (fun i k => i.1 = k.1)
        [(postTo wired, noNet)] [(postTo wired, logNet)] :=
    .cons rfl .nil
  rcases exists_postedOver Reference.service.log
      wireTransport_noNet with
    ⟨r, hRecord, hAnswered, hLast⟩
  rcases exists_postedOver logConfig wireTransport_logNet with
    ⟨q, hRecord', hAnswered', hLast'⟩
  rw [withLog_log] at hRecord hAnswered hLast
  refine ⟨r, q, hLast, hLast', ?_, ?_, ?_⟩
  · rcases anchorDraft_error (overNet 64 noNet)
        (draftRecord 0 now request) with
      ⟨e, hError⟩
    rw [anchoring_ingestRecord hRecord, hError]
    rfl
  · rcases anchorDraft_logNet with
      ⟨subject, commitment, hReceipt⟩
    exact (anchored_ingestRecord hRecord'
      ⟨hReceipt, summary_working_day subject _⟩).1
  · have hSame :=
      (log_never_decides 64 hSteady logConfig hStart hAsked
        hAnswered hAnswered').2.1.records
    have hLogged :
        Service.mk Reference.service.adminToken logConfig
            Reference.service.notary =
          withLog logConfig :=
      rfl
    rw [hLogged, hLast, hLast'] at hSame
    simpa using hSame

end UnidppArchive
