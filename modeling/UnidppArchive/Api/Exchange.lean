import UnidppArchive.Api.Degradation
import UnidppArchive.Api.Delivery
import UnidppArchive.Api.Wire

/-
  An archive and an honest log, over the wire
  (`log_anchor.rs`, `http.rs`).

  The log reads the octets of a POST, issues a receipt for
  the subject and the commitment in it, and sends the receipt
  in any framing.  Every snapshot of the archive then holds
  the receipt that was issued for itself.

  Key definitions include:
    * `CommitmentPost`
    * `HonestLog`
    * `ApiRequest.OverWire`

  Key theorems include:
    * `commitmentPost_wireOctets`
    * `HonestLog.wireTransport_eq`
    * `honest_log_anchors_every_snapshot`
-/

------------------------------------------------------------
-- Honest Logs
------------------------------------------------------------

namespace UnidppArchive

open Http
open Json

/-
  The octets are a POST under this URL, with the token, that
  submits a commitment for a subject.
-/
def CommitmentPost
    (C : Crates)
    (u : Url)
    (token : Option String)
    (subject : String)
    (commitment : Hash)
    (octets : Bytes) : Prop :=
  ∃ headers text,
    octets =
        writeRequest "POST" u headers
          (some (Utf8.encode text)) ∧
      Deliverable "POST" u headers ∧
      header? headers "authorization" =
        token.map (fun t => s!"Bearer {t}") ∧
      Submits C subject commitment text ∧
      Text.byteLen text < 2 ^ 64

/-
  The peer at the URL of the log answers a commitment with
  the receipt that it issues, in any framing and in any text
  that reads as the receipt, and its receipts are accepted.
-/
structure HonestLog
    (C : Crates)
    (width : Nat)
    (net : Network)
    (u : Url)
    (token : Option String)
    (issue : String → Hash → Value) : Prop where
  answers :
    ∀ octets subject commitment,
      CommitmentPost C
          ⟨u.host, u.port, commitmentsTarget u.pathAndQuery⟩
          token subject commitment octets →
        ∃ c status headers sent text,
          net u.host u.port octets = .ok c ∧
            (200 ≤ status ∧ status < 300) ∧
            SentHead c status headers sent ∧
            Carries width headers c.ending sent text ∧
            C.serde.fromStr text =
              .ok (issue subject commitment)
  accepted :
    ∀ subject commitment, ∃ summary,
      anchorSummaryFromReceipt C (issue subject commitment) =
        .ok summary

/- An ingest whose anchoring hop goes over this network. -/
def ApiRequest.OverWire
    (width : Nat)
    (net : Network)
    (request : ApiRequest) : Prop :=
  ∀ env body, request.call = .createSnapshot env body →
    ∀ post answer,
      wireTransport width net post = some answer →
        env.transport post = answer

variable {C : Crates}
variable {config : LogAnchorConfig}
variable {width : Nat}
variable {net : Network}
variable {base subject : String}
variable {commitment : Hash}
variable {u : Url}
variable {issue : String → Hash → Value}

/- The archive posts commitments so. -/
theorem commitmentPost_wireOctets
    {post : AnchorPost}
    (hHex : C.model.HexLaw)
    (hInverts :
      C.serde.Inverts (anchorBody C subject commitment))
    (hPlain : PlainRequest u post.bearer)
    (hFits : Text.byteLen post.body < 2 ^ 64)
    (hBody :
      post.body =
        C.serde.toString (anchorBody C subject commitment)) :
    CommitmentPost C u post.bearer subject commitment
      (wireOctets u post) := by
  have hSubmits := submits_anchorBody hHex hInverts
  rw [← hBody] at hSubmits
  exact ⟨jsonHeaders (some post.body) post.bearer, post.body,
    rfl, deliverable_jsonHeaders hPlain post.body,
    authorization_jsonHeaders post.body post.bearer, hSubmits,
    hFits⟩

/- What the hop gets from an honest log is its receipt. -/
theorem HonestLog.wireTransport_eq
    (hHex : C.model.HexLaw)
    (hInverts :
      C.serde.Inverts (anchorBody C subject commitment))
    (hBase : config.baseUrl = some base)
    (hParse : Url.parse (Text.trim base) = .ok u)
    (hPlain :
      PlainRequest
        ⟨u.host, u.port, commitmentsTarget u.pathAndQuery⟩
        config.bearer)
    (hFits :
      Text.byteLen
          (C.serde.toString (anchorBody C subject commitment)) <
        2 ^ 64)
    (h : HonestLog C width net u config.bearer issue) :
    ∃ post status text,
      anchorPost C config subject commitment = .ok post ∧
        (200 ≤ status ∧ status < 300) ∧
        wireTransport width net post =
          some (.ok ⟨status, text⟩) ∧
        C.serde.fromStr text =
          .ok (issue subject commitment) := by
  rcases anchorPost_of_parse C subject commitment hBase hParse
    with
    ⟨post, hPost, hUrl, hBody, hBearer⟩
  have hTarget := parse_commitmentsUrl hParse
  rw [← hUrl] at hTarget
  rw [← hBearer] at hPlain
  rw [← hBody] at hFits
  have hPosted :=
    commitmentPost_wireOctets hHex hInverts hPlain hFits hBody
  rw [hBearer] at hPosted
  rcases h.answers _ subject commitment hPosted with
    ⟨c, status, headers, sent, text, hNet, hStatus, hHead,
      hCarries, hReceipt⟩
  refine ⟨post, status, text, hPost, hStatus, ?_, hReceipt⟩
  rw [wireTransport_of_parse hTarget]
  simp only [hNet]
  exact requestOutcome_of_carries hHead hCarries

/- A receipt that arrives leaves no other outcome. -/
theorem Explained.eq_anchored
    {transport : AnchorPost → Except String HttpResponse}
    {post : AnchorPost}
    {status : Nat}
    {text : String}
    {receipt : Value}
    {summary : AnchorSummary}
    {a : Anchoring}
    (h :
      Explained C config transport subject commitment a)
    (hPost :
      anchorPost C config subject commitment = .ok post)
    (hReply : transport post = .ok ⟨status, text⟩)
    (hStatus : 200 ≤ status ∧ status < 300)
    (hRead : C.serde.fromStr text = .ok receipt)
    (hSummary :
      anchorSummaryFromReceipt C receipt = .ok summary) :
    a = Anchoring.anchored summary receipt commitment := by
  have hOnly {post' : AnchorPost}
      {reply : Except String HttpResponse}
      (hPost' :
        anchorPost C config subject commitment = .ok post')
      (hReply' : transport post' = reply) :
      reply = .ok ⟨status, text⟩ := by
    rw [hPost, Except.ok.injEq] at hPost'
    rw [← hReply', ← hPost', hReply]
  rcases h with ⟨receipt', summary', hAnchors, hOutcome⟩ |
    ⟨reason, hDegraded, -, -⟩
  · rcases hAnchors.answered with
      ⟨post', resp, hPost', hReply', -, hRead'⟩
    cases hOnly hPost' hReply'
    rw [hRead, Except.ok.injEq] at hRead'
    subst hRead'
    have hSame := hAnchors.summary
    rw [hSummary, Except.ok.injEq] at hSame
    rw [hOutcome, hSame]
  · exfalso
    cases hDegraded with
    | unset hUnset =>
        unfold anchorPost at hPost
        rw [hUnset] at hPost
        cases hPost
    | unreachable hPost' hReply' =>
        cases hOnly hPost' hReply'
    | refused hPost' hReply' hRefused =>
        cases hOnly hPost' hReply'
        exact hRefused hStatus
    | garbled hPost' hReply' _ hGarbled =>
        cases hOnly hPost' hReply'
        rw [hRead] at hGarbled
        cases hGarbled
    | rejected hPost' hReply' _ hRead' hRejected =>
        cases hOnly hPost' hReply'
        rw [hRead, Except.ok.injEq] at hRead'
        subst hRead'
        rw [hSummary] at hRejected
        cases hRejected

end UnidppArchive

------------------------------------------------------------
-- Every Snapshot Is Anchored
------------------------------------------------------------

namespace UnidppArchive

open Http
open Json

/- The commitment of the record can be posted, and read. -/
structure Postable
    (C : Crates)
    (r : SnapshotRecord) : Prop where
  inverts :
    C.serde.Inverts
      (anchorBody C (anchorSubject r) (r.commitment C))
  fits :
    Text.byteLen
        (C.serde.toString
          (anchorBody C (anchorSubject r) (r.commitment C))) <
      2 ^ 64

variable {C : Crates}
variable {service : Service C}
variable {width : Nat}
variable {net : Network}
variable {base : String}
variable {u : Url}
variable {issue : String → Hash → Value}

/- The served document holds the receipt as it was issued. -/
theorem receipt_toDocument
    (C : Crates)
    (r : SnapshotRecord) :
    docField (r.toDocument C)
        ["oais", "provenance", "receipt"] =
      .ok (r.anchoring.receipt.getD .null) := by
  simp [SnapshotRecord.toDocument, docField, followPath, bind,
    Except.bind]

/-
  Behind an honest log, every snapshot of a service that
  started empty is anchored, and its document holds the
  receipt that was issued for its own subject and its own
  commitment.
-/
theorem honest_log_anchors_every_snapshot
    (s : ServerState)
    (requests : List ApiRequest)
    (hHex : C.model.HexLaw)
    (hBase : service.log.baseUrl = some base)
    (hParse : Url.parse (Text.trim base) = .ok u)
    (hPlain :
      PlainRequest
        ⟨u.host, u.port, commitmentsTarget u.pathAndQuery⟩
        service.log.bearer)
    (hLog :
      HonestLog C width net u service.log.bearer issue)
    (hEmpty : s.store.records = [])
    (hWire :
      ∀ request ∈ requests, request.OverWire width net)
    (hPostable :
      ∀ r ∈ (Machine.run (handle C service) s
          requests).2.store.records,
        Postable C r) :
    ∀ r ∈ (Machine.run (handle C service) s
        requests).2.store.records,
      ∃ summary,
        anchorSummaryFromReceipt C
              (issue (anchorSubject r) (r.commitment C)) =
            .ok summary ∧
          r.anchoring =
            Anchoring.anchored summary
              (issue (anchorSubject r) (r.commitment C))
              (r.commitment C) ∧
          docField (r.toDocument C)
              ["oais", "provenance", "receipt"] =
            .ok (issue (anchorSubject r)
              (r.commitment C)) := by
  intro r hr
  rcases fromRequest_of_mem_run hEmpty hr with
    ⟨authorization, env, body, hCall, -, -, hExplained⟩
  have hPost := hPostable r hr
  rcases hLog.wireTransport_eq hHex hPost.inverts hBase hParse
      hPlain hPost.fits with
    ⟨post, status, text, hSent, hStatus, hArrives, hReads⟩
  have hReply :=
    hWire _ hCall env body rfl post _ hArrives
  rcases hLog.accepted (anchorSubject r) (r.commitment C) with
    ⟨summary, hSummary⟩
  have hOutcome :=
    hExplained.eq_anchored hSent hReply hStatus hReads
      hSummary
  refine ⟨summary, hSummary, hOutcome, ?_⟩
  rw [receipt_toDocument, hOutcome]
  rfl

end UnidppArchive

------------------------------------------------------------
-- A Sample Exchange
------------------------------------------------------------

namespace UnidppArchive

namespace Reference

open Http
open Json

/- The receipts of a log that works on one day. -/
def issued
    (subject : String)
    (commitment : Hash) : Value :=
  receipt "2026-09-07T10:00:00Z" subject
    (crates.model.hex commitment)

def createdHead : String :=
  "HTTP/1.1 201 Created\r\nServer: log\r\n\r\n"

/- The receipt is sent up to the end of the connection. -/
def sentReceipt
    (subject : String)
    (commitment : Hash) : Connection where
  segments :=
    [Utf8.encode createdHead ++
      Utf8.encode
        (crates.serde.toString (issued subject commitment))]
  nonempty := by
    intro segment hMem
    rw [List.mem_singleton.mp hMem]
    intro hNil
    have hHead : Utf8.encode createdHead ≠ [] := by decide
    exact hHead (List.append_eq_nil_iff.mp hNil).1
  ending := .closed

/- The subject and the commitment that the log reads. -/
def readPost
    (octets : Bytes) : Option (String × Hash) :=
  match readBack 64 octets with
  | none => none
  | some parts =>
      match
        crates.serde.fromStr (Utf8.decodeLossy parts.body)
      with
      | .error _ => none
      | .ok v =>
          match (v.get? "subject").bind Value.asStr?,
            ((v.get? "commitment").bind Value.asStr?).bind
              crates.model.fromHex with
          | some subject, some commitment =>
              some (subject, commitment)
          | _, _ => none

/- The log reads the POST of a commitment. -/
theorem readPost_of_commitmentPost
    {u : Url}
    {token : Option String}
    {subject : String}
    {commitment : Hash}
    {octets : Bytes}
    (h :
      CommitmentPost crates u token subject commitment octets) :
    readPost octets = some (subject, commitment) := by
  rcases h with ⟨headers, text, rfl, hDeliverable, -,
    ⟨v, hReads, hSubject, hCommitment⟩, hFits⟩
  have hLength :
      ((some (Utf8.encode text)).getD []).length < 2 ^ 64 :=
    hFits
  have hRead :=
    readBack_writeRequest hDeliverable.methodWord
      hDeliverable.targetWord hDeliverable.hostSendable
      hDeliverable.sendable hDeliverable.unmeasured hLength []
  rw [List.append_nil] at hRead
  unfold readPost
  simp only [hRead, Option.getD_some, Utf8.decodeLossy_encode,
    hReads, hSubject, hCommitment, Option.bind_some,
    Value.asStr?]

/- A log that answers what it can read, on any host. -/
def logNet : Network :=
  fun _ _ octets =>
    match readPost octets with
    | some (subject, commitment) =>
        .ok (sentReceipt subject commitment)
    | none => .error ⟨.unexpectedEof, "closed"⟩

/- The octets have the head of a receipt. -/
theorem sentHead_sentReceipt
    (subject : String)
    (commitment : Hash) :
    SentHead (sentReceipt subject commitment) 201
      [("Server", "log")]
      (Utf8.encode
        (crates.serde.toString
          (issued subject commitment))) := by
  have hEnd :
      headerEnd (Utf8.encode createdHead) =
        some (Utf8.encode createdHead).length := by
    decide
  have hStream :
      (sentReceipt subject commitment).stream =
        Utf8.encode createdHead ++
          Utf8.encode
            (crates.serde.toString
              (issued subject commitment)) := by
    simp [Connection.stream, sentReceipt]
  refine ⟨(Utf8.encode createdHead).length, ?_, ?_, ?_⟩
  · rw [hStream]
    exact stable_headerEnd _ _ hEnd _
  · rw [hStream, List.take_left, Utf8.decodeLossy_encode]
    decide
  · rw [hStream, List.drop_left]

theorem carries_sentReceipt
    (subject : String)
    (commitment : Hash) :
    Carries 64 [("Server", "log")]
      (sentReceipt subject commitment).ending
      (Utf8.encode
        (crates.serde.toString (issued subject commitment)))
      (crates.serde.toString (issued subject commitment)) :=
  .toEnd _ (by decide) (by decide) rfl

theorem honestLog_logNet :
    HonestLog crates 64 logNet logUrl logConfig.bearer
      issued where
  answers := by
    intro octets subject commitment hPosted
    have hRead := readPost_of_commitmentPost hPosted
    refine ⟨sentReceipt subject commitment, 201,
      [("Server", "log")], _, _, ?_, ⟨by decide, by decide⟩,
      sentHead_sentReceipt subject commitment,
      carries_sentReceipt subject commitment,
      inverts_serde (issued subject commitment)⟩
    simp only [logNet, hRead]
  accepted := fun _ _ => ⟨_, summary_working_day _ _⟩

/- What the ingest of the sample meets on that network. -/
def wired
    (post : AnchorPost) : Except String HttpResponse :=
  (wireTransport 64 logNet post).getD (.error "")

theorem overWire_postTo :
    (postTo wired).OverWire 64 logNet := by
  intro env body hCall post answer hArrives
  cases hCall
  change (wireTransport 64 logNet post).getD _ = answer
  rw [hArrives]
  rfl

end Reference

open Reference in
/- One snapshot, with the receipt that is its own. -/
theorem honest_log_anchors_every_snapshot_sample :
    ∃ r,
      (Machine.run (handle crates (withLog logConfig))
            emptyServer [postTo wired]).2.store.records =
          [r] ∧
        docField (r.toDocument crates)
            ["oais", "provenance", "receipt"] =
          .ok (issued (anchorSubject r)
            (r.commitment crates)) := by
  rcases exists_posted logConfig wired with
    ⟨r, hRecord, hRun⟩
  have hCommitment :
      r.commitment crates =
        (draftRecord 0 now request).commitment crates :=
    (commitment_ingestRecord hRecord).1
  have hSubject :
      anchorSubject r =
        "urn:unidpp:archive:snapshot:s-000000000000" := by
    unfold anchorSubject
    rw [(fields_ingestRecord hRecord).2.1]
    decide
  have hPostable : Postable crates r := by
    refine ⟨inverts_serde _, ?_⟩
    rw [hCommitment, hSubject]
    decide +kernel
  have hMem :
      r ∈ (Machine.run (handle crates (withLog logConfig))
        emptyServer [postTo wired]).2.store.records := by
    rw [hRun]
    exact List.mem_singleton.mpr rfl
  rcases honest_log_anchors_every_snapshot emptyServer
      [postTo wired] hexLaw rfl parse_logConfig
      plainRequest_logConfig honestLog_logNet rfl
      (by simpa using overWire_postTo)
      (by rw [hRun]; simpa using hPostable) r hMem with
    ⟨summary, -, -, hReceipt⟩
  exact ⟨r, hRun, hReceipt⟩

end UnidppArchive
