import UnidppArchive.Model.Record

/-
  The create flow up to the sealed record (`api.rs`,
  `log_anchor.rs`).

  The answer of the transparency log is the environment's:
  `transport` maps the posted request to a response or to a
  transport failure.

  Key definitions include:
    * `CreateRequest`
    * `parseCreateRequest`
    * `LogAnchorConfig`
    * `anchor`
    * `ingestRecord`
-/

------------------------------------------------------------
-- Requests
------------------------------------------------------------

namespace UnidppArchive

open Json

variable (C : Crates)

def parseBody
    (body : String) : Except String Value :=
  (C.serde.fromStr body).mapError
    (fun e => s!"invalid JSON body: {e}")

/- A required member, trimmed and not blank. -/
def Api.reqStr
    (v : Value)
    (key : String) : Except String String :=
  okOr ((((v.get? key).bind Value.asStr?).map
    Text.trim).filter (· ≠ "")) s!"`{key}` is required"

/- An optional member of at most 512 octets, not blank. -/
def Api.optStr
    (v : Value)
    (key : String) : Except String (Option String) :=
  match v.get? key with
  | none => .ok none
  | some .null => .ok none
  | some (.string s) =>
      let t := Text.trim s
      if t = "" then
        .error s!"`{key}` must not be blank"
      else if Text.byteLen t > 512 then
        .error s!"`{key}` must be at most 512 characters"
      else
        .ok (some t)
  | some _ => .error s!"`{key}` must be a string"

def Api.optU64
    (v : Value)
    (key : String) : Except String (Option UInt64) :=
  match v.get? key with
  | none => .ok none
  | some .null => .ok none
  | some w =>
      (okOr w.asU64? s!"`{key}` must be an unsigned integer").map
        some

def Api.reqHash
    (v : Value)
    (key : String) : Except String Hash := do
  let s ← Api.reqStr v key
  okOr (C.model.fromHex s)
    s!"`{key}` must be a 64-character hex SHA-256 value"

def validatePassportId
    (id : String) : Except String Unit :=
  if id = "" ∨ Text.byteLen id > 512 then
    .error "`passport_id` must be 1-512 characters"
  else if id.toList.any Text.isControl then
    .error "`passport_id` must not contain control characters"
  else
    .ok ()

/- A parsed ingest request. -/
structure CreateRequest where
  passportId : String
  stateHash : Hash
  logHead : Hash
  submitter : Option String
  stateSize : Option UInt64
  deriving DecidableEq

def parseCreateRequest
    (v : Value) : Except String CreateRequest := do
  let passportId ← Api.reqStr v "passport_id"
  validatePassportId passportId
  let stateHash ← Api.reqHash C v "state_hash"
  let logHead ← Api.reqHash C v "log_head"
  let submitter ← Api.optStr v "submitter"
  let stateSize ← Api.optU64 v "state_size"
  .ok ⟨passportId, stateHash, logHead, submitter, stateSize⟩

end UnidppArchive

------------------------------------------------------------
-- The Anchoring Hop
------------------------------------------------------------

namespace UnidppArchive

open Json

/- Where to reach the transparency log. -/
structure LogAnchorConfig where
  baseUrl : Option String
  bearer : Option String
  timeoutMs : Nat
  deriving DecidableEq

/- The request that is posted to the log. -/
structure AnchorPost where
  url : String
  body : String
  bearer : Option String
  timeoutMs : Nat

/- What the log answered. -/
structure HttpResponse where
  status : Nat
  body : String

variable (C : Crates)

/- The posted object: subject and commitment. -/
def anchorBody
    (subject : String)
    (commitment : Hash) : Value :=
  object
    [("subject", .string subject),
      ("commitment", .string (C.model.hex commitment))]

/- The request for a commitment, if a log is configured. -/
def anchorPost
    (config : LogAnchorConfig)
    (subject : String)
    (commitment : Hash) : Except String AnchorPost := do
  let base ←
    okOr ((config.baseUrl.map Text.trim).filter (· ≠ ""))
      "log anchoring not configured (UNIDPP_LOG_URL is unset)"
  .ok
    { url := Text.trimEndMatches base '/' ++ "/commitments"
      body := C.serde.toString (anchorBody C subject commitment)
      bearer := config.bearer
      timeoutMs := config.timeoutMs }

/- The receipt in an answer, if it is a JSON 2xx. -/
def anchorReceipt
    (reply : Except String HttpResponse) :
    Except String Value :=
  match reply with
  | .error e => .error s!"log unreachable: {e}"
  | .ok resp =>
      if ¬ (200 ≤ resp.status ∧ resp.status < 300) then
        let snippet := String.ofList (resp.body.toList.take 200)
        let detail := if snippet = "" then "" else s!": {snippet}"
        .error
          s!"log refused the commitment: {resp.status}{detail}"
      else
        (C.serde.fromStr resp.body).mapError
          (fun e => s!"log returned a non-JSON receipt: {e}")

/- Post the commitment and return the log's receipt. -/
def anchor
    (config : LogAnchorConfig)
    (transport : AnchorPost → Except String HttpResponse)
    (subject : String)
    (commitment : Hash) : Except String Value := do
  let post ← anchorPost C config subject commitment
  anchorReceipt C (transport post)

/- A successful answer is the receipt that its text is. -/
theorem anchorReceipt_of_read
    {C : Crates}
    {status : Nat}
    {text : String}
    {receipt : Value}
    (hStatus : 200 ≤ status ∧ status < 300)
    (hRead : C.serde.fromStr text = .ok receipt) :
    anchorReceipt C (.ok ⟨status, text⟩) = .ok receipt := by
  simp [anchorReceipt, hStatus, hRead, Except.mapError]

/- What a reply to the post comes to is what the hop does. -/
theorem anchor_of_post
    {C : Crates}
    {config : LogAnchorConfig}
    {subject : String}
    {commitment : Hash}
    {post : AnchorPost}
    (hPost : anchorPost C config subject commitment = .ok post)
    (transport : AnchorPost → Except String HttpResponse) :
    anchor C config transport subject commitment =
      anchorReceipt C (transport post) := by
  unfold anchor
  rw [hPost]
  rfl

end UnidppArchive

------------------------------------------------------------
-- Sealed Records of the Create Flow
------------------------------------------------------------

namespace UnidppArchive

open Json

variable (C : Crates)

/- What the answer of the log becomes in the record. -/
def anchoringOutcome
    (answer : Except String Value)
    (commitment : Hash) : Anchoring :=
  match answer with
  | .ok receipt =>
      match anchorSummaryFromReceipt C receipt with
      | .ok summary =>
          Anchoring.anchored summary receipt commitment
      | .error e =>
          Anchoring.unanchored s!"log receipt rejected: {e}"
  | .error e => Anchoring.unanchored e

/- The record of a request before anchoring. -/
def draftRecord
    (seq : UInt64)
    (notarizedAt : Timestamp)
    (req : CreateRequest) : SnapshotRecord :=
  SnapshotRecord.new seq notarizedAt req.passportId
    req.stateHash req.logHead req.submitter req.stateSize

/- The subject under which a record is anchored. -/
def anchorSubject
    (r : SnapshotRecord) : String :=
  s!"urn:unidpp:archive:snapshot:{r.snapshotId}"

/- The draft with the outcome of the given answer. -/
def anchoredDraft
    (seq : UInt64)
    (notarizedAt : Timestamp)
    (req : CreateRequest)
    (answer : Except String Value) : SnapshotRecord :=
  let record := draftRecord seq notarizedAt req
  let commitment := record.commitment C
  record.setAnchoring (anchoringOutcome C answer commitment)

/- Set the outcome and seal. -/
def ingestRecord
    (notary : C.signatif.KeyPair)
    (seq : UInt64)
    (notarizedAt : Timestamp)
    (req : CreateRequest)
    (answer : Except String Value) :
    Except String SnapshotRecord :=
  (anchoredDraft C seq notarizedAt req answer).sealWith C
    notary

end UnidppArchive

------------------------------------------------------------
-- What the Create Flow Seals
------------------------------------------------------------

namespace UnidppArchive

open Json

variable {C : Crates}

/- A sealed record and the draft that it was sealed from. -/
theorem sealedFrom_ingestRecord
    {notary : C.signatif.KeyPair}
    {seq : UInt64}
    {notarizedAt : Timestamp}
    {req : CreateRequest}
    {answer : Except String Value}
    {r : SnapshotRecord}
    (h : ingestRecord C notary seq notarizedAt req answer =
      .ok r) :
    SnapshotRecord.SealedFrom
      (anchoredDraft C seq notarizedAt req answer) r notary :=
  SnapshotRecord.sealedFrom_of_sealWith h

/- The receipt of an answer is accepted with this summary. -/
def AcceptedReceipt
    (C : Crates)
    (answer : Except String Value)
    (receipt : Value)
    (summary : AnchorSummary) : Prop :=
  answer = .ok receipt ∧
    anchorSummaryFromReceipt C receipt = .ok summary

/- An outcome is anchored by an accepted receipt or skipped. -/
theorem anchoringOutcome_cases
    (answer : Except String Value)
    (commitment : Hash) :
    (∃ receipt summary,
        AcceptedReceipt C answer receipt summary ∧
          anchoringOutcome C answer commitment =
            Anchoring.anchored summary receipt commitment) ∨
      ((∀ receipt summary,
          ¬ AcceptedReceipt C answer receipt summary) ∧
        ∃ reason,
          anchoringOutcome C answer commitment =
            Anchoring.unanchored reason) := by
  cases answer with
  | error e =>
      refine Or.inr ⟨?_, e, rfl⟩
      rintro receipt summary ⟨hAnswer, -⟩
      cases hAnswer
  | ok receipt =>
      cases hSummary : anchorSummaryFromReceipt C receipt with
      | error e =>
          refine Or.inr
            ⟨?_, s!"log receipt rejected: {e}", ?_⟩
          · rintro receipt' summary ⟨hAnswer, hAccepted⟩
            cases hAnswer
            rw [hSummary] at hAccepted
            cases hAccepted
          · simp only [anchoringOutcome, hSummary]
      | ok summary =>
          refine Or.inl
            ⟨receipt, summary, ⟨rfl, hSummary⟩, ?_⟩
          simp only [anchoringOutcome, hSummary]

end UnidppArchive
