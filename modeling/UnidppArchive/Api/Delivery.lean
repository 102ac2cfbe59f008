import UnidppArchive.Api.Ingest
import UnidppArchive.Http.Framing

/-
  What the log sends, and what the anchoring hop reads.

  The client delivers the octets of a body, and the hop
  reads them as text.  A receipt that is sent in UTF-8 is
  parsed as it was sent, in every framing and however the
  network cuts it.

  Key definitions include:
    * `Http.RawResponse.delivered`
    * `Http.requestOutcome`
    * `Http.Carries`

  Key theorems include:
    * `anchorReceipt_of_carries`
-/

------------------------------------------------------------
-- Delivered Responses
------------------------------------------------------------

namespace UnidppArchive

namespace Http

/- `HttpResponse::body_string`. -/
def RawResponse.bodyString
    (r : RawResponse) : String :=
  Utf8.decodeLossy r.body

/- What the anchoring hop sees of a response. -/
def RawResponse.delivered
    (r : RawResponse) : HttpResponse :=
  ⟨r.status, r.bodyString⟩

/-
  The result of `json_request`, unless the client panics and
  takes the handler with it.
-/
def requestOutcome :
    Checked IoError RawResponse →
      Option (Except String HttpResponse)
| .ok r => some (.ok r.delivered)
| .error (.refused e) => some (.error e.message)
| .error .panicked => none

/-
  The octets behind a head carry a text, framed as the
  headers say.
-/
inductive Carries
    (width : Nat)
    (headers : List (String × String))
    (ending : Ending) :
    Bytes → String → Prop where
  | chunks
      {sent : Bytes}
      {text : String}
      (hChunked : isChunked headers)
      (hSlice : sent.length < 2 ^ (width - 1))
      (hFinished : Finished width sent (Utf8.encode text)) :
      Carries width headers ending sent text
  | length
      (text : String)
      (rest : Bytes)
      (hChunked : ¬ isChunked headers)
      (hLength :
        contentLength width headers =
          some (Utf8.encode text).length) :
      Carries width headers ending (Utf8.encode text ++ rest)
        text
  | toEnd
      (text : String)
      (hChunked : ¬ isChunked headers)
      (hLength : contentLength width headers = none)
      (hClosed : ending = .closed) :
      Carries width headers ending (Utf8.encode text) text

variable {width : Nat}
variable {headers : List (String × String)}
variable {ending : Ending}
variable {sent : Bytes}
variable {text : String}

/- The body that is read is the text. -/
theorem Carries.bodyOf
    (h : Carries width headers ending sent text) :
    bodyOf width sent ending (framing width headers) =
      .ok (Utf8.encode text) := by
  cases h with
  | chunks hChunked hSlice hFinished =>
      have hDecode := decode_of_finished hSlice hFinished
      rw [framing_eq_chunked hChunked]
      simp only [Http.bodyOf, settledBody, hDecode]
      rfl
  | length text rest hChunked hLength =>
      rw [framing_eq_length hChunked hLength]
      simp [Http.bodyOf]
  | toEnd text hChunked hLength hClosed =>
      rw [framing, if_neg hChunked, hLength, hClosed]
      rfl

end Http

end UnidppArchive

------------------------------------------------------------
-- Receipts
------------------------------------------------------------

namespace UnidppArchive

open Http

variable {C : Crates}
variable {width status : Nat}
variable {headers : List (String × String)}
variable {c : Connection}
variable {sent : Bytes}
variable {text : String}

/- What is delivered is the text that was sent. -/
theorem requestOutcome_of_carries
    (hHead : SentHead c status headers sent)
    (hCarries : Carries width headers c.ending sent text) :
    requestOutcome (readResponse width c) =
      some (.ok ⟨status, text⟩) := by
  have hRead :
      readResponse width c =
        .ok ⟨status, headers, Utf8.encode text⟩ :=
    readResponse_eq_ok_iff.mpr ⟨sent, hHead, hCarries.bodyOf⟩
  rw [hRead]
  simp [requestOutcome, RawResponse.delivered,
    RawResponse.bodyString]

/- A successful answer is parsed as the text that was sent. -/
theorem anchorReceipt_of_carries
    (hStatus : 200 ≤ status ∧ status < 300)
    (hHead : SentHead c status headers sent)
    (hCarries : Carries width headers c.ending sent text) :
    ∃ answer,
      requestOutcome (readResponse width c) = some answer ∧
        anchorReceipt C answer =
          (C.serde.fromStr text).mapError
            (fun e =>
              s!"log returned a non-JSON receipt: {e}") := by
  refine ⟨.ok ⟨status, text⟩,
    requestOutcome_of_carries hHead hCarries, ?_⟩
  simp only [anchorReceipt, hStatus, and_self,
    not_true_eq_false, if_false]

/- An answer that does not arrive leaves the draft unanchored. -/
theorem anchorReceipt_of_refused
    {e : IoError}
    (hRead : readResponse width c = .error (.refused e)) :
    ∃ answer,
      requestOutcome (readResponse width c) = some answer ∧
        anchorReceipt C answer =
          .error s!"log unreachable: {e.message}" := by
  refine ⟨.error e.message, ?_, rfl⟩
  rw [hRead]
  rfl

end UnidppArchive
