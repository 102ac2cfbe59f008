import UnidppArchive.Http.Decoding
import UnidppArchive.Http.Reader

/-
  Where a response ends (`http.rs`).

  A chunked body is returned only with its last chunk.  A
  body of announced length is returned even if the peer
  closes the connection before it has sent all of it.

  Key definitions include:
    * `Http.Complete`
    * `Http.ClosedShort`

  Key theorems include:
    * `Http.readResponse_eq_ok_iff`
    * `Http.returned_complete_iff`
-/

------------------------------------------------------------
-- Returned Responses
------------------------------------------------------------

namespace UnidppArchive

namespace Http

variable {width : Nat}

/- What the peer sends up to the empty line, and after it. -/
def SentHead
    (c : Connection)
    (status : Nat)
    (headers : List (String × String))
    (sent : Bytes) : Prop :=
  ∃ i, headerEnd c.stream = some i ∧
    parseHead (Utf8.decodeLossy (c.stream.take i)) =
      .ok (status, headers) ∧
    c.stream.drop i = sent

/- A response is a head, and the body that it announces. -/
theorem readResponse_eq_ok_iff
    {c : Connection}
    {r : RawResponse} :
    readResponse width c = .ok r ↔
      ∃ sent, SentHead c r.status r.headers sent ∧
        bodyOf width sent c.ending
          (framing width r.headers) = .ok r.body := by
  rw [readResponse_eq_respond]
  unfold respond SentHead
  cases hEnd : headerEnd c.stream with
  | none => simp
  | some i =>
      simp only [bind_eq_ok_iff]
      constructor
      · rintro ⟨⟨status, headers⟩, hHead, body, hBody, hr⟩
        cases hr
        exact ⟨_, ⟨i, rfl, hHead, rfl⟩, hBody⟩
      · rintro ⟨_, ⟨i', hi, hHead, rfl⟩, hBody⟩
        cases hi
        exact ⟨_, hHead, _, hBody, rfl⟩

theorem framing_eq_length
    {headers : List (String × String)}
    {len : Nat}
    (hChunked : ¬ isChunked headers)
    (hLength : contentLength width headers = some len) :
    framing width headers = .length len := by
  rw [framing, if_neg hChunked, hLength]

theorem framing_eq_chunked
    {headers : List (String × String)}
    (hChunked : isChunked headers) :
    framing width headers = .chunked := by
  rw [framing, if_pos hChunked]

theorem decode_of_settled
    {raw out : Bytes}
    (h : settledBody (ε := IoError) width raw = some (.ok out)) :
    decodeChunkedBody width raw = .ok out := by
  unfold settledBody at h
  cases hDecode : decodeChunkedBody width raw with
  | ok out' =>
      rw [hDecode] at h
      cases h
      rfl
  | error f =>
      rw [hDecode] at h
      cases f <;> cases h

/- A chunked body ends with a chunk of size zero. -/
theorem finished_of_bodyOf
    {sent out : Bytes}
    {ending : Ending}
    (h : bodyOf width sent ending .chunked = .ok out) :
    Finished width sent out := by
  apply finished_of_decode
  apply decode_of_settled
  unfold bodyOf at h
  simp only at h
  cases hSettled :
      settledBody (ε := IoError) width sent with
  | none =>
      rw [hSettled] at h
      cases h
  | some body =>
      rw [hSettled, Option.getD_some] at h
      rw [h]

end Http

end UnidppArchive

------------------------------------------------------------
-- Complete Responses
------------------------------------------------------------

namespace UnidppArchive

namespace Http

variable {width : Nat}

/-
  The body is all of what was announced: as many octets as
  the length says, or chunks up to one of size zero.
-/
structure Complete
    (width : Nat)
    (r : RawResponse)
    (sent : Bytes) : Prop where
  ofLength :
    ¬ isChunked r.headers →
      ∀ len, contentLength width r.headers = some len →
        r.body <+: sent ∧ r.body.length = len
  ofChunks : isChunked r.headers → Finished width sent r.body

/- The peer closes before it has sent the announced length. -/
def ClosedShort
    (width : Nat)
    (c : Connection) : Prop :=
  c.ending = .closed ∧
    ∃ status headers sent len,
      SentHead c status headers sent ∧
        ¬ isChunked headers ∧
        contentLength width headers = some len ∧
        sent.length < len

/- What is returned is complete, unless the peer stops early. -/
theorem complete_of_readResponse
    {c : Connection}
    {r : RawResponse}
    (hEnds : ¬ ClosedShort width c)
    (h : readResponse width c = .ok r) :
    ∃ sent, SentHead c r.status r.headers sent ∧
      Complete width r sent := by
  rcases readResponse_eq_ok_iff.mp h with ⟨sent, hHead, hBody⟩
  refine ⟨sent, hHead, ?_, ?_⟩
  · intro hChunked len hLength
    rw [framing_eq_length hChunked hLength] at hBody
    unfold bodyOf at hBody
    simp only at hBody
    split at hBody
    · rename_i hLong
      rw [Except.ok.injEq] at hBody
      rw [← hBody]
      exact ⟨List.take_prefix len sent,
        List.length_take_of_le hLong⟩
    · rename_i hShort
      cases hEnding : c.ending with
      | closed =>
          exfalso
          apply hEnds
          exact ⟨hEnding, _, _, sent, len, hHead, hChunked,
            hLength, by omega⟩
      | failed e =>
          rw [hEnding] at hBody
          cases hBody
  · intro hChunked
    rw [framing_eq_chunked hChunked] at hBody
    exact finished_of_bodyOf hBody

/- A body that is cut short is returned. -/
theorem readResponse_of_closedShort
    {c : Connection}
    (h : ClosedShort width c) :
    ∃ r len, readResponse width c = .ok r ∧
      ¬ isChunked r.headers ∧
      contentLength width r.headers = some len ∧
      r.body.length < len := by
  rcases h with
    ⟨hEnding, status, headers, sent, len, hHead, hChunked,
      hLength, hShort⟩
  refine ⟨⟨status, headers, sent⟩, len, ?_, hChunked, hLength,
    hShort⟩
  rw [readResponse_eq_ok_iff]
  refine ⟨sent, hHead, ?_⟩
  rw [framing_eq_length hChunked hLength, hEnding]
  exact if_neg (not_le.mpr hShort)

/-
  A response that is returned is complete exactly if the
  peer does not close before the announced length is sent.
-/
theorem returned_complete_iff
    (c : Connection) :
    (∀ r, readResponse width c = .ok r →
        ∃ sent, SentHead c r.status r.headers sent ∧
          Complete width r sent) ↔
      ¬ ClosedShort width c := by
  constructor
  · intro hComplete hShort
    rcases readResponse_of_closedShort hShort with
      ⟨r, len, hRead, hChunked, hLength, hLt⟩
    rcases hComplete r hRead with ⟨sent, -, hr⟩
    have hBody := (hr.ofLength hChunked len hLength).2
    omega
  · intro hEnds r hRead
    exact complete_of_readResponse hEnds hRead

/- Two octets are taken for five. -/
theorem short_body_is_returned :
    readResponse 64 ⟨[shortResponse], by decide, .closed⟩ =
        .ok ⟨200, [("Content-Length", "5")], [97, 98]⟩ ∧
      ¬ isChunked [("Content-Length", "5")] ∧
      contentLength 64 [("Content-Length", "5")] = some 5 := by
  refine ⟨?_, by decide, by decide⟩
  rw [readResponse_eq_respond]
  decide

end Http

end UnidppArchive
