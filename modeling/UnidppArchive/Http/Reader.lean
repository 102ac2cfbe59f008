import UnidppArchive.Foundations.Lossy
import UnidppArchive.Http.Retry

/-
  The response reader of the HTTP client (`http.rs`).

  A connection delivers its octets in segments and then ends
  in order or fails.  The reader appends segments to a
  buffer until it holds the head, and again until it holds
  the body that the head announces.

  Key definitions include:
    * `Http.Connection`
    * `Http.parseHead`
    * `Http.readResponse`
    * `Http.respond`

  Key theorems include:
    * `Http.readResponse_eq_respond`
    * `Http.readResponse_eq_of_stream_eq`
-/

------------------------------------------------------------
-- Connections
------------------------------------------------------------

namespace UnidppArchive

namespace Http

/- The kinds of `std::io::Error` that matter here. -/
inductive IoErrorKind where
  | unexpectedEof
  | invalidData
  | other
  deriving DecidableEq

structure IoError where
  kind : IoErrorKind
  message : String
  deriving DecidableEq

/- What a read returns after the last segment. -/
inductive Ending where
  | closed
  | failed (e : IoError)
  deriving DecidableEq

/-
  What the peer sends after the request.  A read that
  returns no octets is the end, so no segment is empty.
-/
structure Connection where
  segments : List Bytes
  nonempty : ∀ s ∈ segments, s ≠ []
  ending : Ending

/- Everything that the peer sends. -/
def Connection.stream
    (c : Connection) : Bytes :=
  c.segments.flatten

/- The error of a reader that needs more input. -/
def Ending.unexpected
    (message : String) :
    Ending → IoError
| .closed => ⟨.unexpectedEof, message⟩
| .failed e => e

/- `HttpResponse`, with the body in octets. -/
structure RawResponse where
  status : Nat
  headers : List (String × String)
  body : Bytes
  deriving DecidableEq

end Http

end UnidppArchive

------------------------------------------------------------
-- Heads
------------------------------------------------------------

namespace UnidppArchive

namespace Http

/- The position behind the empty line after the headers. -/
def headerEnd
    (raw : Bytes) : Option Nat :=
  (findSubslice (crlf ++ crlf) raw).map (· + 4)

/- A header, from a line with a colon. -/
def parseHeader
    (line : List Char) : Option (String × String) :=
  if line = [] then
    none
  else
    (Text.splitOnce ':' line).map
      (fun (k, v) =>
        (Text.trim (String.ofList k),
          Text.trim (String.ofList v)))

/- The second word of the status line, a `u16`. -/
def parseStatus
    (statusLine : List Char) : Option Nat :=
  (Text.splitWhitespace statusLine)[1]?.bind
    (Text.fromStrRadix 10 16)

/- The status and the headers, in their order. -/
def parseHead
    (head : String) :
    Checked IoError (Nat × List (String × String)) :=
  let lines := Text.splitLineEnds head.toList
  let statusLine := lines.headD []
  match parseStatus statusLine with
  | none =>
      let text := String.ofList statusLine
      .error
        (.refused ⟨.invalidData, s!"bad status line `{text}`"⟩)
  | some status =>
      .ok (status, lines.tail.filterMap parseHeader)

def isChunked
    (headers : List (String × String)) : Prop :=
  ∃ h ∈ headers,
    Text.eqIgnoreAsciiCase h.1 "transfer-encoding" ∧
      "chunked".toList <:+: (Text.toAsciiLowercase h.2).toList

instance
    (headers : List (String × String)) :
    Decidable (isChunked headers) :=
  inferInstanceAs (Decidable (∃ h ∈ headers, _))

/- The first header of this name, a `usize`. -/
def contentLength
    (width : Nat)
    (headers : List (String × String)) : Option Nat :=
  (headers.find?
      (fun h =>
        Text.eqIgnoreAsciiCase h.1 "content-length")).bind
    (fun h => Text.fromStrRadix 10 width h.2.toList)

/- How the end of the body is found. -/
inductive Framing where
  | chunked
  | length (len : Nat)
  | toEnd
  deriving DecidableEq

def framing
    (width : Nat)
    (headers : List (String × String)) : Framing :=
  if isChunked headers then
    .chunked
  else
    match contentLength width headers with
    | some len => .length len
    | none => .toEnd

end Http

end UnidppArchive

------------------------------------------------------------
-- The Reader
------------------------------------------------------------

namespace UnidppArchive

namespace Http

/-
  Read up to the end of the head.  Before the first read
  there is nothing to find.
-/
def readHead
    (c : Connection) :
    Checked IoError (Nat × Bytes × List Bytes) :=
  match readUntil headerEnd [] c.segments with
  | .settled i raw rest => .ok (i, raw, rest)
  | .exhausted _ =>
      .error
        (.refused
          (c.ending.unexpected
            "connection closed before headers"))

/- Read until the decoder does not ask for more. -/
def readChunked
    (width : Nat)
    (body : Bytes)
    (rest : List Bytes)
    (ending : Ending) : Checked IoError Bytes :=
  match readUntil (settledBody width) body rest with
  | .settled decoded _ _ => decoded
  | .exhausted _ =>
      .error
        (.refused
          (ending.unexpected "connection closed mid-chunk"))

/- The condition of the loop below. -/
def longEnough
    (len : Nat)
    (xs : Bytes) : Option Unit :=
  if xs.length < len then none else some ()

/- Read while the body is short. -/
def readLength
    (len : Nat)
    (body : Bytes)
    (rest : List Bytes)
    (ending : Ending) : Checked IoError Bytes :=
  match readUntil (longEnough len) body rest with
  | .settled _ xs _ => .ok (xs.take len)
  | .exhausted xs =>
      match ending with
      -- the loop breaks here, with a short body
      | .closed => .ok (xs.take len)
      | .failed e => .error (.refused e)

def readToEnd
    (body : Bytes)
    (rest : List Bytes)
    (ending : Ending) : Checked IoError Bytes :=
  match ending with
  | .closed => .ok (rest.foldl (· ++ ·) body)
  | .failed e => .error (.refused e)

def readBody
    (width : Nat)
    (body : Bytes)
    (rest : List Bytes)
    (ending : Ending) :
    Framing → Checked IoError Bytes
| .chunked => readChunked width body rest ending
| .length len => readLength len body rest ending
| .toEnd => readToEnd body rest ending

/- What `request` does after it has sent the request. -/
def readResponse
    (width : Nat)
    (c : Connection) : Checked IoError RawResponse := do
  let (i, raw, rest) ← readHead c
  let (status, headers) ←
    parseHead (Utf8.decodeLossy (raw.take i))
  let body ←
    readBody width (raw.drop i) rest c.ending
      (framing width headers)
  .ok ⟨status, headers, body⟩

end Http

end UnidppArchive

------------------------------------------------------------
-- Reading the Whole Stream at Once
------------------------------------------------------------

namespace UnidppArchive

namespace Http

/- The body, from all that is sent after the head. -/
def bodyOf
    (width : Nat)
    (sent : Bytes)
    (ending : Ending) :
    Framing → Checked IoError Bytes
| .chunked =>
    (settledBody width sent).getD
      (.error
        (.refused
          (ending.unexpected "connection closed mid-chunk")))
| .length len =>
    if len ≤ sent.length then
      .ok (sent.take len)
    else
      match ending with
      | .closed => .ok sent
      | .failed e => .error (.refused e)
| .toEnd =>
    match ending with
    | .closed => .ok sent
    | .failed e => .error (.refused e)

/- The response, from all that is sent. -/
def respond
    (width : Nat)
    (stream : Bytes)
    (ending : Ending) : Checked IoError RawResponse :=
  match headerEnd stream with
  | none =>
      .error
        (.refused
          (ending.unexpected
            "connection closed before headers"))
  | some i => do
      let (status, headers) ←
        parseHead (Utf8.decodeLossy (stream.take i))
      let body ←
        bodyOf width (stream.drop i) ending
          (framing width headers)
      .ok ⟨status, headers, body⟩

theorem stable_headerEnd :
    Stable headerEnd := by
  intro xs i hFind ys
  rcases Option.map_eq_some_iff.mp hFind with ⟨j, hj, rfl⟩
  have hLonger :
      findSubslice (crlf ++ crlf) (xs ++ ys) = some j :=
    findSubslice_append (by decide) hj ys
  rw [headerEnd, hLonger, Option.map_some]

/- The head lies inside the buffer in which it is found. -/
theorem le_of_headerEnd
    {xs : Bytes}
    {i : Nat}
    (h : headerEnd xs = some i) :
    i ≤ xs.length := by
  rcases Option.map_eq_some_iff.mp h with ⟨j, hj, rfl⟩
  exact le_of_findSubslice (by decide) hj

theorem readChunked_eq
    (width : Nat)
    (body : Bytes)
    (rest : List Bytes)
    (ending : Ending) :
    readChunked width body rest ending =
      bodyOf width (body ++ rest.flatten) ending .chunked := by
  have hStable := stable_settledBody IoError width
  unfold readChunked bodyOf
  cases hSettled :
      settledBody (ε := IoError) width
        (body ++ rest.flatten) with
  | some decoded =>
      rcases readUntil_of_some hStable hSettled with
        ⟨front, rest', hRead, -, -⟩
      rw [hRead]
      rfl
  | none =>
      rw [readUntil_of_none hStable hSettled]
      rfl

theorem longEnough_eq_some_iff
    {len : Nat}
    {xs : Bytes} :
    longEnough len xs = some () ↔ len ≤ xs.length := by
  unfold longEnough
  split <;> simp_all

theorem stable_longEnough
    (len : Nat) :
    Stable (longEnough len) := by
  intro xs u hTest ys
  rw [longEnough_eq_some_iff] at hTest ⊢
  rw [List.length_append]
  omega

theorem readLength_eq
    (width len : Nat)
    (body : Bytes)
    (rest : List Bytes)
    (ending : Ending) :
    readLength len body rest ending =
      bodyOf width (body ++ rest.flatten) ending
        (.length len) := by
  have hStable := stable_longEnough len
  unfold readLength bodyOf
  by_cases hLong : len ≤ (body ++ rest.flatten).length
  · rcases readUntil_of_some hStable
        (longEnough_eq_some_iff.mpr hLong) with
      ⟨front, rest', hRead, hTest, hWhole⟩
    rw [longEnough_eq_some_iff] at hTest
    simp only [hRead, if_pos hLong]
    rw [← hWhole, List.take_append_of_le_length hTest]
  · have hNone : longEnough len (body ++ rest.flatten) = none :=
      if_pos (by omega)
    simp only [readUntil_of_none hStable hNone, if_neg hLong]
    rw [List.take_of_length_le (by omega)]

theorem readToEnd_eq
    (width : Nat)
    (body : Bytes)
    (rest : List Bytes)
    (ending : Ending) :
    readToEnd body rest ending =
      bodyOf width (body ++ rest.flatten) ending .toEnd := by
  have hFold :
      rest.foldl (· ++ ·) body = body ++ rest.flatten := by
    induction rest generalizing body with
    | nil => simp
    | cons s ss ih => simp [ih]
  unfold readToEnd bodyOf
  rw [hFold]

theorem readBody_eq
    (width : Nat)
    (body : Bytes)
    (rest : List Bytes)
    (ending : Ending)
    (f : Framing) :
    readBody width body rest ending f =
      bodyOf width (body ++ rest.flatten) ending f := by
  cases f with
  | chunked => exact readChunked_eq width body rest ending
  | length len => exact readLength_eq width len body rest ending
  | toEnd => exact readToEnd_eq width body rest ending

/- The reader sees the stream and not its segments. -/
theorem readResponse_eq_respond
    (width : Nat)
    (c : Connection) :
    readResponse width c =
      respond width c.stream c.ending := by
  unfold readResponse readHead respond Connection.stream
  cases hEnd : headerEnd c.segments.flatten with
  | none =>
      have hRead :
          readUntil headerEnd [] c.segments =
            .exhausted ([] ++ c.segments.flatten) :=
        readUntil_of_none stable_headerEnd hEnd
      rw [hRead]
      rfl
  | some i =>
      have hFound :
          headerEnd ([] ++ c.segments.flatten) = some i :=
        hEnd
      rcases readUntil_of_some stable_headerEnd hFound with
        ⟨raw, rest, hRead, hRaw, hWhole⟩
      have hInside := le_of_headerEnd hRaw
      rw [List.nil_append] at hWhole
      rw [hRead, ← hWhole]
      simp only [ok_bind, readBody_eq,
        List.take_append_of_le_length hInside,
        List.drop_append_of_le_length hInside]

/- The response does not depend on how the stream is cut. -/
theorem readResponse_eq_of_stream_eq
    (width : Nat)
    {c c' : Connection}
    (hStream : c.stream = c'.stream)
    (hEnding : c.ending = c'.ending) :
    readResponse width c = readResponse width c' := by
  rw [readResponse_eq_respond, readResponse_eq_respond,
    hStream, hEnding]

/- Five octets of body are announced, and two are sent. -/
def shortResponse : Bytes :=
  Utf8.encodeChars
    ['H', 'T', 'T', 'P', '/', '1', '.', '1', ' ', '2', '0',
      '0', '\r', '\n', 'C', 'o', 'n', 't', 'e', 'n', 't', '-',
      'L', 'e', 'n', 'g', 't', 'h', ':', '5', '\r', '\n',
      '\r', '\n', 'a', 'b']

theorem readResponse_eq_of_stream_eq_sample :
    readResponse 64
        ⟨[shortResponse.take 33, shortResponse.drop 33],
          by decide, .closed⟩ =
      readResponse 64
        ⟨[shortResponse.take 20, shortResponse.drop 20],
          by decide, .closed⟩ :=
  readResponse_eq_of_stream_eq 64 (by decide) rfl

end Http

end UnidppArchive
