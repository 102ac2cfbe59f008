import UnidppArchive.Foundations.LineEnds
import UnidppArchive.Http.Reader
import UnidppArchive.Http.Url

/-
  The requests that the HTTP client writes (`http.rs`).

  A request is a head of lines and an optional body.  The
  head has the lines that were meant as long as no part of it
  holds a line end; and of requests whose parts fill their
  places no two are written alike, whatever follows them and
  whatever the octets of their bodies.

  Key definitions include:
    * `Http.requestHead`
    * `Http.writeRequest`
    * `Http.Deliverable`

  Key theorems include:
    * `Http.request_lines_iff`
    * `Http.readBack_writeRequest`
    * `Http.written_request_is_unambiguous`
-/

------------------------------------------------------------
-- Writing
------------------------------------------------------------

namespace UnidppArchive

namespace Http

/- One more header line. -/
def pushHeader
    (req : String)
    (h : String × String) : String :=
  req ++ s!"{h.1}: {h.2}\r\n"

/- The text that `request` writes before the body. -/
def requestHead
    (method : String)
    (url : Url)
    (headers : List (String × String))
    (body : Option Bytes) : String :=
  let req :=
    s!"{method} {url.pathAndQuery} HTTP/1.1\r\nHost: {url.host}\r\nConnection: close\r\n"
  let req := headers.foldl pushHeader req
  let req :=
    match body with
    | some b => req ++ s!"Content-Length: {b.length}\r\n"
    | none => req
  req ++ "\r\n"

/- Everything that `request` writes. -/
def writeRequest
    (method : String)
    (url : Url)
    (headers : List (String × String))
    (body : Option Bytes) : Bytes :=
  Utf8.encode (requestHead method url headers body) ++
    body.getD []

/- The headers of a request, in their order. -/
def sentHeaders
    (url : Url)
    (headers : List (String × String))
    (body : Option Bytes) : List (String × String) :=
  [("Host", url.host), ("Connection", "close")] ++ headers ++
    match body with
    | some b => [("Content-Length", Nat.repr b.length)]
    | none => []

def requestLine
    (method : String)
    (url : Url) : List Char :=
  method.toList ++ ' ' ::
    (url.pathAndQuery.toList ++ ' ' :: "HTTP/1.1".toList)

def headerLine
    (h : String × String) : List Char :=
  h.1.toList ++ ':' :: ' ' :: h.2.toList

def requestLines
    (method : String)
    (url : Url)
    (headers : List (String × String))
    (body : Option Bytes) : List (List Char) :=
  requestLine method url ::
    (sentHeaders url headers body).map headerLine

theorem block_eq
    {α : Type}
    (eol : List α)
    (ls : List (List α)) :
    block eol ls = ls.flatMap (· ++ eol) ++ eol := by
  induction ls with
  | nil => rfl
  | cons l ls ih => simp [block, ih]

/- The head is the block of its lines. -/
theorem toList_requestHead
    (method : String)
    (url : Url)
    (headers : List (String × String))
    (body : Option Bytes) :
    (requestHead method url headers body).toList =
      block ['\r', '\n']
        (requestLines method url headers body) := by
  have hText (s : String) : toString s = s := rfl
  have hNat (n : Nat) : toString n = Nat.repr n := rfl
  have hFold (req : String) :
      (headers.foldl pushHeader req).toList =
        req.toList ++
          (headers.map headerLine).flatMap
            (· ++ ['\r', '\n']) := by
    induction headers generalizing req with
    | nil => simp
    | cons h headers ih =>
        rw [List.foldl_cons, ih]
        simp [pushHeader, headerLine, hText]
  unfold requestHead requestLines sentHeaders
  rw [block_eq]
  cases body with
  | none =>
      simp [hFold, requestLine, headerLine, hText]
  | some b =>
      simp [hFold, requestLine, headerLine, hText, hNat]

end Http

end UnidppArchive

------------------------------------------------------------
-- Lines
------------------------------------------------------------

namespace UnidppArchive

namespace Http

/- The text has no line end. -/
def Unbroken
    (s : String) : Prop :=
  ¬ ['\r', '\n'] <:+: s.toList

instance
    (s : String) : Decidable (Unbroken s) :=
  inferInstanceAs (Decidable (¬ _))

/- A header that is read as it is written. -/
structure Sendable
    (h : String × String) : Prop where
  colon : ':' ∉ h.1.toList
  name : Text.trim h.1 = h.1
  value : Text.trim h.2 = h.2
  unbrokenName : Unbroken h.1
  unbrokenValue : Unbroken h.2

/- A word of a request line. -/
structure Word
    (s : String) : Prop where
  space : ' ' ∉ s.toList
  unbroken : Unbroken s

variable {method : String}
variable {url : Url}
variable {headers : List (String × String)}
variable {body : Option Bytes}

/- A printed length is a sendable value. -/
theorem sendable_contentLength
    (n : Nat) :
    Sendable ("Content-Length", Nat.repr n) := by
  have hDigits :
      ∀ c ∈ (Nat.repr n).toList, c.isDigit = true := by
    intro c hc
    apply Text.isDigit_of_mem_toDigits (n := n)
    simpa using hc
  have hColon : ':' ∉ "Content-Length".toList := by decide
  have hName :
      Text.trim "Content-Length" = "Content-Length" := by
    decide
  have hUnbroken : Unbroken "Content-Length" := by decide
  refine ⟨hColon, hName, ?_, hUnbroken, ?_⟩
  · apply Text.trim_eq_self
    intro c hc
    exact Text.isWhitespace_of_isDigit (hDigits c hc)
  · rintro ⟨front, back, hText⟩
    have hMem : '\r' ∈ (Nat.repr n).toList := by
      rw [← hText]
      simp
    exact absurd (hDigits _ hMem) (by decide)

theorem sendable_connection :
    Sendable ("Connection", "close") :=
  ⟨by decide, by decide, by decide, by decide, by decide⟩

theorem headerLine_unbroken_iff
    {h : String × String} :
    ¬ ['\r', '\n'] <:+: headerLine h ↔
      Unbroken h.1 ∧ Unbroken h.2 := by
  rw [headerLine,
    infix_append_cons_iff (by decide) (by decide)]
  rw [infix_cons_iff_of_ne (by decide) (by decide)]
  simp [Unbroken]

theorem requestLine_unbroken_iff :
    ¬ ['\r', '\n'] <:+: requestLine method url ↔
      Unbroken method ∧ Unbroken url.pathAndQuery := by
  have hVersion : ¬ ['\r', '\n'] <:+: "HTTP/1.1".toList := by
    decide
  rw [requestLine,
    infix_append_cons_iff (by decide) (by decide),
    infix_append_cons_iff (by decide) (by decide)]
  simp only [hVersion, or_false, not_or, Unbroken]

/-
  The lines of the head are read as they were written exactly
  if nothing in them holds a line end.
-/
theorem request_lines_iff
    (method : String)
    (url : Url)
    (headers : List (String × String))
    (body : Option Bytes) :
    Text.splitLineEnds
          (requestHead method url headers body).toList =
        requestLines method url headers body ++ [[], []] ↔
      Unbroken method ∧ Unbroken url.pathAndQuery ∧
        Unbroken url.host ∧
        ∀ h ∈ headers, Unbroken h.1 ∧ Unbroken h.2 := by
  have hFixed : ∀ s ∈ ["Host", "Connection", "close"],
      Unbroken s := by
    decide
  rw [toList_requestHead, Text.splitLineEnds_block_iff,
    requestLines, List.forall_mem_cons,
    requestLine_unbroken_iff, List.forall_mem_map]
  simp only [headerLine_unbroken_iff, sentHeaders,
    List.cons_append, List.nil_append, List.forall_mem_cons,
    List.forall_mem_append]
  have hHost := hFixed "Host" (by simp)
  have hConnection := hFixed "Connection" (by simp)
  have hClose := hFixed "close" (by simp)
  cases body with
  | none => simp [hHost, hConnection, hClose, and_assoc]
  | some b =>
      have hLength := sendable_contentLength b.length
      have hName : Unbroken "Content-Length" :=
        hLength.unbrokenName
      have hValue : Unbroken (Nat.repr b.length) :=
        hLength.unbrokenValue
      simp only [List.forall_mem_cons, hHost, hConnection,
        hClose, hName, hValue, true_and, and_assoc]
      simp

end Http

end UnidppArchive

------------------------------------------------------------
-- Reading Back
------------------------------------------------------------

namespace UnidppArchive

namespace Http

/- The parts that a request is written from. -/
structure Parts where
  method : String
  target : String
  version : String
  headers : List (String × String)
  body : Bytes
  deriving DecidableEq

/- Three words with a space between each two. -/
def splitRequestLine
    (line : List Char) : Option (String × String × String) :=
  match line.splitOn ' ' with
  | [method, target, version] =>
      some
        (String.ofList method, String.ofList target,
          String.ofList version)
  | _ => none

/-
  A left inverse of the writer, and no part of the service:
  it cuts the head into lines, and behind it takes as many
  octets as the head announces.
-/
def readBack
    (width : Nat)
    (stream : Bytes) : Option Parts :=
  match headerEnd stream with
  | none => none
  | some i =>
      let lines :=
        Text.splitLineEnds
          (Utf8.decodeLossy (stream.take i)).toList
      match splitRequestLine (lines.headD []) with
      | none => none
      | some (method, target, version) =>
          let headers := lines.tail.filterMap parseHeader
          let length := (contentLength width headers).getD 0
          some
            ⟨method, target, version, headers,
              (stream.drop i).take length⟩

variable {method : String}
variable {url : Url}
variable {headers : List (String × String)}
variable {body : Option Bytes}

theorem trim_space_append
    (s : String) :
    Text.trim (String.ofList (' ' :: s.toList)) =
      Text.trim s := by
  have hSpace : Text.isWhitespace ' ' = true := by decide
  simp [Text.trim, hSpace]

/- A sendable header is read off its line. -/
theorem Sendable.parseHeader
    {h : String × String}
    (hSendable : Sendable h) :
    parseHeader (headerLine h) = some h := by
  have hAll : ∀ c ∈ h.1.toList, decide (c ≠ ':') = true := by
    intro c hc
    rw [decide_eq_true_eq]
    rintro rfl
    exact hSendable.colon hc
  have hSplit :
      Text.splitOnce ':' (headerLine h) =
        some (h.1.toList, ' ' :: h.2.toList) := by
    unfold Text.splitOnce headerLine
    rw [if_pos (by simp), List.takeWhile_append_of_pos hAll,
      List.dropWhile_append_of_pos hAll]
    simp
  have hSome : headerLine h ≠ [] := by
    simp [headerLine]
  rw [Http.parseHeader, if_neg hSome, hSplit, Option.map_some]
  simp only [trim_space_append, String.ofList_toList,
    hSendable.name, hSendable.value]

/- The words of a request line are read off it. -/
theorem splitRequestLine_requestLine
    (hMethod : Word method)
    (hTarget : Word url.pathAndQuery) :
    splitRequestLine (requestLine method url) =
      some (method, url.pathAndQuery, "HTTP/1.1") := by
  have hVersion :
      "HTTP/1.1".toList.splitOn ' ' = ["HTTP/1.1".toList] := by
    decide
  unfold splitRequestLine requestLine
  rw [List.splitOn_append_cons_self_of_not_mem hMethod.space,
    List.splitOn_append_cons_self_of_not_mem hTarget.space,
    hVersion]
  simp

/- The head ends where the writer ends it. -/
theorem headerEnd_writeRequest
    (body : Option Bytes)
    (hMethod : Unbroken method)
    (hTarget : Unbroken url.pathAndQuery)
    (hHost : Unbroken url.host)
    (hHeaders : ∀ h ∈ headers, Unbroken h.1 ∧ Unbroken h.2)
    (rest : Bytes) :
    headerEnd
        (Utf8.encode (requestHead method url headers body) ++
          rest) =
      some
        (Utf8.encode
          (requestHead method url headers body)).length := by
  have hText :=
    (request_lines_iff method url headers body).mpr
      ⟨hMethod, hTarget, hHost, hHeaders⟩
  rw [toList_requestHead, Text.splitLineEnds_block_iff] at hText
  rw [Utf8.encode, toList_requestHead, Utf8.encodeChars_block]
  have hLines :
      ∀ x ∈ (requestLines method url headers body).map
          Utf8.encodeChars,
        x ≠ [] ∧ ¬ [13, 10] <:+: x := by
    intro x hx
    rcases List.mem_map.mp hx with ⟨l, hl, rfl⟩
    constructor
    · apply Utf8.encodeChars_ne_nil
      rintro rfl
      rcases List.mem_cons.mp hl with hFirst | hRest
      · simp [requestLine] at hFirst
      · rcases List.mem_map.mp hRest with ⟨h, -, hNil⟩
        simp [headerLine] at hNil
    · intro hInfix
      exact hText l hl (Utf8.lineEnd_of_encodeChars hInfix)
  unfold requestLines at hLines ⊢
  rw [List.map_cons] at hLines ⊢
  rcases firstAt_block (by decide) hLines rest with
    ⟨i, hLength, hFirst⟩
  have hNeedle : crlf ++ crlf = [13, 10, 13, 10] := rfl
  rw [headerEnd, hNeedle,
    (findSubslice_eq_some_iff (by decide)).mpr hFirst,
    Option.map_some, hLength]

/- The length of a body is announced. -/
theorem contentLength_sentHeaders
    {width : Nat}
    (hOther :
      ∀ h ∈ headers,
        ¬ Text.eqIgnoreAsciiCase h.1 "content-length")
    (hFits : (body.getD []).length < 2 ^ width) :
    (contentLength width (sentHeaders url headers body)).getD
        0 = (body.getD []).length := by
  have hFixed :
      ¬ Text.eqIgnoreAsciiCase "Host" "content-length" ∧
        ¬ Text.eqIgnoreAsciiCase "Connection"
          "content-length" ∧
        Text.eqIgnoreAsciiCase "Content-Length"
          "content-length" := by
    decide
  have hSkip :
      headers.find? (fun h =>
        decide (Text.eqIgnoreAsciiCase h.1
          "content-length")) = none := by
    rw [List.find?_eq_none]
    intro h hMem
    simpa using hOther h hMem
  unfold contentLength sentHeaders
  simp only [List.cons_append, List.nil_append]
  rw [List.find?_cons_of_neg (by simpa using hFixed.1),
    List.find?_cons_of_neg (by simpa using hFixed.2.1),
    List.find?_append, hSkip, Option.none_or]
  cases body with
  | none => rfl
  | some b =>
      have hRead := Text.fromStrRadix_ten_repr hFits
      rw [Option.getD_some] at hRead
      rw [List.find?_cons_of_pos (by simpa using hFixed.2.2),
        Option.bind_some, hRead]
      rfl

/- Every header that is sent fills its place. -/
theorem sendable_sentHeaders
    (hHost : Sendable ("Host", url.host))
    (hHeaders : ∀ h ∈ headers, Sendable h) :
    ∀ h ∈ sentHeaders url headers body, Sendable h := by
  intro h hMem
  simp only [sentHeaders, List.cons_append, List.nil_append,
    List.mem_cons, List.mem_append] at hMem
  rcases hMem with rfl | rfl | hMem | hMem
  · exact hHost
  · exact sendable_connection
  · exact hHeaders h hMem
  · cases body with
    | none => cases hMem
    | some b =>
        rcases List.mem_singleton.mp hMem with rfl
        exact sendable_contentLength b.length

/- The headers are read off the lines behind the first. -/
theorem parseHeader_requestLines
    (hHost : Sendable ("Host", url.host))
    (hHeaders : ∀ h ∈ headers, Sendable h) :
    (requestLines method url headers body ++
        [[], []]).tail.filterMap parseHeader =
      sentHeaders url headers body := by
  have hEmpty : [[], []].filterMap parseHeader = [] := rfl
  rw [requestLines, List.cons_append, List.tail_cons,
    List.filterMap_append, hEmpty, List.append_nil,
    List.filterMap_map]
  conv_rhs =>
    rw [← List.filterMap_some
      (l := sentHeaders url headers body)]
  apply List.filterMap_congr
  intro h hMem
  exact (sendable_sentHeaders hHost hHeaders h
    hMem).parseHeader

/-
  The method, the target, the headers and the body are read
  back, whatever follows them.
-/
theorem readBack_writeRequest
    {width : Nat}
    (hMethod : Word method)
    (hTarget : Word url.pathAndQuery)
    (hHost : Sendable ("Host", url.host))
    (hHeaders : ∀ h ∈ headers, Sendable h)
    (hOther :
      ∀ h ∈ headers,
        ¬ Text.eqIgnoreAsciiCase h.1 "content-length")
    (hFits : (body.getD []).length < 2 ^ width)
    (rest : Bytes) :
    readBack width
        (writeRequest method url headers body ++ rest) =
      some
        ⟨method, url.pathAndQuery, "HTTP/1.1",
          sentHeaders url headers body, body.getD []⟩ := by
  have hBroken :
      ∀ h ∈ headers, Unbroken h.1 ∧ Unbroken h.2 :=
    fun h hMem => ⟨(hHeaders h hMem).unbrokenName,
      (hHeaders h hMem).unbrokenValue⟩
  have hEnd :=
    headerEnd_writeRequest body hMethod.unbroken
      hTarget.unbroken hHost.unbrokenValue hBroken
      (body.getD [] ++ rest)
  have hLines :=
    (request_lines_iff method url headers body).mpr
      ⟨hMethod.unbroken, hTarget.unbroken, hHost.unbrokenValue,
        hBroken⟩
  have hFirst :
      (requestLines method url headers body ++
          [[], []]).headD [] =
        requestLine method url :=
    rfl
  unfold readBack writeRequest
  rw [List.append_assoc, hEnd]
  simp only [List.take_left, List.drop_left,
    Utf8.decodeLossy_encode, hLines, hFirst,
    parseHeader_requestLines hHost hHeaders,
    splitRequestLine_requestLine hMethod hTarget,
    contentLength_sentHeaders hOther hFits]

end Http

end UnidppArchive

------------------------------------------------------------
-- Unambiguous Requests
------------------------------------------------------------

namespace UnidppArchive

namespace Http

/-
  A request of words and of headers that fill a line, with
  the length of its body left to the client.
-/
structure Deliverable
    (method : String)
    (url : Url)
    (headers : List (String × String)) : Prop where
  methodWord : Word method
  targetWord : Word url.pathAndQuery
  hostSendable : Sendable ("Host", url.host)
  sendable : ∀ h ∈ headers, Sendable h
  unmeasured :
    ∀ h ∈ headers,
      ¬ Text.eqIgnoreAsciiCase h.1 "content-length"

variable {method method' : String}
variable {url url' : Url}
variable {headers headers' : List (String × String)}
variable {body body' : Option Bytes}
variable {rest rest' : Bytes}

/- A deliverable request does not announce a length itself. -/
theorem Deliverable.length_not_mem
    (h : Deliverable method url headers)
    (n : Nat) :
    ("Content-Length", Nat.repr n) ∉ headers := by
  intro hMem
  have hName :
      Text.eqIgnoreAsciiCase "Content-Length"
        "content-length" := by
    decide
  exact h.unmeasured _ hMem hName

/- What is read back from both is what both were. -/
theorem eq_of_sentHeaders
    (h : Deliverable method url headers)
    (h' : Deliverable method' url' headers')
    (hHeaders :
      sentHeaders url headers body =
        sentHeaders url' headers' body')
    (hBody : body.getD [] = body'.getD []) :
    url.host = url'.host ∧ headers = headers' ∧
      body = body' := by
  simp only [sentHeaders, List.cons_append, List.nil_append,
    List.cons.injEq, Prod.mk.injEq, true_and] at hHeaders
  rcases hHeaders with ⟨hHost, hRest⟩
  cases body with
  | none =>
      cases body' with
      | none => exact ⟨hHost, by simpa using hRest, rfl⟩
      | some b' =>
          refine absurd ?_ (h.length_not_mem b'.length)
          rw [List.append_nil] at hRest
          rw [hRest]
          simp
  | some b =>
      cases body' with
      | none =>
          refine absurd ?_ (h'.length_not_mem b.length)
          rw [List.append_nil] at hRest
          rw [← hRest]
          simp
      | some b' =>
          have hSame : b = b' := hBody
          subst hSame
          exact ⟨hHost, List.append_cancel_right hRest, rfl⟩

/- A request is read back on a platform that is wide enough. -/
theorem Deliverable.readBack
    (h : Deliverable method url headers)
    (body : Option Bytes)
    (more : Nat)
    (rest : Bytes) :
    readBack ((body.getD []).length + more)
        (writeRequest method url headers body ++ rest) =
      some
        ⟨method, url.pathAndQuery, "HTTP/1.1",
          sentHeaders url headers body, body.getD []⟩ := by
  have hFits :
      (body.getD []).length <
        2 ^ ((body.getD []).length + more) := by
    have hWide :=
      Nat.lt_two_pow_self
        (n := (body.getD []).length + more)
    omega
  exact readBack_writeRequest h.methodWord h.targetWord
    h.hostSendable h.sendable h.unmeasured hFits rest

theorem eq_of_writeRequest
    (h : Deliverable method url headers)
    (h' : Deliverable method' url' headers')
    (hSame :
      writeRequest method url headers body ++ rest =
        writeRequest method' url' headers' body' ++ rest') :
    method = method' ∧
      url.pathAndQuery = url'.pathAndQuery ∧
      url.host = url'.host ∧ headers = headers' ∧
      body = body' ∧ rest = rest' := by
  have hRead :=
    h.readBack body (body'.getD []).length rest
  have hRead' :=
    h'.readBack body' (body.getD []).length rest'
  rw [Nat.add_comm, ← hSame, hRead] at hRead'
  simp only [Option.some.injEq, Parts.mk.injEq, true_and]
    at hRead'
  rcases hRead' with ⟨hMethod, hTarget, hHeaders, hBody⟩
  rcases eq_of_sentHeaders h h' hHeaders hBody with
    ⟨hHost, hList, hWhole⟩
  refine ⟨hMethod, hTarget, hHost, hList, hWhole, ?_⟩
  have hOctets :
      writeRequest method url headers body =
        writeRequest method' url' headers' body' := by
    unfold writeRequest requestHead
    rw [hMethod, hTarget, hHost, hList, hWhole]
  rw [hOctets] at hSame
  exact List.append_cancel_left hSame

/-
  A request has the lines that are written exactly if nothing
  in it holds a line end.  If its parts fill their places
  besides, no other such request is written alike, whatever
  follows the two.
-/
theorem written_request_is_unambiguous
    (method : String)
    (url : Url)
    (headers : List (String × String))
    (body : Option Bytes) :
    (Text.splitLineEnds
            (requestHead method url headers body).toList =
          requestLines method url headers body ++ [[], []] ↔
        Unbroken method ∧ Unbroken url.pathAndQuery ∧
          Unbroken url.host ∧
          ∀ h ∈ headers, Unbroken h.1 ∧ Unbroken h.2) ∧
      (Deliverable method url headers →
        ∀ method' url' headers' body' rest rest',
          Deliverable method' url' headers' →
            writeRequest method url headers body ++ rest =
                writeRequest method' url' headers' body' ++
                  rest' →
              method = method' ∧
                url.pathAndQuery = url'.pathAndQuery ∧
                url.host = url'.host ∧ headers = headers' ∧
                body = body' ∧ rest = rest') :=
  ⟨request_lines_iff method url headers body,
    fun h _ _ _ _ _ _ h' hSame =>
      eq_of_writeRequest h h' hSame⟩

/- A body that holds a blank line of its own. -/
theorem written_request_is_unambiguous_sample :
    ∀ headers' body' rest',
      Deliverable "PUT" ⟨"log", 80, "/a"⟩ headers' →
        writeRequest "PUT" ⟨"log", 80, "/a"⟩
              [("accept", "*/*")]
              (some [13, 10, 13, 10, 65]) ++ [66] =
            writeRequest "PUT" ⟨"log", 80, "/a"⟩ headers'
                body' ++ rest' →
          headers' = [("accept", "*/*")] ∧
            body' = some [13, 10, 13, 10, 65] ∧
            rest' = [66] := by
  have hAccept : Sendable ("accept", "*/*") :=
    ⟨by decide, by decide, by decide, by decide, by decide⟩
  have hDeliverable :
      Deliverable "PUT" ⟨"log", 80, "/a"⟩
        [("accept", "*/*")] :=
    { methodWord := ⟨by decide, by decide⟩
      targetWord := ⟨by decide, by decide⟩
      hostSendable :=
        ⟨by decide, by decide, by decide, by decide,
          by decide⟩
      sendable := by simpa using hAccept
      unmeasured := by decide }
  intro headers' body' rest' hOther hSame
  rcases (written_request_is_unambiguous "PUT"
      ⟨"log", 80, "/a"⟩ [("accept", "*/*")]
      (some [13, 10, 13, 10, 65])).2 hDeliverable "PUT"
      ⟨"log", 80, "/a"⟩ headers' body' [66] rest' hOther hSame
    with
    ⟨-, -, -, hHeaders, hBody, hRest⟩
  exact ⟨hHeaders.symm, hBody.symm, hRest.symm⟩

end Http

end UnidppArchive
