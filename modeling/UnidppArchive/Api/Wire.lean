import UnidppArchive.Api.Delivery
import UnidppArchive.Foundations.Trimming
import UnidppArchive.Http.Request
import UnidppArchive.Reference.Samples

/-
  The anchoring hop on the wire (`http.rs`, `log_anchor.rs`).

  The client parses the URL of the log, writes the request
  and reads the answer.  The network takes what is written
  to a host and a port, and refuses it or answers with a
  connection.

  Key definitions include:
    * `Http.Network`
    * `Http.jsonRequest`
    * `wireTransport`
    * `PlainRequest`
    * `Submits`

  Key theorems include:
    * `commitments_url`
    * `log_receives_commitment`
    * `anchor_request_lines_iff`
-/

------------------------------------------------------------
-- JSON Requests
------------------------------------------------------------

namespace UnidppArchive

namespace Http

/-
  What becomes of octets that are written to a host and a
  port: connecting, writing or waiting fails, or the peer
  answers.
-/
abbrev Network :=
  String → UInt16 → Bytes → Except IoError Connection

/- `request`, on a platform with words of this width. -/
def request
    (width : Nat)
    (net : Network)
    (method : String)
    (url : Url)
    (headers : List (String × String))
    (body : Option Bytes) : Checked IoError RawResponse :=
  match
    net url.host url.port (writeRequest method url headers body)
  with
  | .error e => .error (.refused e)
  | .ok c => readResponse width c

def jsonHeaders
    (body bearer : Option String) : List (String × String) :=
  (if body.isSome then
    [("content-type", "application/json")]
  else
    []) ++
    match bearer with
    | some t => [("authorization", s!"Bearer {t}")]
    | none => []

/- `json_request`, unless the client panics. -/
def jsonRequest
    (width : Nat)
    (net : Network)
    (method url : String)
    (body bearer : Option String) :
    Option (Except String HttpResponse) :=
  match Url.parse url with
  | .error e => some (.error e)
  | .ok url =>
      requestOutcome
        (request width net method url (jsonHeaders body bearer)
          (body.map Utf8.encode))

end Http

open Http

/- What the anchoring hop gets for a request to the log. -/
def wireTransport
    (width : Nat)
    (net : Network)
    (post : AnchorPost) :
    Option (Except String HttpResponse) :=
  jsonRequest width net "POST" post.url (some post.body)
    post.bearer

/- The octets that are written for it. -/
def wireOctets
    (u : Url)
    (post : AnchorPost) : Bytes :=
  writeRequest "POST" u
    (jsonHeaders (some post.body) post.bearer)
    (some (Utf8.encode post.body))

/- They go to the host and the port of the URL. -/
theorem wireTransport_of_parse
    {u : Url}
    {post : AnchorPost}
    (hParse : Url.parse post.url = .ok u)
    (width : Nat)
    (net : Network) :
    wireTransport width net post =
      requestOutcome
        (match net u.host u.port (wireOctets u post) with
        | .error e => .error (.refused e)
        | .ok c => readResponse width c) := by
  unfold wireTransport jsonRequest
  rw [hParse]
  rfl

end UnidppArchive

------------------------------------------------------------
-- The URL of the Log
------------------------------------------------------------

namespace UnidppArchive

open Http

/- The URL to which commitments are posted. -/
def commitmentsUrl
    (base : String) : String :=
  Text.trimEndMatches base '/' ++ "/commitments"

/- A path without its trailing slashes, and the endpoint. -/
def commitmentsTarget
    (path : String) : String :=
  Text.trimEndMatches path '/' ++ "/commitments"

theorem slash_first_of_tail
    {tail path : List Char}
    (hTail : Url.Tail tail path) :
    ∃ rest,
      tail.rdropWhile (· == '/') ++ "/commitments".toList =
        '/' :: rest ∧
      tail.rdropWhile (· == '/') =
        path.rdropWhile (· == '/') := by
  rcases hTail with ⟨rfl, rfl⟩ | ⟨rfl, rest, rfl⟩
  · exact ⟨"commitments".toList, rfl, by decide⟩
  · have hStarts :
        ∃ more,
          ('/' :: rest).rdropWhile (· == '/') ++
              "/commitments".toList =
            '/' :: more := by
      cases hLeft : ('/' :: rest).rdropWhile (· == '/') with
      | nil => exact ⟨_, rfl⟩
      | cons c cs =>
          have hPrefix : c :: cs <+: '/' :: rest := by
            rw [← hLeft]
            exact List.rdropWhile_prefix _ _
          rw [(List.cons_prefix_cons.mp hPrefix).1]
          exact ⟨_, rfl⟩
    rcases hStarts with ⟨more, hMore⟩
    exact ⟨more, hMore, rfl⟩

/- An authority with a host ends with another sign. -/
theorem exists_last_of_authority
    {host authority : List Char}
    {port : UInt16}
    (hSlash : '/' ∉ authority)
    (hHost : host ≠ [])
    (h : Url.Authority host authority port) :
    ∃ front d, authority = front ++ [d] ∧ d ≠ '/' := by
  have hSome : authority ≠ [] := by
    cases h with
    | named hColon => exact hHost
    | ported hPort hWord => simp
  refine ⟨authority.dropLast, authority.getLast hSome,
    (List.dropLast_append_getLast hSome).symm, ?_⟩
  intro hSame
  apply hSlash
  rw [← hSame]
  exact List.getLast_mem hSome

/- The base and the URL of the endpoint have one address. -/
theorem denotes_commitmentsUrl
    {base : String}
    {u : Url}
    (h : Url.Denotes base u) :
    Url.Denotes (commitmentsUrl base)
      ⟨u.host, u.port, commitmentsTarget u.pathAndQuery⟩ := by
  rcases h with ⟨⟨scheme, authority, tail, hText, hScheme,
    hSlash, hAuthority, hTail⟩, hHost⟩
  rcases exists_last_of_authority hSlash
      (by simpa using hHost) hAuthority with
    ⟨front, d, hFront, hLast⟩
  rcases slash_first_of_tail hTail with
    ⟨rest, hRest, hPath⟩
  refine ⟨⟨scheme, authority,
    tail.rdropWhile (· == '/') ++ "/commitments".toList, ?_,
    hScheme, hSlash, hAuthority, Or.inr ⟨?_, rest, ?_⟩⟩, hHost⟩
  · have hCut :
        base.toList =
          (scheme ++ "://".toList ++ front) ++ d :: tail := by
      rw [hText, hFront]
      simp
    rw [commitmentsUrl, String.toList_append,
      Text.toList_trimEndMatches, hCut,
      Text.rdropWhile_append_cons hLast, hFront]
    simp
  · rw [commitmentsTarget, String.toList_append,
      Text.toList_trimEndMatches, hPath]
  · rw [commitmentsTarget, String.toList_append,
      Text.toList_trimEndMatches, ← hPath]
    exact hRest

/- A URL that ends in any path, or in none. -/
theorem exists_denotes_of_tail
    {base : String}
    {v : Url}
    {scheme authority tail : List Char}
    (hText :
      base.toList = scheme ++ "://".toList ++ authority ++ tail)
    (hScheme :
      Text.eqIgnoreAsciiCase (String.ofList scheme) "http")
    (hSlash : '/' ∉ authority)
    (hAuthority :
      Url.Authority v.host.toList authority v.port)
    (hHost : v.host ≠ "")
    (hStart : tail = [] ∨ ∃ rest, tail = '/' :: rest) :
    ∃ u, Url.Denotes base u := by
  rcases hStart with hNone | ⟨rest, hSome⟩
  · refine ⟨⟨v.host, v.port, "/"⟩, ⟨scheme, authority, tail,
      hText, hScheme, hSlash, hAuthority, ?_⟩, hHost⟩
    have hRoot : "/".toList = ['/'] := by decide
    exact Or.inl ⟨hNone, hRoot⟩
  · refine ⟨⟨v.host, v.port, String.ofList tail⟩, ⟨scheme,
      authority, tail, hText, hScheme, hSlash, hAuthority, ?_⟩,
      hHost⟩
    right
    rw [String.toList_ofList]
    exact ⟨rfl, rest, hSome⟩

/- What is left of a path in front of its last slash. -/
theorem start_of_cut
    {front back rest : List Char}
    (hCut : front ++ '/' :: back = '/' :: rest)
    (n : Nat) :
    front ++ List.replicate n '/' = [] ∨
      ∃ rest,
        front ++ List.replicate n '/' = '/' :: rest := by
  cases front with
  | nil =>
      cases n with
      | zero => exact Or.inl rfl
      | succ n => exact Or.inr ⟨_, rfl⟩
  | cons c front =>
      rw [List.cons_append, List.cons.injEq] at hCut
      rw [hCut.1]
      exact Or.inr ⟨_, rfl⟩

/- A base whose endpoint has an address has one itself. -/
theorem exists_denotes_of_commitmentsUrl
    {base : String}
    {v : Url}
    (h : Url.Denotes (commitmentsUrl base) v) :
    ∃ u, Url.Denotes base u := by
  rcases h with ⟨⟨scheme, authority, tail, hText, hScheme,
    hSlash, hAuthority, hTail⟩, hHost⟩
  rw [commitmentsUrl, String.toList_append,
    Text.toList_trimEndMatches] at hText
  rcases Text.exists_rdropWhile '/' base.toList with
    ⟨n, hBase⟩
  have hEnd := Text.getLast?_rdropWhile '/' base.toList
  generalize base.toList.rdropWhile (· == '/') = left
    at hText hBase hEnd
  have hWord : '/' ∉ "commitments".toList := by decide
  have hEndpoint :
      Text.rsplitOnce '/' (left ++ "/commitments".toList) =
        some (left, "commitments".toList) :=
    Text.rsplitOnce_eq_some_iff.mpr ⟨rfl, hWord⟩
  rcases hTail with ⟨rfl, -⟩ | ⟨rfl, rest, hPath⟩
  · -- the last slash would be that of the scheme
    have hOther :
        Text.rsplitOnce '/' (left ++ "/commitments".toList) =
          some (scheme ++ [':', '/'], authority) := by
      apply Text.rsplitOnce_eq_some_iff.mpr
      refine ⟨?_, hSlash⟩
      rw [hText]
      simp
    rw [hOther, Option.some.injEq, Prod.mk.injEq] at hEndpoint
    rw [← hEndpoint.1] at hEnd
    exact absurd rfl (hEnd '/' (by simp))
  · -- the last slash is one of the path
    have hMem : '/' ∈ v.pathAndQuery.toList := by
      rw [hPath]
      simp
    cases hCut : Text.rsplitOnce '/' v.pathAndQuery.toList with
    | none =>
        exact absurd hMem (Text.rsplitOnce_eq_none_iff.mp hCut)
    | some parts =>
        rcases parts with ⟨front, back⟩
        rcases Text.rsplitOnce_eq_some_iff.mp hCut with
          ⟨hPieces, hBack⟩
        have hOther :
            Text.rsplitOnce '/'
                (left ++ "/commitments".toList) =
              some
                (scheme ++ "://".toList ++ authority ++ front,
                  back) := by
          apply Text.rsplitOnce_eq_some_iff.mpr
          refine ⟨?_, hBack⟩
          rw [hText, hPieces]
          simp
        rw [hOther, Option.some.injEq, Prod.mk.injEq]
          at hEndpoint
        have hWhole :
            base.toList =
              scheme ++ "://".toList ++ authority ++
                (front ++ List.replicate n '/') := by
          rw [hBase, ← hEndpoint.1]
          simp
        rw [hPieces] at hPath
        exact exists_denotes_of_tail hWhole hScheme hSlash
          hAuthority hHost (start_of_cut hPath n)

/- The endpoint is on the host and the port of the log. -/
theorem parse_commitmentsUrl
    {base : String}
    {u : Url}
    (hParse : Url.parse base = .ok u) :
    Url.parse (commitmentsUrl base) =
      .ok ⟨u.host, u.port, commitmentsTarget u.pathAndQuery⟩ :=
  Url.parse_eq_ok_iff.mpr
    (denotes_commitmentsUrl (Url.parse_eq_ok_iff.mp hParse))

/-
  A commitment is posted exactly if the configured URL is
  one, to its host and port, under its path with one slash
  before the endpoint.
-/
theorem commitments_url
    (base : String) :
    (∀ u, Url.parse base = .ok u →
        Url.parse (commitmentsUrl base) =
          .ok ⟨u.host, u.port,
            commitmentsTarget u.pathAndQuery⟩) ∧
      ((∃ v, Url.parse (commitmentsUrl base) = .ok v) →
        ∃ u, Url.parse base = .ok u) := by
  refine ⟨fun u => parse_commitmentsUrl, ?_⟩
  rintro ⟨v, hParse⟩
  rcases exists_denotes_of_commitmentsUrl
      (Url.parse_eq_ok_iff.mp hParse) with
    ⟨u, hu⟩
  exact ⟨u, Url.parse_eq_ok_iff.mpr hu⟩

end UnidppArchive

------------------------------------------------------------
-- What the Log Reads
------------------------------------------------------------

namespace UnidppArchive

open Http
open Json

/- `HttpResponse::header`, of any headers. -/
def Http.header?
    (headers : List (String × String))
    (name : String) : Option String :=
  (headers.find?
      (fun h => Text.eqIgnoreAsciiCase h.1 name)).map Prod.snd

/-
  The target is one word, and the host and the token are
  read as they are written.
-/
structure PlainRequest
    (u : Url)
    (bearer : Option String) : Prop where
  target : Word u.pathAndQuery
  host : Sendable ("Host", u.host)
  bearer :
    ∀ t, bearer = some t →
      Text.trim t = t ∧ t ≠ "" ∧ Unbroken t

/- The text submits a commitment for a subject. -/
def Submits
    (C : Crates)
    (subject : String)
    (commitment : Hash)
    (text : String) : Prop :=
  ∃ v,
    C.serde.fromStr text = .ok v ∧
      v.get? "subject" = some (.string subject) ∧
      ((v.get? "commitment").bind Value.asStr?).bind
          C.model.fromHex =
        some commitment

variable {C : Crates}
variable {config : LogAnchorConfig}
variable {base subject : String}
variable {commitment : Hash}
variable {u : Url}

/- A token is sent behind its scheme. -/
theorem sendable_authorization
    {t : String}
    (hTrim : Text.trim t = t)
    (hSome : t ≠ "")
    (hUnbroken : Unbroken t) :
    Sendable ("authorization", s!"Bearer {t}") := by
  have hColon : ':' ∉ "authorization".toList := by decide
  have hName :
      Text.trim "authorization" = "authorization" := by
    decide
  have hFixed : Unbroken "authorization" := by decide
  refine ⟨hColon, hName, ?_, hFixed, ?_⟩
  · apply Text.trim_eq_self_iff.mpr
    have hHead : "Bearer ".toList.head? = some 'B' := rfl
    apply Text.trimmed_append (s := "Bearer ")
    · intro c hc
      rw [hHead, Option.mem_some_iff] at hc
      rw [← hc]
      decide
    · exact Text.trim_eq_self_iff.mp hTrim
    · decide
    · exact hSome
  · have hText :
        (s!"Bearer {t}").toList =
          "Bearer".toList ++ ' ' :: t.toList := by
      have hShown (s : String) : toString s = s := rfl
      simp [hShown]
    unfold Unbroken
    rw [hText, infix_append_cons_iff (by decide) (by decide)]
    rintro (hScheme | hToken)
    · exact absurd hScheme (by decide)
    · exact hUnbroken hToken

theorem sendable_jsonHeaders
    {bearer : Option String}
    (hPlain : PlainRequest u bearer)
    (body : String) :
    ∀ h ∈ jsonHeaders (some body) bearer, Sendable h := by
  intro h hMem
  simp only [jsonHeaders, Option.isSome_some, if_true,
    List.mem_append, List.mem_singleton] at hMem
  rcases hMem with rfl | hBearer
  · exact ⟨by decide, by decide, by decide, by decide,
      by decide⟩
  · cases bearer with
    | none => cases hBearer
    | some t =>
        rcases List.mem_singleton.mp hBearer with rfl
        rcases hPlain.bearer t rfl with
          ⟨hTrim, hSome, hUnbroken⟩
        exact sendable_authorization hTrim hSome hUnbroken

/- No header of a JSON request announces a length. -/
theorem jsonHeaders_ne_length
    {body bearer : Option String} :
    ∀ h ∈ jsonHeaders body bearer,
      ¬ Text.eqIgnoreAsciiCase h.1 "content-length" := by
  intro h hMem
  simp only [jsonHeaders, List.mem_append] at hMem
  rcases hMem with hType | hBearer
  · split at hType
    · rcases List.mem_singleton.mp hType with rfl
      decide
    · cases hType
  · cases bearer with
    | none => cases hBearer
    | some t =>
        rcases List.mem_singleton.mp hBearer with rfl
        have hName :
            ¬ Text.eqIgnoreAsciiCase "authorization"
              "content-length" := by
          decide
        exact hName

/- The token is found in the headers of a JSON request. -/
theorem authorization_jsonHeaders
    (body : String)
    (bearer : Option String) :
    header? (jsonHeaders (some body) bearer) "authorization" =
      bearer.map (fun t => s!"Bearer {t}") := by
  have hNames :
      ¬ Text.eqIgnoreAsciiCase "content-type"
          "authorization" ∧
        Text.eqIgnoreAsciiCase "authorization"
          "authorization" := by
    decide
  rcases hNames with ⟨hType, hSame⟩
  unfold header? jsonHeaders
  cases bearer with
  | none => simp [hType]
  | some t => simp [hType, hSame]

/- A plain request fills its places with what is posted. -/
theorem deliverable_jsonHeaders
    {bearer : Option String}
    (hPlain : PlainRequest u bearer)
    (body : String) :
    Deliverable "POST" u (jsonHeaders (some body) bearer) where
  methodWord := ⟨by decide, by decide⟩
  targetWord := hPlain.target
  hostSendable := hPlain.host
  sendable := sendable_jsonHeaders hPlain body
  unmeasured := jsonHeaders_ne_length

/- The body of the archive submits its commitment. -/
theorem submits_anchorBody
    (hHex : C.model.HexLaw)
    (hInverts :
      C.serde.Inverts (anchorBody C subject commitment)) :
    Submits C subject commitment
      (C.serde.toString (anchorBody C subject commitment)) := by
  refine ⟨anchorBody C subject commitment, hInverts, ?_, ?_⟩
  · simp [anchorBody]
  · simp [anchorBody, Value.asStr?, hHex commitment]

/- The request for a commitment, with a URL that is one. -/
theorem anchorPost_of_parse
    (C : Crates)
    (subject : String)
    (commitment : Hash)
    (hBase : config.baseUrl = some base)
    (hParse : Url.parse (Text.trim base) = .ok u) :
    ∃ post,
      anchorPost C config subject commitment = .ok post ∧
        post.url = commitmentsUrl (Text.trim base) ∧
        post.body =
          C.serde.toString (anchorBody C subject commitment) ∧
        post.bearer = config.bearer := by
  have hSome : Text.trim base ≠ "" := by
    intro hEmpty
    have hNone :
        Url.parse "" = .error "URL must be absolute: ``" := by
      decide
    rw [hEmpty, hNone] at hParse
    cases hParse
  have hFilter :
      (config.baseUrl.map Text.trim).filter (· ≠ "") =
        some (Text.trim base) := by
    simp [hBase, hSome]
  unfold anchorPost
  rw [hFilter, okOr_some, ok_bind]
  exact ⟨_, rfl, rfl, rfl, rfl⟩

/- A post goes under the URL that is configured. -/
theorem url_of_anchorPost
    {post : AnchorPost}
    (hBase : config.baseUrl = some base)
    (hPost : anchorPost C config subject commitment = .ok post) :
    post.url = commitmentsUrl (Text.trim base) := by
  unfold anchorPost at hPost
  rw [hBase, Option.map_some] at hPost
  by_cases hSome : Text.trim base = ""
  · rw [Option.filter_some_neg (by simpa using hSome)] at hPost
    cases hPost
  · rw [Option.filter_some_pos (by simpa using hSome), okOr_some,
      ok_bind, Except.ok.injEq] at hPost
    rw [← hPost, commitmentsUrl]

/- Without a base that is a URL, the endpoint is none. -/
theorem exists_parse_error
    {e : String}
    (h : Url.parse base = .error e) :
    ∃ failure,
      Url.parse (commitmentsUrl base) = .error failure := by
  cases hParse : Url.parse (commitmentsUrl base) with
  | error failure => exact ⟨failure, rfl⟩
  | ok v =>
      rcases exists_denotes_of_commitmentsUrl
          (Url.parse_eq_ok_iff.mp hParse) with
        ⟨u, hu⟩
      rw [Url.parse_eq_ok_iff.mpr hu] at h
      cases h

/-
  With a URL that is none, nothing is sent.  Otherwise the
  log that is configured, and no other peer, is sent one POST;
  and whatever follows on the connection, as a request its
  octets can only be read as one POST to the endpoint, with
  the token, that submits the commitment for the subject.
-/
theorem log_receives_commitment
    (config : LogAnchorConfig)
    (hHex : C.model.HexLaw)
    (hInverts :
      C.serde.Inverts (anchorBody C subject commitment))
    (hBase : config.baseUrl = some base) :
    (∀ e, Url.parse (Text.trim base) = .error e →
        ∀ post,
          anchorPost C config subject commitment = .ok post →
            ∃ failure, ∀ width net,
              wireTransport width net post =
                some (.error failure)) ∧
      ∀ u, Url.parse (Text.trim base) = .ok u →
        PlainRequest
            ⟨u.host, u.port, commitmentsTarget u.pathAndQuery⟩
            config.bearer →
          ∃ post headers text,
            anchorPost C config subject commitment = .ok post ∧
              (∀ width net,
                wireTransport width net post =
                  requestOutcome
                    (match
                      net u.host u.port
                        (writeRequest "POST"
                          ⟨u.host, u.port,
                            commitmentsTarget u.pathAndQuery⟩
                          headers (some (Utf8.encode text)))
                    with
                    | .error e => .error (.refused e)
                    | .ok c => readResponse width c)) ∧
              header? headers "authorization" =
                config.bearer.map (fun t => s!"Bearer {t}") ∧
              Submits C subject commitment text ∧
              ∀ method url headers' body rest rest',
                Deliverable method url headers' →
                  writeRequest "POST"
                          ⟨u.host, u.port,
                            commitmentsTarget u.pathAndQuery⟩
                          headers (some (Utf8.encode text)) ++
                        rest =
                      writeRequest method url headers' body ++
                        rest' →
                    method = "POST" ∧
                      url.pathAndQuery =
                        commitmentsTarget u.pathAndQuery ∧
                      url.host = u.host ∧
                      headers' = headers ∧
                      body = some (Utf8.encode text) ∧
                      rest' = rest := by
  constructor
  · intro e hParse post hPost
    rcases exists_parse_error hParse with ⟨failure, hFailure⟩
    refine ⟨failure, fun width net => ?_⟩
    rw [wireTransport, jsonRequest, url_of_anchorPost hBase hPost,
      hFailure]
  · intro u hParse hPlain
    rcases anchorPost_of_parse C subject commitment hBase hParse
      with
      ⟨post, hPost, hUrl, hBody, hBearer⟩
    have hTarget := parse_commitmentsUrl hParse
    rw [← hUrl] at hTarget
    rw [← hBearer] at hPlain
    have hDeliverable :=
      deliverable_jsonHeaders hPlain post.body
    refine ⟨post, jsonHeaders (some post.body) post.bearer,
      post.body, hPost, ?_, ?_, ?_, ?_⟩
    · intro width net
      rw [wireTransport_of_parse hTarget, wireOctets]
    · rw [← hBearer]
      exact authorization_jsonHeaders post.body post.bearer
    · rw [hBody]
      exact submits_anchorBody hHex hInverts
    · intro method url headers' body rest rest' hOther hSame
      rcases eq_of_writeRequest hDeliverable hOther hSame with
        ⟨hMethod, hPath, hHost, hHeaders, hText, hRest⟩
      exact ⟨hMethod.symm, hPath.symm, hHost.symm,
        hHeaders.symm, hText.symm, hRest.symm⟩

namespace Reference

/- A log on loopback, with a token. -/
def logConfig : LogAnchorConfig :=
  ⟨some " http://127.0.0.1:8092/ ", some "append-1", 3000⟩

def logUrl : Url :=
  ⟨"127.0.0.1", 8092, "/"⟩

theorem parse_logConfig :
    Url.parse (Text.trim " http://127.0.0.1:8092/ ") =
      .ok logUrl := by
  decide

theorem plainRequest_logConfig :
    PlainRequest
      ⟨logUrl.host, logUrl.port,
        commitmentsTarget logUrl.pathAndQuery⟩
      logConfig.bearer := by
  refine ⟨⟨by decide, by decide⟩,
    ⟨by decide, by decide, by decide, by decide, by decide⟩,
    ?_⟩
  intro t hToken
  cases hToken
  decide

end Reference

open Reference in
/- A commitment on its way to the sample log. -/
theorem log_receives_commitment_sample :
    ∃ post headers text,
      anchorPost crates logConfig "s" Hash.zero = .ok post ∧
        header? headers "authorization" =
          some "Bearer append-1" ∧
        Submits crates "s" Hash.zero text ∧
        ∀ headers' body rest',
          Deliverable "POST" ⟨"127.0.0.1", 8092, "/commitments"⟩
              headers' →
            writeRequest "POST"
                  ⟨"127.0.0.1", 8092, "/commitments"⟩ headers
                  (some (Utf8.encode text)) ++ [65] =
                writeRequest "POST"
                    ⟨"127.0.0.1", 8092, "/commitments"⟩
                    headers' body ++ rest' →
              body = some (Utf8.encode text) ∧
                rest' = [65] := by
  have hTarget :
      commitmentsTarget logUrl.pathAndQuery = "/commitments" := by
    decide
  have hInverts :
      crates.serde.Inverts
        (anchorBody crates "s" Hash.zero) :=
    inverts_serde _
  rcases (log_receives_commitment logConfig hexLaw hInverts
      rfl).2 logUrl parse_logConfig
      plainRequest_logConfig with
    ⟨post, headers, text, hPost, -, hBearer, hSubmits, hOnly⟩
  rw [hTarget] at hOnly
  refine ⟨post, headers, text, hPost, hBearer, hSubmits, ?_⟩
  intro headers' body rest' hOther hSame
  rcases hOnly _ _ headers' body [65] rest' hOther hSame with
    ⟨-, -, -, -, hBody, hRest⟩
  exact ⟨hBody, hRest⟩

end UnidppArchive

------------------------------------------------------------
-- Injected Lines
------------------------------------------------------------

namespace UnidppArchive

open Http
open Json

/- The line ends of a URL are those of its host and path. -/
theorem unbroken_of_denotes_iff
    {s : String}
    {u : Url}
    (h : Url.Denotes s u) :
    Unbroken s ↔ Unbroken u.host ∧ Unbroken u.pathAndQuery := by
  rcases h with ⟨⟨scheme, authority, tail, hText, hScheme, -,
    hAuthority, hTail⟩, -⟩
  have hFirst : ¬ ['\r', '\n'] <:+: scheme := by
    apply not_infix_of_not_mem
    intro hMem
    have hLower := congrArg String.toList hScheme
    simp only [Text.toAsciiLowercase, String.toList_ofList]
      at hLower
    have hReturn : '\r' ∈ "http".toList.map Char.toLower := by
      rw [← hLower]
      exact List.mem_map.mpr ⟨'\r', hMem, by decide⟩
    exact absurd hReturn (by decide)
  have hHost :
      ['\r', '\n'] <:+: authority ↔
        ['\r', '\n'] <:+: u.host.toList := by
    generalize u.port = port at hAuthority
    cases hAuthority with
    | named hColon => rfl
    | @ported digits n hPort hWord =>
        have hDigits : ¬ ['\r', '\n'] <:+: digits := by
          rcases hPort with ⟨ds, hSign, -, hAll, -⟩
          apply not_infix_of_not_mem
          intro hMem
          have hDigit : '\r' ∈ ds := by
            rcases hSign with rfl | rfl
            · exact hMem
            · rcases List.mem_cons.mp hMem with hPlus | hRest
              · exact absurd hPlus (by decide)
              · exact hRest
          exact absurd (hAll '\r' hDigit) (by decide)
        rw [infix_append_cons_iff (by decide) (by decide)]
        simp [hDigits]
  have hPath :
      ['\r', '\n'] <:+: authority ++ tail ↔
        ['\r', '\n'] <:+: authority ∨
          ['\r', '\n'] <:+: u.pathAndQuery.toList := by
    rcases hTail with ⟨rfl, hRoot⟩ | ⟨rfl, rest, hRest⟩
    · have hNone : ¬ ['\r', '\n'] <:+: ['/'] := by decide
      rw [hRoot, List.append_nil]
      simp [hNone]
    · rw [hRest, infix_append_cons_iff (by decide) (by decide),
        infix_cons_iff_of_ne (by decide) (by decide)]
  have hWhole :
      s.toList =
        scheme ++ ':' :: '/' :: '/' :: (authority ++ tail) := by
    rw [hText]
    simp
  unfold Unbroken
  rw [hWhole, infix_append_cons_iff (by decide) (by decide),
    infix_cons_iff_of_ne (by decide) (by decide),
    infix_cons_iff_of_ne (by decide) (by decide), hPath, hHost]
  simp [hFirst]

/- The endpoint brings no line end. -/
theorem unbroken_commitmentsTarget_iff
    {path : String} :
    Unbroken (commitmentsTarget path) ↔ Unbroken path := by
  have hWord : ¬ ['\r', '\n'] <:+: "commitments".toList := by
    decide
  rcases Text.exists_rdropWhile '/' path.toList with
    ⟨n, hPath⟩
  have hEndpoint :
      (commitmentsTarget path).toList =
        path.toList.rdropWhile (· == '/') ++
          '/' :: "commitments".toList := by
    rw [commitmentsTarget, String.toList_append,
      Text.toList_trimEndMatches]
    rfl
  unfold Unbroken
  rw [hEndpoint, infix_append_cons_iff (by decide) (by decide)]
  conv_rhs =>
    rw [hPath, infix_append_replicate_iff (by decide) (by decide)]
  simp only [hWord, or_false]

variable {C : Crates}
variable {config : LogAnchorConfig}
variable {base subject : String}
variable {commitment : Hash}
variable {u : Url}

/-
  The head of a request to the log has the lines that the
  client writes, and no others, exactly if neither the
  configured URL nor the token has a line end in it.
-/
theorem anchor_request_lines_iff
    (C : Crates)
    (config : LogAnchorConfig)
    (subject : String)
    (commitment : Hash)
    (hBase : config.baseUrl = some base)
    (hParse : Url.parse (Text.trim base) = .ok u) :
    ∃ post target,
      anchorPost C config subject commitment = .ok post ∧
        Url.parse post.url = .ok target ∧
        (Text.splitLineEnds
              (requestHead "POST" target
                (jsonHeaders (some post.body) post.bearer)
                (some (Utf8.encode post.body))).toList =
            requestLines "POST" target
                (jsonHeaders (some post.body) post.bearer)
                (some (Utf8.encode post.body)) ++
              [[], []] ↔
          Unbroken (Text.trim base) ∧
            ∀ t, config.bearer = some t → Unbroken t) := by
  rcases anchorPost_of_parse C subject commitment hBase hParse
    with
    ⟨post, hPost, hUrl, -, hBearer⟩
  have hTarget := parse_commitmentsUrl hParse
  rw [← hUrl] at hTarget
  refine ⟨post, _, hPost, hTarget, ?_⟩
  have hMethod : Unbroken "POST" := by decide
  have hHeaders :
      (∀ h ∈ jsonHeaders (some post.body) post.bearer,
          Unbroken h.1 ∧ Unbroken h.2) ↔
        ∀ t, config.bearer = some t → Unbroken t := by
    have hType :
        Unbroken "content-type" ∧
          Unbroken "application/json" ∧
          Unbroken "authorization" := by
      decide
    rw [hBearer]
    cases config.bearer with
    | none => simp [jsonHeaders, hType]
    | some t =>
        have hText :
            (s!"Bearer {t}").toList =
              "Bearer".toList ++ ' ' :: t.toList := by
          have hShown (s : String) : toString s = s := rfl
          simp [hShown]
        have hToken :
            Unbroken s!"Bearer {t}" ↔ Unbroken t := by
          have hScheme :
              ¬ ['\r', '\n'] <:+: "Bearer".toList := by
            decide
          unfold Unbroken
          rw [hText,
            infix_append_cons_iff (by decide) (by decide)]
          simp only [hScheme, false_or]
        simp [jsonHeaders, hType, hToken]
  rw [request_lines_iff, hHeaders,
    unbroken_of_denotes_iff (Url.parse_eq_ok_iff.mp hParse)]
  simp only [hMethod, true_and, unbroken_commitmentsTarget_iff]
  exact ⟨fun h => ⟨⟨h.2.1, h.1⟩, h.2.2⟩,
    fun h => ⟨h.1.2, h.1.1, h.2⟩⟩

open Reference in
/- The sample token sends no line of its own. -/
theorem anchor_request_lines_iff_sample :
    ∃ post target,
      anchorPost crates logConfig "s" Hash.zero = .ok post ∧
        Text.splitLineEnds
            (requestHead "POST" target
              (jsonHeaders (some post.body) post.bearer)
              (some (Utf8.encode post.body))).toList =
          requestLines "POST" target
              (jsonHeaders (some post.body) post.bearer)
              (some (Utf8.encode post.body)) ++
            [[], []] := by
  rcases anchor_request_lines_iff crates logConfig "s"
      Hash.zero rfl parse_logConfig with
    ⟨post, target, hPost, -, hLines⟩
  refine ⟨post, target, hPost, hLines.mpr ⟨by decide, ?_⟩⟩
  intro t hToken
  cases hToken
  decide

end UnidppArchive
