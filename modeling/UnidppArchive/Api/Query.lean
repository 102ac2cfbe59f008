import UnidppArchive.Api.Finding
import UnidppArchive.Http.Request
import UnidppArchive.Reference.Extractor

/-
  A catalogue that is asked for over HTTP (`http.rs`,
  `api.rs`).

  A client escapes the parameters, writes them into a URL and
  sends a GET for it.  The framework of the service reads the
  parameters back, so that no text of a passport changes what
  is asked for.

  Key definitions include:
    * `catalogueQuery`

  Key theorems include:
    * `Http.Url.query_is_delivered`
    * `deliverable_withQuery`
    * `catalogue_over_http`
-/

------------------------------------------------------------
-- Delivered Parameters
------------------------------------------------------------

namespace UnidppArchive

namespace Http

namespace Url

/-
  A URL with encoded parameters is accepted, and whatever
  extractor a server has, the handler finds the value of
  every name, and no other name, whatever the texts.
-/
theorem query_is_delivered
    {extract : FormData.Extractor}
    {limit : Nat}
    {u : Url}
    {ps : List (String × String)}
    (hExtracts : FormData.Extracts unreserved limit extract)
    (hFormed : WellFormed u)
    (hPath : FormData.PlainPath unreserved u.pathAndQuery)
    (hNames : (ps.map Prod.fst).Nodup)
    (hFits :
      Text.byteLen (withQuery u.pathAndQuery ps) ≤ limit) :
    ∃ target params,
      parse (withQuery u.render ps) =
          .ok ⟨u.host, u.port, target⟩ ∧
        extract target = some params ∧
        ∀ name, params name = ps.lookup name := by
  rcases exists_params_withQuery hExtracts hPath hNames hFits
    with
    ⟨params, hRead, hParams⟩
  exact ⟨withQuery u.pathAndQuery ps, params,
    parse_withQuery hFormed ps, hRead, hParams⟩

/- The path of the catalogue is plain. -/
theorem plainPath_snapshots :
    FormData.PlainPath unreserved "/snapshots" := by
  have hLetters :
      ("snapshots".toList.all fun c =>
          unreserved (UInt8.ofNat c.toNat) = true ∧
            c = Char.ofNat (UInt8.ofNat c.toNat).toNat) =
        true := by
    decide
  refine ⟨"snapshots".toList, rfl, ?_⟩
  intro c hc
  exact Or.inr
    ⟨_, of_decide_eq_true (List.all_eq_true.mp hLetters c hc)⟩

open Reference in
/- Texts that look like other parameters. -/
theorem query_is_delivered_sample :
    ∃ target params,
      parse
            (withQuery "http://127.0.0.1:8095/snapshots"
              [("passport_id", "a&at=b"), ("x=y", "50%+é")]) =
          .ok ⟨"127.0.0.1", 8095, target⟩ ∧
        extract target = some params ∧
        params "passport_id" = some "a&at=b" ∧
        params "x=y" = some "50%+é" ∧
        params "at" = none := by
  let u : Url := ⟨"127.0.0.1", 8095, "/snapshots"⟩
  have hFormed : u.WellFormed :=
    ⟨by decide, by decide, "snapshots".toList, by decide⟩
  have hRender :
      u.render = "http://127.0.0.1:8095/snapshots" := by
    decide
  let ps : List (String × String) :=
    [("passport_id", "a&at=b"), ("x=y", "50%+é")]
  have hNames : (ps.map Prod.fst).Nodup := by decide
  have hFits :
      Text.byteLen (withQuery u.pathAndQuery ps) ≤ 65534 := by
    decide +kernel
  rcases query_is_delivered (extracts_extract 65534) hFormed
      plainPath_snapshots hNames hFits with
    ⟨target, params, hParse, hRead, hParams⟩
  rw [hRender] at hParse
  refine ⟨target, params, hParse, hRead, ?_, ?_, ?_⟩
  · exact hParams "passport_id"
  · exact hParams "x=y"
  · exact hParams "at"

end Url

end Http

end UnidppArchive

------------------------------------------------------------
-- Targets with Parameters
------------------------------------------------------------

namespace UnidppArchive

open Http

/- A parameter has no character of this code. -/
theorem not_mem_parameters
    {ps : List (String × String)}
    {c : Char}
    (hAmpersand : c ≠ '&')
    (hEquals : c ≠ '=')
    (hCode : ¬ Url.IsComponentCode c.toNat) :
    c ∉ FormData.render (Url.components ps) := by
  intro hMem
  rcases FormData.mem_render hMem with
    hSign | hSign | ⟨p, hp, hText⟩
  · exact hAmpersand hSign
  · exact hEquals hSign
  · rw [Url.components, List.map_map] at hp
    rcases List.mem_map.mp hp with ⟨q, -, rfl⟩
    simp only [Function.comp_apply, Url.coded] at hText
    rcases hText with hName | hValue
    · exact hCode (Url.code_of_mem_component hName)
    · exact hCode (Url.code_of_mem_component hValue)

/- A plain path is a word of a request line. -/
theorem word_of_plainPath
    {path : String}
    (h : FormData.PlainPath Url.unreserved path) :
    Word path := by
  have hKeep :
      ∀ b, Url.unreserved b = true →
        Char.ofNat b.toNat ≠ ' ' ∧
          Char.ofNat b.toNat ≠ '\r' := by
    apply forall_octet
    decide +kernel
  rcases h with ⟨cs, hPath, hPlain⟩
  have hOther : ∀ c ∈ '/' :: cs, c ≠ ' ' ∧ c ≠ '\r' := by
    intro c hc
    have hSlash : '/' ≠ ' ' ∧ '/' ≠ '\r' := by decide
    rcases List.mem_cons.mp hc with rfl | hLater
    · exact hSlash
    · rcases hPlain c hLater with rfl | ⟨b, hb, rfl⟩
      · exact hSlash
      · exact hKeep b hb
  constructor
  · rw [hPath]
    intro hMem
    exact (hOther ' ' hMem).1 rfl
  · unfold Unbroken
    rw [hPath]
    intro hInfix
    have hReturn : '\r' ∈ ['\r', '\n'] := by simp
    exact (hOther '\r' (hInfix.subset hReturn)).2 rfl

/- With parameters, a word of a request line is still one. -/
theorem word_withQuery
    {path : String}
    (h : Word path)
    (ps : List (String × String)) :
    Word (Url.withQuery path ps) := by
  have hText :
      (Url.withQuery path ps).toList =
        path.toList ++
          '?' :: FormData.render (Url.components ps) := by
    simp [Url.withQuery, FormData.target]
  constructor
  · rw [hText]
    intro hMem
    rcases List.mem_append.mp hMem with hFront | hBack
    · exact h.space hFront
    · rcases List.mem_cons.mp hBack with hSign | hQuery
      · exact absurd hSign (by decide)
      · refine not_mem_parameters (by decide) (by decide) ?_
          hQuery
        unfold Url.IsComponentCode
        decide
  · unfold Unbroken
    rw [hText, infix_append_cons_iff (by decide) (by decide)]
    rintro (hFront | hQuery)
    · exact h.unbroken hFront
    · have hReturn : '\r' ∈ ['\r', '\n'] := by simp
      refine not_mem_parameters (by decide) (by decide) ?_
        (hQuery.subset hReturn)
      unfold Url.IsComponentCode
      decide

/- A GET with parameters fills its places. -/
theorem deliverable_withQuery
    {u : Url}
    (hPath : FormData.PlainPath Url.unreserved u.pathAndQuery)
    (hHost : Sendable ("Host", u.host))
    (ps : List (String × String)) :
    Deliverable "GET"
      ⟨u.host, u.port, Url.withQuery u.pathAndQuery ps⟩ [] where
  methodWord := ⟨by decide, by decide⟩
  targetWord := word_withQuery (word_of_plainPath hPath) ps
  hostSendable := hHost
  sendable := by simp
  unmeasured := by simp

end UnidppArchive

------------------------------------------------------------
-- Catalogues
------------------------------------------------------------

namespace UnidppArchive

open Http

/- The catalogue of a passport as of an instant. -/
def catalogueQuery
    (passportId : String)
    (t : Timestamp) : List (String × String) :=
  [("passport_id", passportId), ("at", t.toString)]

variable {C : Crates}
variable {extract : FormData.Extractor}
variable {limit : Nat}
variable {passportId : String}
variable {t : Timestamp}
variable {u : Url}

/- A catalogue as of an instant has the records up to it. -/
theorem lists_catalogueQuery
    {params : String → Option String}
    (hParams :
      ∀ name,
        params name =
          (catalogueQuery passportId t).lookup name)
    (hPrintable : t.Printable)
    (hNamed : Text.trim passportId ≠ "")
    (store : SnapshotStore)
    (now : Timestamp) :
    (listSnapshots C store now params).Lists C
        ((store.records.filter fun r =>
            decide (r.passportId = Text.trim passportId ∧
              r.notarizedAt.secs ≤ t.secs)).map
          (catalogueRow C)) ∧
      (listSnapshots C store now params).header? "x-as-of" =
        some t.toString := by
  have hPassport : params "passport_id" = some passportId := by
    rw [hParams]
    simp [catalogueQuery]
  have hAt : params "at" = some t.toString := by
    rw [hParams]
    simp [catalogueQuery, List.lookup_cons]
  have hParsed : Api.parseAt params = .ok (some t) :=
    Api.parseAt_eq_some hAt
      (Timestamp.parse_toString hPrintable)
  have hQuery :
      Api.optQuery params "passport_id" =
        some (Text.trim passportId) := by
    unfold Api.optQuery
    rw [hPassport]
    simp [hNamed, Option.filter]
  have hList :
      store.records.filter (fun r =>
          decide (r.passportId = Text.trim passportId ∧
            r.notarizedAt.secs ≤ t.secs)) =
        store.list (some (Text.trim passportId)) (some t) := by
    unfold SnapshotStore.list
    rw [List.filter_filter]
    apply List.filter_congr
    intro r _
    simp [Bool.and_comm, Bool.beq_eq_decide_eq]
  rw [hList, ← hQuery]
  refine ⟨⟨?_, _, _, _, body_listSnapshots hParsed⟩, ?_⟩
  · exact ((listSnapshots_pointInTime_iff store now
      params).mpr ⟨t, hParsed⟩).1
  · unfold listSnapshots
    rw [hParsed]
    rfl

/-
  Whatever the text of the passport, the URL that a client
  writes is accepted, its request cannot be read as another
  one, and the service lists the records of the passport up
  to the instant, and no others.
-/
theorem catalogue_over_http
    (hExtracts :
      FormData.Extracts Url.unreserved limit extract)
    (hFormed : u.WellFormed)
    (hPath : FormData.PlainPath Url.unreserved u.pathAndQuery)
    (hHost : Sendable ("Host", u.host))
    (hPrintable : t.Printable)
    (hNamed : Text.trim passportId ≠ "")
    (hFits :
      Text.byteLen
          (Url.withQuery u.pathAndQuery
            (catalogueQuery passportId t)) ≤
        limit) :
    ∃ v params,
      Url.parse
            (Url.withQuery u.render
              (catalogueQuery passportId t)) =
          .ok v ∧
        v.host = u.host ∧ v.port = u.port ∧
        Deliverable "GET" v [] ∧
        (∀ method url headers body rest rest',
          Deliverable method url headers →
            writeRequest "GET" v [] none ++ rest =
                writeRequest method url headers body ++
                  rest' →
              method = "GET" ∧
                url.pathAndQuery = v.pathAndQuery ∧
                url.host = u.host ∧ headers = [] ∧
                body = none ∧ rest' = rest) ∧
        extract v.pathAndQuery = some params ∧
        ∀ store now,
          (listSnapshots C store now params).Lists C
              ((store.records.filter fun r =>
                  decide (r.passportId = Text.trim passportId ∧
                    r.notarizedAt.secs ≤ t.secs)).map
                (catalogueRow C)) ∧
            (listSnapshots C store now params).header?
                "x-as-of" =
              some t.toString := by
  have hNames :
      ((catalogueQuery passportId t).map Prod.fst).Nodup := by
    simp [catalogueQuery]
  rcases Url.exists_params_withQuery hExtracts hPath hNames
      hFits with
    ⟨params, hRead, hParams⟩
  have hDeliverable :=
    deliverable_withQuery hPath hHost
      (catalogueQuery passportId t)
  refine ⟨⟨u.host, u.port, Url.withQuery u.pathAndQuery
      (catalogueQuery passportId t)⟩, params,
    Url.parse_withQuery hFormed (catalogueQuery passportId t),
    rfl, rfl, hDeliverable, ?_, hRead,
    lists_catalogueQuery hParams hPrintable hNamed⟩
  intro method url headers body rest rest' hOther hSame
  rcases eq_of_writeRequest hDeliverable hOther hSame with
    ⟨hMethod, hTarget, hSent, hHeaders, hBody, hRest⟩
  exact ⟨hMethod.symm, hTarget.symm, hSent.symm, hHeaders.symm,
    hBody.symm, hRest.symm⟩

open Reference in
/- A passport whose text looks like a second parameter. -/
theorem catalogue_over_http_sample :
    ∃ v params,
      Url.parse
            (Url.withQuery "http://127.0.0.1:8095/snapshots"
              (catalogueQuery "urn:a&at=2000-01-01" now)) =
          .ok v ∧
        Reference.extract v.pathAndQuery = some params ∧
        ∀ store now',
          (listSnapshots crates store now' params).Lists crates
            ((store.records.filter fun r =>
                decide (r.passportId = "urn:a&at=2000-01-01" ∧
                  r.notarizedAt.secs ≤ now.secs)).map
              (catalogueRow crates)) := by
  let u : Url := ⟨"127.0.0.1", 8095, "/snapshots"⟩
  have hFormed : u.WellFormed :=
    ⟨by decide, by decide, "snapshots".toList, by decide⟩
  have hHost : Sendable ("Host", u.host) :=
    ⟨by decide, by decide, by decide, by decide, by decide⟩
  have hPrintable : now.Printable := ⟨by decide, by decide⟩
  have hTrim :
      Text.trim "urn:a&at=2000-01-01" =
        "urn:a&at=2000-01-01" := by
    decide
  have hRender :
      u.render = "http://127.0.0.1:8095/snapshots" := by
    decide
  have hFits :
      Text.byteLen
          (Url.withQuery u.pathAndQuery
            (catalogueQuery "urn:a&at=2000-01-01" now)) ≤
        65534 := by
    decide +kernel
  rcases catalogue_over_http (extracts_extract 65534) hFormed
      Url.plainPath_snapshots hHost hPrintable
      (by rw [hTrim]; decide) hFits with
    ⟨v, params, hParse, -, -, -, -, hRead, hLists⟩
  rw [hRender] at hParse
  rw [hTrim] at hLists
  exact ⟨v, params, hParse, hRead,
    fun store now' => (hLists store now').1⟩

end UnidppArchive
