import UnidppArchive.Foundations.Delimiters
import UnidppArchive.Foundations.Fallible
import UnidppArchive.Foundations.FormData

/-
  URLs of the HTTP client (`http.rs`).

  An absolute URL is a scheme, an authority and what stands
  behind it from the first slash on.  The port follows the
  last colon of the authority.

  Key definitions include:
    * `Http.Url`
    * `Http.Url.parse`
    * `Http.Url.Denotes`
    * `Http.Url.render`
    * `Http.Url.encodeQueryComponent`
    * `Http.Url.withQuery`

  Key theorems include:
    * `Http.Url.parse_eq_ok_iff`
    * `Http.Url.parse_reads_urls`
    * `Http.Url.query_component_is_exact`
    * `Http.Url.parse_withQuery`
-/

------------------------------------------------------------
-- Parsing
------------------------------------------------------------

namespace UnidppArchive

namespace Http

structure Url where
  host : String
  port : UInt16
  pathAndQuery : String
  deriving DecidableEq

/- The host, and the text of the port if there is one. -/
def Url.splitAuthority
    (authority : List Char) :
    List Char × Option (List Char) :=
  match Text.rsplitOnce ':' authority with
  | some (host, port) => (host, some port)
  | none => (authority, none)

/- The port of a URL, by default 80. -/
def Url.readPort
    (s : String) :
    Option (List Char) → Except String Nat
| some p => okOr (Text.fromStrRadix 10 16 p) s!"bad port in `{s}`"
| none => .ok 80

/- `Url::parse`. -/
def Url.parse
    (s : String) : Except String Url := do
  let (scheme, rest) ←
    okOr (Text.splitOnceAt "://".toList s.toList)
      s!"URL must be absolute: `{s}`"
  if ¬ Text.eqIgnoreAsciiCase (String.ofList scheme) "http" then
    .error s!"unsupported URL scheme `{String.ofList scheme}`"
  else
    let authority := rest.takeWhile (· ≠ '/')
    let path :=
      if '/' ∈ rest then rest.dropWhile (· ≠ '/') else ['/']
    let (host, portText) := Url.splitAuthority authority
    let port ← Url.readPort s portText
    if host = [] then
      .error s!"URL has no host: `{s}`"
    else
      .ok
        ⟨String.ofList host, UInt16.ofNat port,
          String.ofList path⟩

end Http

end UnidppArchive

------------------------------------------------------------
-- What a URL Denotes
------------------------------------------------------------

namespace UnidppArchive

namespace Http

namespace Url

/- A host alone, or with a port behind the last colon. -/
inductive Authority
    (host : List Char) :
    List Char → UInt16 → Prop where
  | named
      (hColon : ':' ∉ host) :
      Authority host host 80
  | ported
      {digits : List Char}
      {n : Nat}
      (hPort : Text.Decimal digits n)
      (hWord : n < 2 ^ 16) :
      Authority host (host ++ ':' :: digits) (UInt16.ofNat n)

/- What stands behind the authority. -/
def Tail
    (tail path : List Char) : Prop :=
  (tail = [] ∧ path = ['/']) ∨
    (tail = path ∧ ∃ rest, path = '/' :: rest)

/- The text is an absolute URL of these parts. -/
structure Denotes
    (s : String)
    (u : Url) : Prop where
  parts :
    ∃ scheme authority tail,
      s.toList = scheme ++ "://".toList ++ authority ++ tail ∧
        Text.eqIgnoreAsciiCase (String.ofList scheme) "http" ∧
        '/' ∉ authority ∧
        Authority u.host.toList authority u.port ∧
        Tail tail u.pathAndQuery.toList
  host : u.host ≠ ""

/- A decimal number has no colon. -/
theorem colon_not_mem_decimal
    {digits : List Char}
    {n : Nat}
    (h : Text.Decimal digits n) :
    ':' ∉ digits := by
  rcases h with ⟨ds, hText, -, hAll, -⟩
  intro hMem
  have hDigit : ':' ∈ ds := by
    rcases hText with rfl | rfl
    · exact hMem
    · rcases List.mem_cons.mp hMem with hSign | hRest
      · exact absurd hSign (by decide)
      · exact hRest
  exact absurd (hAll ':' hDigit) (by decide)

/- A scheme that is accepted has no colon. -/
theorem colon_not_mem_scheme
    {scheme : List Char}
    (h : Text.eqIgnoreAsciiCase (String.ofList scheme) "http") :
    ':' ∉ scheme := by
  intro hMem
  have hLower := congrArg String.toList h
  simp only [Text.toAsciiLowercase, String.toList_ofList]
    at hLower
  have hColon : ':' ∈ "http".toList.map Char.toLower := by
    rw [← hLower]
    exact List.mem_map.mpr ⟨':', hMem, by decide⟩
  exact absurd hColon (by decide)

/- The authority is what is split into host and port. -/
theorem splitAuthority_iff
    {authority host : List Char}
    {port : UInt16} :
    ((splitAuthority authority = (host, none) ∧ port = 80) ∨
        ∃ digits n,
          splitAuthority authority = (host, some digits) ∧
            Text.fromStrRadix 10 16 digits = some n ∧
            port = UInt16.ofNat n) ↔
      Authority host authority port := by
  unfold splitAuthority
  constructor
  · rintro (⟨hSplit, rfl⟩ | ⟨digits, n, hSplit, hPort, rfl⟩)
    · cases hColon : Text.rsplitOnce ':' authority with
      | some parts =>
          rw [hColon] at hSplit
          cases hSplit
      | none =>
          rw [hColon] at hSplit
          cases hSplit
          exact .named (Text.rsplitOnce_eq_none_iff.mp hColon)
    · cases hColon : Text.rsplitOnce ':' authority with
      | some parts =>
          rw [hColon] at hSplit
          cases hSplit
          rcases Text.rsplitOnce_eq_some_iff.mp hColon with
            ⟨rfl, -⟩
          rcases Text.fromStrRadix_ten_iff.mp hPort with
            ⟨hDecimal, hWord⟩
          exact .ported hDecimal hWord
      | none =>
          rw [hColon] at hSplit
          cases hSplit
  · intro h
    cases h with
    | named hColon =>
        left
        rw [Text.rsplitOnce_eq_none_iff.mpr hColon]
        exact ⟨rfl, rfl⟩
    | @ported digits n hPort hWord =>
        right
        have hSplit :
            Text.rsplitOnce ':' (host ++ ':' :: digits) =
              some (host, digits) :=
          Text.rsplitOnce_eq_some_iff.mpr
            ⟨rfl, colon_not_mem_decimal hPort⟩
        rw [hSplit]
        exact ⟨digits, n, rfl,
          Text.fromStrRadix_ten_iff.mpr ⟨hPort, hWord⟩, rfl⟩

/- The rest of a URL is cut at its first slash. -/
theorem cut_at_slash
    {authority tail path : List Char}
    (hSlash : '/' ∉ authority)
    (hTail : Tail tail path) :
    (authority ++ tail).takeWhile (· ≠ '/') = authority ∧
      (if '/' ∈ authority ++ tail then
          (authority ++ tail).dropWhile (· ≠ '/')
        else ['/']) = path := by
  have hAll : ∀ c ∈ authority, decide (c ≠ '/') = true := by
    intro c hc
    rw [decide_eq_true_eq]
    rintro rfl
    exact hSlash hc
  rw [List.takeWhile_append_of_pos hAll,
    List.dropWhile_append_of_pos hAll]
  rcases hTail with ⟨rfl, rfl⟩ | ⟨rfl, rest, rfl⟩
  · simp [hSlash]
  · simp

/- Every rest of a URL is an authority and a tail. -/
theorem exists_cut_at_slash
    (rest : List Char) :
    ∃ tail,
      rest = rest.takeWhile (· ≠ '/') ++ tail ∧
        '/' ∉ rest.takeWhile (· ≠ '/') ∧
        Tail tail
          (if '/' ∈ rest then
            rest.dropWhile (· ≠ '/')
          else ['/']) := by
  refine ⟨rest.dropWhile (· ≠ '/'),
    List.takeWhile_append_dropWhile.symm, ?_, ?_⟩
  · intro hMem
    have hTaken := List.mem_takeWhile_imp hMem
    simp at hTaken
  · by_cases hSlash : '/' ∈ rest
    · rw [if_pos hSlash]
      right
      refine ⟨rfl, ?_⟩
      cases hDrop : rest.dropWhile (· ≠ '/') with
      | nil =>
          have hNone :=
            List.dropWhile_eq_nil_iff.mp hDrop '/' hSlash
          simp at hNone
      | cons c back =>
          have hHead :=
            List.head?_dropWhile_not
              (fun d => decide (d ≠ '/')) rest
          rw [hDrop] at hHead
          have hSame : c = '/' := by simpa using hHead
          exact ⟨back, by rw [hSame]⟩
    · rw [if_neg hSlash]
      left
      refine ⟨?_, rfl⟩
      rw [List.dropWhile_eq_nil_iff]
      intro c hc
      rw [decide_eq_true_eq]
      rintro rfl
      exact hSlash hc

end Url

end Http

end UnidppArchive

------------------------------------------------------------
-- Accepted URLs
------------------------------------------------------------

namespace UnidppArchive

namespace Http

namespace Url

/- The needle of a scheme stands first behind the scheme. -/
theorem firstAt_scheme
    {scheme rest : List Char}
    (h : Text.eqIgnoreAsciiCase (String.ofList scheme) "http") :
    Text.splitOnceAt "://".toList
        (scheme ++ "://".toList ++ rest) =
      some (scheme, rest) := by
  rw [Text.splitOnceAt_eq_some_iff (by decide)]
  refine ⟨rfl, ?_⟩
  have hFind :
      findSubslice "://".toList
          (scheme ++ ("://".toList ++ rest)) =
        some scheme.length :=
    findSubslice_of_not_mem (colon_not_mem_scheme h) rest
  rw [findSubslice_eq_some_iff (by decide)] at hFind
  simpa using hFind

/- Exactly the absolute URLs with a host are accepted. -/
theorem parse_eq_ok_iff
    {s : String}
    {u : Url} :
    parse s = .ok u ↔ Denotes s u := by
  constructor
  · intro h
    unfold parse at h
    rcases bind_eq_ok_iff.mp h with ⟨⟨scheme, rest⟩, hCut, h⟩
    rw [okOr_eq_ok_iff,
      Text.splitOnceAt_eq_some_iff (by decide)] at hCut
    simp only at h
    split at h
    · cases h
    · rename_i hScheme
      rw [not_not] at hScheme
      rcases bind_eq_ok_iff.mp h with ⟨port, hPort, h⟩
      split at h
      · cases h
      · rename_i hHost
        rw [Except.ok.injEq] at h
        rcases exists_cut_at_slash rest with
          ⟨tail, hRest, hSlash, hTail⟩
        generalize rest.takeWhile (· ≠ '/') = authority
          at hPort hHost h hRest hSlash
        have hAuthority :
            Authority (splitAuthority authority).1 authority
              (UInt16.ofNat port) := by
          apply splitAuthority_iff.mp
          cases hText : (splitAuthority authority).2 with
          | none =>
              rw [hText] at hPort
              cases hPort
              exact Or.inl ⟨by rw [← hText], rfl⟩
          | some digits =>
              rw [hText] at hPort
              exact Or.inr ⟨digits, port, by rw [← hText],
                okOr_eq_ok_iff.mp hPort, rfl⟩
        subst h
        constructor
        · refine ⟨scheme, authority, tail, ?_, hScheme, hSlash,
            ?_, ?_⟩
          · rw [hCut.1, List.append_assoc _ authority, ← hRest]
          · simpa using hAuthority
          · simpa using hTail
        · simpa using hHost
  · rintro ⟨⟨scheme, authority, tail, hText, hScheme, hSlash,
      hAuthority, hTail⟩, hHost⟩
    rcases cut_at_slash hSlash hTail with ⟨hTake, hPath⟩
    have hCut :
        Text.splitOnceAt "://".toList s.toList =
          some (scheme, authority ++ tail) := by
      rw [hText, List.append_assoc _ authority]
      exact firstAt_scheme hScheme
    have hSome : u.host.toList ≠ [] := by
      rw [Ne, String.toList_eq_nil_iff]
      exact hHost
    unfold parse
    rw [hCut, okOr_some, ok_bind]
    simp only [hScheme, not_true_eq_false, if_false, hTake,
      hPath]
    rcases splitAuthority_iff.mpr hAuthority with
      ⟨hSplit, hPort⟩ | ⟨digits, n, hSplit, hRead, hPort⟩
    · rw [hSplit]
      simp only [hSome, if_false, String.ofList_toList]
      rcases u with ⟨host, port, path⟩
      simp only at hPort
      rw [hPort]
      rfl
    · have hText : readPort s (some digits) = .ok n := by
        rw [readPort, hRead, okOr_some]
      rw [hSplit]
      simp only [hText, ok_bind, hSome, if_false,
        String.ofList_toList, ← hPort]

/- A URL with a host and an absolute path. -/
structure WellFormed
    (u : Url) : Prop where
  host : u.host ≠ ""
  slash : '/' ∉ u.host.toList
  path : ∃ rest, u.pathAndQuery.toList = '/' :: rest

/- The URL of given parts, with its port written out. -/
def render
    (u : Url) : String :=
  "http://" ++ u.host ++ ":" ++ Nat.repr u.port.toNat ++
    u.pathAndQuery

theorem wellFormed_of_denotes
    {s : String}
    {u : Url}
    (h : Denotes s u) :
    WellFormed u := by
  rcases h with ⟨⟨scheme, authority, tail, -, -, hSlash,
    hAuthority, hTail⟩, hHost⟩
  refine ⟨hHost, ?_, ?_⟩
  · intro hMem
    apply hSlash
    generalize u.port = port at hAuthority
    cases hAuthority with
    | named hColon => exact hMem
    | ported hPort hWord => exact List.mem_append_left _ hMem
  · rcases hTail with ⟨-, hPath⟩ | ⟨-, rest, hPath⟩
    · exact ⟨[], hPath⟩
    · exact ⟨rest, hPath⟩

/- What is rendered denotes the parts. -/
theorem WellFormed.denotes_render
    {u : Url}
    (h : WellFormed u) :
    Denotes u.render u := by
  rcases h.path with ⟨rest, hPath⟩
  refine ⟨⟨"http".toList,
    u.host.toList ++ ':' :: (Nat.repr u.port.toNat).toList,
    u.pathAndQuery.toList, ?_, rfl, ?_, ?_, ?_⟩, h.host⟩
  · simp [render]
  · intro hMem
    rcases List.mem_append.mp hMem with hHost | hPort
    · exact h.slash hHost
    · rcases List.mem_cons.mp hPort with hColon | hDigit
      · exact absurd hColon (by decide)
      · have hText :
            (Nat.repr u.port.toNat).toList =
              Nat.toDigits 10 u.port.toNat := by
          simp
        rw [hText] at hDigit
        exact absurd (Text.isDigit_of_mem_toDigits hDigit)
          (by decide)
  · have hPort :
        Authority u.host.toList _ (UInt16.ofNat u.port.toNat) :=
      .ported (Text.decimal_repr u.port.toNat) u.port.toNat_lt
    simpa using hPort
  · exact Or.inr ⟨rfl, rest, hPath⟩

/-
  The parser accepts exactly the texts that denote a URL and
  reads what they denote.  It yields exactly the well-formed
  URLs, and reads each of them back from its rendering.
-/
theorem parse_reads_urls :
    (∀ s u, parse s = .ok u ↔ Denotes s u) ∧
      (∀ u, (∃ s, parse s = .ok u) ↔ WellFormed u) ∧
      ∀ u, WellFormed u → parse u.render = .ok u := by
  have hBack :
      ∀ u, WellFormed u → parse u.render = .ok u :=
    fun u h => parse_eq_ok_iff.mpr h.denotes_render
  refine ⟨fun s u => parse_eq_ok_iff, ?_, hBack⟩
  intro u
  constructor
  · rintro ⟨s, hParse⟩
    exact wellFormed_of_denotes (parse_eq_ok_iff.mp hParse)
  · intro h
    exact ⟨u.render, hBack u h⟩

end Url

end Http

end UnidppArchive

------------------------------------------------------------
-- Query Components
------------------------------------------------------------

namespace UnidppArchive

namespace Http

namespace Url

/- `A-Z`, `a-z`, `0-9`, `-`, `.`, `_` and `~`. -/
def unreserved
    (b : UInt8) : Bool :=
  (65 ≤ b && b ≤ 90) || (97 ≤ b && b ≤ 122) ||
    (48 ≤ b && b ≤ 57) || b == 45 || b == 46 || b == 95 ||
    b == 126

/- `Url::encode_query_component`. -/
def encodeQueryComponent
    (s : String) : String :=
  String.ofList (Percent.encode unreserved (Utf8.encode s))

theorem safe_unreserved :
    Percent.Safe unreserved := by
  apply forall_octet
  decide +kernel

/- A component spells the octets of its text. -/
theorem spells_component
    (s : String) :
    Percent.Spells unreserved (encodeQueryComponent s).toList
      (Utf8.encode s) := by
  rw [encodeQueryComponent, String.toList_ofList]
  exact Percent.spells_encode (Utf8.encode s)

/- A character that a component is written with. -/
def IsComponentCode
    (n : Nat) : Prop :=
  (65 ≤ n ∧ n ≤ 90) ∨ (97 ≤ n ∧ n ≤ 122) ∨
    (48 ≤ n ∧ n ≤ 57) ∨ n = 37 ∨ n = 45 ∨ n = 46 ∨ n = 95 ∨
    n = 126

theorem code_of_mem_component
    {s : String}
    {c : Char}
    (h : c ∈ (encodeQueryComponent s).toList) :
    IsComponentCode c.toNat := by
  rw [encodeQueryComponent, String.toList_ofList] at h
  rcases Percent.mem_encode h with
    ⟨b, -, hKept, rfl⟩ | rfl | hDigit
  · rw [Percent.toNat_ofNat_ascii
      (safe_unreserved b hKept).1]
    simp only [unreserved, Bool.or_eq_true, Bool.and_eq_true,
      decide_eq_true_eq, beq_iff_eq, UInt8.le_iff_toNat_le,
      ← UInt8.toNat_inj, UInt8.reduceToNat] at hKept
    unfold IsComponentCode
    omega
  · exact Or.inr (Or.inr (Or.inr (Or.inl rfl)))
  · unfold Percent.IsUpperHex at hDigit
    unfold IsComponentCode
    omega

/-
  A component is written with harmless characters, stands for
  the octets of its text, and is written as the text exactly
  if nothing in it has to be escaped.
-/
theorem query_component_is_exact
    (s t : String) :
    (∀ c ∈ (encodeQueryComponent s).toList,
        IsComponentCode c.toNat) ∧
      Percent.decode (encodeQueryComponent s).toList =
        Utf8.encode s ∧
      (encodeQueryComponent s = encodeQueryComponent t →
        s = t) ∧
      encodeQueryComponent (s ++ t) =
        encodeQueryComponent s ++ encodeQueryComponent t ∧
      (encodeQueryComponent s = s ↔
        ∀ b ∈ Utf8.encode s, unreserved b = true) := by
  have hRead (r : String) :
      Percent.decode (encodeQueryComponent r).toList =
        Utf8.encode r :=
    (spells_component r).decode safe_unreserved
  refine ⟨fun c hc => code_of_mem_component hc, hRead s, ?_, ?_,
    ?_⟩
  · intro hSame
    apply Utf8.encode_injective
    rw [← hRead s, hSame, hRead t]
  · simp [encodeQueryComponent]
  · constructor
    · intro hSame
      -- an escape would make the text longer
      have hLength := congrArg (fun r => r.toList.length) hSame
      simp only [encodeQueryComponent, String.toList_ofList,
        Percent.length_encode] at hLength
      have hOctets := Text.charLen_le_byteLen s
      unfold Text.charLen Text.byteLen at hOctets
      have hNone :
          (Utf8.encode s).countP (!unreserved ·) = 0 := by
        omega
      rw [List.countP_eq_zero] at hNone
      intro b hb
      simpa using hNone b hb
    · intro hAll
      rw [encodeQueryComponent,
        FormData.encode_of_kept safe_unreserved hAll,
        String.ofList_toList]

end Url

end Http

end UnidppArchive

------------------------------------------------------------
-- Targets with Parameters
------------------------------------------------------------

namespace UnidppArchive

namespace Http

namespace Url

/- The codes of a parameter, beside its texts. -/
def coded
    (p : String × String) :
    (List Char × List Char) × String × String :=
  (((encodeQueryComponent p.1).toList,
    (encodeQueryComponent p.2).toList), p)

def components
    (ps : List (String × String)) :
    List (List Char × List Char) :=
  (ps.map coded).map Prod.fst

/- A target with parameters, as a client writes it. -/
def withQuery
    (path : String)
    (ps : List (String × String)) : String :=
  FormData.target path (components ps)

/- An extractor reads the parameters that a client writes. -/
theorem exists_params_withQuery
    {extract : FormData.Extractor}
    {limit : Nat}
    {path : String}
    {ps : List (String × String)}
    (hExtracts : FormData.Extracts unreserved limit extract)
    (hPath : FormData.PlainPath unreserved path)
    (hNames : (ps.map Prod.fst).Nodup)
    (hFits : Text.byteLen (withQuery path ps) ≤ limit) :
    ∃ params,
      extract (withQuery path ps) = some params ∧
        ∀ name, params name = ps.lookup name := by
  have hTexts : (ps.map coded).map Prod.snd = ps := by
    rw [List.map_map]
    exact List.map_id ps
  have hSpells :
      ∀ p ∈ ps.map coded,
        Percent.Spells unreserved p.1.1 (Utf8.encode p.2.1) ∧
          Percent.Spells unreserved p.1.2
            (Utf8.encode p.2.2) := by
    rw [List.forall_mem_map]
    intro q _
    dsimp only [coded]
    exact ⟨spells_component q.1, spells_component q.2⟩
  have hDistinct : ((ps.map coded).map (·.2.1)).Nodup := by
    rw [List.map_map]
    exact hNames
  have hRead :=
    hExtracts path (ps.map coded) hPath hSpells hDistinct hFits
  rw [hTexts] at hRead
  exact hRead

/- The parameters are written behind the target. -/
theorem parse_withQuery
    {u : Url}
    (hFormed : WellFormed u)
    (ps : List (String × String)) :
    parse (withQuery u.render ps) =
      .ok ⟨u.host, u.port, withQuery u.pathAndQuery ps⟩ := by
  rcases hFormed.path with ⟨rest, hRest⟩
  have hWhole :
      WellFormed ⟨u.host, u.port,
        withQuery u.pathAndQuery ps⟩ := by
    refine ⟨hFormed.host, hFormed.slash, ?_⟩
    simp only [withQuery, FormData.target,
      String.toList_append, hRest, List.cons_append]
    exact ⟨_, rfl⟩
  have hText :
      withQuery u.render ps =
        render ⟨u.host, u.port,
          withQuery u.pathAndQuery ps⟩ := by
    simp only [withQuery, FormData.target, render,
      String.append_assoc]
  rw [hText]
  exact parse_eq_ok_iff.mpr hWhole.denotes_render

end Url

end Http

end UnidppArchive
