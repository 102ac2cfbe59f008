import UnidppArchive.Api.Degradation
import UnidppArchive.Api.Rejection
import UnidppArchive.Api.Wire
import UnidppArchive.Keyring

/-
  Configuration and start (`api.rs`, `log_anchor.rs`).

  The environment is read once, through the list of the
  names that the service consumes.  What it decides about
  the guard and about the log is kept by every run: a
  refusal comes of the token that was set, and the posture
  that the service states is the one that it has.

  Key definitions include:
    * `Config`
    * `Config.fromEnv`
    * `LogAnchorConfig.fromEnvMap`
    * `AppState`
    * `AppState.start`
    * `ReadsHeaders`
    * `serve`

  Key theorems include:
    * `guard_follows_environment`
    * `posture_is_stated`
-/

------------------------------------------------------------
-- The Environment
------------------------------------------------------------

namespace UnidppArchive

/- The environment variables that the service consumes. -/
def Config.envKeys : List String :=
  ["UNIDPP_ARCHIVE_BIND",
    "UNIDPP_ARCHIVE_ADMIN_TOKEN",
    "UNIDPP_ARCHIVE_STATE_FILE",
    "UNIDPP_ARCHIVE_SNAPSHOT_DIR",
    "UNIDPP_ARCHIVE_DEV_SEED",
    "UNIDPP_ARCHIVE_SIGN_SEED",
    "UNIDPP_LOG_URL",
    "UNIDPP_ARCHIVE_LOG_TOKEN",
    "UNIDPP_ARCHIVE_LOG_TIMEOUT_MS"]

/- Those that are set, and no others. -/
def Config.envValues
    (environ : String → Option String)
    (key : String) : Option String :=
  if key ∈ Config.envKeys then environ key else none

def defaultTimeoutMs : Nat :=
  3000

/- Where the log is: no blank value counts, and no zero. -/
def LogAnchorConfig.fromEnvMap
    (vars : String → Option String) : LogAnchorConfig where
  baseUrl :=
    ((vars "UNIDPP_LOG_URL").map Text.trim).filter (· ≠ "")
  bearer :=
    ((vars "UNIDPP_ARCHIVE_LOG_TOKEN").map Text.trim).filter
      (· ≠ "")
  timeoutMs :=
    match
      (vars "UNIDPP_ARCHIVE_LOG_TIMEOUT_MS").bind fun ms =>
        Text.parseU64 (Text.trim ms)
    with
    | some ms => if 0 < ms then ms.toNat else defaultTimeoutMs
    | none => defaultTimeoutMs

/- The deployment, with addresses of the given type. -/
structure Config
    (Addr : Type) where
  bind : Addr
  adminToken : Option String
  stateFile : Option String
  snapshotDir : Option String
  devSeed : Option String
  log : LogAnchorConfig

/- The configuration of an environment. -/
def Config.fromEnv
    {Addr : Type}
    (parseAddr : String → Option Addr)
    (defaultBind : Addr)
    (environ : String → Option String) : Config Addr :=
  let vars := Config.envValues environ
  { bind :=
      ((vars "UNIDPP_ARCHIVE_BIND").bind parseAddr).getD
        defaultBind
    adminToken :=
      (vars "UNIDPP_ARCHIVE_ADMIN_TOKEN").filter (· ≠ "")
    stateFile :=
      (vars "UNIDPP_ARCHIVE_STATE_FILE").filter (· ≠ "")
    snapshotDir :=
      (vars "UNIDPP_ARCHIVE_SNAPSHOT_DIR").filter (· ≠ "")
    devSeed := (vars "UNIDPP_ARCHIVE_DEV_SEED").filter (· ≠ "")
    log := LogAnchorConfig.fromEnvMap vars }

end UnidppArchive

------------------------------------------------------------
-- Starting
------------------------------------------------------------

namespace UnidppArchive

/- The state that handlers share. -/
structure AppState
    (C : Crates)
    (Addr : Type) where
  config : Config Addr
  store : SnapshotStore
  keyring : Keyring C.signatif

namespace AppState

variable {C : Crates}
variable {Addr : Type}

/- What the handlers see of it. -/
def service
    (app : AppState C Addr) : Service C :=
  ⟨app.config.adminToken, app.config.log,
    app.keyring.notaryKey⟩

end AppState

/- The durable parts that a configuration names. -/
def Config.paths
    {Addr : Type}
    (config : Config Addr) : StorePaths :=
  ⟨config.stateFile.isSome, config.snapshotDir⟩

namespace AppState

variable (C : Crates)
variable {Addr : Type}

/- `AppState::new`. -/
def new
    (io : OpenIo)
    (config : Config Addr)
    (keyring : Keyring C.signatif)
    (disk : Disk) :
    Except StoreError (AppState C Addr) × Disk :=
  match SnapshotStore.openAt C io config.paths disk with
  | (.ok store, disk) => (.ok ⟨config, store, keyring⟩, disk)
  | (.error e, disk) => (.error e, disk)

/-
  `main` and `run`, up to the listener: the configuration,
  the keyring and the store of an environment.  The result
  is missing if a derivation panics.
-/
def start
    (K : KeyScheme C.signatif)
    (parseAddr : String → Option Addr)
    (defaultBind : Addr)
    (io : OpenIo)
    (environ : String → Option String)
    (disk : Disk) :
    Option (Except StoreError (AppState C Addr) × Disk) :=
  let config := Config.fromEnv parseAddr defaultBind environ
  match
    Keyring.fromEnvMap K config.devSeed
      (Config.envValues environ)
  with
  | .ok (keyring, _) => some (new C io config keyring disk)
  | .error _ => none

variable {C : Crates}
variable {K : KeyScheme C.signatif}
variable {parseAddr : String → Option Addr}
variable {defaultBind : Addr}
variable {io : OpenIo}
variable {environ : String → Option String}
variable {disk disk' : Disk}
variable {app : AppState C Addr}

/- A start resolves a keyring and opens the store. -/
theorem start_eq_ok_iff :
    start C K parseAddr defaultBind io environ disk =
        some (.ok app, disk') ↔
      app.config =
          Config.fromEnv parseAddr defaultBind environ ∧
        (∃ warnings,
          Keyring.fromEnvMap K app.config.devSeed
              (Config.envValues environ) =
            .ok (app.keyring, warnings)) ∧
        SnapshotStore.openAt C io app.config.paths disk =
          (.ok app.store, disk') := by
  unfold start
  simp only
  constructor
  · intro h
    cases hKeyring :
        Keyring.fromEnvMap K
          (Config.fromEnv parseAddr defaultBind
            environ).devSeed
          (Config.envValues environ) with
    | error e =>
        rw [hKeyring] at h
        cases h
    | ok found =>
        rcases found with ⟨keyring, warnings⟩
        rw [hKeyring, Option.some.injEq] at h
        unfold new at h
        rcases hOpen :
            SnapshotStore.openAt C io
              (Config.fromEnv parseAddr defaultBind
                environ).paths disk with
          ⟨e | store, disk₁⟩
        · simp only [hOpen, Prod.mk.injEq, reduceCtorEq,
            false_and] at h
        · simp only [hOpen, Prod.mk.injEq, Except.ok.injEq]
            at h
          rcases h with ⟨rfl, rfl⟩
          exact ⟨rfl, ⟨warnings, hKeyring⟩, hOpen⟩
  · rcases app with ⟨config, store, keyring⟩
    rintro ⟨rfl, ⟨warnings, hKeyring⟩, hOpen⟩
    simp only at hKeyring hOpen
    rw [hKeyring]
    simp only [new, hOpen]

end AppState

end UnidppArchive

------------------------------------------------------------
-- The Guard
------------------------------------------------------------

namespace UnidppArchive

/- The calls that mutations and the audit log are behind. -/
def Call.Guarded :
    Call → Prop
| .createSnapshot _ _ | .adminLog _ _ => True
| _ => False

/- The calls that anyone may make. -/
def Call.Public :
    Call → Prop
| .getSnapshot _ _ | .listSnapshots _ _ | .healthz _ _ => True
| _ => False

variable {C : Crates}
variable {service : Service C}

theorem bearerToken_append
    (token : String) :
    bearerToken ("Bearer " ++ token) = some token := by
  unfold bearerToken
  rw [if_pos]
  · simp
  · rw [List.isPrefixOf_iff_prefix, String.toList_append]
    exact List.prefix_append _ _

/- The header is the token's, if there is a token. -/
theorem requireAdmin_eq_none_iff
    {now : Timestamp}
    {authorization : Option String} :
    requireAdmin C service now authorization = none ↔
      ∀ token, service.adminToken = some token →
        authorization = some ("Bearer " ++ token) := by
  cases hToken : service.adminToken with
  | none => simp [requireAdmin, hToken]
  | some token =>
      simp only [Option.some.injEq, forall_eq']
      constructor
      · intro hNone
        by_contra hHeader
        rw [requireAdmin_of_ne hToken hHeader] at hNone
        cases hNone
      · rintro rfl
        simp [requireAdmin, hToken, bearerToken_append]

/- A refusal of the guard is answered 401. -/
theorem status_of_requireAdmin
    {now : Timestamp}
    {authorization : Option String}
    {deny : Response}
    (h : requireAdmin C service now authorization = some deny) :
    deny.status = 401 := by
  unfold requireAdmin at h
  split at h
  · cases h
  · split at h
    · cases h
    · cases h
      simp

/- Only the guard of an ingest answers 401. -/
theorem status_createSnapshot_iff
    (env : CreateEnv)
    (store : SnapshotStore)
    (post : CreatePost)
    (disk : Disk) :
    (createSnapshot C service env store post disk).1.status =
        401 ↔
      requireAdmin C service env.errorAt post.authorization ≠
        none := by
  unfold createSnapshot
  cases hAdmin :
      requireAdmin C service env.errorAt post.authorization with
  | some deny =>
      have hAccept :
          acceptPost C service env.errorAt post =
            .error deny := by
        simp only [acceptPost, hAdmin]
      rw [hAccept]
      simpa using status_of_requireAdmin hAdmin
  | none =>
      simp only [ne_eq, not_true_eq_false, iff_false]
      cases hAccept : acceptPost C service env.errorAt post with
      | error deny =>
          unfold acceptPost at hAccept
          rw [hAdmin] at hAccept
          simp only at hAccept
          split at hAccept
          · cases hAccept
            simp [badRequest]
          · cases hAccept
      | ok req =>
          rcases storeDraft_cases service env store store.size
              env.now req disk with
            ⟨e, hFailed⟩ | ⟨e, hFailed⟩ | ⟨record, hStored⟩
          · simp only [SnapshotStore.reserve, hFailed]
            simp
          · simp only [SnapshotStore.reserve, hFailed]
            cases e <;> simp [storeError]
          · simp only [SnapshotStore.reserve, hStored]
            simp [createdResponse, buildResponse]

/- A guarded call is refused for its header, no other is. -/
theorem handle_unauthorized_iff
    (service : Service C)
    (s : ServerState)
    (request : ApiRequest) :
    (request.call.Guarded →
        ((handle C service s request).1.status = 401 ↔
          ∃ token, service.adminToken = some token ∧
            request.authorization ≠
              some ("Bearer " ++ token))) ∧
      (request.call.Public →
        (handle C service s request).1.status ≠ 401) := by
  have hRefused (now : Timestamp) (a : Option String) :
      requireAdmin C service now a ≠ none ↔
        ∃ token, service.adminToken = some token ∧
          a ≠ some ("Bearer " ++ token) := by
    rw [ne_eq, requireAdmin_eq_none_iff]
    simp only [not_forall, exists_prop, ne_eq]
  rcases request with ⟨authorization, call⟩
  cases call with
  | createSnapshot env body =>
      refine ⟨fun _ => ?_, fun h => h.elim⟩
      rw [← hRefused env.errorAt authorization,
        ← status_createSnapshot_iff env s.store
          ⟨authorization, body⟩ s.disk]
      rfl
  | unreadablePost answer =>
      exact ⟨fun h => h.elim, fun h => h.elim⟩
  | getSnapshot now id =>
      refine ⟨fun h => h.elim, fun _ => ?_⟩
      simp only [handle, getSnapshot]
      cases s.store.get (Text.trim id) <;>
        simp [buildResponse, notFound]
  | listSnapshots now params =>
      refine ⟨fun h => h.elim, fun _ => ?_⟩
      simp only [handle, listSnapshots]
      cases Api.parseAt params <;>
        simp [jsonResponse, buildResponse, badRequest]
  | healthz shownAt stampedAt =>
      refine ⟨fun h => h.elim, fun _ => ?_⟩
      simp [handle, healthz, jsonResponse, buildResponse]
  | adminLog now params =>
      refine ⟨fun _ => ?_, fun h => h.elim⟩
      rw [← hRefused now authorization]
      simp only [handle, adminLog]
      cases hAdmin : requireAdmin C service now authorization
        with
      | some deny =>
          simpa using status_of_requireAdmin hAdmin
      | none => simp [jsonResponse, buildResponse]
  | other answer =>
      exact ⟨fun h => h.elim, fun h => h.elim⟩

end UnidppArchive

------------------------------------------------------------
-- Header Values
------------------------------------------------------------

namespace UnidppArchive

/- Visible ASCII, or a space or tab. -/
def VisibleOctet
    (b : UInt8) : Prop :=
  b = 9 ∨ (32 ≤ b ∧ b < 127)

instance : DecidablePred VisibleOctet :=
  fun _ => inferInstanceAs (Decidable (_ ∨ _))

def VisibleOctets
    (octets : Bytes) : Prop :=
  ∀ b ∈ octets, VisibleOctet b

instance
    (octets : Bytes) : Decidable (VisibleOctets octets) :=
  List.decidableBAll VisibleOctet octets

/- `HeaderValue::to_str` reads visible ASCII, and no more. -/
def ReadsHeaders
    (toStr : Bytes → Option String) : Prop :=
  ∀ octets text,
    toStr octets = some text ↔
      VisibleOctets octets ∧ octets = Utf8.encode text

/- A call, with the octets of its first such header. -/
structure RawRequest where
  authorization : Option Bytes
  call : Call

/- The header is dropped if it is not read. -/
def RawRequest.read
    (toStr : Bytes → Option String)
    (request : RawRequest) : ApiRequest :=
  ⟨request.authorization.bind toStr, request.call⟩

/- Answer a request as it arrives. -/
def serve
    (C : Crates)
    (toStr : Bytes → Option String)
    (service : Service C)
    (s : ServerState)
    (request : RawRequest) : Response × ServerState :=
  handle C service s (request.read toStr)

variable {C : Crates}
variable {service : Service C}
variable {toStr : Bytes → Option String}

/- A visible token is carried by its octets, no other is. -/
theorem authorization_read_iff
    (hReads : ReadsHeaders toStr)
    (request : RawRequest)
    (token : String) :
    (request.read toStr).authorization =
        some ("Bearer " ++ token) ↔
      VisibleOctets (Utf8.encode token) ∧
        request.authorization =
          some (Utf8.encode ("Bearer " ++ token)) := by
  have hScheme : VisibleOctets (Utf8.encode "Bearer ") := by
    decide
  have hVisible :
      VisibleOctets (Utf8.encode ("Bearer " ++ token)) ↔
        VisibleOctets (Utf8.encode token) := by
    unfold VisibleOctets at hScheme ⊢
    rw [Utf8.encode_append, List.forall_mem_append]
    exact and_iff_right hScheme
  rw [RawRequest.read, Option.bind_eq_some_iff, ← hVisible]
  constructor
  · rintro ⟨octets, hOctets, hText⟩
    rcases (hReads _ _).mp hText with ⟨hShown, rfl⟩
    exact ⟨hShown, hOctets⟩
  · rintro ⟨hShown, hOctets⟩
    exact ⟨_, hOctets, (hReads _ _).mpr ⟨hShown, rfl⟩⟩

/-
  In every run of a service that was started, an ingest or a
  look at the audit log is refused exactly if a token was set
  in the environment and the request does not carry it, which
  it can only if the token is visible ASCII; reads never are.
-/
theorem guard_follows_environment
    {Addr : Type}
    {K : KeyScheme C.signatif}
    {parseAddr : String → Option Addr}
    {defaultBind : Addr}
    {io : OpenIo}
    {environ : String → Option String}
    {disk disk' : Disk}
    {app : AppState C Addr}
    (hReads : ReadsHeaders toStr)
    (hStart :
      AppState.start C K parseAddr defaultBind io environ
          disk =
        some (.ok app, disk'))
    (requests : List RawRequest) :
    ∀ a ∈ (Machine.run (serve C toStr app.service)
        ⟨app.store, disk'⟩ requests).1,
      (a.1.call.Guarded →
          (a.2.status = 401 ↔
            ∃ token,
              environ "UNIDPP_ARCHIVE_ADMIN_TOKEN" =
                  some token ∧
                token ≠ "" ∧
                ¬ (VisibleOctets (Utf8.encode token) ∧
                  a.1.authorization =
                    some
                      (Utf8.encode ("Bearer " ++ token))))) ∧
        (a.1.call.Public → a.2.status ≠ 401) := by
  intro a ha
  rcases Machine.exists_state_of_mem_run ha with ⟨s, hAnswer⟩
  have hToken (token : String) :
      app.service.adminToken = some token ↔
        environ "UNIDPP_ARCHIVE_ADMIN_TOKEN" = some token ∧
          token ≠ "" := by
    have hKey :
        "UNIDPP_ARCHIVE_ADMIN_TOKEN" ∈ Config.envKeys := by
      decide
    rw [AppState.service,
      (AppState.start_eq_ok_iff.mp hStart).1]
    simp [Config.fromEnv, Config.envValues, hKey,
      Option.filter_eq_some_iff]
  have hStep :=
    handle_unauthorized_iff app.service s (a.1.read toStr)
  rw [serve] at hAnswer
  rw [← hAnswer] at hStep
  refine ⟨fun hGuarded => ?_, hStep.2⟩
  rw [hStep.1 hGuarded]
  simp only [ne_eq, authorization_read_iff hReads, hToken,
    and_assoc]

namespace Reference

/- A store that is kept in memory only. -/
def memoryStore : SnapshotStore :=
  ⟨[], false, none⟩

/- A service that is started where one variable is set. -/
theorem exists_start
    (environ : String → Option String)
    (hState : environ "UNIDPP_ARCHIVE_STATE_FILE" = none)
    (hDir : environ "UNIDPP_ARCHIVE_SNAPSHOT_DIR" = none) :
    ∃ app : AppState crates String,
      AppState.start crates keyScheme some "127.0.0.1:8095"
            .sound environ (diskOf none) =
          some (.ok app, diskOf none) ∧
        app.store = memoryStore := by
  rcases Keyring.exists_fromEnvMap lawful_keyScheme
      (Config.fromEnv some "127.0.0.1:8095" environ).devSeed
      (Config.envValues environ) with
    ⟨keyring, warnings, hKeyring⟩
  have hPaths :
      (Config.fromEnv some "127.0.0.1:8095" environ).paths =
        ⟨false, none⟩ := by
    simp [Config.paths, Config.fromEnv, Config.envValues,
      hState, hDir]
  refine ⟨⟨Config.fromEnv some "127.0.0.1:8095" environ,
    memoryStore, keyring⟩, ?_, rfl⟩
  apply AppState.start_eq_ok_iff.mpr
  refine ⟨rfl, ⟨warnings, hKeyring⟩, ?_⟩
  simp only
  rw [hPaths]
  rfl

/- An ingest that carries these octets, or no header. -/
def postWith
    (authorization : Option Bytes) : RawRequest :=
  ⟨authorization, .createSnapshot createEnv createPost.body⟩

def headerText
    (octets : Bytes) : Option String :=
  if VisibleOctets octets then Utf8.decode octets else none

theorem readsHeaders_headerText :
    ReadsHeaders headerText := by
  intro octets text
  unfold headerText
  split
  next hVisible =>
    rw [Utf8.decode_eq_some_iff]
    exact (and_iff_right hVisible).symm
  next hHidden => simp [hHidden]

end Reference

open Reference in
/- Of two requests, the one without the token is refused. -/
theorem guard_follows_environment_sample :
    ∃ app : AppState crates String,
      AppState.start crates keyScheme some "127.0.0.1:8095"
            .sound
            (onlyVar "UNIDPP_ARCHIVE_ADMIN_TOKEN" "secret")
            (diskOf none) =
          some (.ok app, diskOf none) ∧
        ∃ first second,
          (Machine.run (serve crates headerText app.service)
              ⟨app.store, diskOf none⟩
              [postWith none,
                postWith
                  (some (Utf8.encode "Bearer secret"))]).1 =
            [(postWith none, first),
              (postWith (some (Utf8.encode "Bearer secret")),
                second)] ∧
          first.status = 401 ∧ second.status ≠ 401 := by
  rcases exists_start
      (onlyVar "UNIDPP_ARCHIVE_ADMIN_TOKEN" "secret") rfl rfl
    with
    ⟨app, hStart, -⟩
  have hRun (one other : RawRequest) :
      ∃ first second,
        (Machine.run (serve crates headerText app.service)
            ⟨app.store, diskOf none⟩ [one, other]).1 =
          [(one, first), (other, second)] :=
    ⟨_, _, rfl⟩
  rcases hRun (postWith none)
      (postWith (some (Utf8.encode "Bearer secret"))) with
    ⟨first, second, hRun⟩
  have hGuard :=
    guard_follows_environment readsHeaders_headerText hStart
      [postWith none,
        postWith (some (Utf8.encode "Bearer secret"))]
  rw [hRun] at hGuard
  have hFirst := (hGuard (postWith none, first) (by simp)).1
    trivial
  have hSecond :=
    (hGuard
      (postWith (some (Utf8.encode "Bearer secret")), second)
      (by simp)).1 trivial
  refine ⟨app, hStart, first, second, hRun, ?_, ?_⟩
  · apply hFirst.mpr
    refine ⟨"secret", rfl, by decide, ?_⟩
    rintro ⟨-, hHeader⟩
    cases hHeader
  · intro hDenied
    rcases hSecond.mp hDenied with ⟨token, hToken, -, hHeader⟩
    cases hToken
    exact hHeader ⟨by decide, rfl⟩

end UnidppArchive

------------------------------------------------------------
-- The Log
------------------------------------------------------------

namespace UnidppArchive

open Json

/- The reason of a record that no log was asked for. -/
def unsetReason : String :=
  "log anchoring not configured (UNIDPP_LOG_URL is unset)"

variable {C : Crates}
variable {config : LogAnchorConfig}
variable {transport : AnchorPost → Except String HttpResponse}
variable {subject : String}
variable {commitment : Hash}

/- A base that is not blank is needed for a post. -/
theorem base_ne_none_of_anchorPost
    {post : AnchorPost}
    (h : anchorPost C config subject commitment = .ok post) :
    (config.baseUrl.map Text.trim).filter (· ≠ "") ≠
      none := by
  intro hNone
  unfold anchorPost at h
  rw [hNone] at h
  cases h

/- No other reason has the text of a log that is unset. -/
theorem Degraded.eq_unsetReason_iff
    {reason : String}
    (h :
      Degraded C config transport subject commitment reason) :
    reason = unsetReason ↔
      (config.baseUrl.map Text.trim).filter (· ≠ "") =
        none := by
  have hShown (s : String) : toString s = s := rfl
  cases h with
  | unset hUnset => exact ⟨fun _ => hUnset, fun _ => rfl⟩
  | unreachable hPost hReply =>
      refine ⟨fun hSame => ?_, fun hNone =>
        absurd hNone (base_ne_none_of_anchorPost hPost)⟩
      have hText := congrArg String.toList hSame
      simp [hShown, unsetReason] at hText
  | refused hPost hReply hStatus =>
      refine ⟨fun hSame => ?_, fun hNone =>
        absurd hNone (base_ne_none_of_anchorPost hPost)⟩
      have hText := congrArg String.toList hSame
      simp [hShown, unsetReason] at hText
  | garbled hPost hReply hStatus hRead =>
      refine ⟨fun hSame => ?_, fun hNone =>
        absurd hNone (base_ne_none_of_anchorPost hPost)⟩
      have hText := congrArg String.toList hSame
      simp [hShown, unsetReason] at hText
  | rejected hPost hReply hStatus hRead hSummary =>
      refine ⟨fun hSame => ?_, fun hNone =>
        absurd hNone (base_ne_none_of_anchorPost hPost)⟩
      have hText := congrArg String.toList hSame
      simp [hShown, unsetReason] at hText

/- A record names an unset log exactly if there is none. -/
theorem Explained.reason_iff
    {a : Anchoring}
    (h :
      Explained C config transport subject commitment a) :
    a.reason = some unsetReason ↔
      (config.baseUrl.map Text.trim).filter (· ≠ "") =
        none := by
  rcases h with ⟨receipt, summary, hAnchors, rfl⟩ |
    ⟨reason, hReason, -, rfl⟩
  · rcases hAnchors.answered with ⟨post, -, hPost, -⟩
    have hBase := base_ne_none_of_anchorPost hPost
    simp only [hBase, iff_false]
    nofun
  · rw [← hReason.eq_unsetReason_iff]
    exact Option.some_inj

/- A base of the environment is used as it stands. -/
theorem base_fromEnvMap
    (vars : String → Option String) :
    ((LogAnchorConfig.fromEnvMap vars).baseUrl.map
        Text.trim).filter (· ≠ "") =
      (LogAnchorConfig.fromEnvMap vars).baseUrl := by
  unfold LogAnchorConfig.fromEnvMap
  cases vars "UNIDPP_LOG_URL" with
  | none => rfl
  | some url =>
      by_cases hBlank : Text.trim url = ""
      · simp [hBlank, Option.filter]
      · simp [hBlank, Option.filter]

/-
  What the health document says of anchoring is what happens:
  it is stated to be on exactly if a URL was set that is not
  blank, and a record of a run gives as its reason that no log
  is configured exactly if it is stated to be off.
-/
theorem posture_is_stated
    {Addr : Type}
    {K : KeyScheme C.signatif}
    {parseAddr : String → Option Addr}
    {defaultBind : Addr}
    {io : OpenIo}
    {environ : String → Option String}
    {disk disk' : Disk}
    {app : AppState C Addr}
    (hStart :
      AppState.start C K parseAddr defaultBind io environ
          disk =
        some (.ok app, disk'))
    (hEmpty : app.store.records = [])
    (requests : List ApiRequest) :
    ∃ enabled : Bool,
      (enabled = true ↔
        ∃ url, environ "UNIDPP_LOG_URL" = some url ∧
          Text.trim url ≠ "") ∧
      (∀ store shownAt stampedAt,
        ∃ doc : Value,
          (healthz C app.service store shownAt stampedAt).body =
              C.serde.toStringPretty doc ∧
            doc.get? "anchoring_enabled" =
              some (.bool enabled)) ∧
      ∀ r ∈ (Machine.run (handle C app.service)
          ⟨app.store, disk'⟩ requests).2.store.records,
        r.anchoring.reason = some unsetReason ↔
          enabled = false := by
  have hLog :
      app.service.log =
        LogAnchorConfig.fromEnvMap
          (Config.envValues environ) := by
    rw [AppState.service,
      (AppState.start_eq_ok_iff.mp hStart).1]
    rfl
  refine ⟨app.service.log.isEnabled, ?_, ?_, ?_⟩
  · have hKey : "UNIDPP_LOG_URL" ∈ Config.envKeys := by
      decide
    rw [hLog]
    simp only [LogAnchorConfig.isEnabled,
      LogAnchorConfig.fromEnvMap, Config.envValues, hKey,
      if_true]
    cases environ "UNIDPP_LOG_URL" with
    | none => simp
    | some url =>
        by_cases hBlank : Text.trim url = "" <;>
          simp [hBlank, Option.filter]
  · intro store shownAt stampedAt
    exact ⟨_, rfl, by simp⟩
  · intro r hr
    rcases fromRequest_of_mem_run hEmpty hr with
      ⟨authorization, env, body, -, -, -, hExplained⟩
    rw [hExplained.reason_iff, hLog, base_fromEnvMap]
    simp [LogAnchorConfig.isEnabled]

open Reference in
/- A URL of white space: the record says that it is none. -/
theorem posture_is_stated_blank :
    ∃ (app : AppState crates String) (r : SnapshotRecord),
      AppState.start crates keyScheme some "127.0.0.1:8095"
            .sound (onlyVar "UNIDPP_LOG_URL" " ")
            (diskOf none) =
          some (.ok app, diskOf none) ∧
        (Machine.run (handle crates app.service)
            ⟨app.store, diskOf none⟩
            [postTo receiptReply]).2.store.records =
          [r] ∧
        r.anchoring.reason = some unsetReason := by
  rcases exists_start (onlyVar "UNIDPP_LOG_URL" " ") rfl rfl
    with ⟨app, hStart, hStore⟩
  have hEmpty : app.store.records = [] := by
    rw [hStore]
    rfl
  have hToken : app.service.adminToken = none := by
    rw [AppState.service,
      (AppState.start_eq_ok_iff.mp hStart).1]
    rfl
  rcases exists_created hToken receiptReply app.store
      (diskOf none) with
    ⟨r, -, hCreated, -⟩
  have hRun :
      (Machine.run (handle crates app.service)
          ⟨app.store, diskOf none⟩
          [postTo receiptReply]).2.store.records =
        [r] := by
    rw [Machine.run_singleton, postTo,
      handle_of_createSnapshot hCreated, SnapshotStore.push,
      hEmpty, List.nil_append]
  rcases posture_is_stated hStart hEmpty [postTo receiptReply]
    with
    ⟨enabled, hEnabled, -, hReasons⟩
  have hOff : enabled = false := by
    cases enabled with
    | false => rfl
    | true =>
        rcases hEnabled.mp rfl with ⟨url, hUrl, hSome⟩
        cases hUrl
        exact absurd (by decide) hSome
  refine ⟨app, r, hStart, hRun, ?_⟩
  exact (hReasons r (by rw [hRun]; simp)).mpr hOff

end UnidppArchive
