import UnidppArchive.Api.Config
import UnidppArchive.Api.Serving
import UnidppArchive.Api.Verification
import UnidppArchive.Model.Sealing

/-
  Keys that change from one process to the next (`api.rs`,
  `keyring.rs`).

  Each process of an archive has the environment that it is
  started with: its token, its log, its key.  What one of
  them acknowledged the others serve as it was, and it goes
  on verifying under the key that its own process showed.

  Key definitions include:
    * `keyringResponse`
    * `PublishedBy`
    * `Reconfigured`
    * `Serving.Sealed`

  Key theorems include:
    * `publishedBy_ingestRecord`
    * `Reconfigured.ready`
    * `packages_outlive_rotation`
-/

------------------------------------------------------------
-- The Published Key
------------------------------------------------------------

namespace UnidppArchive

open Json

/- The public view with the instant at which it is given. -/
def keyringDocument
    {S : Signatif}
    (K : KeyScheme S)
    (keyring : Keyring S)
    (shownAt : Timestamp) : Value :=
  match keyring.toJson K with
  | .object m =>
      .object (Map.insert m "as_of" (.string shownAt.toString))
  | v => v

/- `GET /keyring`, its clock read for body and header. -/
def keyringResponse
    (C : Crates)
    (K : KeyScheme C.signatif)
    (keyring : Keyring C.signatif)
    (shownAt stampedAt : Timestamp) : Response :=
  jsonResponse C 200 (keyringDocument K keyring shownAt)
    stampedAt .pointInTime

/- The instant is added to the members of the key. -/
theorem get?_keyringDocument
    {S : Signatif}
    (K : KeyScheme S)
    (keyring : Keyring S)
    (shownAt : Timestamp)
    (key : String) :
    (keyringDocument K keyring shownAt).get? key =
      if key = "as_of" then
        some (.string shownAt.toString)
      else
        (keyring.toJson K).get? key := by
  unfold keyringDocument Keyring.toJson object
  exact Map.get?_insert _ "as_of" key _

/- The documents of keyrings are read back. -/
def Json.SerdeJson.KeepsKeyrings
    {S : Signatif}
    (serde : SerdeJson)
    (K : KeyScheme S) : Prop :=
  ∀ (keyring : Keyring S) (shownAt : Timestamp),
    serde.InvertsPretty (keyringDocument K keyring shownAt)

/-
  Whoever has a body and the answer of `GET /keyring` finds
  one key in both, and the signature in the body is good for
  every public key with the octets that are shown.
-/
def PublishedBy
    (C : Crates)
    (K : KeyScheme C.signatif)
    (keyring : Keyring C.signatif)
    (body : String) : Prop :=
  ∃ doc statement slot octets,
    C.serde.fromStr body = .ok doc ∧
      statementBytesFromDocument C doc = .ok statement ∧
      slotFromDocument doc = .ok slot ∧
      (∀ shownAt stampedAt, ∃ anchor,
        C.serde.fromStr
              (keyringResponse C K keyring shownAt
                stampedAt).body =
            .ok anchor ∧
          anchor.get? "key_id" = some (.string slot.keyId) ∧
          ∃ hex, anchor.get? "public" = some (.string hex) ∧
            hexDecode hex = .ok octets) ∧
      ∀ key, K.publicSuite key = slot.suite →
        K.publicBytes key = octets →
          C.signatif.verify slot notarizationDomain statement
            key = true

variable {C : Crates}
variable {K : KeyScheme C.signatif}
variable {keyring : Keyring C.signatif}
variable {seq : UInt64}
variable {notarizedAt : Timestamp}
variable {req : CreateRequest}
variable {answer : Except String Value}
variable {r : SnapshotRecord}

/- A record is good for the key that sealed it. -/
theorem publishedBy_ingestRecord
    (hHex : C.model.HexLaw)
    (hSign : C.signatif.SignLaw)
    (hLawful : K.Lawful)
    (hShows : C.serde.KeepsKeyrings K)
    (hSuite :
      C.signatif.suite keyring.notaryKey = .ed25519)
    (hClock : notarizedAt.OnClock)
    (h :
      ingestRecord C keyring.notaryKey seq notarizedAt req
          answer =
        .ok r)
    (hInverts : C.serde.InvertsPretty (r.toDocument C)) :
    PublishedBy C K keyring (r.renderBody C) := by
  have hSealed := sealedFrom_ingestRecord h
  have hFields := documentFields_toDocument C r
  have hInstant : r.notarizedAt.Printable := by
    rw [(fields_ingestRecord h).2.2.1]
    exact hClock.printable
  have hKey : r.keyId = C.signatif.keyId keyring.notaryKey := by
    rw [hSealed.fields]
  have hShown := Keyring.shown_toJson K keyring
  refine ⟨r.toDocument C, r.statementBytes C,
    ⟨.ed25519, r.keyId, some r.signature⟩,
    K.publicBytes (C.signatif.publicKey keyring.notaryKey),
    hInverts,
    statementBytesFromDocument_of_fields hHex hInstant
      (complete_ingestRecord h) hFields,
    slotFromDocument_of_fields hFields, ?_, ?_⟩
  · intro shownAt stampedAt
    refine ⟨keyringDocument K keyring shownAt,
      hShows keyring shownAt, ?_, keyring.publicHex K, ?_,
      hexDecode_hexEncode _⟩
    · rw [get?_keyringDocument, if_neg (by decide),
        hShown.keyId, hKey]
    · rw [get?_keyringDocument, if_neg (by decide),
        hShown.anchor]
  · intro key hKeySuite hOctets
    have hSame :
        key = C.signatif.publicKey keyring.notaryKey := by
      apply hLawful.exact _ hOctets
      rw [hLawful.publicSuite, hSuite]
      exact hKeySuite
    have hVerifies := hSealed.verifies hSign
    rw [hSuite] at hVerifies
    rw [hSame]
    exact hVerifies

end UnidppArchive

------------------------------------------------------------
-- Processes With Environments of Their Own
------------------------------------------------------------

namespace UnidppArchive

open Json

/-
  Runs of processes over one journal and one snapshot
  directory.  Each start has its environment; an ingest that
  is answered 201 is listed with the keyring of its process.
-/
inductive Reconfigured
    (C : Crates)
    (K : KeyScheme C.signatif)
    {Addr : Type}
    (parseAddr : String → Option Addr)
    (defaultBind : Addr)
    (dir : String) :
    Option (AppState C Addr) → Disk →
      List (Response × Keyring C.signatif) → Prop where
  | fresh
      {disk : Disk}
      (hFresh : disk.journal.getD [] = []) :
      Reconfigured C K parseAddr defaultBind dir none disk []
  | started
      {environ : String → Option String}
      {app : AppState C Addr}
      {disk disk' : Disk}
      {acks : List (Response × Keyring C.signatif)}
      (hRun :
        Reconfigured C K parseAddr defaultBind dir none disk
          acks)
      (hStart :
        AppState.start C K parseAddr defaultBind .sound environ
            disk =
          some (.ok app, disk'))
      (hPaths : app.config.paths = ⟨true, some dir⟩) :
      Reconfigured C K parseAddr defaultBind dir (some app)
        disk' acks
  | created
      {app : AppState C Addr}
      {store' : SnapshotStore}
      {disk disk' : Disk}
      {acks : List (Response × Keyring C.signatif)}
      {env : CreateEnv}
      {post : CreatePost}
      {response : Response}
      (hRun :
        Reconfigured C K parseAddr defaultBind dir (some app)
          disk acks)
      (hCreate :
        createSnapshot C app.service env app.store post disk =
          (response, store', disk'))
      (hStatus : response.status = 201)
      (hClock : env.now.OnClock)
      (hCanonical :
        ∀ draft receipt,
          anchorDraft C app.service env.transport draft =
              .ok receipt →
            CanonicalReceipt receipt)
      (hInverts :
        ∀ record, store' = app.store.push record →
          C.serde.Inverts (record.toJournalJson C) ∧
            C.serde.InvertsPretty (record.toDocument C))
      (hCapacity : app.store.records.length < maxRecords) :
      Reconfigured C K parseAddr defaultBind dir
        (some { app with store := store' }) disk'
        (acks ++ [(response, app.keyring)])
  | stopped
      {app : AppState C Addr}
      {disk : Disk}
      {acks : List (Response × Keyring C.signatif)}
      (hRun :
        Reconfigured C K parseAddr defaultBind dir (some app)
          disk acks) :
      Reconfigured C K parseAddr defaultBind dir none disk acks

/-
  Every acknowledged record is in the store, and its body is
  good for the key of its process.
-/
def Credited
    (C : Crates)
    (K : KeyScheme C.signatif)
    (records : List SnapshotRecord)
    (acks : List (Response × Keyring C.signatif)) : Prop :=
  ∀ ack ∈ acks, ∃ r ∈ records,
    ack.1 = createdResponse C r ∧
      PublishedBy C K ack.2 (r.renderBody C)

/- A store serves all that was acknowledged. -/
structure Credible
    (C : Crates)
    (K : KeyScheme C.signatif)
    (dir : String)
    (store : SnapshotStore)
    (disk : Disk)
    (acks : List (Response × Keyring C.signatif)) : Prop where
  serving : Serving C dir store disk (acks.map Prod.fst)
  credited : Credited C K store.records acks

variable {C : Crates}
variable {K : KeyScheme C.signatif}
variable {Addr : Type}
variable {parseAddr : String → Option Addr}
variable {defaultBind : Addr}
variable {dir : String}
variable {disk : Disk}
variable {acks : List (Response × Keyring C.signatif)}

/- The key of a started process signs with Ed25519. -/
theorem suite_of_start
    (hLawful : K.Lawful)
    {environ : String → Option String}
    {app : AppState C Addr}
    {disk disk' : Disk}
    (hStart :
      AppState.start C K parseAddr defaultBind .sound environ
          disk =
        some (.ok app, disk')) :
    C.signatif.suite app.keyring.notaryKey = .ed25519 := by
  rcases AppState.start_eq_ok_iff.mp hStart with
    ⟨-, ⟨warnings, hKeyring⟩, -⟩
  exact Keyring.suite_of_fromEnvMap hLawful hKeyring

/- An ingest is credited to the key of its process. -/
theorem Credible.created
    {app : AppState C Addr}
    {store' : SnapshotStore}
    {disk' : Disk}
    {env : CreateEnv}
    {post : CreatePost}
    {response : Response}
    (hSerde : C.serde.Lawful)
    (hHex : C.model.HexLaw)
    (hSign : C.signatif.SignLaw)
    (hLawful : K.Lawful)
    (hShows : C.serde.KeepsKeyrings K)
    (hSuite :
      C.signatif.suite app.keyring.notaryKey = .ed25519)
    (h : Credible C K dir app.store disk acks)
    (hCreate :
      createSnapshot C app.service env app.store post disk =
        (response, store', disk'))
    (hStatus : response.status = 201)
    (hClock : env.now.OnClock)
    (hCanonical :
      ∀ draft receipt,
        anchorDraft C app.service env.transport draft =
            .ok receipt →
          CanonicalReceipt receipt)
    (hInverts :
      ∀ record, store' = app.store.push record →
        C.serde.Inverts (record.toJournalJson C) ∧
          C.serde.InvertsPretty (record.toDocument C))
    (hCapacity : app.store.records.length < maxRecords) :
    Credible C K dir store' disk'
      (acks ++ [(response, app.keyring)]) := by
  have hServing :=
    Serving.created hSerde hHex h.serving hCreate hStatus
      hClock hCanonical
      (fun record hStore => (hInverts record hStore).1)
      hCapacity
  rcases createSnapshot_eq_created_iff.mp
      ⟨hCreate, hStatus⟩ with
    ⟨req, record, -, hRecord, hAppend, rfl⟩
  have hStore : store' = app.store.push record :=
    (SnapshotStore.appendSnapshot_eq_ok_iff.mp
      hAppend).2.2.2.1
  have hGood : PublishedBy C K app.keyring (record.renderBody C) :=
    publishedBy_ingestRecord hHex hSign hLawful hShows hSuite
      hClock hRecord (hInverts record hStore).2
  refine ⟨by simpa using hServing, ?_⟩
  intro ack hAck
  rw [hStore]
  rcases List.mem_append.mp hAck with hOld | hNew
  · rcases h.credited ack hOld with ⟨r, hr, hRest⟩
    exact ⟨r, List.mem_append_left _ hr, hRest⟩
  · rw [List.mem_singleton.mp hNew]
    exact ⟨record, by simp [SnapshotStore.push], rfl, hGood⟩

/- What holds of a stopped archive, and of a running one. -/
def Reconfigured.Ready
    (C : Crates)
    (K : KeyScheme C.signatif)
    (dir : String)
    (state : Option (AppState C Addr))
    (disk : Disk)
    (acks : List (Response × Keyring C.signatif)) : Prop :=
  match state with
  | none =>
      ∃ store disk',
        SnapshotStore.openAt C .sound ⟨true, some dir⟩ disk =
            (.ok store, disk') ∧
          Credible C K dir store disk' acks
  | some app =>
      C.signatif.suite app.keyring.notaryKey = .ed25519 ∧
        Credible C K dir app.store disk acks

/- The invariant holds along every run. -/
theorem Reconfigured.ready
    {state : Option (AppState C Addr)}
    (hSerde : C.serde.Lawful)
    (hHex : C.model.HexLaw)
    (hSign : C.signatif.SignLaw)
    (hLawful : K.Lawful)
    (hShows : C.serde.KeepsKeyrings K)
    (h :
      Reconfigured C K parseAddr defaultBind dir state disk
        acks) :
    Reconfigured.Ready C K dir state disk acks := by
  induction h with
  | fresh hFresh =>
      rcases serving_fresh hFresh with
        ⟨store, disk', hOpen, hServing⟩
      exact ⟨store, disk', hOpen, hServing, nofun⟩
  | started hRun hStart hPaths ih =>
      rcases ih with ⟨store, disk₁, hOpen, hCredible⟩
      have hStore := (AppState.start_eq_ok_iff.mp hStart).2.2
      rw [hPaths, hOpen] at hStore
      cases hStore
      exact ⟨suite_of_start hLawful hStart, hCredible⟩
  | created hRun hCreate hStatus hClock hCanonical hInverts
      hCapacity ih =>
      exact ⟨ih.1, ih.2.created hSerde hHex hSign hLawful hShows
        ih.1 hCreate hStatus hClock hCanonical hInverts
        hCapacity⟩
  | stopped hRun ih =>
      exact ⟨_, _, ih.2.serving.openAt, ih.2⟩

/-
  However the environments of the processes differ, a start
  on the journal and the directory finds a store, and what any
  of them acknowledged is served with the same body and tag,
  and verifies under the key that its own process shows.
-/
theorem packages_outlive_rotation
    (hSerde : C.serde.Lawful)
    (hHex : C.model.HexLaw)
    (hSign : C.signatif.SignLaw)
    (hLawful : K.Lawful)
    (hShows : C.serde.KeepsKeyrings K) :
    (∀ disk acks environ,
      Reconfigured C K parseAddr defaultBind dir none disk
          acks →
        (Config.fromEnv parseAddr defaultBind environ).paths =
            ⟨true, some dir⟩ →
          ∃ app disk',
            AppState.start C K parseAddr defaultBind .sound
                environ disk =
              some (.ok app, disk')) ∧
      ∀ app disk acks,
        Reconfigured C K parseAddr defaultBind dir (some app)
            disk acks →
          ∀ ack ∈ acks, ∃ id,
            ack.1.header? "x-snapshot-id" = some id ∧
              (∀ now,
                (getSnapshot C app.store now id).status =
                    200 ∧
                  (getSnapshot C app.store now id).body =
                    ack.1.body ∧
                  (getSnapshot C app.store now id).header?
                      "etag" =
                    ack.1.header? "etag") ∧
              PublishedBy C K ack.2 ack.1.body := by
  constructor
  · intro disk acks environ hRun hPaths
    rcases hRun.ready hSerde hHex hSign hLawful hShows with
      ⟨store, disk', hOpen, -⟩
    rcases Keyring.exists_fromEnvMap hLawful
        (Config.fromEnv parseAddr defaultBind environ).devSeed
        (Config.envValues environ) with
      ⟨keyring, warnings, hKeyring⟩
    rw [← hPaths] at hOpen
    exact ⟨⟨_, store, keyring⟩, disk',
      AppState.start_eq_ok_iff.mpr
        ⟨rfl, ⟨warnings, hKeyring⟩, hOpen⟩⟩
  · intro app disk acks hRun ack hAck
    have hReady := hRun.ready hSerde hHex hSign hLawful hShows
    rcases hReady.2.credited ack hAck with
      ⟨r, hMem, hResponse, hGood⟩
    rw [hResponse]
    refine ⟨r.snapshotId, snapshotId_createdResponse C r, ?_,
      hGood⟩
    intro now
    rw [getSnapshot_of_mem hReady.2.serving.inSequence hMem]
    exact ⟨rfl, rfl, rfl⟩

end UnidppArchive

------------------------------------------------------------
-- Two Processes
------------------------------------------------------------

namespace UnidppArchive

namespace Reference

open Json

/- The variables of a process with its own key. -/
def environOf
    (name value : String)
    (key : String) : Option String :=
  if key = "UNIDPP_ARCHIVE_STATE_FILE" then
    some "journal.jsonl"
  else if key = "UNIDPP_ARCHIVE_SNAPSHOT_DIR" then
    some "snapshots"
  else if key = name then
    some value
  else
    none

/- In dev mode, and then with an operator's seed. -/
def devEnviron : String → Option String :=
  environOf "UNIDPP_ARCHIVE_DEV_SEED" "plant 7"

def operatorEnviron : String → Option String :=
  environOf "UNIDPP_ARCHIVE_SIGN_SEED"
    " 0x00112233445566778899AABBCCDDEEFF"

theorem keepsKeyrings_serde :
    crates.serde.KeepsKeyrings keyScheme :=
  fun _ _ => invertsPretty_serde _

/- A process without token and log acknowledges an ingest. -/
theorem exists_acknowledged
    {app : AppState crates String}
    {disk : Disk}
    {acks : List (Response × Keyring crates.signatif)}
    (hRun :
      Reconfigured crates keyScheme some "127.0.0.1:8095"
        "snapshots" (some app) disk acks)
    (hStore : app.store = emptyFiled)
    (hToken : app.service.adminToken = none)
    (hLog : app.service.log.baseUrl = none) :
    ∃ app' disk' response,
      Reconfigured crates keyScheme some "127.0.0.1:8095"
        "snapshots" (some app') disk'
        (acks ++ [(response, app.keyring)]) := by
  rcases exists_created hToken createEnv.transport app.store
      disk with
    ⟨r, -, hCreated, hStatus⟩
  refine ⟨_, _, createdResponse crates r,
    hRun.created hCreated hStatus ⟨by decide, by decide⟩
      ?_ (fun _ _ => ⟨inverts_serde _, invertsPretty_serde _⟩)
      ?_⟩
  · intro draft receipt hAnswer
    unfold anchorDraft anchor at hAnswer
    rcases bind_eq_ok_iff.mp hAnswer with ⟨post, hPost, -⟩
    have hBase := base_ne_none_of_anchorPost hPost
    rw [hLog] at hBase
    exact absurd rfl hBase
  · rw [hStore]
    decide

/- One process acknowledges, and the next one has a new key. -/
theorem exists_rotation :
    ∃ app disk ack,
      AppState.start crates keyScheme some "127.0.0.1:8095"
            .sound devEnviron (diskOf none) =
          some (.ok app, disk) ∧
        ack.2 = app.keyring ∧
        ∃ disk',
          Reconfigured crates keyScheme some "127.0.0.1:8095"
            "snapshots" none disk' [ack] := by
  rcases Keyring.exists_fromEnvMap lawful_keyScheme
      (Config.fromEnv some "127.0.0.1:8095" devEnviron).devSeed
      (Config.envValues devEnviron) with
    ⟨keyring, warnings, hKeyring⟩
  have hStart :
      AppState.start crates keyScheme some "127.0.0.1:8095"
          .sound devEnviron (diskOf none) =
        some
          (.ok ⟨Config.fromEnv some "127.0.0.1:8095" devEnviron,
            emptyFiled, keyring⟩, diskOf (some [])) :=
    AppState.start_eq_ok_iff.mpr
      ⟨rfl, ⟨warnings, hKeyring⟩, rfl⟩
  have hFresh :
      Reconfigured crates keyScheme some "127.0.0.1:8095"
        "snapshots" none (diskOf none) [] :=
    .fresh rfl
  rcases exists_acknowledged (hFresh.started hStart rfl) rfl
      rfl rfl with ⟨app', disk', response, hCreated⟩
  exact ⟨_, _, (response, keyring), hStart, rfl, disk',
    hCreated.stopped⟩

end Reference

open Reference in
/- A package of the first process, served by the second. -/
theorem packages_outlive_rotation_sample :
    ∃ (first second : AppState crates String)
        (ack : Response × Keyring crates.signatif)
        (disk : Disk),
      Reconfigured crates keyScheme some "127.0.0.1:8095"
          "snapshots" (some second) disk [ack] ∧
        ack.2 = first.keyring ∧
        second.config =
          Config.fromEnv some "127.0.0.1:8095"
            operatorEnviron ∧
        (∃ id, ack.1.header? "x-snapshot-id" = some id ∧
          ∀ now,
            (getSnapshot crates second.store now id).body =
              ack.1.body) ∧
        PublishedBy crates keyScheme first.keyring
          ack.1.body := by
  rcases exists_rotation with
    ⟨first, disk, ack, -, hAck, disk', hRun⟩
  rcases (packages_outlive_rotation lawful_serde hexLaw signLaw
      lawful_keyScheme keepsKeyrings_serde).1 disk' [ack]
      operatorEnviron hRun rfl with
    ⟨second, disk'', hStart⟩
  have hConfig := (AppState.start_eq_ok_iff.mp hStart).1
  have hSecond := hRun.started hStart (by rw [hConfig]; rfl)
  rcases (packages_outlive_rotation lawful_serde hexLaw signLaw
      lawful_keyScheme keepsKeyrings_serde).2 second disk''
      [ack] hSecond ack (by simp) with
    ⟨id, hId, hServed, hGood⟩
  rw [hAck] at hGood
  exact ⟨first, second, ack, disk'', hSecond, hAck, hConfig,
    ⟨id, hId, fun now => (hServed now).2.1⟩, hGood⟩

end UnidppArchive
