import UnidppArchive.Api.Degradation
import UnidppArchive.Store.Failure
import UnidppArchive.Store.Healing

/-
  Restarts between requests (`main.rs`, `store.rs`).

  A process answers requests, is stopped, and is started on
  the disk that it left.  Nobody notices, whatever is asked
  between the restarts, exactly if every record is read back
  from its own line.

  Key definitions include:
    * `Recorded`
    * `Visit`
    * `Host`
    * `Unnoticed`

  Key theorems include:
    * `Recorded.handle`
    * `Recorded.restarted`
    * `restarts_are_unnoticed_iff`
-/

------------------------------------------------------------
-- What Has Been Written
------------------------------------------------------------

namespace UnidppArchive

/-
  What a server that began on a fresh journal has written:
  the lines of its records, and their bodies.
-/
structure Recorded
    (C : Crates)
    (notary : C.signatif.KeyPair)
    (paths : StorePaths)
    (s : ServerState) : Prop where
  place : s.store.paths = paths
  journal :
    s.disk.journal = some (journalText C s.store.records)
  flow : CreateFlow C notary s.store.records
  files :
    ∀ dir, paths.snapshotDir = some dir →
      FilesAgree C dir s.store.records s.disk

variable {C : Crates}
variable {service : Service C}
variable {notary : C.signatif.KeyPair}
variable {paths : StorePaths}
variable {s : ServerState}

theorem recorded_start
    {store : SnapshotStore}
    {disk disk' : Disk}
    (hJournal : paths.journal = true)
    (hFresh : disk.journal.getD [] = [])
    (hOpen :
      SnapshotStore.openAt C .sound paths disk =
        (.ok store, disk')) :
    Recorded C notary paths ⟨store, disk'⟩ := by
  rcases records_of_openAt_fresh hJournal hFresh hOpen with
    ⟨rfl, hDisk⟩
  refine ⟨?_, hDisk, ?_, ?_⟩
  · rcases paths with ⟨journal, dir⟩
    change journal = true at hJournal
    rw [hJournal]
    rfl
  · intro i r hr
    simp at hr
  · intro dir _ r hr
    cases hr

namespace Recorded

theorem store_journal
    (h : Recorded C notary paths s)
    (hJournal : paths.journal = true) :
    s.store.journal = true := by
  rw [← h.place] at hJournal
  exact hJournal

theorem store_snapshotDir
    (h : Recorded C notary paths s) :
    s.store.snapshotDir = paths.snapshotDir := by
  rw [← h.place]
  rfl

/- The next record of the create flow is one more line. -/
theorem append
    {notarizedAt : Timestamp}
    {req : CreateRequest}
    {answer : Except String Json.Value}
    {io : AppendIo}
    {r : SnapshotRecord}
    {store : SnapshotStore}
    {disk : Disk}
    (h : Recorded C notary paths s)
    (hJournal : paths.journal = true)
    (hRecord :
      ingestRecord C notary s.store.size notarizedAt req
          answer = .ok r)
    (hAppend :
      s.store.appendSnapshot C io r s.disk =
        (.ok (), store, disk))
    (hCapacity :
      (s.store.records ++ [r]).length ≤ maxRecords) :
    Recorded C notary paths ⟨store, disk⟩ := by
  have hAppends := SnapshotStore.Appends.single hAppend
  have hStore := hAppends.store_eq
  have hFlow : CreateFlow C notary (s.store.records ++ [r]) := by
    intro i q hq
    rcases Nat.lt_or_ge i s.store.records.length with
      hOld | hNew
    · rw [List.getElem?_append_left hOld] at hq
      exact h.flow i q hq
    · have hLast : i = s.store.records.length := by
        have hLt := (List.getElem?_eq_some_iff.mp hq).1
        rw [List.length_append, List.length_singleton] at hLt
        omega
      rw [hLast, List.getElem?_concat_length] at hq
      cases hq
      exact ⟨notarizedAt, req, answer, hLast ▸ hRecord⟩
  subst hStore
  refine ⟨h.place, ?_, hFlow, ?_⟩
  · rw [hAppends.journal_eq_some h.journal,
      hAppends.journal_eq (h.store_journal hJournal),
      h.journal]
    simp [journalText]
  · intro dir hDir
    have hWritten :=
      (h.files dir hDir).append
        ((hFlow.inSequence hCapacity).compatible dir)
    intro q hq
    have hFiles := hAppends.files_eq
    rw [h.store_snapshotDir, hDir] at hFiles
    rw [hFiles]
    exact hWritten q hq

/- A restart finds the records again, if each is read back. -/
theorem openAt
    (h : Recorded C notary paths s)
    (hSerde : C.serde.Lawful)
    (hJournal : paths.journal = true)
    (hDecodable : ∀ r ∈ s.store.records, Decodable C r) :
    SnapshotStore.openAt C .sound paths s.disk =
      (.ok s.store, s.disk) := by
  have hReplayed :=
    (replayed_journalText_iff hSerde h.flow.accepted).mpr
      hDecodable
  have hLines :
      ∀ l ∈ Lines.lines (journalText C s.store.records),
        ∃ r, lineVerdict C l = .record r := by
    intro l hl
    rw [lines_journalText hSerde] at hl
    rcases List.mem_map.mp hl with ⟨r, hr, rfl⟩
    exact ⟨r, (hDecodable r hr).lineVerdict⟩
  have hSynced : s.store.Synced C s.disk := by
    constructor
    · exact ⟨_, h.journal, terminated_journalText _,
        Replay.Replays.accepted_of_records hReplayed hLines⟩
    · rw [h.store_snapshotDir]
      exact h.files
  rw [← h.place]
  exact hSynced.openAt (h.store_journal hJournal)

/- And only then. -/
theorem decodable_of_openAt
    {disk : Disk}
    (h : Recorded C notary paths s)
    (hSerde : C.serde.Lawful)
    (hJournal : paths.journal = true)
    (hOpen :
      SnapshotStore.openAt C .sound paths s.disk =
        (.ok s.store, disk)) :
    ∀ r ∈ s.store.records, Decodable C r := by
  have hReads := (SnapshotStore.openAt_reads hOpen).1
  simp only [JournalReads, hJournal, if_true, h.journal,
    Option.getD_some] at hReads
  exact (replayed_journalText_iff hSerde
    h.flow.accepted).mp hReads

end Recorded

end UnidppArchive

------------------------------------------------------------
-- What a Request Writes
------------------------------------------------------------

namespace UnidppArchive

/- Every write is done, or the journal takes nothing. -/
def AppendIo.Whole
    (io : AppendIo) : Prop :=
  io = .sound ∨ ∀ data, io.journal.kept data = []

/- So is it for an ingest: all writes, or no journal line. -/
def ApiRequest.WritesWhole
    (request : ApiRequest) : Prop :=
  ∀ env body, request.call = .createSnapshot env body →
    env.io.Whole

variable {C : Crates}
variable {service : Service C}
variable {paths : StorePaths}

/- A request changes nothing, or appends what it sealed. -/
theorem handle_append_cases
    (service : Service C)
    (s : ServerState)
    (request : ApiRequest) :
    (handle C service s request).2 = s ∨
      ∃ env body req answer r,
        request.call = .createSnapshot env body ∧
          ingestRecord C service.notary s.store.size env.now req
              answer = .ok r ∧
          ∃ result,
            s.store.appendSnapshot C env.io r s.disk =
              (result, (handle C service s request).2.store,
                (handle C service s request).2.disk) := by
  rcases request with ⟨authorization, call⟩
  cases call with
  | createSnapshot env body =>
      simp only [handle, createSnapshot]
      cases acceptPost C service env.errorAt
          ⟨authorization, body⟩ with
      | error deny => exact Or.inl rfl
      | ok req =>
          simp only [storeDraft, SnapshotStore.reserve]
          cases hRecord :
              ingestRecord C service.notary s.store.size
                env.now req
                (anchorDraft C service env.transport
                  (draftRecord s.store.size env.now req)) with
          | error e => exact Or.inl rfl
          | ok r =>
              refine Or.inr
                ⟨env, body, req, _, r, rfl, hRecord, ?_⟩
              simp only
              rcases s.store.appendSnapshot C env.io r s.disk
                with ⟨e | u, store, disk⟩
              · exact ⟨_, rfl⟩
              · exact ⟨_, rfl⟩
  | unreadablePost answer => exact Or.inl rfl
  | getSnapshot now id => exact Or.inl rfl
  | listSnapshots now params => exact Or.inl rfl
  | healthz shownAt stampedAt => exact Or.inl rfl
  | adminLog now params => exact Or.inl rfl
  | other answer => exact Or.inl rfl

/- Records are never taken away. -/
theorem records_prefix_run
    (service : Service C)
    (s : ServerState)
    (requests : List ApiRequest) :
    s.store.records <+:
      (Machine.run (handle C service) s
        requests).2.store.records := by
  have hStep :
      ∀ t : ServerState, s.store.records <+: t.store.records →
        ∀ request ∈ requests,
          s.store.records <+:
            (handle C service t request).2.store.records := by
    intro t ht request _
    rcases handle_store_cases service t request with
      hSame | ⟨r, hPush, -⟩
    · rw [hSame]
      exact ht
    · rw [hPush]
      exact ht.trans (List.prefix_append _ _)
  exact (Machine.run_invariant hStep (List.prefix_refl _)).1

/- A request leaves what is written as its records are. -/
theorem Recorded.handle
    {s : ServerState}
    {request : ApiRequest}
    (h : Recorded C service.notary paths s)
    (hJournal : paths.journal = true)
    (hWhole : request.WritesWhole)
    (hCapacity :
      (UnidppArchive.handle C service s
        request).2.store.records.length ≤ maxRecords) :
    Recorded C service.notary paths
      (UnidppArchive.handle C service s request).2 := by
  rcases handle_append_cases service s request with
    hSame | ⟨env, body, req, answer, r, hCall, hRecord, result,
      hAppend⟩
  · rw [hSame]
    exact h
  · cases result with
    | ok u =>
        have hStore :=
          (SnapshotStore.Appends.single hAppend).store_eq
        rw [hStore] at hCapacity
        exact h.append hJournal hRecord hAppend hCapacity
    | error e =>
        have hAdmits := admits_ingestRecord hRecord rfl
        rcases hWhole env body hCall with hSound | hNothing
        · -- with sound writes an admitted record is stored
          have hDone :
              s.store.appendSnapshot C env.io r s.disk =
                (.ok (), s.store.push r,
                  s.store.recorded C r s.disk) :=
            SnapshotStore.appendSnapshot_eq_ok_iff.mpr
              ⟨hAdmits, fun _ => congrArg _ hSound,
                fun _ => congrArg _ hSound, rfl, rfl⟩
          rw [hDone] at hAppend
          cases hAppend
        · rcases SoundRun.unchanged_of_unwritten
            (h.store_journal hJournal) h.journal
            (Or.inr (hNothing _)) hAppend with
            ⟨hStore, hDisk⟩
          have hState :
              (UnidppArchive.handle C service s request).2 =
                s := by
            rcases hAfter :
                (UnidppArchive.handle C service s request).2
              with ⟨store, disk⟩
            rw [hAfter] at hStore hDisk
            change store = s.store at hStore
            change disk = s.disk at hDisk
            rw [hStore, hDisk]
          rw [hState]
          exact h

/- The induction is on the requests. -/
theorem Recorded.run
    {s : ServerState}
    {requests : List ApiRequest}
    (h : Recorded C service.notary paths s)
    (hJournal : paths.journal = true)
    (hWhole : ∀ request ∈ requests, request.WritesWhole)
    (hCapacity :
      (Machine.run (UnidppArchive.handle C service) s
        requests).2.store.records.length ≤ maxRecords) :
    Recorded C service.notary paths
      (Machine.run (UnidppArchive.handle C service) s
        requests).2 := by
  induction requests generalizing s with
  | nil => exact h
  | cons request requests ih =>
      have hPrefix :=
        records_prefix_run service
          (UnidppArchive.handle C service s request).2 requests
      have hNext :=
        h.handle hJournal (hWhole request (by simp))
          (hPrefix.length_le.trans hCapacity)
      exact ih hNext (fun q hq => hWhole q (by simp [hq]))
        hCapacity

end UnidppArchive

------------------------------------------------------------
-- Stopping and Starting
------------------------------------------------------------

namespace UnidppArchive

/- A request, or a stop of the process and a start. -/
inductive Visit where
  | request (request : ApiRequest)
  | restart

/- The process, if its last start found a store, and its disk. -/
structure Host where
  store : Option SnapshotStore
  disk : Disk

namespace Host

def up
    (s : ServerState) : Host :=
  ⟨some s.store, s.disk⟩

variable (C : Crates)
variable (service : Service C)
variable (paths : StorePaths)

/- A process that is down answers nobody. -/
def step
    (host : Host) :
    Visit → Option Response × Host
| .request request =>
    match host.store with
    | none => (none, host)
    | some store =>
        let (response, s) :=
          handle C service ⟨store, host.disk⟩ request
        (some response, up s)
| .restart =>
    match SnapshotStore.openAt C .sound paths host.disk with
    | (.error _, disk) => (none, ⟨none, disk⟩)
    | (.ok store, disk) => (none, ⟨some store, disk⟩)

end Host

/- The requests among the visits. -/
def asked
    (visits : List Visit) : List ApiRequest :=
  visits.filterMap fun
    | .request request => some request
    | .restart => none

/- The requests that were answered, with their answers. -/
def answered
    (answers : List (Visit × Option Response)) :
    List (ApiRequest × Response) :=
  answers.filterMap fun
    | (.request request, some response) =>
        some (request, response)
    | _ => none

/-
  The answers, the records and the disk are those of a
  process that is never stopped.
-/
def Unnoticed
    (C : Crates)
    (service : Service C)
    (paths : StorePaths)
    (s : ServerState)
    (visits : List Visit) : Prop :=
  answered
        (Machine.run (Host.step C service paths) (Host.up s)
          visits).1 =
      (Machine.run (handle C service) s (asked visits)).1 ∧
    (Machine.run (Host.step C service paths) (Host.up s)
        visits).2 =
      Host.up
        (Machine.run (handle C service) s (asked visits)).2

variable {C : Crates}
variable {service : Service C}
variable {paths : StorePaths}
variable {s : ServerState}

/- A process that is not stopped is up to the last request. -/
theorem run_map_request
    (s : ServerState)
    (requests : List ApiRequest) :
    (Machine.run (Host.step C service paths) (Host.up s)
        (requests.map Visit.request)).2 =
      Host.up (Machine.run (handle C service) s requests).2 := by
  induction requests generalizing s with
  | nil => rfl
  | cons request requests ih =>
      exact ih (handle C service s request).2

/- A start that finds these records has opened the disk. -/
theorem openAt_of_restart
    {t : ServerState}
    (h :
      (Host.step C service paths (Host.up s) .restart).2 =
        Host.up t) :
    SnapshotStore.openAt C .sound paths s.disk =
      (.ok t.store, t.disk) := by
  unfold Host.step Host.up at h
  rcases hOpen : SnapshotStore.openAt C .sound paths s.disk with
    ⟨e | store, disk⟩
  · rw [hOpen] at h
    cases h
  · rw [hOpen] at h
    simp only [Host.mk.injEq, Option.some.injEq] at h
    rw [h.1, h.2]

/- The induction is on the visits, from any recorded state. -/
theorem Recorded.unnoticed
    {visits : List Visit}
    (h : Recorded C service.notary paths s)
    (hSerde : C.serde.Lawful)
    (hJournal : paths.journal = true)
    (hWhole : ∀ request ∈ asked visits, request.WritesWhole)
    (hCapacity :
      (Machine.run (UnidppArchive.handle C service) s
        (asked visits)).2.store.records.length ≤ maxRecords)
    (hDecodable :
      ∀ r ∈ (Machine.run (UnidppArchive.handle C service) s
          (asked visits)).2.store.records,
        Decodable C r) :
    Unnoticed C service paths s visits := by
  induction visits generalizing s with
  | nil => exact ⟨rfl, rfl⟩
  | cons visit visits ih =>
      cases visit with
      | restart =>
          have hNow :
              ∀ r ∈ s.store.records, Decodable C r :=
            fun r hr => hDecodable r
              ((records_prefix_run service s _).subset hr)
          have hStep :
              Host.step C service paths (Host.up s) .restart =
                (none, Host.up s) := by
            unfold Host.step Host.up
            simp only [h.openAt hSerde hJournal hNow]
          have hRest := ih h hWhole hCapacity hDecodable
          unfold Unnoticed
          rw [Machine.run_cons, hStep]
          exact hRest
      | request request =>
          have hPrefix :=
            records_prefix_run service
              (UnidppArchive.handle C service s request).2
              (asked visits)
          have hNext :=
            h.handle hJournal (hWhole request (by simp [asked]))
              (hPrefix.length_le.trans hCapacity)
          have hRest :=
            ih hNext
              (fun q hq => hWhole q
                (by simpa [asked] using Or.inr hq))
              hCapacity hDecodable
          unfold Unnoticed
          rw [Machine.run_cons]
          exact ⟨congrArg (List.cons _) hRest.1, hRest.2⟩

end UnidppArchive

------------------------------------------------------------
-- Unnoticed Restarts
------------------------------------------------------------

namespace UnidppArchive

variable {C : Crates}
variable {service : Service C}
variable {paths : StorePaths}

/-
  Restarts among requests are unnoticed, wherever they come,
  exactly if every record that the requests leave is read
  back from its own line.
-/
theorem restarts_are_unnoticed_iff
    {s : ServerState}
    {disk : Disk}
    (hSerde : C.serde.Lawful)
    (hJournal : paths.journal = true)
    (hFresh : disk.journal.getD [] = [])
    (hOpen :
      SnapshotStore.openAt C .sound paths disk =
        (.ok s.store, s.disk))
    (requests : List ApiRequest)
    (hWhole : ∀ request ∈ requests, request.WritesWhole)
    (hCapacity :
      (Machine.run (handle C service) s
        requests).2.store.records.length ≤ maxRecords) :
    (∀ visits, asked visits = requests →
        Unnoticed C service paths s visits) ↔
      ∀ r ∈ (Machine.run (handle C service) s
          requests).2.store.records,
        Decodable C r := by
  have hStart : Recorded C service.notary paths s :=
    recorded_start hJournal hFresh hOpen
  constructor
  · intro hUnnoticed
    -- a restart behind the last request shows its records
    have hAsked :
        asked (requests.map Visit.request ++ [.restart]) =
          requests := by
      simp [asked, List.filterMap_map]
    have hLast := (hUnnoticed _ hAsked).2
    rw [Machine.run_append, run_map_request, hAsked,
      Machine.run_singleton] at hLast
    exact (hStart.run hJournal hWhole
      hCapacity).decodable_of_openAt hSerde hJournal
        (openAt_of_restart hLast)
  · intro hDecodable visits hAsked
    subst hAsked
    exact hStart.unnoticed hSerde hJournal hWhole hCapacity
      hDecodable

namespace Reference

/- A record is read back if no log answered. -/
theorem decodable_of_error
    {seq : UInt64}
    {req : CreateRequest}
    {answer : Except String Json.Value}
    {r : SnapshotRecord}
    (h : ingestRecord crates notary seq now req answer = .ok r)
    (hError : ∃ e, answer = .error e) :
    Decodable crates r := by
  apply decodable_ingestRecord hexLaw ⟨by decide, by decide⟩ h
    _ (inverts_serde _)
  rw [replayable_ingestRecord_iff h]
  intro receipt summary hAccepted
  rcases hError with ⟨e, hError⟩
  cases hError.symm.trans hAccepted.1

end Reference

open Reference in
/- An ingest whose log is not reached, between restarts. -/
theorem restarts_are_unnoticed_iff_sample :
    ∃ r,
      (Machine.run (handle crates (withLog someLog)) emptyServer
          [postTo createEnv.transport]).2.store.records =
            [r] ∧
        Unnoticed crates (withLog someLog) journalOnly
          emptyServer
          [.restart, .request (postTo createEnv.transport),
            .restart, .restart] := by
  rcases exists_posted someLog createEnv.transport with
    ⟨r, hRecord, hRecords⟩
  have hDecodable : Decodable crates r :=
    decodable_of_error hRecord ⟨_, rfl⟩
  refine ⟨r, hRecords, ?_⟩
  have hOpen :
      SnapshotStore.openAt crates .sound journalOnly
          (diskOf none) =
        (.ok emptyServer.store, emptyServer.disk) :=
    open_absent
  apply (restarts_are_unnoticed_iff lawful_serde rfl rfl hOpen
    [postTo createEnv.transport] ?_ ?_).mpr ?_
  · rfl
  · intro request hRequest env body hCall
    rw [List.mem_singleton.mp hRequest] at hCall
    cases hCall
    exact Or.inl rfl
  · rw [hRecords]
    change 1 ≤ maxRecords
    decide
  · rw [hRecords]
    intro q hq
    rw [List.mem_singleton.mp hq]
    exact hDecodable

end UnidppArchive
