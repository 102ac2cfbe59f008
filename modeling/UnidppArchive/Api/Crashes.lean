import UnidppArchive.Api.Linearization
import UnidppArchive.Api.Restarts

/-
  Processes that are killed (`main.rs`, `api.rs`, `store.rs`).

  A process is killed between any two steps of its handlers,
  and started on the disk that it left, again and again.  The
  answers of all of them are those of one server that takes
  the same requests one after the other: at most the request
  that was being written when the process was killed has had
  its turn without an answer.

  Key definitions include:
    * `Accounts`
    * `Lives`

  Key theorems include:
    * `Recorded.reopens_written`
    * `exists_reopened`
    * `killed_processes_are_one_server`
-/

------------------------------------------------------------
-- A Record That Was Being Written
------------------------------------------------------------

namespace UnidppArchive

/- Bodies are written in the order of their records. -/
theorem Disk.writeBodies_append
    (C : Crates)
    (dir : String)
    (disk : Disk)
    (records rs : List SnapshotRecord) :
    disk.writeBodies C dir (records ++ rs) =
      (disk.writeBodies C dir records).writeBodies C dir rs := by
  exact List.foldl_append

/- No file of the directory is of an unknown snapshot. -/
def Tidy
    (paths : StorePaths)
    (s : ServerState) : Prop :=
  ∀ dir, paths.snapshotDir = some dir →
    ∀ path, s.disk.files path ≠ none →
      ∃ r ∈ s.store.records,
        path = snapshotPath dir r.snapshotId

variable {C : Crates}
variable {notary : C.signatif.KeyPair}
variable {paths : StorePaths}
variable {s : ServerState}
variable {r : SnapshotRecord}

theorem tidy_start
    {disk : Disk}
    (hJournal : paths.journal = true)
    (hFresh : disk.journal.getD [] = [])
    (hClear : ∀ path, disk.files path = none)
    (hOpen :
      SnapshotStore.openAt C .sound paths disk =
        (.ok s.store, s.disk)) :
    Tidy paths s := by
  have hStore :=
    (records_of_openAt_fresh hJournal hFresh hOpen).1
  rcases SnapshotStore.openAt_sound_eq_ok_iff.mp hOpen with
    ⟨-, -, -, hDisk⟩
  intro dir hDir path hSome
  rw [hDisk, hStore] at hSome
  simp [Disk.opened, hDir, hClear] at hSome

theorem Tidy.append
    {io : AppendIo}
    {store : SnapshotStore}
    {disk : Disk}
    (h : Tidy paths s)
    (hPlace : s.store.paths = paths)
    (hAppend :
      s.store.appendSnapshot C io r s.disk =
        (.ok (), store, disk)) :
    Tidy paths ⟨store, disk⟩ := by
  have hAppends := SnapshotStore.Appends.single hAppend
  have hStore := hAppends.store_eq
  have hFiles := hAppends.files_eq
  subst hStore
  intro dir hDir path hSome
  have hDir' : s.store.snapshotDir = some dir := by
    rw [← hPlace] at hDir
    exact hDir
  rw [hDir'] at hFiles
  by_cases hPath : path = snapshotPath dir r.snapshotId
  · exact ⟨r, by simp, hPath⟩
  · have hOld : s.disk.files path ≠ none := by
      change disk.files path ≠ none at hSome
      rw [hFiles] at hSome
      simpa [hPath] using hSome
    rcases h dir hDir path hOld with ⟨q, hq, hName⟩
    exact ⟨q, List.mem_append_left _ hq, hName⟩

namespace Recorded

/- Its line is there, and a start writes its copy. -/
theorem reopens_written
    (h : Recorded C notary paths s)
    (hTidy : Tidy paths s)
    (hSerde : C.serde.Lawful)
    (hJournal : paths.journal = true)
    (hFlow : CreateFlow C notary (s.store.records ++ [r]))
    (hCapacity :
      (s.store.records ++ [r]).length ≤ maxRecords)
    (hDecodable :
      ∀ q ∈ s.store.records ++ [r], Decodable C q) :
    SnapshotStore.openAt C .sound paths
        (s.disk.appendJournal .done (journalEntry C r)) =
      (.ok (s.store.push r),
        s.store.recorded C r s.disk) := by
  have hCompatible (dir : String) :
      Compatible C dir (s.store.records ++ [r]) :=
    (hFlow.inSequence hCapacity).compatible dir
  have hText :
      (s.disk.appendJournal .done
          (journalEntry C r)).journal =
        some (journalText C (s.store.records ++ [r])) := by
    simp [h.journal, journalText, WriteResult.kept]
  rw [SnapshotStore.openAt_sound_eq_ok_iff]
  refine ⟨?_, ?_, ?_, ?_⟩
  · simp only [JournalReads, hJournal, if_true, hText,
      Option.getD_some]
    exact (replayed_journalText_iff hSerde
      hFlow.accepted).mpr hDecodable
  · intro dir hDir
    refine ⟨?_, hCompatible dir⟩
    intro q hq b hFile
    rw [Disk.files_appendJournal] at hFile
    rcases hTidy dir hDir _ (by rw [hFile]; simp) with
      ⟨p, hp, hPath⟩
    have hBody := h.files dir hDir p hp
    rw [← hPath, hFile] at hBody
    rw [Option.some.inj hBody]
    exact hCompatible dir p (List.mem_append_left _ hp) q hq
      hPath.symm
  · rw [SnapshotStore.push, h.store_journal hJournal,
      h.store_snapshotDir, hJournal]
  · unfold Disk.opened SnapshotStore.recorded
    rw [Disk.withJournal_of_some hText, h.store_snapshotDir,
      h.store_journal hJournal]
    cases hDir : paths.snapshotDir with
    | none => rfl
    | some dir =>
        have hKept :
            (s.disk.appendJournal .done
                (journalEntry C r)).writeBodies C dir
                  s.store.records =
              s.disk.appendJournal .done (journalEntry C r) :=
          FilesAgree.writeBodies (h.files dir hDir)
        simp only [if_true, SnapshotStore.push]
        rw [Disk.writeBodies_append, hKept]
        rfl

end Recorded

end UnidppArchive

------------------------------------------------------------
-- Runs Whose Appends Succeed
------------------------------------------------------------

namespace UnidppArchive

variable {Request : Type} [DecidableEq Request]
variable {C : Crates}
variable {service : Service C}
variable {posts : Request → CreatePost}
variable {paths : StorePaths}
variable {first base base' : ServerState}
variable {answers : List (Turn Request × Response)}
variable {d d' : Traffic Request}

omit [DecidableEq Request] in
theorem Traffic.sound_start
    (first : ServerState) :
    (Traffic.start first : Traffic Request).Sound := by
  intro t e h
  cases h

theorem Traffic.SoundRun.sound
    (hRun :
      Traffic.SoundRun C service posts (Traffic.start first) d) :
    d.Sound := by
  cases hRun with
  | refl => exact Traffic.sound_start first
  | tail _ hStep => exact hStep.2

omit [DecidableEq Request] in
/- A sealed record goes on the records of the create flow. -/
theorem SealResult.exists_ingestRecord
    {post : CreatePost}
    {store : SnapshotStore}
    {r : SnapshotRecord}
    (h : SealResult C service post store (.ok r)) :
    ∃ notarizedAt req answer,
      ingestRecord C service.notary store.size notarizedAt req
        answer = .ok r := by
  rcases h with ⟨req, now, transport, -, hRecord⟩
  exact ⟨now, req, _, hRecord⟩

omit [DecidableEq Request] in
/- What is written and tidy stays so when a record is stored. -/
theorem Settles.recorded
    (h : Settles C service posts d base base')
    (hSound : d.Sound)
    (hJournal : paths.journal = true)
    (hRecorded : Recorded C service.notary paths base)
    (hTidy : Tidy paths base) :
    Recorded C service.notary paths base' ∧
      Tidy paths base' := by
  cases h with
  | kept => exact ⟨hRecorded, hTidy⟩
  | @stored t r io store disk hPhase hSealed hAppend hCapacity =>
      rcases hSealed.exists_ingestRecord with
        ⟨notarizedAt, req, answer, hRecord⟩
      have hRoom :
          (base.store.records ++ [r]).length ≤ maxRecords := by
        rw [List.length_append, List.length_singleton]
        exact hCapacity
      exact ⟨hRecorded.append hJournal hRecord hAppend hRoom,
        hTidy.append hRecorded.place hAppend⟩
  | failed hPhase => exact absurd hPhase (hSound _ _)

/- The last state between two requests is written down. -/
theorem exists_recorded_base
    (hJournal : paths.journal = true)
    (hRecorded : Recorded C service.notary paths first)
    (hTidy : Tidy paths first)
    (hRun :
      Traffic.SoundRun C service posts (Traffic.start first) d) :
    ∃ answers base,
      Linearizing C service posts first answers base d ∧
        Recorded C service.notary paths base ∧
        Tidy paths base := by
  induction hRun with
  | refl =>
      exact ⟨[], first, linearizing_start first, hRecorded,
        hTidy⟩
  | tail hFront hStep ih =>
      rcases ih with ⟨answers, base, hLinear, hWritten, hFiles⟩
      rcases hLinear.step hStep.1 with
        ⟨more, base', hNext, hSettles⟩
      have hSound := Traffic.SoundRun.sound hFront
      exact ⟨_, base', hNext,
        hSettles.recorded hSound hJournal hWritten hFiles⟩

end UnidppArchive

------------------------------------------------------------
-- The Disk of a Killed Process
------------------------------------------------------------

namespace UnidppArchive

variable {Request : Type} [DecidableEq Request]
variable {C : Crates}
variable {service : Service C}
variable {posts : Request → CreatePost}
variable {paths : StorePaths}
variable {first base : ServerState}
variable {answers : List (Turn Request × Response)}
variable {d : Traffic Request}

/- The line of the record is written, its turn is to come. -/
def Traffic.Writes
    (d : Traffic Request)
    (t : Request)
    (r : SnapshotRecord) : Prop :=
  d.app.phase t = .journaled r ∨ d.app.phase t = .copied r

/- The records that are there, or being written. -/
def Traffic.Holds
    (d : Traffic Request)
    (r : SnapshotRecord) : Prop :=
  r ∈ d.app.store.records ∨ ∃ t, d.Writes t r

omit [DecidableEq Request] in
/-
  A disk is that between two requests, or has the line of one
  more record.
-/
theorem disk_cases
    (h : Linearizing C service posts first answers base d)
    (hSound : d.Sound) :
    d.app.disk = base.disk ∨
      ∃ t r,
        d.Writes t r ∧
          SealResult C service (posts t) base.store (.ok r) ∧
          base.store.checkRecord C r = .ok () ∧
          ((∃ io, base.store.writeJournal C io r base.disk =
              (.ok (), d.app.disk)) ∨
            ∃ io, base.store.appendSnapshot C io r base.disk =
              (.ok (), base.store.push r, d.app.disk)) := by
  rcases h.coherent with ⟨pending, hCoherent⟩
  cases hHolder : d.app.mutations with
  | none => exact Or.inl (h.linear.disk hHolder).symm
  | some t =>
      have hHolds := (hCoherent.holder t).mpr hHolder
      cases hPhase : d.app.phase t with
      | idle | responded _ | dropped | waiting _ =>
          rw [hPhase] at hHolds
          cases hHolds
      | locked req =>
          exact Or.inl (h.underway_at hPhase).2
      | anchoring req seq notarizedAt =>
          exact Or.inl (h.underway_at hPhase).2.2
      | noted r => exact Or.inl (h.underway_at hPhase).2
      | checked r => exact Or.inl (h.underway_at hPhase).2.2
      | journaled r =>
          rcases h.underway_at hPhase with
            ⟨hSealed, hCheck, hWrite⟩
          exact Or.inr ⟨t, r, Or.inl hPhase, hSealed, hCheck,
            Or.inl hWrite⟩
      | copied r =>
          rcases h.underway_at hPhase with
            ⟨hSealed, io, hAppend⟩
          have hCheck :
              base.store.checkRecord C r = .ok () := by
            rw [SnapshotStore.checkRecord_eq_ok_iff]
            exact (SnapshotStore.appendSnapshot_eq_ok_iff.mp
              hAppend).1
          exact Or.inr ⟨t, r, Or.inr hPhase, hSealed, hCheck,
            Or.inr ⟨io, hAppend⟩⟩
      | appended r => exact Or.inl (h.underway_at hPhase)
      | unsealed e => exact Or.inl (h.underway_at hPhase).2
      | appendFailed e => exact absurd hPhase (hSound t e)

/- A line that is written is done. -/
theorem SnapshotStore.disk_of_writeJournal
    {store : SnapshotStore}
    {io : AppendIo}
    {r : SnapshotRecord}
    {disk disk' : Disk}
    (hJournal : store.journal = true)
    (h : store.writeJournal C io r disk = (.ok (), disk')) :
    disk' = disk.appendJournal .done (journalEntry C r) := by
  unfold SnapshotStore.writeJournal at h
  rw [if_pos hJournal] at h
  cases hWrite : io.journal with
  | done =>
      simp only [hWrite, WriteResult.error?, Prod.mk.injEq]
        at h
      exact h.2.symm
  | refused e => simp [hWrite, WriteResult.error?] at h
  | cut n e => simp [hWrite, WriteResult.error?] at h

omit [DecidableEq Request] in
/-
  A killed process is started with the records of its last
  state between two requests, or with one more, whose request
  has had its turn.
-/
theorem exists_reopened
    (hSerde : C.serde.Lawful)
    (hJournal : paths.journal = true)
    (h : Linearizing C service posts first answers base d)
    (hSound : d.Sound)
    (hRecorded : Recorded C service.notary paths base)
    (hTidy : Tidy paths base)
    (hCapacity : d.app.store.records.length < maxRecords)
    (hReadable : ∀ r, d.Holds r → Decodable C r) :
    ∃ s : ServerState,
      SnapshotStore.openAt C .sound paths d.app.disk =
          (.ok s.store, s.disk) ∧
        (s = base ∨
          ∃ t r io,
            d.Writes t r ∧
              SealResult C service (posts t) base.store
                (.ok r) ∧
              base.store.appendSnapshot C io r base.disk =
                (.ok (), s.store, s.disk)) := by
  rw [← h.linear.store] at hCapacity
  have hOld : ∀ r ∈ base.store.records, Decodable C r := by
    intro r hr
    rw [h.linear.store] at hr
    exact hReadable r (Or.inl hr)
  rcases disk_cases h hSound with
    hDisk | ⟨t, r, hWrites, hSealed, hCheck, hDisk⟩
  · refine ⟨base, ?_, Or.inl rfl⟩
    rw [hDisk]
    exact hRecorded.openAt hSerde hJournal hOld
  · have hRoom :
        (base.store.records ++ [r]).length ≤ maxRecords := by
      rw [List.length_append, List.length_singleton]
      exact hCapacity
    have hAll :
        ∀ q ∈ base.store.records ++ [r], Decodable C q := by
      intro q hq
      rcases List.mem_append.mp hq with hBefore | hLast
      · exact hOld q hBefore
      · rw [List.mem_singleton.mp hLast]
        exact hReadable r (Or.inr ⟨t, hWrites⟩)
    have hAdmits := SnapshotStore.checkRecord_eq_ok_iff.mp hCheck
    have hDone :
        base.store.appendSnapshot C .sound r base.disk =
          (.ok (), base.store.push r,
            base.store.recorded C r base.disk) :=
      SnapshotStore.appendSnapshot_eq_ok_iff.mpr
        ⟨hAdmits, fun _ => rfl, fun _ => rfl, rfl, rfl⟩
    rcases hSealed.exists_ingestRecord with
      ⟨notarizedAt, req, answer, hRecord⟩
    have hStored :
        Recorded C service.notary paths
          ⟨base.store.push r,
            base.store.recorded C r base.disk⟩ :=
      hRecorded.append hJournal hRecord hDone hRoom
    refine ⟨⟨base.store.push r,
      base.store.recorded C r base.disk⟩, ?_,
      Or.inr ⟨t, r, .sound, hWrites, hSealed, hDone⟩⟩
    rcases hDisk with ⟨io, hWrite⟩ | ⟨io, hAppend⟩
    · have hLine :=
        SnapshotStore.disk_of_writeJournal
          (hRecorded.store_journal hJournal) hWrite
      rw [hLine]
      exact hRecorded.reopens_written hTidy hSerde hJournal
        hStored.flow hRoom hAll
    · have hSame :=
        (SnapshotStore.appendSnapshot_eq_ok_iff.mp
          hAppend).2.2.2.2
      rw [hSame]
      exact hStored.openAt hSerde hJournal hAll

end UnidppArchive

------------------------------------------------------------
-- One Life
------------------------------------------------------------

namespace UnidppArchive

/-
  A sequence of turns accounts for what a process did until
  it was killed.  Each answer was given in the one turn of
  its handler; a turn without an answer is the last one, and
  the line of its record was written.
-/
structure Accounts
    {Request : Type}
    (C : Crates)
    (posts : Request → CreatePost)
    (d : Traffic Request)
    (answers : List (Turn Request × Response)) : Prop where
  answered :
    ∀ t response, (d.app.phase t).Answers C response →
      ∃ request, ((some t, request), response) ∈ answers
  unanswered :
    ∀ t request response,
      ((some t, request), response) ∈ answers →
        (d.app.phase t).Answers C response ∨
          (∃ r, d.Writes t r) ∧
            answers.getLast? =
              some ((some t, request), response)
  own :
    ∀ t request, (some t, request) ∈ answers.map Prod.fst →
      ∃ env,
        request =
          ⟨(posts t).authorization,
            .createSnapshot env (posts t).body⟩
  once : (answers.filterMap fun a => a.1.1).Nodup
  reads : readsOf answers = d.reads

variable {Request : Type} [DecidableEq Request]
variable {C : Crates}
variable {service : Service C}
variable {posts : Request → CreatePost}
variable {paths : StorePaths}
variable {first base : ServerState}
variable {answers : List (Turn Request × Response)}
variable {d : Traffic Request}
variable {t : Request}
variable {r : SnapshotRecord}

omit [DecidableEq Request] in
theorem Linear.accounts
    (h : Linear C service posts first answers base d) :
    Accounts C posts d answers where
  answered := fun t response =>
    (h.answered t response).mpr
  unanswered := fun t request response hMem =>
    Or.inl ((h.answered t response).mp ⟨request, hMem⟩)
  own := h.own
  once := h.once
  reads := h.reads

omit [DecidableEq Request] in
/- The handler of a record that is being written waits. -/
theorem Traffic.Writes.not_answers
    (h : d.Writes t r)
    (response : Response) :
    ¬ (d.app.phase t).Answers C response := by
  intro hAnswers
  rcases h with hPhase | hPhase
  · rw [hPhase] at hAnswers
    exact hAnswers
  · rw [hPhase] at hAnswers
    exact hAnswers

omit [DecidableEq Request] in
/- Its turn comes last, without an answer. -/
theorem Linear.accounts_append
    (h : Linear C service posts first answers base d)
    (hWrites : d.Writes t r)
    (env : CreateEnv)
    (response : Response) :
    Accounts C posts d
      (answers ++
        [((some t,
            ⟨(posts t).authorization,
              .createSnapshot env (posts t).body⟩),
          response)]) where
  answered := by
    intro u given hGiven
    rcases (h.answered u given).mpr hGiven with
      ⟨request, hMem⟩
    exact ⟨request, List.mem_append_left _ hMem⟩
  unanswered := by
    intro u request given hMem
    rcases List.mem_append.mp hMem with hOld | hNew
    · exact Or.inl ((h.answered u given).mp ⟨request, hOld⟩)
    · rw [List.mem_singleton] at hNew
      cases hNew
      exact Or.inr ⟨⟨r, hWrites⟩, List.getLast?_concat⟩
  own := by
    intro u request hMem
    rw [List.map_append, List.mem_append] at hMem
    rcases hMem with hOld | hNew
    · exact h.own u request hOld
    · rw [List.map_singleton, List.mem_singleton,
        Prod.mk.injEq, Option.some.injEq] at hNew
      rw [hNew.1, hNew.2]
      exact ⟨env, rfl⟩
  once :=
    h.once_append (fun given => hWrites.not_answers given) _ _
  reads := by
    rw [readsOf_append]
    exact h.reads

/-
  A process that is killed can be started again, and is then
  the server that took the turns it accounts for.
-/
theorem killed_and_started
    (hSerde : C.serde.Lawful)
    (hJournal : paths.journal = true)
    (hRecorded : Recorded C service.notary paths first)
    (hTidy : Tidy paths first)
    (hRun :
      Traffic.SoundRun C service posts (Traffic.start first) d)
    (hCapacity : d.app.store.records.length < maxRecords)
    (hReadable : ∀ r, d.Holds r → Decodable C r) :
    ∃ s answers,
      SnapshotStore.openAt C .sound paths d.app.disk =
          (.ok s.store, s.disk) ∧
        Machine.run (takeTurn C service) first
            (answers.map Prod.fst) =
          (answers, s) ∧
        Accounts C posts d answers ∧
        Recorded C service.notary paths s ∧ Tidy paths s ∧
        s.store.records.length ≤ maxRecords := by
  rcases exists_recorded_base hJournal hRecorded hTidy hRun with
    ⟨answers, base, hLinear, hWritten, hFiles⟩
  rcases exists_reopened hSerde hJournal hLinear hRun.sound
      hWritten hFiles hCapacity hReadable with
    ⟨s, hOpen, rfl | ⟨t, r, io, hWrites, hSealed, hAppend⟩⟩
  · have hRoom : s.store.records.length ≤ maxRecords := by
      rw [hLinear.linear.store]
      exact Nat.le_of_lt hCapacity
    exact ⟨s, answers, hOpen, hLinear.linear.ran,
      hLinear.linear.accounts, hWritten, hFiles, hRoom⟩
  · rcases exists_handle_of_sealResult hSealed r.notarizedAt io
      with ⟨env, hTurn⟩
    simp only [settled, hAppend] at hTurn
    have hRan :=
      hLinear.ran_append
        (some t,
          ⟨(posts t).authorization,
            .createSnapshot env (posts t).body⟩)
    unfold takeTurn at hRan
    rw [hTurn] at hRan
    rcases hSealed.exists_ingestRecord with
      ⟨notarizedAt, req, answer, hRecord⟩
    have hRoom :
        (base.store.records ++ [r]).length ≤ maxRecords := by
      rw [← hLinear.linear.store] at hCapacity
      rw [List.length_append, List.length_singleton]
      exact hCapacity
    have hStore : s.store = base.store.push r :=
      (SnapshotStore.appendSnapshot_eq_ok_iff.mp
        hAppend).2.2.2.1
    have hLength : s.store.records.length ≤ maxRecords := by
      rw [hStore]
      exact hRoom
    exact ⟨s, _, hOpen, hRan,
      hLinear.linear.accounts_append hWrites env _,
      hWritten.append hJournal hRecord hAppend hRoom,
      hFiles.append hWritten.place hAppend, hLength⟩

end UnidppArchive

------------------------------------------------------------
-- Many Lives
------------------------------------------------------------

namespace UnidppArchive

/- What is posted to a process, and what it did in the end. -/
structure Era
    (Request : Type) where
  posts : Request → CreatePost
  last : Traffic Request

/-
  The process ran from this state without a failed append,
  and what it holds is read back.
-/
structure Era.From
    {Request : Type} [DecidableEq Request]
    (C : Crates)
    (service : Service C)
    (s : ServerState)
    (era : Era Request) : Prop where
  run :
    Traffic.SoundRun C service era.posts (Traffic.start s)
      era.last
  capacity : era.last.app.store.records.length < maxRecords
  readable : ∀ r, era.last.Holds r → Decodable C r

/- One process after the other, each started on its disk. -/
inductive Lives
    {Request : Type} [DecidableEq Request]
    (C : Crates)
    (service : Service C)
    (paths : StorePaths)
    (first : ServerState) :
    List (Era Request) → ServerState → Prop where
  | born : Lives C service paths first [] first
  | killed
      {eras : List (Era Request)}
      {era : Era Request}
      {s s' : ServerState}
      (hLives : Lives C service paths first eras s)
      (hFrom : era.From C service s)
      (hOpen :
        SnapshotStore.openAt C .sound paths
            era.last.app.disk =
          (.ok s'.store, s'.disk)) :
      Lives C service paths first (eras ++ [era]) s'

variable {Request : Type} [DecidableEq Request]
variable {C : Crates}
variable {service : Service C}
variable {paths : StorePaths}
variable {first s : ServerState}
variable {eras : List (Era Request)}

/- The induction is on the lives. -/
theorem Lives.sequential
    (hSerde : C.serde.Lawful)
    (hJournal : paths.journal = true)
    (hRecorded : Recorded C service.notary paths first)
    (hTidy : Tidy paths first)
    (hCapacity : first.store.records.length ≤ maxRecords)
    (h : Lives C service paths first eras s) :
    Recorded C service.notary paths s ∧ Tidy paths s ∧
      s.store.records.length ≤ maxRecords ∧
      ∃ histories,
        List.Forall₂
            (fun era answers =>
              Accounts C era.posts era.last answers)
            eras histories ∧
          Machine.run (takeTurn C service) first
              (histories.flatten.map Prod.fst) =
            (histories.flatten, s) := by
  induction h with
  | born => exact ⟨hRecorded, hTidy, hCapacity, [], .nil, rfl⟩
  | @killed eras era s s' hLives hFrom hOpen ih =>
      rcases ih with
        ⟨hWritten, hFiles, -, histories, hAccounts, hRan⟩
      rcases killed_and_started hSerde hJournal hWritten hFiles
          hFrom.run hFrom.capacity hFrom.readable with
        ⟨t, answers, hFound, hTurns, hLast, hWritten', hFiles',
          hRoom⟩
      have hSame : s' = t := by
        rw [hOpen] at hFound
        rcases s' with ⟨store, disk⟩
        cases hFound
        rfl
      subst hSame
      refine ⟨hWritten', hFiles', hRoom, histories ++ [answers],
        List.rel_append hAccounts (.cons hLast .nil), ?_⟩
      rw [List.flatten_append, List.flatten_singleton,
        List.map_append, Machine.run_append, hRan, hTurns]

/-
  However often processes are killed, each between any two
  steps of its handlers, the next one finds a store.  All of
  them together answer as one server that takes the requests
  one after the other, and that is what the next one is.
-/
theorem killed_processes_are_one_server
    {disk : Disk}
    (hSerde : C.serde.Lawful)
    (hJournal : paths.journal = true)
    (hFresh : disk.journal.getD [] = [])
    (hClear : ∀ path, disk.files path = none)
    (hOpen :
      SnapshotStore.openAt C .sound paths disk =
        (.ok first.store, first.disk)) :
    (∀ (eras : List (Era Request)) s (era : Era Request),
      Lives C service paths first eras s →
        era.From C service s →
          ∃ s' : ServerState,
            SnapshotStore.openAt C .sound paths
                era.last.app.disk =
              (.ok s'.store, s'.disk)) ∧
      ∀ (eras : List (Era Request)) s,
        Lives C service paths first eras s →
          ∃ histories,
            List.Forall₂
                (fun era answers =>
                  Accounts C era.posts era.last answers)
                eras histories ∧
              Machine.run (takeTurn C service) first
                  (histories.flatten.map Prod.fst) =
                (histories.flatten, s) := by
  have hRecorded : Recorded C service.notary paths first :=
    recorded_start hJournal hFresh hOpen
  have hTidy : Tidy paths first :=
    tidy_start hJournal hFresh hClear hOpen
  have hCapacity :
      first.store.records.length ≤ maxRecords := by
    rw [(records_of_openAt_fresh hJournal hFresh hOpen).1]
    exact Nat.zero_le _
  constructor
  · intro eras s era hLives hFrom
    rcases hLives.sequential hSerde hJournal hRecorded hTidy
        hCapacity with
      ⟨hWritten, hFiles, -⟩
    rcases killed_and_started hSerde hJournal hWritten hFiles
        hFrom.run hFrom.capacity hFrom.readable with
      ⟨s', -, hFound, -⟩
    exact ⟨s', hFound⟩
  · intro eras s hLives
    exact (hLives.sequential hSerde hJournal hRecorded hTidy
      hCapacity).2.2.2

end UnidppArchive

------------------------------------------------------------
-- A Process Killed While It Writes
------------------------------------------------------------

namespace UnidppArchive

namespace Reference

/- The sample server is one that is started on nothing. -/
theorem open_filedServer :
    SnapshotStore.openAt crates .sound journalAndFiles
        (diskOf none) =
      (.ok filedServer.store, filedServer.disk) :=
  rfl

/- A process that was killed when it had written a line. -/
theorem exists_killed :
    ∃ (r : SnapshotRecord) (era : Era Unit),
      era.last.app.phase () = .journaled r ∧
        era.From crates service filedServer := by
  rcases exists_posting with
    ⟨r, d, -, hRecord, hRun, hPhase, hStore, -⟩
  rcases anchorDraft_error createEnv.transport
      (draftRecord emptyFiled.size now request) with
    ⟨e, hError⟩
  refine ⟨r, ⟨fun _ => createPost, d⟩, hPhase, hRun, ?_, ?_⟩
  · rw [hStore]
    decide
  · intro q hq
    rcases hq with hOld | ⟨t, hLine | hCopy⟩
    · rw [hStore] at hOld
      cases hOld
    · cases hPhase.symm.trans hLine
      exact decodable_of_error hRecord ⟨e, hError⟩
    · cases hPhase.symm.trans hCopy

end Reference

open Reference in
/- The request that was being written has had its turn. -/
theorem killed_processes_are_one_server_sample :
    ∃ (r : SnapshotRecord) (era : Era Unit) (s : ServerState)
        (answers : List (Turn Unit × Response)),
      era.last.app.phase () = .journaled r ∧
        Lives crates service journalAndFiles filedServer [era]
          s ∧
        Accounts crates era.posts era.last answers ∧
        Machine.run (takeTurn crates service) filedServer
            (answers.map Prod.fst) =
          (answers, s) := by
  rcases exists_killed with ⟨r, era, hPhase, hFrom⟩
  have hServer :=
    @killed_processes_are_one_server Unit _ crates
      Reference.service journalAndFiles filedServer
      (diskOf none) lawful_serde rfl rfl (fun _ => rfl)
      open_filedServer
  rcases hServer with ⟨hStarts, hSequential⟩
  rcases hStarts [] filedServer era .born hFrom with
    ⟨s, hFound⟩
  have hLives :
      Lives crates service journalAndFiles filedServer [era] s :=
    .killed .born hFrom hFound
  rcases hSequential [era] s hLives with
    ⟨histories, hAccounts, hRan⟩
  rcases hAccounts with _ | ⟨hAccount, _ | _⟩
  refine ⟨r, era, s, _, hPhase, hLives, hAccount, ?_⟩
  simpa using hRan

end UnidppArchive
