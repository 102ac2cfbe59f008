import UnidppArchive.Api.Catalogue
import UnidppArchive.Api.Chronology

/-
  Answers that are cached forever.

  An answer as of an instant is labelled immutable, whether
  or not a record of that instant can still come.  It is
  final when the second is past, no reservation of the second
  or earlier is open, and the complete lines of the journal
  say what the store says.

  Key definitions include:
    * `Deployment.Final`
    * `Deployment.Fixed`

  Key theorems include:
    * `Deployment.Fixed.step`
    * `point_in_time_answer_is_final`
    * `immutable_answer_changes`
-/

------------------------------------------------------------
-- Final Answers
------------------------------------------------------------

namespace UnidppArchive

namespace Deployment

variable {Request : Type}

/-
  The second of the instant is past, no handler has reserved
  one up to it for a listed passport, and a restart finds the
  view of the store in the complete lines of the journal, and
  nothing of it behind them.
-/
structure Final
    (C : Crates)
    (paths : StorePaths)
    (passportId : Option String)
    (t : Timestamp)
    (d : Deployment Request) : Prop where
  past : t.secs < d.clock.secs
  closed :
    ∀ u ρ, (d.app.phase u).reservation? C = some ρ →
      Listed passportId ρ.passportId →
        t.secs < ρ.notarizedAt.secs
  durable :
    paths.journal = true →
      ∀ front back,
        d.app.disk.journal.getD [] = front ++ back →
          Lines.Terminated front →
            10 ∉ back →
              view passportId t (readRecords C front) =
                  view passportId t d.app.store.records ∧
                view passportId t (readRecords C back) = []
  unkept :
    paths.journal = false →
      view passportId t d.app.store.records = []

/- The view is this one, and stays so. -/
structure Fixed
    (C : Crates)
    (paths : StorePaths)
    (passportId : Option String)
    (t : Timestamp)
    (records : List SnapshotRecord)
    (d : Deployment Request) : Prop where
  past : t.secs < d.clock.secs
  closed :
    ∀ u ρ, (d.app.phase u).reservation? C = some ρ →
      Listed passportId ρ.passportId →
        t.secs < ρ.notarizedAt.secs
  held : view passportId t d.app.store.records = records
  durable :
    paths.journal = true →
      ∃ front back,
        d.app.disk.journal.getD [] = front ++ back ∧
          Written C front back ∧
            view passportId t (readRecords C front) =
                records ∧
              view passportId t (readRecords C back) = []
  unkept : paths.journal = false → records = []

variable {C : Crates}
variable {paths : StorePaths}
variable {passportId : Option String}
variable {t : Timestamp}
variable {records : List SnapshotRecord}
variable {d d' : Deployment Request}

theorem Final.fixed
    (hSteady : Steady C d)
    (h : Final C paths passportId t d) :
    Fixed C paths passportId t
      (view passportId t d.app.store.records) d := by
  refine ⟨h.past, h.closed, rfl, ?_, h.unkept⟩
  intro hJournal
  rcases hSteady.written with ⟨front, back, hSplit, hWritten⟩
  have hViews :=
    h.durable hJournal front back hSplit hWritten.terminated
      hWritten.noNewline
  exact ⟨front, back, hSplit, hWritten, hViews⟩

/- The process that is started has the view of the journal. -/
theorem Fixed.of_reopens
    {store : SnapshotStore}
    {disk : Disk}
    (h : Fixed C paths passportId t records d)
    (hReopens : Reopens C paths d.app.disk store disk) :
    Fixed C paths passportId t records
      ({ d with app := AppSystem.start store disk } :
        Deployment Request) := by
  rcases hReopens.reads with ⟨hSame, hRecords, -⟩
  refine ⟨h.past, ?_, ?_, ?_, h.unkept⟩
  · intro u ρ hNone
    cases hNone
  · change view passportId t store.records = records
    rw [hRecords, restored]
    by_cases hJournal : paths.journal = true
    · rcases h.durable hJournal with
        ⟨front, back, hSplit, hWritten, hFront, hBack⟩
      rw [if_pos hJournal, hSplit,
        readRecords_append hWritten.terminated, view_append,
        hFront, hBack, List.append_nil]
    · rw [if_neg hJournal, view_nil]
      exact (h.unkept (by simpa using hJournal)).symm
  · intro hJournal
    change ∃ front back,
      disk.journal.getD [] = front ++ back ∧ _
    rw [hSame]
    exact h.durable hJournal

variable [DecidableEq Request]
variable {service : Service C}
variable {app : AppSystem Request}

/- What a handler adds is later. -/
theorem Fixed.handle
    (hSerde : C.serde.Lawful)
    (hStrings : C.serde.KeepsStrings)
    (h : Fixed C paths passportId t records d)
    (hStep : AppSystem.Step C service d.app app)
    (hClock : ReadsClock C d.clock d.app app) :
    Fixed C paths passportId t records
      { d with app := app } := by
  refine ⟨h.past, ?_, ?_, ?_, h.unkept⟩
  · intro u ρ hReserved hListed
    rcases hClock u ρ hReserved with hOld | hNow
    · exact h.closed u ρ hOld hListed
    · rw [hNow]
      exact h.past
  · change view passportId t app.store.records = records
    rcases hStep.store_cases with
      hSame | ⟨u, r, hPhase, hPush, -⟩
    · rw [hSame]
      exact h.held
    · have hReserved :=
        AppSystem.reservation_of_copied (C := C) hPhase
      have hLater : view passportId t [r] = [] := by
        apply view_eq_nil
        intro q hq hListed
        rw [List.mem_singleton.mp hq] at hListed ⊢
        exact h.closed u _ hReserved hListed
      rw [hPush, SnapshotStore.push, view_append, hLater,
        List.append_nil]
      exact h.held
  · intro hJournal
    rcases h.durable hJournal with
      ⟨front, back, hSplit, hWritten, hFront, hBack⟩
    change ∃ front back,
      app.disk.journal.getD [] = front ++ back ∧ _
    rcases hStep.journal_cases with
      hSame | ⟨u, r, w, hPhase, hGrown⟩
    · rw [hSame]
      exact ⟨front, back, hSplit, hWritten, hFront, hBack⟩
    · have hReserved :=
        AppSystem.reservation_of_checked (C := C) hPhase
      have hLater (qs : List SnapshotRecord)
          (hBack : ∀ q ∈ qs, ReadBack C r q) :
          view passportId t qs = [] := by
        apply view_eq_nil
        intro q hq hListed
        rcases named_of_readBack hStrings (hBack q hq) with
          ⟨hInstant, hPassport⟩
        rw [hPassport] at hListed
        rw [SnapshotRecord.instant, hInstant]
        exact h.closed u _ hReserved hListed
      rcases hWritten.grows hSerde r w with
        ⟨front', back', hSplit', hWritten', hCases⟩
      refine ⟨front', back', ?_, hWritten', ?_⟩
      · rw [hGrown, Option.getD_some, hSplit]
        exact hSplit'
      · rcases hCases with
          ⟨rfl, rfl | hTail⟩ | ⟨rfl, new, hNew, hRead⟩
        · exact ⟨hFront, hBack⟩
        · exact ⟨hFront, hLater _ hTail⟩
        · rw [hNew, view_append, hLater new hRead,
            List.append_nil]
          exact ⟨hFront, rfl⟩

/- Every step keeps the view while no clock goes back. -/
theorem Fixed.step
    (hSerde : C.serde.Lawful)
    (hStrings : C.serde.KeepsStrings)
    (h : Fixed C paths passportId t records d)
    (hStep : Step C service paths d d')
    (hForward : d.clock.secs ≤ d'.clock.secs) :
    Fixed C paths passportId t records d' := by
  cases hStep with
  | tick clock =>
      exact ⟨lt_of_lt_of_le h.past hForward, h.closed, h.held,
        h.durable, h.unkept⟩
  | post hPhase hPost =>
      exact ⟨h.past, h.closed, h.held, h.durable, h.unkept⟩
  | restart hReopens => exact h.of_reopens hReopens
  | handle hStep hClock =>
      exact h.handle hSerde hStrings hStep hClock

end Deployment

end UnidppArchive

------------------------------------------------------------
-- Answers Along a Run
------------------------------------------------------------

namespace UnidppArchive

variable {C : Crates}
variable {paths : StorePaths}
variable {Request : Type} [DecidableEq Request]
variable {service : Service C}
variable {d₀ d d' : Deployment Request}

/-
  In a reachable state a request is answered with a body that
  may be cached forever.  If the answer is final, the request
  has the same answer after any further ingests and restarts,
  as long as the clock does not go back.
-/
theorem point_in_time_answer_is_final
    (hSerde : C.serde.Lawful)
    (hStrings : C.serde.KeepsStrings)
    (hStarts : Deployment.Starts C paths d₀)
    (hRun :
      Relation.ReflTransGen
        (Deployment.Step C service paths) d₀ d)
    (params : String → Option String)
    (hStatus :
      (listSnapshots C d.app.store d.clock params).status =
        200)
    (hCache :
      (listSnapshots C d.app.store d.clock params).header?
          "cache-control" =
        some CachePolicy.pointInTime.headerValue)
    (hFinal :
      ∀ t, Api.parseAt params = .ok (some t) →
        Deployment.Final C paths
          (Api.optQuery params "passport_id") t d)
    (hLater :
      Relation.ReflTransGen
        (fun d d' =>
          Deployment.Step C service paths d d' ∧
            d.clock.secs ≤ d'.clock.secs) d d') :
    (listSnapshots C d'.app.store d'.clock params).body =
      (listSnapshots C d.app.store d.clock params).body := by
  rcases (listSnapshots_pointInTime_iff _ _ _).mp
      ⟨hStatus, hCache⟩ with
    ⟨t, hAt⟩
  have hSteady :=
    Deployment.steady_of_run hSerde hStarts hRun
  have hFixed := (hFinal t hAt).fixed hSteady
  have hKept :
      Deployment.Fixed C paths
        (Api.optQuery params "passport_id") t
        (view (Api.optQuery params "passport_id") t
          d.app.store.records) d' := by
    induction hLater with
    | refl => exact hFixed
    | tail _ hLast ih =>
        exact ih.step hSerde hStrings hLast.1 hLast.2
  rw [body_listSnapshots hAt, body_listSnapshots hAt,
    SnapshotStore.list_some, SnapshotStore.list_some,
    hKept.held]

end UnidppArchive

------------------------------------------------------------
-- Sample Answers
------------------------------------------------------------

namespace UnidppArchive

open Reference

theorem count_catalogueBody
    (asOf : Timestamp)
    (at? : Option Timestamp)
    (passportId : Option String)
    (rows : List Json.Value) :
    (catalogueBody asOf at? passportId rows).get? "count" =
      some (Json.u64 (UInt64.ofNat rows.length)) := by
  simp [catalogueBody]

namespace Reference

/- A request with this value of the parameter `at`. -/
def paramsAt
    (text key : String) : Option String :=
  if key = "at" then some text else none

theorem parseAt_paramsAt
    {text : String}
    {t : Timestamp}
    (hSome : text ≠ "")
    (hParse : Timestamp.parse text = .ok t) :
    Api.parseAt (paramsAt text) = .ok (some t) := by
  have hAt : paramsAt text "at" = some text := by
    rw [paramsAt, if_pos rfl]
  simp [Api.parseAt, hAt, hSome, hParse, Except.map,
    Except.mapError]

end Reference

/- What ends in a newline has no other complete lines. -/
theorem eq_of_split_entry
    {r : SnapshotRecord}
    {front back : Bytes}
    (hSplit : journalEntry crates r = front ++ back)
    (hNewline : 10 ∉ back) :
    front = journalEntry crates r ∧ back = [] := by
  rcases List.eq_nil_or_concat back with rfl | ⟨bs, b, rfl⟩
  · exact ⟨by simpa using hSplit.symm, rfl⟩
  · rw [journalEntry, List.concat_eq_append,
      ← List.append_assoc] at hSplit
    have hLast := (List.append_inj' hSplit rfl).2
    rw [List.concat_eq_append, ← hLast] at hNewline
    simp at hNewline

/- A step at one reading of the clock. -/
theorem forward_of_clock
    {d d' : Deployment Bool}
    (hStep : Deployment.Step crates service journalOnly d d')
    (hClock : d'.clock = d.clock) :
    Deployment.Step crates service journalOnly d d' ∧
      d.clock.secs ≤ d'.clock.secs := by
  rw [hClock]
  exact ⟨hStep, le_refl _⟩

/- A state whose only record is a minute old is final. -/
theorem final_sample
    {a : SnapshotRecord}
    {app : AppSystem Bool}
    (hSteady :
      Deployment.Steady crates (⟨now, app, []⟩ :
        Deployment Bool))
    (hFree : app.mutations = none)
    (hRecords : app.store.records = [a])
    (hJournal :
      app.disk.journal = some (journalEntry crates a))
    (hRead : ReadBack crates a a) :
    Deployment.Final crates journalOnly none minuteBefore
      (⟨now, app, []⟩ : Deployment Bool) := by
  have hPast : minuteBefore.secs < now.secs := by decide
  refine ⟨hPast, ?_, ?_, ?_⟩
  · intro u ρ hReserved
    rw [hSteady.no_reservation hFree u] at hReserved
    cases hReserved
  · intro _ front back hSplit _ hNewline
    change app.disk.journal.getD [] = front ++ back at hSplit
    change _ = view none minuteBefore app.store.records ∧ _
    rw [hJournal, Option.getD_some] at hSplit
    rcases eq_of_split_entry hSplit hNewline with
      ⟨hFront, hBack⟩
    have hNone : readRecords crates [] = [] := rfl
    rw [hFront, hBack, readRecords_entry lawful_serde hRead,
      hRecords, hNone]
    exact ⟨rfl, view_nil⟩
  · intro hNone
    cases hNone

/-
  A snapshot is ingested, and a minute later the catalogue is
  asked for as of its instant.  A second ingest does not
  change the answer.
-/
theorem point_in_time_answer_is_final_minute :
    ∃ (a : SnapshotRecord) (d d' : Deployment Bool),
      d.app.store.records = [a] ∧
        d'.app.store.records.length = 2 ∧
          d.app.store.list none (some minuteBefore) = [a] ∧
            (listSnapshots crates d'.app.store d'.clock
                (paramsAt "2030-03-17T17:45:40Z")).body =
              (listSnapshots crates d.app.store d.clock
                (paramsAt "2030-03-17T17:45:40Z")).body := by
  have hAt :
      Api.parseAt (paramsAt "2030-03-17T17:45:40Z") =
        .ok (some minuteBefore) :=
    parseAt_paramsAt (by decide) (by decide)
  have hPassport :
      Api.optQuery (paramsAt "2030-03-17T17:45:40Z")
        "passport_id" = none := by
    simp [Api.optQuery, paramsAt]
  rcases exists_first_ingest minuteBefore
      (R := Deployment.Step crates service journalOnly)
      (fun _ _ h => h.step) (fun _ _ h _ _ _ _ => h) with
    ⟨a, app, hFirst, -, hInstant, hRead, hStore, hJournal,
      hFree, hIdle, hNext⟩
  have hRecords : app.store.records = [a] := by
    rw [hStore]
    rfl
  have hRun :
      Relation.ReflTransGen
        (Deployment.Step crates service journalOnly)
        (deploymentAt minuteBefore) ⟨now, app, []⟩ :=
    hFirst.tail (.tick _ now)
  rcases exists_ingest_sample
      (d := (⟨now, app, []⟩ : Deployment Bool)) (t := true)
      (fun _ _ h => forward_of_clock h.step h.clock)
      (fun _ _ h h₁ h₂ _ _ =>
        forward_of_clock h (h₂.trans h₁.symm))
      hNext hFree hIdle (capacity_of_push hStore) with
    ⟨b, app', hSecond, -, -, -, hStore', -⟩
  have hFinal :
      Deployment.Final crates journalOnly none minuteBefore
        (⟨now, app, []⟩ : Deployment Bool) :=
    final_sample
      (Deployment.steady_of_run lawful_serde
        (starts_deploymentAt minuteBefore) hRun)
      hFree hRecords hJournal
      (hRead ⟨by decide, by decide⟩)
  have hAnswer :=
    (listSnapshots_pointInTime_iff (C := crates) app.store now
      (paramsAt "2030-03-17T17:45:40Z")).mpr
        ⟨minuteBefore, hAt⟩
  refine ⟨a, ⟨now, app, []⟩, ⟨now, app', []⟩, hRecords, ?_, ?_,
    point_in_time_answer_is_final lawful_serde
      keepsStrings_serde (starts_deploymentAt minuteBefore)
      hRun _ hAnswer.1 hAnswer.2 ?_ hSecond⟩
  · change app'.store.records.length = 2
    rw [hStore']
    change (app.store.records ++ [b]).length = 2
    rw [hRecords]
    rfl
  · have hListed : a.instant ≤ minuteBefore.secs := by
      rw [SnapshotRecord.instant, hInstant]
    rw [SnapshotStore.list_some, view_none, hRecords]
    simp [Chronicle.upTo, hListed]
  · intro t ht
    rw [hAt] at ht
    cases ht
    rw [hPassport]
    exact hFinal

/- Answers that list different numbers of records differ. -/
theorem body_ne_of_length_ne
    {store store' : SnapshotStore}
    {clock clock' t : Timestamp}
    {params : String → Option String}
    (hAt : Api.parseAt params = .ok (some t))
    (hCapacity : store.records.length ≤ maxRecords)
    (hCapacity' : store'.records.length ≤ maxRecords)
    (hLength :
      (store.list (Api.optQuery params "passport_id")
          (some t)).length ≠
        (store'.list (Api.optQuery params "passport_id")
          (some t)).length) :
    (listSnapshots crates store clock params).body ≠
      (listSnapshots crates store' clock' params).body := by
  intro hBody
  rw [body_listSnapshots hAt, body_listSnapshots hAt] at hBody
  have hCount :=
    congrArg (fun v => Json.Value.get? v "count")
      (toStringPretty_injective hBody)
  simp only [count_catalogueBody, List.length_map,
    Option.some.injEq, Json.u64, Json.Value.number.injEq,
    Json.Number.posInt.injEq] at hCount
  have hListed (store : SnapshotStore) :
      (store.list (Api.optQuery params "passport_id")
        (some t)).length ≤ store.records.length :=
    (List.length_filter_le _ _).trans
      (List.length_filter_le _ _)
  exact hLength
    (ofNat_injective ((hListed store).trans hCapacity)
      ((hListed store').trans hCapacity') hCount)

/-
  The catalogue is asked for as of the current second, and is
  empty.  In the same second a snapshot is ingested, and the
  same request lists it.
-/
theorem immutable_answer_changes :
    ∃ (d₀ d d' : Deployment Bool)
        (params : String → Option String),
      Deployment.Starts crates journalOnly d₀ ∧
        Relation.ReflTransGen
            (Deployment.Step crates service journalOnly)
            d₀ d ∧
          (listSnapshots crates d.app.store d.clock
              params).status = 200 ∧
            (listSnapshots crates d.app.store d.clock
                params).header? "cache-control" =
              some CachePolicy.pointInTime.headerValue ∧
              Relation.ReflTransGen
                  (fun d d' =>
                    Deployment.Step crates service journalOnly
                        d d' ∧
                      d.clock.secs ≤ d'.clock.secs) d d' ∧
                (listSnapshots crates d'.app.store d'.clock
                    params).body ≠
                  (listSnapshots crates d.app.store d.clock
                    params).body := by
  have hAt :
      Api.parseAt (paramsAt "2030-03-17T17:46:40Z") =
        .ok (some now) :=
    parseAt_paramsAt (by decide) (by decide)
  have hAnswer :=
    (listSnapshots_pointInTime_iff (C := crates) emptyStore now
      (paramsAt "2030-03-17T17:46:40Z")).mpr ⟨now, hAt⟩
  rcases exists_first_ingest now
      (fun _ _ h => forward_of_clock h.step h.clock)
      (fun _ _ h h₁ h₂ _ _ =>
        forward_of_clock h (h₂.trans h₁.symm)) with
    ⟨r, app, hRun, -, hInstant, -, hStore, -⟩
  have hRecords : app.store.records = [r] := by
    rw [hStore]
    rfl
  have hListed : r.instant ≤ now.secs := by
    rw [SnapshotRecord.instant, hInstant]
  refine ⟨deploymentAt now, deploymentAt now, _, _,
    starts_deploymentAt now, .refl, hAnswer.1, hAnswer.2, hRun,
    ?_⟩
  have hPassport :
      Api.optQuery (paramsAt "2030-03-17T17:46:40Z")
        "passport_id" = none := by
    simp [Api.optQuery, paramsAt]
  apply body_ne_of_length_ne hAt
  · have hOne : 1 ≤ maxRecords := by decide
    rw [hRecords]
    exact hOne
  · exact Nat.zero_le _
  · rw [hPassport, SnapshotStore.list_some, view_none,
      SnapshotStore.list_some, view_none, hRecords]
    simp [Chronicle.upTo, hListed, deploymentAt,
      AppSystem.start, emptyStore]

end UnidppArchive
