import UnidppArchive.Api.Catalogue
import UnidppArchive.Api.Gapless
import UnidppArchive.Api.Reservation
import UnidppArchive.Store.Invariant

/-
  The catalogue finds what was ingested.

  A handler carries the passport of its request to the
  record that it appends.  From the response on, the
  catalogue of that passport lists the record once as of
  every instant from its own on, and never as of an earlier
  one.

  Key definitions include:
    * `Phase.IngestsFor`
    * `Response.Lists`
    * `TellsOf`

  Key theorems include:
    * `AppSystem.Run.ingestsFor`
    * `AppSystem.Run.numbered`
    * `catalogue_finds_ingested`
-/

------------------------------------------------------------
-- The Passport of a Handler
------------------------------------------------------------

namespace UnidppArchive

namespace Phase

variable {Request : Type}

/-
  The handler ingests for a passport: its request, and then
  its record, are of it, and so is what it was acknowledged.
-/
def IngestsFor
    (C : Crates)
    (acked : List (Request × SnapshotRecord))
    (t : Request)
    (passportId : String) :
    Phase → Prop
| .idle => False
| .waiting req | .locked req | .anchoring req _ _ =>
    req.passportId = passportId
| .noted r | .checked r | .journaled r | .copied r
| .appended r => r.passportId = passportId
| .unsealed _ | .appendFailed _ | .dropped => True
| .responded response =>
    response.status = 201 →
      ∃ r, (t, r) ∈ acked ∧ r.passportId = passportId ∧
        response = createdResponse C r

variable {C : Crates}
variable {acked acked' : List (Request × SnapshotRecord)}
variable {t : Request}
variable {passportId : String}
variable {p : Phase}

/- More acknowledgements change nothing. -/
theorem IngestsFor.mono
    (hGrown : acked ⊆ acked')
    (h : p.IngestsFor C acked t passportId) :
    p.IngestsFor C acked' t passportId := by
  cases p with
  | responded response =>
      intro hStatus
      rcases h hStatus with ⟨r, hMem, hRest⟩
      exact ⟨r, hGrown hMem, hRest⟩
  | _ => exact h

end Phase

namespace AppSystem

variable {C : Crates}
variable {Request : Type} [DecidableEq Request]
variable {service : Service C}
variable {s s' : AppSystem Request}
variable {t : Request}
variable {passportId : String}

/- One step keeps the passport of a handler. -/
theorem Step.ingestsFor
    (hStep : Step C service s s')
    (h : (s.phase t).IngestsFor C s.acked t passportId) :
    (s'.phase t).IngestsFor C s'.acked t passportId := by
  have hMoved (u : Request) (p : Phase)
      (acked : List (Request × SnapshotRecord))
      (hNext : s'.phase = (s.setPhase u p).phase)
      (hAcked : s'.acked = acked)
      (hGrown : s.acked ⊆ acked)
      (hMoves :
        (s.phase u).IngestsFor C s.acked u passportId →
          p.IngestsFor C acked u passportId) :
      (s'.phase t).IngestsFor C s'.acked t passportId := by
    rw [hNext, hAcked]
    rcases setPhase_cases s u p t with ⟨rfl, hPhase⟩ | hStays
    · rw [hPhase]
      exact hMoves h
    · rw [hStays]
      exact h.mono hGrown
  have hKept (u : Request) (p : Phase)
      (hNext : s'.phase = (s.setPhase u p).phase)
      (hAcked : s'.acked = s.acked)
      (hMoves :
        (s.phase u).IngestsFor C s.acked u passportId →
          p.IngestsFor C s.acked u passportId) :
      (s'.phase t).IngestsFor C s'.acked t passportId :=
    hMoved u p s.acked hNext hAcked (List.Subset.refl _) hMoves
  cases hStep with
  | read hFree => exact h
  | refuse hPhase _ | accept hPhase _ =>
      refine hKept _ _ rfl rfl ?_
      rw [hPhase]
      exact False.elim
  | dropWaiting hPhase | dropAnchoring hPhase
  | sealFails _ hPhase _ | checkFails hPhase _ _
  | journalFails _ hPhase _ | copyFails _ hPhase _ =>
      exact hKept _ _ rfl rfl (fun _ => trivial)
  | lock hPhase _ | reserve _ hPhase _ | check hPhase _ _
  | journal _ hPhase _ | copy _ hPhase _ | push hPhase _ =>
      refine hKept _ _ rfl rfl ?_
      rw [hPhase]
      exact id
  | note transport hPhase hRecord =>
      refine hKept _ _ rfl rfl ?_
      rw [hPhase]
      intro hRequest
      exact (fields_ingestRecord hRecord).2.2.2.1.trans hRequest
  | respond hPhase =>
      refine hMoved _ _ _ rfl rfl
        (List.subset_append_left _ _) ?_
      rw [hPhase]
      intro hRecord _
      exact ⟨_, by simp, hRecord, rfl⟩
  | respondUnsealed now hPhase =>
      refine hKept _ _ rfl rfl ?_
      intro _ hStatus
      rw [status_errorResponse] at hStatus
      cases hStatus
  | respondFailed now hPhase =>
      refine hKept _ _ rfl rfl ?_
      intro _ hStatus
      exact absurd hStatus (status_storeError now _)

/- A run keeps the passport of a handler. -/
theorem Run.ingestsFor
    (hRun : Run C service s s')
    (h : (s.phase t).IngestsFor C s.acked t passportId) :
    (s'.phase t).IngestsFor C s'.acked t passportId := by
  induction hRun with
  | refl => exact h
  | tail _ hStep ih => exact hStep.ingestsFor ih

/- A response is given once. -/
theorem Step.responded
    {response : Response}
    (hStep : Step C service s s')
    (h : s.phase t = .responded response) :
    s'.phase t = .responded response := by
  let R (before after : Phase) : Prop :=
    before = .responded response → after = .responded response
  have hOther (u : Request) (p q : Phase)
      (hNext : s'.phase = (s.setPhase u q).phase)
      (hPhase : s.phase u = p)
      (hNot : p ≠ .responded response) :
      s'.phase t = .responded response := by
    have hRelated : R (s.phase t) (s'.phase t) :=
      related_of_moved (fun _ => id) hNext
        (fun hSame => absurd (hPhase.symm.trans hSame) hNot) t
    exact hRelated h
  cases hStep with
  | read hFree => exact h
  | refuse hPhase _ | accept hPhase _ | dropWaiting hPhase
  | lock hPhase _ | reserve _ hPhase _ | dropAnchoring hPhase
  | sealFails _ hPhase _ | note _ hPhase _
  | checkFails hPhase _ _ | check hPhase _ _
  | journalFails _ hPhase _ | journal _ hPhase _
  | copyFails _ hPhase _ | copy _ hPhase _ | push hPhase _
  | respond hPhase | respondUnsealed _ hPhase
  | respondFailed _ hPhase =>
      refine hOther _ _ _ rfl hPhase ?_
      intro hSame
      cases hSame

theorem Run.responded
    {response : Response}
    (hRun : Run C service s s')
    (h : s.phase t = .responded response) :
    s'.phase t = .responded response := by
  induction hRun with
  | refl => exact h
  | tail _ hStep ih => exact hStep.responded ih

end AppSystem

end UnidppArchive

------------------------------------------------------------
-- The Rows of a Catalogue
------------------------------------------------------------

namespace UnidppArchive

open Json

/- The response is a catalogue with these rows. -/
def Response.Lists
    (C : Crates)
    (response : Response)
    (rows : List Value) : Prop :=
  response.status = 200 ∧
    ∃ asOf at? passportId,
      response.body =
        C.serde.toStringPretty
          (catalogueBody asOf at? passportId rows)

/- The identifier that a row gives. -/
def rowId
    (row : Value) : Option String :=
  (row.get? "snapshot_id").bind Value.asStr?

/- The row has the identifier and the number of the record. -/
def TellsOf
    (r : SnapshotRecord)
    (row : Value) : Prop :=
  rowId row = some r.snapshotId ∧
    (row.get? "seq").bind Value.asU64? = some r.seq

instance
    (r : SnapshotRecord)
    (row : Value) : Decidable (TellsOf r row) :=
  inferInstanceAs (Decidable (_ ∧ _))

variable {C : Crates}

theorem rowId_catalogueRow
    (q : SnapshotRecord) :
    rowId (catalogueRow C q) = some q.snapshotId := by
  simp [rowId, catalogueRow, Value.asStr?]

theorem tellsOf_catalogueRow_iff
    {r q : SnapshotRecord} :
    TellsOf r (catalogueRow C q) ↔
      q.snapshotId = r.snapshotId ∧ q.seq = r.seq := by
  rw [TellsOf, rowId_catalogueRow, Option.some.injEq]
  simp [catalogueRow, Value.asU64?, u64]

/- An element that occurs once is counted if it is kept. -/
theorem countP_filter_of_single
    {α : Type}
    {xs : List α}
    {P Q : α → Bool}
    {n : Nat}
    {a : α}
    (ha : xs[n]? = some a)
    (hQ : Q a = true)
    (hSingle : ∀ j b, xs[j]? = some b → Q b = true → j = n) :
    (xs.filter P).countP Q = if P a then 1 else 0 := by
  induction xs generalizing n with
  | nil => simp at ha
  | cons x xs ih =>
      cases n with
      | zero =>
          have hx : x = a := by simpa using ha
          have hNone : (xs.filter P).countP Q = 0 := by
            rw [List.countP_eq_zero]
            intro b hb hQb
            rcases List.getElem?_of_mem (List.mem_of_mem_filter hb)
              with ⟨j, hj⟩
            have hPlace := hSingle (j + 1) b (by simpa using hj)
              hQb
            omega
          subst hx
          rw [List.filter_cons]
          split
          · rw [List.countP_cons_of_pos hQ, hNone]
          · exact hNone
      | succ n =>
          have hx : Q x = false := by
            by_contra hQx
            have hPlace := hSingle 0 x (by simp) (by simpa using hQx)
            omega
          have hRest :
              (xs.filter P).countP Q = if P a then 1 else 0 := by
            apply ih (by simpa using ha)
            intro j b hj hQb
            have hPlace := hSingle (j + 1) b (by simpa using hj)
              hQb
            omega
          rw [List.filter_cons]
          split
          · rw [List.countP_cons_of_neg (by simp [hx]), hRest]
          · exact hRest

end UnidppArchive

------------------------------------------------------------
-- Places of Acknowledged Records
------------------------------------------------------------

namespace UnidppArchive

namespace AppSystem

variable {C : Crates}
variable {Request : Type}
variable {first pending : List SnapshotRecord}
variable {s : AppSystem Request}

/- With the first records, all are numbered in their order. -/
theorem Coherent.numbered
    (h : s.Coherent C first pending)
    (hFirst :
      ∀ i q, first[i]? = some q → q.seq = UInt64.ofNat i) :
    ∀ i q, s.store.records[i]? = some q →
      q.seq = UInt64.ofNat i := by
  intro i q hi
  rw [h.records] at hi
  rcases Nat.lt_or_ge i first.length with hOld | hNew
  · rw [List.getElem?_append_left hOld] at hi
    exact hFirst i q hi
  · rw [List.getElem?_append_right hNew] at hi
    have hSeq := (h.inSequence.2 _ q hi).1
    rw [Nat.add_sub_of_le hNew] at hSeq
    exact hSeq

/- An acknowledged record has its place in the store. -/
theorem Coherent.exists_place
    {t : Request}
    {r : SnapshotRecord}
    (h : s.Coherent C first pending)
    (hAcked : (t, r) ∈ s.acked) :
    ∃ n, first.length ≤ n ∧ s.store.records[n]? = some r ∧
      s.store.records.length ≤ maxRecords := by
  have hIssued : r ∈ s.issued pending := by
    apply List.mem_append_left
    exact List.mem_map_of_mem hAcked
  rcases List.getElem?_of_mem hIssued with ⟨i, hi⟩
  refine ⟨first.length + i, by omega, ?_, ?_⟩
  · rw [h.records, List.getElem?_append_right (by omega),
      Nat.add_sub_cancel_left]
    exact hi
  · rw [h.length_records]
    exact h.inSequence.1 (List.ne_nil_of_mem hIssued)

/- A record behind the first ones is named by its number. -/
theorem Coherent.named
    {i : Nat}
    {q : SnapshotRecord}
    (h : s.Coherent C first pending)
    (hPlace : first.length ≤ i)
    (hi : s.store.records[i]? = some q) :
    q.snapshotId = snapshotIdOf q.seq := by
  rw [h.records, List.getElem?_append_right hPlace] at hi
  exact (h.inSequence.2 _ q hi).2

end AppSystem

end UnidppArchive

------------------------------------------------------------
-- Finding What Was Ingested
------------------------------------------------------------

namespace UnidppArchive

open Json

variable {C : Crates}
variable {params : String → Option String}

/- The passport of a request is the trimmed text. -/
theorem passportId_of_acceptPost
    {service : Service C}
    {now : Timestamp}
    {post : CreatePost}
    {req : CreateRequest}
    {v : Value}
    {p : String}
    (hAccept : acceptPost C service now post = .ok req)
    (hBody : parseBody C post.body = .ok v)
    (hMember : v.get? "passport_id" = some (.string p)) :
    req.passportId = Text.trim p ∧ req.passportId ≠ "" := by
  unfold acceptPost at hAccept
  split at hAccept
  · cases hAccept
  rw [hBody, ok_bind] at hAccept
  split at hAccept
  · cases hAccept
  rename_i req' hParse
  cases hAccept
  unfold parseCreateRequest at hParse
  rcases bind_eq_ok_iff.mp hParse with ⟨id, hId, hRest⟩
  simp only [bind_eq_ok_iff, Except.ok.injEq] at hRest
  rcases hRest with ⟨-, -, -, -, -, -, -, -, -, -, rfl⟩
  unfold Api.reqStr at hId
  rw [okOr_eq_ok_iff, hMember] at hId
  simp only [Option.bind_some, Value.asStr?, Option.map_some,
    Option.filter_eq_some_iff, Option.some.injEq,
    decide_eq_true_eq] at hId
  exact ⟨hId.1.symm, hId.2⟩

/- An instant is no empty text. -/
theorem Api.parseAt_eq_some
    {u : String}
    {t : Timestamp}
    (hAt : params "at" = some u)
    (hParse : Timestamp.parse u = .ok t) :
    Api.parseAt params = .ok (some t) := by
  have hSome : u ≠ "" := by
    rintro rfl
    have hEmpty : Timestamp.parse "" = .error ⟨""⟩ := by decide
    rw [hEmpty] at hParse
    cases hParse
  simp [Api.parseAt, hAt, hSome, hParse, Except.map,
    Except.mapError]

theorem status_createdResponse
    (record : SnapshotRecord) :
    (createdResponse C record).status = 201 := by
  rfl

theorem asOf_createdResponse
    (record : SnapshotRecord) :
    (createdResponse C record).header? "x-as-of" =
      some record.notarizedAt.toString := by
  rfl

/- The listing of a passport counts a record of it. -/
theorem countP_listSnapshots
    {store : SnapshotStore}
    {r : SnapshotRecord}
    {n : Nat}
    {t : Timestamp}
    {p : String}
    (hPlace : store.records[n]? = some r)
    (hPassport : r.passportId = Text.trim p)
    (hSome : Text.trim p ≠ "")
    (hParam : params "passport_id" = some p)
    (hAt : Api.parseAt params = .ok (some t))
    (now : Timestamp) :
    ∃ rows, (listSnapshots C store now params).Lists C rows ∧
      ∀ Q : Value → Bool,
        Q (catalogueRow C r) = true →
          (∀ i q, store.records[i]? = some q →
            Q (catalogueRow C q) = true → i = n) →
            rows.countP Q =
              if r.notarizedAt.secs ≤ t.secs then 1 else 0 := by
  have hQuery :
      Api.optQuery params "passport_id" =
        some (Text.trim p) := by
    simp [Api.optQuery, hParam, hSome]
  refine ⟨(store.list (Api.optQuery params "passport_id")
    (some t)).map (catalogueRow C), ⟨?_, ?_⟩, ?_⟩
  · exact ((listSnapshots_pointInTime_iff store now params).mpr
      ⟨t, hAt⟩).1
  · exact ⟨_, _, _, body_listSnapshots hAt⟩
  · intro Q hQ hSingle
    have hCount :=
      countP_filter_of_single
        (P := fun q =>
          (decide (q.notarizedAt.secs ≤ t.secs)) &&
            q.passportId == Text.trim p)
        hPlace hQ hSingle
    rw [List.countP_map, hQuery]
    unfold SnapshotStore.list
    rw [List.filter_filter]
    simpa [hPassport, Function.comp_def] using hCount

end UnidppArchive

------------------------------------------------------------
-- Every Later Catalogue
------------------------------------------------------------

namespace UnidppArchive

open Json

variable {C : Crates}
variable {Request : Type} [DecidableEq Request]
variable {service : Service C}

/-
  A process is started on any disk, and a request is accepted
  in any of its states and answered 201.  In every later
  state the catalogue of the passport, as the request spelled
  it, tells of the snapshot once as of every instant from the
  snapshot's own on, and not as of an earlier one.  No other
  row has its identifier, unless the journal that was read at
  the start already had it.
-/
theorem catalogue_finds_ingested
    {store : SnapshotStore}
    {disk : Disk}
    {s₁ s₂ s₃ : AppSystem Request}
    {t : Request}
    {now : Timestamp}
    {post : CreatePost}
    {req : CreateRequest}
    {v : Value}
    {response : Response}
    {p i : String}
    {instant : Timestamp}
    (hOpened : store.Opened C)
    (hBefore :
      AppSystem.Run C service (AppSystem.start store disk) s₁)
    (hIdle : s₁.phase t = .idle)
    (hAccept : acceptPost C service now post = .ok req)
    (hBody : parseBody C post.body = .ok v)
    (hMember : v.get? "passport_id" = some (.string p))
    (hIngest :
      AppSystem.Run C service (s₁.setPhase t (.waiting req)) s₂)
    (hResponse : s₂.phase t = .responded response)
    (hStatus : response.status = 201)
    (hId : response.header? "x-snapshot-id" = some i)
    (hAsOf :
      response.header? "x-as-of" = some instant.toString)
    (hClock : instant.OnClock)
    (hLater : AppSystem.Run C service s₂ s₃) :
    ∃ r, response = createdResponse C r ∧ r.snapshotId = i ∧
      Timestamp.parse instant.toString = .ok instant ∧
        ∀ params u asked at',
          params "passport_id" = some p →
            params "at" = some u →
              Timestamp.parse u = .ok at' →
                ∃ rows,
                  (listSnapshots C s₃.store asked params).Lists
                      C rows ∧
                    rows.countP (TellsOf r) =
                      (if instant.secs ≤ at'.secs then 1
                        else 0) ∧
                      ((∀ q ∈ store.records,
                          q.snapshotId ≠ i) →
                        rows.countP (rowId · = some i) =
                          if instant.secs ≤ at'.secs then 1
                          else 0) := by
  rcases passportId_of_acceptPost hAccept hBody hMember with
    ⟨hTrim, hSome⟩
  have hRun :
      AppSystem.Run C service (AppSystem.start store disk)
        s₃ :=
    (hBefore.tail (.accept hIdle hAccept)).trans
      (hIngest.trans hLater)
  -- what the handler was acknowledged is of the passport
  have hWaiting :
      ((s₁.setPhase t (.waiting req)).phase t).IngestsFor C
        s₁.acked t req.passportId := by
    rw [AppSystem.phase_setPhase]
    rfl
  have hFor :
      (s₃.phase t).IngestsFor C s₃.acked t req.passportId :=
    AppSystem.Run.ingestsFor (hIngest.trans hLater) hWaiting
  rw [hLater.responded hResponse] at hFor
  rcases hFor hStatus with ⟨r, hAcked, hPassport, rfl⟩
  have hIdentifier : r.snapshotId = i := by
    rw [snapshotId_createdResponse] at hId
    exact Option.some.inj hId
  have hInstant : r.notarizedAt = instant := by
    rw [asOf_createdResponse] at hAsOf
    exact Timestamp.toString_injective (Option.some.inj hAsOf)
  subst hIdentifier hInstant
  refine ⟨r, rfl, rfl,
    Timestamp.parse_toString hClock.printable, ?_⟩
  intro params u asked at' hParam hAt hParse
  rcases hRun.coherent with ⟨pending, hCoherent⟩
  rcases hCoherent.exists_place hAcked with
    ⟨n, hBehind, hPlace, hCapacity⟩
  have hNumbered :=
    hCoherent.numbered
      (fun j q hj =>
        ((storeInvariant_of_openAt hOpened).fits j q hj).1)
  have hSingle :
      ∀ j q, s₃.store.records[j]? = some q →
        q.seq = r.seq → j = n := by
    intro j q hj hSeq
    have hLt := (List.getElem?_eq_some_iff.mp hj).1
    have hLt' := (List.getElem?_eq_some_iff.mp hPlace).1
    rw [hNumbered j q hj, hNumbered n r hPlace] at hSeq
    exact ofNat_injective (by omega) (by omega) hSeq
  rcases countP_listSnapshots (C := C) hPlace
      (hPassport.trans hTrim) (hTrim ▸ hSome) hParam
      (Api.parseAt_eq_some hAt hParse) asked with
    ⟨rows, hLists, hCount⟩
  refine ⟨rows, hLists, ?_, ?_⟩
  · apply hCount
    · simp [tellsOf_catalogueRow_iff]
    · intro j q hj hTells
      rw [decide_eq_true_eq, tellsOf_catalogueRow_iff] at hTells
      exact hSingle j q hj hTells.2
  · intro hUnused
    apply hCount
    · simp [rowId_catalogueRow]
    · intro j q hj hNamed
      rw [decide_eq_true_eq, rowId_catalogueRow,
        Option.some.injEq] at hNamed
      by_cases hFirst : j < store.records.length
      · rw [hCoherent.records,
          List.getElem?_append_left hFirst] at hj
        exact absurd hNamed
          (hUnused q (List.mem_of_getElem? hj))
      · apply hSingle j q hj
        rw [hCoherent.named (by omega) hj,
          hCoherent.named hBehind hPlace] at hNamed
        exact snapshotIdOf_injective hNamed

namespace Reference

/- The catalogue of a passport as of an instant. -/
def paramsOf
    (passportId text key : String) : Option String :=
  if key = "passport_id" then some passportId
  else if key = "at" then some text
  else none

end Reference

open Reference in
/- The first snapshot of a process is found at its instant. -/
theorem catalogue_finds_ingested_sample :
    ∃ (s : AppSystem Unit) (r : SnapshotRecord)
        (rows : List Value),
      AppSystem.Run crates Reference.service
          (AppSystem.start emptyStore (diskOf (some []))) s ∧
        (listSnapshots crates s.store now
            (paramsOf "urn:unidpp:passport:e8"
              "2030-03-17T18:46:40+01:00")).Lists crates
            rows ∧
          rows.countP (TellsOf r) = 1 := by
  let start : AppSystem Unit :=
    AppSystem.start emptyStore (diskOf (some []))
  rcases exists_sealed
      (anchoredDraft crates emptyStore.size now request
        (anchorDraft crates Reference.service
          createEnv.transport
          (draftRecord emptyStore.size now request))) with
    ⟨r, hRecord⟩
  have hFields := fields_ingestRecord hRecord
  have hAppend :=
    append_sample emptyStore hRecord (diskOf (some []))
  have hStore :
      storeDraft crates Reference.service createEnv emptyStore
          emptyStore.size now request (diskOf (some [])) =
        (createdResponse crates r, emptyStore.push r,
          emptyStore.recorded crates r (diskOf (some []))) :=
    storeDraft_of_appended hRecord hAppend
  have hAnswered :
      ∃ s : AppSystem Unit,
        AppSystem.Run crates Reference.service
            (start.setPhase () (.waiting request)) s ∧
          s.phase () =
            .responded (createdResponse crates r) := by
    rcases AppSystem.run_waiting
        (AppSystem.phase_setPhase start () _) rfl rfl
        (by decide) hStore with
      ⟨acked, hRun⟩
    exact ⟨_, hRun, by simp [AppSystem.setPhase]⟩
  rcases hAnswered with ⟨s, hIngest, hResponse⟩
  have hBody :
      parseBody crates createPost.body = .ok requestJson := by
    have hRead :
        crates.serde.fromStr
            (crates.serde.toString requestJson) =
          .ok requestJson :=
      inverts_serde requestJson
    rw [parseBody, createPost, hRead]
    rfl
  have hMember :
      requestJson.get? "passport_id" =
        some (.string "urn:unidpp:passport:e8") := by
    simp [requestJson]
  have hInstant :
      (createdResponse crates r).header? "x-as-of" =
        some now.toString := by
    rw [asOf_createdResponse, hFields.2.2.1]
  rcases catalogue_finds_ingested
      ⟨_, _, _, _, open_absent⟩ .refl rfl acceptPost_createPost
      hBody hMember hIngest hResponse
      (status_createdResponse r)
      (snapshotId_createdResponse crates r) hInstant
      ⟨by decide, by decide⟩ .refl with
    ⟨r', -, -, -, hListed⟩
  rcases hListed
      (paramsOf "urn:unidpp:passport:e8"
        "2030-03-17T18:46:40+01:00")
      "2030-03-17T18:46:40+01:00" now now (by simp [paramsOf])
      (by simp [paramsOf]) (by decide) with
    ⟨rows, hRows, hCount, -⟩
  refine ⟨s, r', rows, ?_, hRows, ?_⟩
  · exact (Relation.ReflTransGen.single
      (.accept rfl acceptPost_createPost)).trans hIngest
  · rw [hCount, if_pos (le_refl _)]

end UnidppArchive
