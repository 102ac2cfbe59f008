import UnidppArchive.Api.Requests
import UnidppArchive.Api.Reservation
import UnidppArchive.Foundations.Paging

/-
  Reading the audit journal page by page (`api.rs`,
  `store.rs`).

  A page has at most 10000 records, whatever is asked for.
  An auditor that goes on where the last page ended collects
  the journal in its order, however many ingests run beside
  it; one that trusts the limit it asked for may not.

  Key definitions include:
    * `Api.pageLimit`
    * `Api.pageOffset`
    * `Response.Pages`
    * `Auditing`

  Key theorems include:
    * `pages_adminLog_iff`
    * `audit_collects_journal`
    * `strides_find_journal_iff`
-/

------------------------------------------------------------
-- Pages
------------------------------------------------------------

namespace UnidppArchive

open Json

namespace Api

/- The records that a page may have. -/
def pageLimit
    (params : String → Option String) : UInt64 :=
  min (((params "limit").bind Text.parseU64).getD 100) 10000

/- The records that a page passes over. -/
def pageOffset
    (params : String → Option String) : UInt64 :=
  ((params "offset").bind Text.parseU64).getD 0

end Api

/- The response is a page of the journal with these records. -/
def Response.Pages
    (C : Crates)
    (response : Response)
    (page : List Value) : Prop :=
  response.status = 200 ∧
    ∃ doc,
      C.serde.fromStr response.body = .ok doc ∧
        doc.get? "records" =
          some (.array (Values.ofList page))

/- What the audit view says of the whole journal. -/
def SnapshotStore.audit
    (C : Crates)
    (store : SnapshotStore) : List Value :=
  store.records.map (auditEntry C)

variable {C : Crates}
variable {service : Service C}
variable {store : SnapshotStore}
variable {now : Timestamp}
variable {authorization : Option String}
variable {params : String → Option String}
variable {page : List Value}

theorem Json.Values.ofList_injective :
    Function.Injective Values.ofList := by
  intro vs ws h
  induction vs generalizing ws with
  | nil =>
      cases ws with
      | nil => rfl
      | cons w ws => cases h
  | cons v vs ih =>
      cases ws with
      | nil => cases h
      | cons w ws =>
          rw [Values.ofList, Values.ofList,
            Values.cons.injEq] at h
          rw [h.1, ih h.2]

/- The records of a page, behind those passed over. -/
theorem records_auditJson
    (C : Crates)
    (store : SnapshotStore)
    (limit offset : UInt64) :
    (store.auditJson C limit offset).get? "records" =
      some (.array (Values.ofList
        (Paging.window limit.toNat offset.toNat
          (store.audit C)))) := by
  rw [SnapshotStore.audit, ← Paging.map_window]
  simp [SnapshotStore.auditJson, Paging.window]

/- Whoever may read is answered with a page. -/
theorem pages_adminLog_iff
    (hInverts :
      C.serde.InvertsPretty
        (store.auditJson C (Api.pageLimit params)
          (Api.pageOffset params))) :
    (adminLog C service store now authorization
        params).Pages C page ↔
      requireAdmin C service now authorization = none ∧
        page =
          Paging.window (Api.pageLimit params).toNat
            (Api.pageOffset params).toNat
            (store.audit C) := by
  cases hAdmin : requireAdmin C service now authorization with
  | some deny =>
      have hStatus : deny.status = 401 := by
        unfold requireAdmin at hAdmin
        cases hToken : service.adminToken with
        | none =>
            rw [hToken] at hAdmin
            cases hAdmin
        | some token =>
            rw [hToken] at hAdmin
            simp only at hAdmin
            split at hAdmin
            · cases hAdmin
            · cases hAdmin
              rfl
      simp [Response.Pages, adminLog, hAdmin, hStatus]
  | none =>
      have hAnswer :
          adminLog C service store now authorization params =
            jsonResponse C 200
              (store.auditJson C (Api.pageLimit params)
                (Api.pageOffset params))
              now .current := by
        unfold adminLog
        rw [hAdmin]
        rfl
      have hBody :
          C.serde.fromStr
              (jsonResponse C 200
                (store.auditJson C (Api.pageLimit params)
                  (Api.pageOffset params))
                now .current).body =
            .ok (store.auditJson C (Api.pageLimit params)
              (Api.pageOffset params)) :=
        hInverts
      rw [hAnswer, Response.Pages, hBody]
      constructor
      · rintro ⟨-, doc, hDoc, hRecords⟩
        cases hDoc
        rw [records_auditJson, Option.some.injEq,
          Value.array.injEq] at hRecords
        exact ⟨rfl,
          (Values.ofList_injective hRecords).symm⟩
      · rintro ⟨-, rfl⟩
        exact ⟨rfl, _, rfl, records_auditJson C store _ _⟩

/- A page is never longer than this. -/
theorem toNat_pageLimit
    (params : String → Option String) :
    (Api.pageLimit params).toNat =
      min (((params "limit").bind Text.parseU64).getD
        100).toNat 10000 := by
  unfold Api.pageLimit
  generalize ((params "limit").bind Text.parseU64).getD 100 =
    limit
  change (if limit ≤ 10000 then limit else 10000).toNat = _
  split
  · rename_i hLe
    rw [UInt64.le_iff_toNat_le] at hLe
    exact (Nat.min_eq_left hLe).symm
  · rename_i hLt
    rw [UInt64.le_iff_toNat_le, Nat.not_le] at hLt
    exact (Nat.min_eq_right hLt.le).symm

/- A page is empty by order only when it is asked to be. -/
theorem pageLimit_pos
    (hLimit :
      (params "limit").bind Text.parseU64 ≠ some 0) :
    0 < (Api.pageLimit params).toNat := by
  rw [toNat_pageLimit]
  cases hParsed : (params "limit").bind Text.parseU64 with
  | none => decide
  | some limit =>
      rw [hParsed] at hLimit
      have hNat : limit.toNat ≠ 0 := by
        intro hZero
        apply hLimit
        rw [Option.some.injEq]
        exact UInt64.toNat_inj.mp hZero
      rw [Option.getD_some]
      omega

end UnidppArchive

------------------------------------------------------------
-- An Auditor Beside the Ingests
------------------------------------------------------------

namespace UnidppArchive

open Json

variable {Request : Type} [DecidableEq Request]

/- A page is asked for behind what was collected. -/
def Resumes
    (got : List Value)
    (params : String → Option String) : Prop :=
  params "offset" =
    some (Text.u64ToString (UInt64.ofNat got.length))

/-
  What an auditor has collected while handlers take their
  steps.  A page is read between two holders of the store.
-/
inductive Auditing
    (C : Crates)
    (service : Service C)
    (authorization : Option String) :
    AppSystem Request → List Value → Prop where
  | begun
      {s : AppSystem Request}
      (hCapacity : s.store.records.length ≤ maxRecords) :
      Auditing C service authorization s []
  | stepped
      {s s' : AppSystem Request}
      {got : List Value}
      (hRun : Auditing C service authorization s got)
      (hStep : AppSystem.Step C service s s') :
      Auditing C service authorization s' got
  | paged
      {s : AppSystem Request}
      {got page : List Value}
      {now : Timestamp}
      {params : String → Option String}
      (hRun : Auditing C service authorization s got)
      (hFree : s.storeLock = none)
      (hResumes : Resumes got params)
      (hInverts :
        C.serde.InvertsPretty
          (s.store.auditJson C (Api.pageLimit params)
            (Api.pageOffset params)))
      (hPage :
        (adminLog C service s.store now authorization
          params).Pages C page) :
      Auditing C service authorization s (got ++ page)

variable {C : Crates}
variable {service : Service C}
variable {authorization : Option String}
variable {s : AppSystem Request}
variable {got : List Value}
variable {params : String → Option String}

theorem length_audit
    (C : Crates)
    (store : SnapshotStore) :
    (store.audit C).length = store.records.length := by
  rw [SnapshotStore.audit, List.length_map]

/- The offset that is asked for is the offset that is read. -/
theorem pageOffset_of_text
    {n : Nat}
    (hOffset :
      params "offset" =
        some (Text.u64ToString (UInt64.ofNat n)))
    (hFits : n < 2 ^ 64) :
    (Api.pageOffset params).toNat = n := by
  have hRead : Api.pageOffset params = UInt64.ofNat n := by
    unfold Api.pageOffset
    rw [hOffset]
    simp
  rw [hRead]
  exact UInt64.toNat_ofNat_of_lt' hFits

/- What is collected are the first records of the journal. -/
structure Collected
    (C : Crates)
    (store : SnapshotStore)
    (got : List Value) : Prop where
  capacity : store.records.length ≤ maxRecords
  front : got <+: store.audit C

/- A page that resumes is the window behind the front. -/
theorem Collected.page_eq
    {store : SnapshotStore}
    {now : Timestamp}
    {page : List Value}
    (h : Collected C store got)
    (hResumes : Resumes got params)
    (hInverts :
      C.serde.InvertsPretty
        (store.auditJson C (Api.pageLimit params)
          (Api.pageOffset params)))
    (hPage :
      (adminLog C service store now authorization
        params).Pages C page) :
    page =
      Paging.window (Api.pageLimit params).toNat got.length
        (store.audit C) := by
  have hLength := h.front.length_le
  have hCapacity := h.capacity
  rw [length_audit] at hLength
  rw [maxRecords] at hCapacity
  rw [← pageOffset_of_text hResumes (by omega)]
  exact ((pages_adminLog_iff hInverts).mp hPage).2

theorem audit_push
    (C : Crates)
    (store : SnapshotStore)
    (r : SnapshotRecord) :
    (store.push r).audit C =
      store.audit C ++ [auditEntry C r] :=
  List.map_append

/- The front stays the front while the journal grows. -/
theorem Auditing.collected
    (h : Auditing C service authorization s got) :
    Collected C s.store got := by
  induction h with
  | begun hCapacity => exact ⟨hCapacity, List.nil_prefix⟩
  | stepped hRun hStep ih =>
      rcases hStep.store_cases with
        hSame | ⟨u, r, -, hPush, hRoom⟩
      · rw [hSame]
        exact ih
      · rw [hPush]
        refine ⟨?_, ?_⟩
        · simpa [SnapshotStore.push] using
            Nat.succ_le_of_lt hRoom
        · rw [audit_push]
          exact ih.front.trans (List.prefix_append _ _)
  | paged hRun hFree hResumes hInverts hPage ih =>
      rw [ih.page_eq hResumes hInverts hPage]
      exact ⟨ih.capacity,
        Paging.prefix_append_window ih.front _⟩

/-
  Whatever runs beside it, an auditor who resumes where the
  last page ended collects the first records of the journal,
  in their order and each of them once.  A page is as long as
  it may be, and an empty one says that nothing is missing.
-/
theorem audit_collects_journal
    (h : Auditing C service authorization s got) :
    got <+: s.store.audit C ∧
      ∀ now params page,
        Resumes got params →
          C.serde.InvertsPretty
              (s.store.auditJson C (Api.pageLimit params)
                (Api.pageOffset params)) →
            (adminLog C service s.store now authorization
                params).Pages C page →
              page.length =
                  min (Api.pageLimit params).toNat
                    (s.store.records.length - got.length) ∧
                ((params "limit").bind Text.parseU64 ≠
                    some 0 →
                  (page = [] ↔ got = s.store.audit C)) := by
  have hCollected := h.collected
  refine ⟨hCollected.front, ?_⟩
  intro now params page hResumes hInverts hPage
  have hWindow := hCollected.page_eq hResumes hInverts hPage
  have hLength :
      page.length =
        min (Api.pageLimit params).toNat
          (s.store.records.length - got.length) := by
    rw [hWindow, Paging.length_window, length_audit]
  refine ⟨hLength, ?_⟩
  intro hLimit
  constructor
  · intro hEmpty
    rw [hEmpty] at hWindow
    exact Paging.eq_of_window_nil hCollected.front
      (pageLimit_pos hLimit) hWindow.symm
  · intro hAll
    apply List.length_eq_zero_iff.mp
    rw [hLength, hAll, length_audit, Nat.sub_self,
      Nat.min_zero]

end UnidppArchive

namespace UnidppArchive

open Json

namespace Reference

/- Nothing but an offset, as a request for a page gives it. -/
def offsetParams
    (n : Nat)
    (key : String) : Option String :=
  if key = "offset" then
    some (Text.u64ToString (UInt64.ofNat n))
  else
    none

/- Of a journal of one record, after so many. -/
theorem pages_offsetParams
    (r : SnapshotRecord)
    {n : Nat}
    (hFits : n < 2 ^ 64) :
    (adminLog crates service (emptyFiled.push r) now none
        (offsetParams n)).Pages crates
      ([auditEntry crates r].drop n) := by
  apply (pages_adminLog_iff (invertsPretty_serde _)).mpr
  refine ⟨rfl, ?_⟩
  have hText :
      offsetParams n "offset" =
        some (Text.u64ToString (UInt64.ofNat n)) :=
    rfl
  have hOffset := pageOffset_of_text hText hFits
  have hLimit : (Api.pageLimit (offsetParams n)).toNat = 100 :=
    rfl
  rw [hOffset, hLimit, Paging.window,
    List.take_of_length_le]
  · rfl
  · rw [List.length_drop, length_audit]
    change 1 - n ≤ 100
    omega

end Reference

open Reference in
/- One record is collected, and then an empty page comes. -/
theorem audit_collects_journal_sample :
    ∃ (r : SnapshotRecord) (s : AppSystem Unit),
      s.store.records = [r] ∧
        Auditing crates service none s
          [auditEntry crates r] ∧
        [auditEntry crates r] <+: s.store.audit crates ∧
        (([] : List Value) = [] ↔
          [auditEntry crates r] = s.store.audit crates) := by
  rcases exists_record 0 request unreachable with ⟨r, -⟩
  have hCapacity :
      (emptyFiled.push r).records.length ≤ maxRecords := by
    change 1 ≤ maxRecords
    decide
  have hFirst : Resumes [] (offsetParams 0) := rfl
  have hBegun :
      Auditing crates service none
        (AppSystem.start (emptyFiled.push r) (diskOf none) :
          AppSystem Unit)
        [] :=
    .begun hCapacity
  have hRead :=
    hBegun.paged rfl hFirst (invertsPretty_serde _)
      (pages_offsetParams r (by decide))
  have hResult := audit_collects_journal hRead
  exact ⟨r, _, rfl, hRead, hResult.1,
    (hResult.2 now (offsetParams 1) [] rfl
      (invertsPretty_serde _)
      (pages_offsetParams r (by decide))).2 (by decide)⟩

end UnidppArchive

------------------------------------------------------------
-- An Auditor Who Takes Strides
------------------------------------------------------------

namespace UnidppArchive

open Json

variable {C : Crates}
variable {service : Service C}
variable {authorization : Option String}
variable {store : SnapshotStore}
variable {limit : UInt64}
variable {rounds : Nat}
variable {pages : Nat → List Value}

/- The page of a round, at a multiple of the limit. -/
structure StridePage
    (C : Crates)
    (service : Service C)
    (authorization : Option String)
    (store : SnapshotStore)
    (limit : UInt64)
    (round : Nat)
    (now : Timestamp)
    (params : String → Option String)
    (page : List Value) : Prop where
  asksLimit :
    params "limit" = some (Text.u64ToString limit)
  asksOffset :
    params "offset" =
      some (Text.u64ToString
        (UInt64.ofNat (round * limit.toNat)))
  inverts :
    C.serde.InvertsPretty
      (store.auditJson C (Api.pageLimit params)
        (Api.pageOffset params))
  page :
    (adminLog C service store now authorization params).Pages C
      page

theorem StridePage.eq_window
    {round : Nat}
    {now : Timestamp}
    {params : String → Option String}
    {page : List Value}
    (h :
      StridePage C service authorization store limit round now
        params page)
    (hFits : round * limit.toNat < 2 ^ 64) :
    page =
      Paging.window (min limit.toNat 10000)
        (round * limit.toNat) (store.audit C) := by
  have hLimit :
      (Api.pageLimit params).toNat =
        min limit.toNat 10000 := by
    rw [toNat_pageLimit, h.asksLimit, Option.bind_some,
      Text.parseU64_repr, Option.getD_some]
  have hOffset := pageOffset_of_text h.asksOffset hFits
  rw [← hLimit, ← hOffset]
  exact ((pages_adminLog_iff h.inverts).mp h.page).2

/-
  An auditor who goes on by the limit that was asked for,
  not by what was answered, finds the whole journal exactly if
  the limit is one that the service grants, or the first page
  is the whole journal.
-/
theorem strides_find_journal_iff
    (hRounds : store.records.length ≤ rounds * limit.toNat)
    (hFits : rounds * limit.toNat < 2 ^ 64)
    (hPages :
      ∀ round < rounds, ∃ now params,
        StridePage C service authorization store limit round
          now params (pages round)) :
    (List.range rounds).flatMap pages = store.audit C ↔
      limit.toNat ≤ 10000 ∨ store.records.length ≤ 10000 := by
  have hWindows :
      (List.range rounds).flatMap pages =
        Paging.strides (min limit.toNat 10000) limit.toNat
          rounds 0 (store.audit C) := by
    rw [Paging.strides_eq_flatMap]
    apply List.flatMap_congr
    intro round hRound
    have hLt : round < rounds := List.mem_range.mp hRound
    rcases hPages round hLt with ⟨now, params, hPage⟩
    have hOffset :
        round * limit.toNat ≤ rounds * limit.toNat :=
      Nat.mul_le_mul_right _ hLt.le
    rw [Nat.zero_add]
    exact hPage.eq_window (by omega)
  rw [hWindows, Paging.strides_eq_iff (by omega)
    (by rw [length_audit]; exact hRounds), length_audit]
  omega

end UnidppArchive

namespace UnidppArchive

open Json

/- A limit, and the offset of a round. -/
def Reference.strideParams
    (limit : UInt64)
    (round : Nat)
    (key : String) : Option String :=
  if key = "limit" then
    some (Text.u64ToString limit)
  else
    Reference.offsetParams (round * limit.toNat) key

/- The page of a round, as the service answers it. -/
theorem Reference.stridePage_window
    (store : SnapshotStore)
    {limit : UInt64}
    {round : Nat}
    (hFits : round * limit.toNat < 2 ^ 64) :
    StridePage crates service none store limit round now
      (strideParams limit round)
      (Paging.window (min limit.toNat 10000)
        (round * limit.toNat) (store.audit crates)) := by
  have hLimit :
      (Api.pageLimit (strideParams limit round)).toNat =
        min limit.toNat 10000 := by
    have hText :
        strideParams limit round "limit" =
          some (Text.u64ToString limit) :=
      rfl
    rw [toNat_pageLimit, hText, Option.bind_some,
      Text.parseU64_repr, Option.getD_some]
  have hOffset :
      (Api.pageOffset (strideParams limit round)).toNat =
        round * limit.toNat :=
    pageOffset_of_text rfl hFits
  refine ⟨rfl, rfl, invertsPretty_serde _, ?_⟩
  apply (pages_adminLog_iff (invertsPretty_serde _)).mpr
  rw [hLimit, hOffset]
  exact ⟨rfl, rfl⟩

open Reference in
/- Three records, in two strides of more than is granted. -/
theorem strides_find_journal_iff_sample :
    ∃ (store : SnapshotStore) (pages : Nat → List Value),
      store.records.length = 3 ∧
        (∀ round < 2, ∃ params,
          StridePage crates service none store 20000 round now
            params (pages round)) ∧
        (List.range 2).flatMap pages = store.audit crates := by
  rcases exists_record 0 request unreachable with ⟨r, -⟩
  rcases exists_record 1 request unreachable with ⟨q, -⟩
  rcases exists_record 2 request unreachable with ⟨p, -⟩
  have hSize : (20000 : UInt64).toNat = 20000 := rfl
  have hRecords :
      (SnapshotStore.mk [r, q, p] true none).records.length =
        3 :=
    rfl
  generalize SnapshotStore.mk [r, q, p] true none = store
    at hRecords
  have hPage :
      ∀ round < 2,
        StridePage crates service none store 20000 round now
          (strideParams 20000 round)
          (Paging.window (min (20000 : UInt64).toNat 10000)
            (round * (20000 : UInt64).toNat)
            (store.audit crates)) := by
    intro round hRound
    exact stridePage_window store (by rw [hSize]; omega)
  refine ⟨store, _, hRecords,
    fun round hRound => ⟨_, hPage round hRound⟩, ?_⟩
  apply (strides_find_journal_iff (by omega) (by omega)
    fun round hRound => ⟨now, _, hPage round hRound⟩).mpr
  exact Or.inr (by omega)

end UnidppArchive
