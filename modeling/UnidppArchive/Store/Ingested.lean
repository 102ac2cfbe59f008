import UnidppArchive.Api.Replay
import UnidppArchive.Store.Opening
import UnidppArchive.Store.Reopen

/-
  Records of the create flow in the store.

  Key definitions include:
    * `InSequence`

  Key theorems include:
    * `admits_ingestRecord`
    * `decodable_ingestRecord`
    * `InSequence.of_accepted`
    * `InSequence.compatible`
    * `InSequence.map_seq`
-/

------------------------------------------------------------
-- Admitted and Decodable Records
------------------------------------------------------------

namespace UnidppArchive

open Json

variable {C : Crates}
variable {notary : C.signatif.KeyPair}
variable {seq : UInt64}
variable {notarizedAt : Timestamp}
variable {req : CreateRequest}
variable {answer : Except String Value}
variable {r : SnapshotRecord}

/- A record sealed with the next sequence number is admitted. -/
theorem admits_ingestRecord
    {records : List SnapshotRecord}
    (h : ingestRecord C notary seq notarizedAt req answer =
      .ok r)
    (hSeq : seq = UInt64.ofNat records.length) :
    Admits C records r := by
  refine ⟨?_, (sealedFrom_ingestRecord h).bodyDigest.symm⟩
  rw [(fields_ingestRecord h).1, hSeq]

/-
  A record with a four-digit year and a replayable outcome is
  read back from its line when the parser reads the journaled
  value back.
-/
theorem decodable_of_replayable
    (hHex : C.model.HexLaw)
    (hInstant : r.notarizedAt.Printable)
    (hReplay : r.anchoring.Replayable)
    (hInverts : C.serde.Inverts (r.toJournalJson C)) :
    Decodable C r := by
  have hRead :=
    SnapshotRecord.fromJournalJson_toJournalJson hHex hInstant
      hReplay
  unfold Decodable parseLine
  generalize r.toJournalJson C = v at hInverts hRead ⊢
  have hParse : C.serde.fromStr (C.serde.toString v) = .ok v :=
    hInverts
  rw [hParse]
  exact hRead

theorem decodable_ingestRecord
    (hHex : C.model.HexLaw)
    (hClock : notarizedAt.OnClock)
    (h : ingestRecord C notary seq notarizedAt req answer =
      .ok r)
    (hReplay : r.anchoring.Replayable)
    (hInverts : C.serde.Inverts (r.toJournalJson C)) :
    Decodable C r := by
  apply decodable_of_replayable hHex _ hReplay hInverts
  rw [(fields_ingestRecord h).2.2.1]
  exact hClock.printable

end UnidppArchive

------------------------------------------------------------
-- Identifiers in Sequence
------------------------------------------------------------

namespace UnidppArchive

/- A `Vec` holds no more elements than this. -/
def maxRecords : Nat :=
  2 ^ 63 - 1

/-
  The records follow one another: each has its place, counted
  from the first one, as sequence number and identifier.
-/
def InSequence
    (first : Nat)
    (records : List SnapshotRecord) : Prop :=
  (records ≠ [] → first + records.length ≤ maxRecords) ∧
    ∀ i r, records[i]? = some r →
      r.seq = UInt64.ofNat (first + i) ∧
        r.snapshotId = snapshotIdOf r.seq

variable {C : Crates}
variable {first : Nat}
variable {records : List SnapshotRecord}

theorem inSequence_nil :
    InSequence first [] :=
  ⟨by simp, by simp⟩

theorem InSequence.append
    {r : SnapshotRecord}
    (h : InSequence first records)
    (hCapacity : first + records.length < maxRecords)
    (hSeq : r.seq = UInt64.ofNat (first + records.length))
    (hId : r.snapshotId = snapshotIdOf r.seq) :
    InSequence first (records ++ [r]) := by
  refine ⟨fun _ => by simp; omega, ?_⟩
  intro i q hq
  rcases Nat.lt_or_ge i records.length with hOld | hNew
  · rw [List.getElem?_append_left hOld] at hq
    exact h.2 i q hq
  · rw [List.getElem?_append_right hNew] at hq
    rcases List.getElem?_eq_some_iff.mp hq with ⟨hi, rfl⟩
    simp only [List.length_singleton] at hi
    have hPlace : i = records.length := by omega
    subst hPlace
    simp only [Nat.sub_self, List.getElem_cons_zero]
    exact ⟨hSeq, hId⟩

/- Records admitted one after the other are in sequence. -/
theorem InSequence.of_accepted
    {C : Crates}
    {acc rs all : List SnapshotRecord}
    (h :
      Replay.Accepted Replay.Verdict.record (Admits C) acc rs
        all)
    (hAcc : InSequence 0 acc)
    (hCapacity : all.length ≤ maxRecords)
    (hIds : ∀ r ∈ rs, r.snapshotId = snapshotIdOf r.seq) :
    InSequence 0 all := by
  induction h with
  | nil acc => exact hAcc
  | @record acc all l rs r hLine hAdmits hRest ih =>
      cases hLine
      have hLength := hRest.length_eq
      simp only [List.length_append, List.length_singleton]
        at hLength
      apply ih
      · apply hAcc.append (by omega)
        · simpa using hAdmits.1
        · exact hIds l (by simp)
      · exact hCapacity
      · intro r hr
        exact hIds r (by simp [hr])

/- Places below the capacity have different numbers. -/
theorem ofNat_injective
    {m n : Nat}
    (hm : m ≤ maxRecords)
    (hn : n ≤ maxRecords)
    (h : UInt64.ofNat m = UInt64.ofNat n) :
    m = n := by
  unfold maxRecords at hm hn
  have hNat := congrArg UInt64.toNat h
  simp only [UInt64.toNat_ofNat'] at hNat
  omega

/- Records in sequence with one number have one place. -/
theorem InSequence.place_eq
    (h : InSequence first records)
    {q r : SnapshotRecord}
    {i j : Nat}
    (hi : records[i]? = some q)
    (hj : records[j]? = some r)
    (hSeq : q.seq = r.seq) :
    i = j := by
  have hiLt := (List.getElem?_eq_some_iff.mp hi).1
  have hjLt := (List.getElem?_eq_some_iff.mp hj).1
  have hBound :=
    h.1 (List.ne_nil_of_mem (List.mem_of_getElem? hi))
  have hSame :
      UInt64.ofNat (first + i) = UInt64.ofNat (first + j) := by
    rw [← (h.2 i q hi).1, ← (h.2 j r hj).1, hSeq]
  have hSum :=
    ofNat_injective (by omega) (by omega) hSame
  omega

theorem InSequence.eq_of_seq
    (h : InSequence first records)
    {q r : SnapshotRecord}
    (hq : q ∈ records)
    (hr : r ∈ records)
    (hSeq : q.seq = r.seq) :
    q = r := by
  rcases List.getElem?_of_mem hq with ⟨i, hi⟩
  rcases List.getElem?_of_mem hr with ⟨j, hj⟩
  have hPlace := h.place_eq hi hj hSeq
  subst hPlace
  rw [hi] at hj
  exact Option.some.inj hj

theorem InSequence.of_append
    {front back : List SnapshotRecord}
    (h : InSequence first (front ++ back)) :
    InSequence first front := by
  constructor
  · intro hFront
    have hBound := h.1 (by simp [hFront])
    rw [List.length_append] at hBound
    omega
  · intro i r hi
    have hLt := (List.getElem?_eq_some_iff.mp hi).1
    apply h.2 i r
    rw [List.getElem?_append_left hLt]
    exact hi

/- The numbers count on from the first place. -/
theorem InSequence.map_seq
    (h : InSequence first records) :
    records.map (·.seq.toNat) =
      List.range' first records.length := by
  apply List.ext_getElem
  · simp
  · intro i hi hi'
    rw [List.length_map] at hi
    have hPlace :=
      h.2 i records[i] (List.getElem?_eq_getElem hi)
    have hBound :=
      h.1 (List.ne_nil_of_mem (List.getElem_mem hi))
    unfold maxRecords at hBound
    rw [List.getElem_map, List.getElem_range', hPlace.1,
      UInt64.toNat_ofNat']
    omega

/- Their archival copies are in different files. -/
theorem InSequence.compatible
    (h : InSequence first records)
    (dir : String) :
    Compatible C dir records := by
  intro q hq r hr hPath
  have hSeq : q.seq = r.seq := by
    rcases List.getElem?_of_mem hq with ⟨i, hi⟩
    rcases List.getElem?_of_mem hr with ⟨j, hj⟩
    rw [(h.2 i q hi).2, (h.2 j r hj).2] at hPath
    exact snapshotPath_snapshotIdOf hPath
  rw [h.eq_of_seq hq hr hSeq]

/- Their identifiers are different. -/
theorem InSequence.nodup_snapshotId
    (h : InSequence first records) :
    (records.map (·.snapshotId)).Nodup := by
  rw [List.Nodup, List.pairwise_map, List.pairwise_iff_getElem]
  intro i j hi hj hij hSame
  have hFront := h.2 i _ (List.getElem?_eq_getElem hi)
  have hBack := h.2 j _ (List.getElem?_eq_getElem hj)
  rw [hFront.2, hBack.2] at hSame
  have hPlace :=
    h.place_eq (List.getElem?_eq_getElem hi)
      (List.getElem?_eq_getElem hj)
      (snapshotIdOf_injective hSame)
  omega

/- Records in sequence are found by their identifier. -/
theorem get_of_mem
    {store : SnapshotStore}
    {r : SnapshotRecord}
    (h : InSequence 0 store.records)
    (hMem : r ∈ store.records) :
    store.get r.snapshotId = some r := by
  unfold SnapshotStore.get
  cases hFind :
      store.records.find? (·.snapshotId == r.snapshotId) with
  | none =>
      have hNone := List.find?_eq_none.mp hFind r hMem
      simp at hNone
  | some q =>
      have hId := List.find?_some hFind
      have hq := List.mem_of_find?_eq_some hFind
      simp only [beq_iff_eq] at hId
      have hSame : q = r := by
        apply h.eq_of_seq hq hMem
        rcases List.getElem?_of_mem hq with ⟨i, hi⟩
        rcases List.getElem?_of_mem hMem with ⟨j, hj⟩
        rw [(h.2 i q hi).2, (h.2 j r hj).2] at hId
        exact snapshotIdOf_injective hId
      rw [hSame]

end UnidppArchive

------------------------------------------------------------
-- Sample Stores
------------------------------------------------------------

namespace UnidppArchive

namespace Reference

/- A journal without snapshot files. -/
def journalOnly : StorePaths :=
  ⟨true, none⟩

/- A disk with this journal and no other file. -/
def diskOf
    (journal : Option Bytes) : Disk :=
  ⟨journal, fun _ => none⟩

/- A store without records. -/
def emptyStore : SnapshotStore :=
  ⟨[], true, none⟩

/- A journal and snapshot files. -/
def journalAndFiles : StorePaths :=
  ⟨true, some "snapshots"⟩

/- A store of this kind without records. -/
def emptyFiled : SnapshotStore :=
  ⟨[], true, some "snapshots"⟩

theorem open_absent :
    SnapshotStore.openAt crates .sound journalOnly
      (diskOf none) = (.ok emptyStore, diskOf (some [])) := by
  rfl

/- A line of one brace is torn. -/
theorem lineVerdict_brace :
    lineVerdict crates [123] = .torn := by
  have hBrace : [123] = Utf8.encode "\x7b" := by
    decide +kernel
  have hError : ∃ e, parseLine crates "\x7b" = .error e :=
    ⟨_, rfl⟩
  rw [hBrace, lineVerdict_encode_eq_torn_iff]
  exact ⟨hError, by decide +kernel⟩

/- A journal with a torn tail and no record is opened. -/
theorem open_torn :
    SnapshotStore.openAt crates .sound journalOnly
      (diskOf (some [123])) =
        (.ok emptyStore, diskOf (some [123])) := by
  exact SnapshotStore.openAt_torn_line rfl rfl
    lineVerdict_brace

/- An outcome without an answer is replayed. -/
theorem replayable_sample
    {seq : UInt64}
    {req : CreateRequest}
    {r : SnapshotRecord}
    (h : ingestRecord crates notary seq now req
      unreachable = .ok r) :
    r.anchoring.Replayable := by
  rw [replayable_ingestRecord_iff h]
  rintro receipt summary ⟨hAnswer, -⟩
  cases hAnswer

/- The records of the samples are read back. -/
theorem decodable_sample
    {seq : UInt64}
    {req : CreateRequest}
    {r : SnapshotRecord}
    (h : ingestRecord crates notary seq now req
      unreachable = .ok r) :
    Decodable crates r :=
  decodable_ingestRecord hexLaw ⟨by decide, by decide⟩ h
    (replayable_sample h) (inverts_serde _)

/-
  A receipt of the last hour of the year 9999, west of
  Greenwich, makes a record whose line is torn.
-/
theorem exists_late_record :
    ∃ receipt r,
      ingestRecord crates notary 0 now request
          (.ok receipt) = .ok r ∧
        lineVerdict crates (journalLine crates r) = .torn := by
  have hParse :
      Timestamp.parse "9999-12-31T23:59:59-01:00" =
        .ok ⟨253402304399⟩ := by
    decide
  have hAccepted := summary_receipt hParse "" ""
  rcases exists_record 0 request
      (.ok (receipt "9999-12-31T23:59:59-01:00" "" "")) with
    ⟨r, hRecord⟩
  refine ⟨_, r, hRecord, ?_⟩
  rw [journalLine, lineVerdict_encode_eq_torn_iff]
  constructor
  · cases hLine :
        parseLine crates
          (crates.serde.toString (r.toJournalJson crates)) with
    | error e => exact ⟨e, rfl⟩
    | ok r' =>
        rcases bind_eq_ok_iff.mp hLine with ⟨v, hText, hRead⟩
        have hSame : v = r.toJournalJson crates :=
          Except.ok.inj (hText.symm.trans (inverts_serde _))
        rw [hSame] at hRead
        have hPrintable :
            (⟨253402304399⟩ : Timestamp).Printable :=
          SnapshotRecord.printable_of_fromJournalJson hRead
            (anchored_ingestRecord hRecord
              ⟨rfl, hAccepted⟩).2.2
        exact absurd hPrintable.2 (by decide)
  · exact trim_journalLine lawful_serde r

/- The next record of a store is appended. -/
theorem append_sample
    (store : SnapshotStore)
    {key : crates.signatif.KeyPair}
    {notarizedAt : Timestamp}
    {req : CreateRequest}
    {answer : Except String Json.Value}
    {r : SnapshotRecord}
    (h : ingestRecord crates key store.size notarizedAt req
      answer = .ok r)
    (disk : Disk) :
    store.appendSnapshot crates .sound r disk =
      (.ok (), store.push r,
        store.recorded crates r disk) := by
  rw [SnapshotStore.appendSnapshot_eq_ok_iff]
  exact ⟨admits_ingestRecord h rfl, fun _ => rfl,
    fun _ => rfl, rfl, rfl⟩

end Reference

end UnidppArchive
