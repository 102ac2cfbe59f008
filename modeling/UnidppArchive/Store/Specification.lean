import UnidppArchive.Store.Ingested

/-
  What a replay is meant to compute.

  The description does not follow the loop: it says of each
  line of a journal, by its place, whether it is a record
  that belongs there, and of the last line that it may be
  torn instead.

  Key definitions include:
    * `BelongsAt`
    * `TornLine`
    * `WellFormed`
    * `decodedRecords`
    * `readRecords`

  Key theorems include:
    * `replayed_iff_wellFormed`
    * `replay_computes_specification`
-/

------------------------------------------------------------
-- Lines of a Well-Formed Journal
------------------------------------------------------------

namespace UnidppArchive

variable (C : Crates)

/- The record has the number and digest of the place. -/
def FitsPlace
    (place : Nat)
    (record : SnapshotRecord) : Prop :=
  record.seq = UInt64.ofNat place ∧
    C.model.sha256 (record.bodyBytes C) = record.bodyDigest

/- The line is the JSON of a record of that place. -/
def BelongsAt
    (place : Nat)
    (line : String) : Prop :=
  ∃ record, parseLine C line = .ok record ∧
    FitsPlace C place record

/- The line has content and cannot be decoded. -/
def TornLine
    (line : String) : Prop :=
  Text.trim line ≠ "" ∧
    ∀ record, parseLine C line ≠ .ok record

/-
  Every line before the last belongs in its place, and the
  last one belongs there or is torn.
-/
structure WellFormed
    (lines : List String) : Prop where
  front :
    ∀ i line, lines[i]? = some line →
      i + 1 < lines.length → BelongsAt C i line
  last :
    ∀ i line, lines[i]? = some line →
      i + 1 = lines.length →
        BelongsAt C i line ∨ TornLine C line

/- The decoded records of the lines, in order. -/
def decodedRecords
    (lines : List String) : List SnapshotRecord :=
  lines.filterMap (fun line => (parseLine C line).toOption)

variable {C : Crates}

/- A replay admits by place and digest. -/
theorem admits_iff_fitsPlace
    (records : List SnapshotRecord)
    (record : SnapshotRecord) :
    Admits C records record ↔
      FitsPlace C records.length record := by
  rfl

/- The records of a journal, in the order of its lines. -/
def readRecords
    (C : Crates)
    (b : Bytes) : List SnapshotRecord :=
  Replay.recordsOf (lineVerdict C) (Lines.lines b)

theorem mem_readRecords_iff
    {b : Bytes}
    {r : SnapshotRecord} :
    r ∈ readRecords C b ↔
      ∃ l ∈ Lines.lines b, lineVerdict C l = .record r :=
  Replay.mem_recordsOf_iff

/- A replay yields the records of the journal. -/
theorem Replayed.eq_readRecords
    {b : Bytes}
    {records : List SnapshotRecord}
    (h : Replayed C b records) :
    records = readRecords C b := by
  have hRecords :=
    ((Replay.replays_iff_placed admits_iff_fitsPlace).mp h).2
  rw [List.nil_append] at hRecords
  exact hRecords

theorem readRecords_append
    {front : Bytes}
    (hFront : Lines.Terminated front)
    (t : Bytes) :
    readRecords C (front ++ t) =
      readRecords C front ++ readRecords C t := by
  unfold readRecords
  rw [Lines.lines_append_of_terminated hFront,
    Replay.recordsOf_append]

theorem tornLine_iff
    {line : String} :
    TornLine C line ↔
      lineVerdict C (Utf8.encode line) = .torn := by
  rw [lineVerdict_encode_eq_torn_iff, TornLine, and_comm]
  cases parseLine C line <;> simp

theorem belongsAt_iff
    {place : Nat}
    {line : String} :
    BelongsAt C place line ↔
      Replay.Placed (lineVerdict C) (FitsPlace C) place
        (Utf8.encode line) := by
  simp only [BelongsAt, Replay.Placed,
    lineVerdict_encode_eq_record_iff]

theorem decodedRecords_eq
    (lines : List String) :
    Replay.recordsOf (lineVerdict C)
        (lines.map Utf8.encode) =
      decodedRecords C lines := by
  unfold Replay.recordsOf decodedRecords
  rw [List.filterMap_map]
  apply List.filterMap_congr
  intro line _
  simp only [Function.comp_apply, lineVerdict,
    Utf8.decode_encode]
  cases parseLine C line with
  | ok record => rfl
  | error e =>
      simp only
      split <;> rfl

end UnidppArchive

------------------------------------------------------------
-- Replay and Its Specification
------------------------------------------------------------

namespace UnidppArchive

variable {C : Crates}
variable {b : Bytes}
variable {rs : List SnapshotRecord}

/- A journal of text replays exactly when it is well formed. -/
theorem replayed_iff_wellFormed
    {lines : List String}
    (hText : Lines.lines b = lines.map Utf8.encode) :
    Replayed C b rs ↔
      WellFormed C lines ∧ rs = decodedRecords C lines := by
  rw [Replayed, Replay.replays_iff_placed
    admits_iff_fitsPlace, hText, decodedRecords_eq,
    List.nil_append]
  apply and_congr_left
  intro _
  simp only [List.length_nil, Nat.zero_add,
    List.length_map, List.getElem?_map]
  constructor
  · intro h
    constructor
    · intro i line hLine hFront
      rcases h i _ (by rw [hLine]; rfl) with
        hBelongs | ⟨hLast, -⟩
      · exact belongsAt_iff.mpr hBelongs
      · omega
    · intro i line hLine _
      rcases h i _ (by rw [hLine]; rfl) with
        hBelongs | ⟨-, hTorn⟩
      · exact Or.inl (belongsAt_iff.mpr hBelongs)
      · exact Or.inr (tornLine_iff.mpr hTorn)
  · intro h i l hl
    rcases Option.map_eq_some_iff.mp hl with
      ⟨line, hLine, rfl⟩
    have hLt := (List.getElem?_eq_some_iff.mp hLine).1
    rcases Nat.lt_or_ge (i + 1) lines.length with
      hFront | hLast
    · exact Or.inl
        (belongsAt_iff.mp (h.front i line hLine hFront))
    · have hEnd : i + 1 = lines.length := by omega
      rcases h.last i line hLine hEnd with hBelongs | hTorn
      · exact Or.inl (belongsAt_iff.mp hBelongs)
      · exact Or.inr ⟨hEnd, tornLine_iff.mp hTorn⟩

/-
  A journal of text lines replays exactly when every line
  before the last belongs in its place and the last one
  belongs there or is torn; the records are then the decoded
  ones.  An open returns no other store.
-/
theorem replay_computes_specification
    {lines : List String}
    (hText : Lines.lines b = lines.map Utf8.encode) :
    ((∃ rs, replay C b = .ok rs) ↔ WellFormed C lines) ∧
      (∀ rs, replay C b = .ok rs →
        rs = decodedRecords C lines) ∧
        ∀ io paths disk store disk',
          paths.journal = true → disk.journal = some b →
            SnapshotStore.openAt C io paths disk =
                (.ok store, disk') →
              WellFormed C lines ∧
                store.records = decodedRecords C lines := by
  simp only [replay_eq_ok_iff, replayed_iff_wellFormed hText]
  refine ⟨?_, fun rs h => h.2, ?_⟩
  · constructor
    · rintro ⟨rs, hFormed, -⟩
      exact hFormed
    · intro hFormed
      exact ⟨_, hFormed, rfl⟩
  · intro io paths disk store disk' hJournal hDisk hOpen
    have hReads := (SnapshotStore.openAt_reads hOpen).1
    simp only [JournalReads, hJournal, if_true, hDisk,
      Option.getD_some] at hReads
    exact (replayed_iff_wellFormed hText).mp hReads

open Reference in
/- A journal of one record and a torn line. -/
theorem replay_computes_specification_torn :
    ∃ r,
      ingestRecord crates notary 0 now request unreachable =
          .ok r ∧
        (∃ rs,
          replay crates (journalLine crates r ++ 10 :: [123]) =
            .ok rs) ∧
          WellFormed crates
            [crates.serde.toString (r.toJournalJson crates),
              "\x7b"] := by
  rcases exists_record 0 request unreachable with
    ⟨r, hRecord⟩
  have hBrace : [123] = Utf8.encode "\x7b" := by
    decide +kernel
  have hLines :
      Lines.lines (journalLine crates r ++ 10 :: [123]) =
        [journalLine crates r, [123]] := by
    rw [lines_entry_append lawful_serde,
      Lines.lines_of_not_mem (by decide) (by decide)]
  have hReplayed :
      Replayed crates (journalLine crates r ++ 10 :: [123])
        ([] ++ [r]) := by
    rw [Replayed, hLines]
    refine Or.inr ⟨[journalLine crates r], [123], rfl,
      lineVerdict_brace, ?_⟩
    exact .record (decodable_sample hRecord).lineVerdict
      (admits_ingestRecord hRecord rfl) (.nil _)
  have hReplay := replay_eq_ok_iff.mpr hReplayed
  refine ⟨r, hRecord, ⟨_, hReplay⟩, ?_⟩
  apply (replay_computes_specification ?_).1.mp ⟨_, hReplay⟩
  rw [hLines, hBrace]
  rfl

end UnidppArchive
