import UnidppArchive.Foundations.Replay
import UnidppArchive.Store.Open

/-
  What the replay of a journal computes.

  The read-ahead loop of `replay` is an instance of journal
  replay: a line is a record, torn or refused, and a record
  is admitted in its place of the sequence when its digest
  is that of its body.

  Key definitions include:
    * `lineVerdict`
    * `Admits`
    * `Replayed`

  Key theorems include:
    * `replay_eq_ok_iff`
-/

------------------------------------------------------------
-- Lines
------------------------------------------------------------

namespace UnidppArchive

variable (C : Crates)

/- What the loop makes of one line of the file. -/
def lineVerdict
    (l : Bytes) : Replay.Verdict SnapshotRecord :=
  match Utf8.decode l with
  | none => .refused
  | some line =>
      match parseLine C line with
      | .ok record => .record record
      | .error _ =>
          if Text.trim line = "" then .refused else .torn

/- The record is next in sequence, and its digest is right. -/
def Admits
    (records : List SnapshotRecord)
    (record : SnapshotRecord) : Prop :=
  record.seq = UInt64.ofNat records.length ∧
    C.model.sha256 (record.bodyBytes C) = record.bodyDigest

/- The journal file replays to the records. -/
def Replayed
    (b : Bytes)
    (records : List SnapshotRecord) : Prop :=
  Replay.Replays (lineVerdict C) (Admits C) []
    (Lines.lines b) records

variable {C : Crates}

theorem lineVerdict_encode_eq_record_iff
    {line : String}
    {record : SnapshotRecord} :
    lineVerdict C (Utf8.encode line) = .record record ↔
      parseLine C line = .ok record := by
  unfold lineVerdict
  rw [Utf8.decode_encode]
  cases hParse : parseLine C line with
  | ok record' => simp [hParse]
  | error e =>
      by_cases hBlank : Text.trim line = "" <;>
        simp [hParse, hBlank]

theorem lineVerdict_encode_eq_torn_iff
    {line : String} :
    lineVerdict C (Utf8.encode line) = .torn ↔
      (∃ e, parseLine C line = .error e) ∧
        Text.trim line ≠ "" := by
  unfold lineVerdict
  rw [Utf8.decode_encode]
  cases hParse : parseLine C line with
  | ok record' => simp [hParse]
  | error e =>
      by_cases hBlank : Text.trim line = "" <;>
        simp [hParse, hBlank]

/- A torn line is text with content. -/
theorem exists_of_lineVerdict_torn
    {l : Bytes}
    (h : lineVerdict C l = .torn) :
    ∃ line, l = Utf8.encode line ∧ Text.trim line ≠ "" := by
  cases hDecode : Utf8.decode l with
  | none =>
      simp [lineVerdict, hDecode] at h
  | some line =>
      have hLine := Utf8.decode_eq_some_iff.mp hDecode
      rw [hLine, lineVerdict_encode_eq_torn_iff] at h
      exact ⟨line, hLine, h.2⟩

theorem lineVerdict_eq_record_iff
    {l : Bytes}
    {record : SnapshotRecord} :
    lineVerdict C l = .record record ↔
      ∃ s, l = Utf8.encode s ∧
        parseLine C s = .ok record := by
  constructor
  · intro h
    cases hDecode : Utf8.decode l with
    | none =>
        simp [lineVerdict, hDecode] at h
    | some s =>
        have hLine := Utf8.decode_eq_some_iff.mp hDecode
        rw [hLine, lineVerdict_encode_eq_record_iff] at h
        exact ⟨s, hLine, h⟩
  · rintro ⟨s, rfl, h⟩
    exact lineVerdict_encode_eq_record_iff.mpr h

/- A line that is a record was decoded from some JSON. -/
theorem fromJournalJson_of_lineVerdict
    {l : Bytes}
    {record : SnapshotRecord}
    (h : lineVerdict C l = .record record) :
    ∃ v, SnapshotRecord.fromJournalJson C v = .ok record := by
  rcases lineVerdict_eq_record_iff.mp h with ⟨s, -, hLine⟩
  rcases bind_eq_ok_iff.mp hLine with ⟨v, -, hRead⟩
  exact ⟨v, hRead⟩

/- A line that is not UTF-8 is refused. -/
theorem lineVerdict_of_not_valid
    {l : Bytes}
    (h : ¬ Utf8.Valid l) :
    lineVerdict C l = .refused := by
  unfold lineVerdict
  cases hDecode : Utf8.decode l with
  | none => rfl
  | some line => exact (h ⟨line, hDecode⟩).elim

theorem readLine_eq_ok_iff
    {l : Bytes}
    {line : String} :
    readLine l = .ok line ↔ l = Utf8.encode line := by
  rw [← Utf8.decode_eq_some_iff]
  unfold readLine
  cases Utf8.decode l <;> simp

/- A line that cannot be read is refused. -/
theorem lineVerdict_of_readLine
    {l : Bytes}
    {e : StoreError}
    (h : readLine l = .error e) :
    lineVerdict C l = .refused := by
  unfold readLine at h
  unfold lineVerdict
  cases hDecode : Utf8.decode l with
  | none => rfl
  | some line =>
      rw [hDecode] at h
      cases h

end UnidppArchive

------------------------------------------------------------
-- The Loop
------------------------------------------------------------

namespace UnidppArchive

variable {C : Crates}
variable {records rs : List SnapshotRecord}

/- One line adds an admitted record, or is a torn tail. -/
theorem replayLine_eq_ok_iff
    {n : Nat}
    {line : String}
    {isLast : Bool} :
    replayLine C records n line isLast = .ok rs ↔
      (∃ record, parseLine C line = .ok record ∧
        Admits C records record ∧
          rs = records ++ [record]) ∨
        ((∃ e, parseLine C line = .error e) ∧
          isLast = true ∧ Text.trim line ≠ "" ∧
            rs = records) := by
  unfold replayLine Admits
  cases hParse : parseLine C line with
  | error e =>
      simp only [reduceCtorEq, false_and, exists_false,
        false_or, Except.error.injEq, exists_eq', true_and]
      split
      · rename_i hTorn
        simp [hTorn, eq_comm]
      · rename_i hTorn
        simp only [reduceCtorEq, false_iff]
        rintro ⟨hLast, hText, -⟩
        exact hTorn ⟨hLast, hText⟩
  | ok record =>
      simp only [Except.ok.injEq, exists_eq_left',
        reduceCtorEq, exists_false, false_and, or_false]
      by_cases hSeq :
          record.seq = UInt64.ofNat records.length
      · by_cases hDigest :
            C.model.sha256 (record.bodyBytes C) =
              record.bodyDigest
        · simp [hSeq, hDigest, eq_comm]
        · simp [hSeq, hDigest]
      · simp [hSeq]

/-
  The loop replays the pending line and the rest.  The
  induction is on the lines that are not yet read.
-/
theorem replayFrom_eq_ok_iff
    {n : Nat}
    {pending : String}
    {rest : List Bytes} :
    replayFrom C records n pending rest = .ok rs ↔
      Replay.Replays (lineVerdict C) (Admits C) records
        (Utf8.encode pending :: rest) rs := by
  induction rest generalizing records n pending with
  | nil =>
      rw [replayFrom, replayLine_eq_ok_iff,
        Replay.replays_singleton_iff,
        lineVerdict_encode_eq_torn_iff]
      simp only [lineVerdict_encode_eq_record_iff, true_and,
        and_assoc]
  | cons l rest ih =>
      rw [replayFrom, Replay.replays_cons_cons_iff]
      simp only [lineVerdict_encode_eq_record_iff]
      cases hRead : readLine l with
      | error e =>
          have hRefused := lineVerdict_of_readLine (C := C) hRead
          simp [bind, Except.bind,
            Replay.not_replays_cons_refused hRefused]
      | ok next =>
          have hLine := readLine_eq_ok_iff.mp hRead
          simp only [bind_eq_ok_iff, Except.ok.injEq,
            exists_eq_left', replayLine_eq_ok_iff, ih, hLine,
            Bool.false_eq_true, false_and, and_false,
            or_false]
          constructor
          · rintro ⟨_, ⟨a, hParse, hAdmits, rfl⟩, hRest⟩
            exact ⟨a, hParse, hAdmits, hRest⟩
          · rintro ⟨a, hParse, hAdmits, hRest⟩
            exact ⟨_, ⟨a, hParse, hAdmits, rfl⟩, hRest⟩

/- `replay` succeeds exactly with what the journal replays to. -/
theorem replay_eq_ok_iff
    {b : Bytes} :
    replay C b = .ok rs ↔ Replayed C b rs := by
  unfold replay Replayed
  cases Lines.lines b with
  | nil => simp [eq_comm]
  | cons l rest =>
      simp only
      cases hRead : readLine l with
      | error e =>
          have hRefused := lineVerdict_of_readLine (C := C) hRead
          simp [bind, Except.bind,
            Replay.not_replays_cons_refused hRefused]
      | ok pending =>
          rw [readLine_eq_ok_iff.mp hRead]
          exact replayFrom_eq_ok_iff

end UnidppArchive
