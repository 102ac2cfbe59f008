import UnidppArchive.Store.Ingested

/-
  Journals cut at any octet.

  A cut leaves whole lines and a fragment of the next one.
  The fragment is tolerated unless the cut falls inside a
  character, for then the line reader fails before the line
  is parsed.

  Key definitions include:
    * `wholeLines`
    * `Disk.truncate`

  Key theorems include:
    * `replays_take_journalText_iff`
    * `open_truncated_iff`
-/

------------------------------------------------------------
-- Whole Lines of a Cut Journal
------------------------------------------------------------

namespace UnidppArchive

variable (C : Crates)

/- The records whose line is within the first `n` octets. -/
def wholeLines :
    List SnapshotRecord → Nat → List SnapshotRecord
| [], _ => []
| r :: rs, n =>
    if (journalLine C r).length ≤ n then
      r :: wholeLines rs (n - ((journalLine C r).length + 1))
    else
      []

/- The journal keeps its first `n` octets. -/
def Disk.truncate
    (disk : Disk)
    (n : Nat) : Disk :=
  { disk with journal := disk.journal.map (List.take n) }

variable {C : Crates}

theorem exists_wholeLines_append
    (rs : List SnapshotRecord)
    (n : Nat) :
    ∃ lost, rs = wholeLines C rs n ++ lost := by
  induction rs generalizing n with
  | nil => exact ⟨[], rfl⟩
  | cons r rs ih =>
      unfold wholeLines
      split
      · rcases ih (n - ((journalLine C r).length + 1)) with
          ⟨lost, hLost⟩
        exact ⟨lost, by rw [List.cons_append, ← hLost]⟩
      · exact ⟨r :: rs, rfl⟩

theorem valid_journalLine
    (r : SnapshotRecord) :
    Utf8.Valid (journalLine C r) :=
  Utf8.valid_encode _

/- A whole entry is text. -/
theorem valid_entry_append_iff
    {r : SnapshotRecord}
    {b : Bytes} :
    Utf8.Valid (journalLine C r ++ 10 :: b) ↔
      Utf8.Valid b := by
  have hNewline : Utf8.Valid [10] :=
    ⟨"\n", by decide +kernel⟩
  have hEntry := (valid_journalLine (C := C) r).append hNewline
  have hSplit :
      journalLine C r ++ 10 :: b =
        (journalLine C r ++ [10]) ++ b := by
    simp
  rw [hSplit]
  exact ⟨hEntry.of_append_left, hEntry.append⟩

theorem journalLine_ne_nil
    (hSerde : C.serde.Lawful)
    (r : SnapshotRecord) :
    journalLine C r ≠ [] := by
  rcases exists_journalLine_eq hSerde r with ⟨tail, hTail⟩
  simp [hTail]

theorem wholeLines_of_zero
    (hSerde : C.serde.Lawful)
    {rs : List SnapshotRecord}
    {n : Nat}
    (hZero : n = 0) :
    wholeLines C rs n = [] := by
  subst hZero
  cases rs with
  | nil => rfl
  | cons r rs =>
      have hSome := journalLine_ne_nil hSerde r
      rw [wholeLines, if_neg]
      simpa using hSome

/- A cut after a whole entry is a cut of the rest. -/
theorem take_journalText_cons
    {r : SnapshotRecord}
    {rs : List SnapshotRecord}
    {n : Nat}
    (h : (journalLine C r).length < n) :
    (journalText C (r :: rs)).take n =
      journalLine C r ++ 10 ::
        (journalText C rs).take
          (n - ((journalLine C r).length + 1)) := by
  rw [journalText_cons, List.take_append,
    List.take_of_length_le (by omega)]
  have hRest :
      n - (journalLine C r).length =
        (n - ((journalLine C r).length + 1)) + 1 := by
    omega
  rw [hRest, List.take_succ_cons]

/- A cut in the first line leaves a fragment of it. -/
theorem take_journalText_of_le
    {r : SnapshotRecord}
    {rs : List SnapshotRecord}
    {n : Nat}
    (h : n ≤ (journalLine C r).length) :
    (journalText C (r :: rs)).take n =
      (journalLine C r).take n := by
  rw [journalText_cons, List.take_append_of_le_length h]

end UnidppArchive

------------------------------------------------------------
-- Replaying a Cut Journal
------------------------------------------------------------

namespace UnidppArchive

variable {C : Crates}

/- A first line that stands for its record replays. -/
theorem replays_cons_journalLine_iff
    {acc more : List SnapshotRecord}
    {r : SnapshotRecord}
    {ls : List Bytes}
    (hAdmits : Admits C acc r) :
    Replay.Replays (lineVerdict C) (Admits C) acc
        (journalLine C r :: ls) (acc ++ r :: more) ↔
      Decodable C r ∧
        Replay.Replays (lineVerdict C) (Admits C)
          (acc ++ [r]) ls (acc ++ r :: more) := by
  cases hLine : lineVerdict C (journalLine C r) with
  | record a =>
      rw [Replay.replays_cons_record_iff hLine]
      have hParse := lineVerdict_journalLine_iff.mp hLine
      constructor
      · rintro ⟨-, hRest⟩
        rcases Replay.Replays.exists_append hRest with
          ⟨new, hNew⟩
        simp only [List.append_assoc, List.append_cancel_left_eq,
          List.cons_append, List.nil_append,
          List.cons.injEq] at hNew
        rcases hNew with ⟨rfl, -⟩
        exact ⟨hParse, hRest⟩
      · rintro ⟨hDecodable, hRest⟩
        have hSame := hDecodable.symm.trans hParse
        cases hSame
        exact ⟨hAdmits, hRest⟩
  | torn =>
      rw [Replay.replays_cons_torn_iff hLine]
      constructor
      · rintro ⟨-, hEq⟩
        simp at hEq
      · rintro ⟨hDecodable, -⟩
        rw [hDecodable.lineVerdict] at hLine
        cases hLine
  | refused =>
      constructor
      · intro h
        exact (Replay.not_replays_cons_refused hLine h).elim
      · rintro ⟨hDecodable, -⟩
        rw [hDecodable.lineVerdict] at hLine
        cases hLine

/- A fragment of a line replays when it is text. -/
theorem replays_take_journalLine_iff
    (hSerde : C.serde.Lawful)
    {acc : List SnapshotRecord}
    {r : SnapshotRecord}
    {n : Nat}
    (hCut : n < (journalLine C r).length) :
    Replay.Replays (lineVerdict C) (Admits C) acc
        (Lines.lines ((journalLine C r).take n)) acc ↔
      Utf8.Valid ((journalLine C r).take n) := by
  cases n with
  | zero =>
      have hEmpty : Utf8.Valid [] := Utf8.valid_encode ""
      simp [hEmpty]
  | succ n =>
      have hNewline :
          (10 : UInt8) ∉ (journalLine C r).take (n + 1) := by
        intro hMem
        exact not_mem_journalLine hSerde (by decide)
          (List.mem_of_mem_take hMem)
      have hSome : (journalLine C r).take (n + 1) ≠ [] := by
        rw [ne_eq, List.take_eq_nil_iff, not_or]
        exact ⟨by omega, journalLine_ne_nil hSerde r⟩
      rw [Lines.lines_of_not_mem hNewline hSome]
      constructor
      · intro h
        by_contra hValid
        exact Replay.not_replays_cons_refused
          (lineVerdict_of_not_valid hValid) h
      · intro hValid
        rw [Replay.replays_cons_torn_iff
          (lineVerdict_take_journalLine hSerde (by omega)
            hCut hValid)]
        exact ⟨rfl, rfl⟩

/-
  A cut journal replays to its whole lines exactly when it
  is text and these lines are decodable.  The induction is
  on the records, with the cut moving to the rest.
-/
theorem replays_take_journalText_iff
    (hSerde : C.serde.Lawful)
    {acc rs all : List SnapshotRecord}
    (hSequence :
      Replay.Accepted Replay.Verdict.record (Admits C) acc rs
        all)
    (n : Nat) :
    Replay.Replays (lineVerdict C) (Admits C) acc
        (Lines.lines ((journalText C rs).take n))
        (acc ++ wholeLines C rs n) ↔
      Utf8.Valid ((journalText C rs).take n) ∧
        ∀ r ∈ wholeLines C rs n, Decodable C r := by
  induction hSequence generalizing n with
  | nil acc =>
      have hEmpty : Utf8.Valid [] := Utf8.valid_encode ""
      simp [journalText, wholeLines, hEmpty]
  | @record acc all l rs r hLine hAdmits hRest ih =>
      cases hLine
      rcases Nat.lt_trichotomy n (journalLine C l).length with
        hCut | hLast | hWhole
      · -- the cut is inside the first line
        rw [take_journalText_of_le (by omega), wholeLines,
          if_neg (by omega), List.append_nil,
          replays_take_journalLine_iff hSerde hCut]
        simp
      · -- only the newline of the first line is lost
        have hNewline : (10 : UInt8) ∉ journalLine C l :=
          not_mem_journalLine hSerde (by decide)
        rw [take_journalText_of_le (by omega), wholeLines,
          if_pos (by omega),
          wholeLines_of_zero hSerde (by omega), hLast,
          List.take_length,
          Lines.lines_of_not_mem hNewline
            (journalLine_ne_nil hSerde l),
          replays_cons_journalLine_iff hAdmits]
        simp [valid_journalLine]
      · -- the cut is after the first entry
        rw [take_journalText_cons hWhole, wholeLines,
          if_pos (by omega),
          lines_entry_append hSerde,
          replays_cons_journalLine_iff hAdmits]
        have hRestIff :=
          ih (n - ((journalLine C l).length + 1))
        rw [List.append_assoc, List.singleton_append] at hRestIff
        rw [hRestIff, valid_entry_append_iff]
        simp only [List.mem_cons, forall_eq_or_imp]
        tauto

end UnidppArchive

------------------------------------------------------------
-- Opening a Cut Journal
------------------------------------------------------------

namespace UnidppArchive

variable {C : Crates}
variable {paths : StorePaths}
variable {store store' : SnapshotStore}
variable {disk disk₁ disk₂ : Disk}
variable {rs : List SnapshotRecord}

/- A store on an absent or empty journal has no record. -/
theorem records_of_openAt_fresh
    (hJournal : paths.journal = true)
    (hFresh : disk.journal.getD [] = [])
    (hOpen :
      SnapshotStore.openAt C .sound paths disk =
        (.ok store, disk₁)) :
    store = ⟨[], true, paths.snapshotDir⟩ ∧
      disk₁.journal = some [] := by
  rcases SnapshotStore.openAt_sound_eq_ok_iff.mp hOpen with
    ⟨hReads, -, hStore, rfl⟩
  simp only [JournalReads, hJournal, if_true, Replayed,
    hFresh, Lines.lines_nil, Replay.replays_nil_iff] at hReads
  rw [hReads, hJournal] at hStore
  exact ⟨hStore, by simp [Disk.withJournal, hJournal, hFresh]⟩

/- What a cut leaves of a written journal is opened. -/
theorem openAt_truncate_iff
    (hFiles :
      ∀ dir, paths.snapshotDir = some dir →
        FilesAgree C dir rs disk)
    (hJournal : paths.journal = true)
    (hText : disk.journal.getD [] = journalText C rs)
    (n : Nat) :
    (∃ store disk',
      SnapshotStore.openAt C .sound paths
          (disk.truncate n) = (.ok store, disk') ∧
        store.records = wholeLines C rs n) ↔
      Replayed C ((journalText C rs).take n)
        (wholeLines C rs n) := by
  have hCut :
      (disk.truncate n).journal.getD [] =
        (journalText C rs).take n := by
    rw [← hText]
    cases disk with
    | mk journal files =>
        cases journal <;> simp [Disk.truncate]
  have hKept :
      ∀ dir, paths.snapshotDir = some dir →
        FilesAgree C dir (wholeLines C rs n)
          (disk.truncate n) := by
    intro dir hDir r hr
    rcases exists_wholeLines_append (C := C) rs n with
      ⟨lost, hLost⟩
    apply hFiles dir hDir
    rw [hLost]
    simp [hr]
  constructor
  · rintro ⟨store, disk', hOpen, hRecords⟩
    rcases SnapshotStore.openAt_sound_eq_ok_iff.mp hOpen with
      ⟨hReads, -, -, -⟩
    simpa [JournalReads, hJournal, hCut, hRecords]
      using hReads
  · intro hReplayed
    refine ⟨⟨wholeLines C rs n, paths.journal,
      paths.snapshotDir⟩,
      (disk.truncate n).opened C paths (wholeLines C rs n),
      ?_, rfl⟩
    rw [SnapshotStore.openAt_sound_eq_ok_iff]
    refine ⟨?_, ?_, rfl, rfl⟩
    · simpa [JournalReads, hJournal, hCut] using hReplayed
    · intro dir hDir
      exact ⟨(hKept dir hDir).intact,
        (hKept dir hDir).compatible⟩

/- A written journal is opened after any cut that is text. -/
theorem openAt_truncate_written_iff
    (hSerde : C.serde.Lawful)
    (hJournal : paths.journal = true)
    (hSequence :
      Replay.Accepted Replay.Verdict.record (Admits C) [] rs
        rs)
    (hText : disk.journal.getD [] = journalText C rs)
    (hFiles :
      ∀ dir, paths.snapshotDir = some dir →
        FilesAgree C dir rs disk)
    (n : Nat) :
    (∃ store disk',
      SnapshotStore.openAt C .sound paths
          (disk.truncate n) = (.ok store, disk') ∧
        store.records = wholeLines C rs n) ↔
      Utf8.Valid ((journalText C rs).take n) ∧
        ∀ r ∈ wholeLines C rs n, Decodable C r :=
  (openAt_truncate_iff hFiles hJournal hText n).trans
    (replays_take_journalText_iff hSerde hSequence n)

/-
  A journal cut at any octet reopens with its whole lines
  exactly when what is left is text and these lines are read
  back.
-/
theorem open_truncated_iff
    (hSerde : C.serde.Lawful)
    (hJournal : paths.journal = true)
    (hFresh : disk.journal.getD [] = [])
    (hOpen :
      SnapshotStore.openAt C .sound paths disk =
        (.ok store, disk₁))
    (hAppends :
      SnapshotStore.Appends C store disk₁ rs store' disk₂)
    (hIds : ∀ r ∈ rs, r.snapshotId = snapshotIdOf r.seq)
    (hCapacity : rs.length ≤ maxRecords)
    (n : Nat) :
    (∃ store'' disk₃,
      SnapshotStore.openAt C .sound paths
          (disk₂.truncate n) = (.ok store'', disk₃) ∧
        store''.records = wholeLines C rs n) ↔
      Utf8.Valid ((disk₂.journal.getD []).take n) ∧
        ∀ r ∈ wholeLines C rs n, Decodable C r := by
  rcases records_of_openAt_fresh hJournal hFresh hOpen with
    ⟨rfl, hDisk⟩
  have hText : disk₂.journal.getD [] = journalText C rs := by
    rw [hAppends.journal_eq rfl, hDisk]
    rfl
  have hSequence :
      Replay.Accepted Replay.Verdict.record (Admits C) [] rs
        rs := by
    have hAccepted :
        Replay.Accepted Replay.Verdict.record (Admits C) []
          (rs.map id) ([] ++ rs) :=
      hAppends.accepted (fun r _ => rfl)
    simpa using hAccepted
  have hInSequence :=
    inSequence_nil.of_accepted hSequence hCapacity hIds
  have hFiles :
      ∀ dir, paths.snapshotDir = some dir →
        FilesAgree C dir rs disk₂ := by
    intro dir hDir
    have hEq := hAppends.files_eq
    simp only [hDir] at hEq
    intro r hr
    rw [hEq]
    exact filesAgree_writeBodies (hInSequence.compatible dir)
      r hr
  rw [openAt_truncate_written_iff hSerde hJournal hSequence
    hText hFiles n, hText]

end UnidppArchive

------------------------------------------------------------
-- Cuts Between and Inside Characters
------------------------------------------------------------

namespace UnidppArchive

open Reference in
/- A journal cut after its first octet. -/
theorem open_truncated_iff_brace :
    ∃ r store' disk₂,
      SnapshotStore.Appends crates emptyStore
          (diskOf (some [])) [r] store' disk₂ ∧
        ((∃ store'' disk₃,
          SnapshotStore.openAt crates .sound journalOnly
              (disk₂.truncate 1) = (.ok store'', disk₃) ∧
            store''.records = wholeLines crates [r] 1) ↔
          Utf8.Valid ((disk₂.journal.getD []).take 1) ∧
            ∀ q ∈ wholeLines crates [r] 1,
              Decodable crates q) := by
  rcases exists_record 0 request unreachable with
    ⟨r, hRecord⟩
  have hAppends :=
    SnapshotStore.Appends.single
      (append_sample emptyStore hRecord (diskOf (some [])))
  have hIds : ∀ q ∈ [r], q.snapshotId = snapshotIdOf q.seq := by
    intro q hq
    rw [List.mem_singleton.mp hq,
      (fields_ingestRecord hRecord).2.1,
      (fields_ingestRecord hRecord).1]
  exact ⟨r, _, _, hAppends,
    open_truncated_iff lawful_serde rfl rfl open_absent
      hAppends hIds (by simp [maxRecords]) 1⟩

/- A text with an accented letter can be cut inside it. -/
theorem exists_not_valid_take
    {line : String}
    (h : 'é' ∈ line.toList) :
    ∃ n, ¬ Utf8.Valid ((Utf8.encode line).take n) := by
  rcases List.append_of_mem h with ⟨front, back, hSplit⟩
  have hBytes :
      Utf8.encode line =
        Utf8.encodeChars front ++ 195 :: 169 ::
          Utf8.encodeChars back := by
    have hLetter :
        String.utf8EncodeChar 'é' = [195, 169] := by
      decide
    rw [Utf8.encode, hSplit, Utf8.encodeChars_append,
      Utf8.encodeChars_cons, hLetter]
    rfl
  refine ⟨(Utf8.encodeChars front).length + 1, ?_⟩
  intro hValid
  have hTake :
      (Utf8.encode line).take
          ((Utf8.encodeChars front).length + 1) =
        Utf8.encodeChars front ++ [195] := by
    rw [hBytes, List.take_length_add_append]
    rfl
  rw [hTake] at hValid
  have hFront : Utf8.Valid (Utf8.encodeChars front) := by
    have hEncode := Utf8.valid_encode (String.ofList front)
    simpa [Utf8.encode] using hEncode
  have hLead : Utf8.decode [195] = none := by
    decide +kernel
  rcases hFront.of_append_left hValid with ⟨s, hs⟩
  rw [hLead] at hs
  cases hs

open Reference in
/- The accented letter is written as it is. -/
theorem accent_mem_journal
    {answer : Except String Json.Value}
    {r : SnapshotRecord}
    (h : ingestRecord crates notary 0 now accentedRequest
      answer = .ok r) :
    'é' ∈ (crates.serde.toString
      (r.toJournalJson crates)).toList := by
  rcases SnapshotRecord.members_toJournalJson crates r with
    ⟨obj, hObj, hMembers⟩
  have hPassport :
      (r.toJournalJson crates).get? "passport_id" =
        some (.string "é") := by
    rw [hObj]
    refine hMembers.passportId.trans ?_
    rw [(fields_ingestRecord h).2.2.2.1]
    rfl
  have hText :
      ∀ n, 'é' ∈ printValue false n (.string "é") := by
    intro n
    simp only [printValue]
    decide +kernel
  have hMem := mem_printValue_of_member hPassport hText 0
  simpa [crates, serde] using hMem

open Reference in
/- A cut inside an accented letter is not tolerated. -/
theorem open_cut_in_character_fails :
    ∃ r store' disk₂ n,
      parseCreateRequest crates accentedJson =
          .ok accentedRequest ∧
        ingestRecord crates notary 0 now accentedRequest
          unreachable = .ok r ∧
        SnapshotStore.Appends crates emptyStore
          (diskOf (some [])) [r] store' disk₂ ∧
        ¬ ∃ store'' disk₃,
          SnapshotStore.openAt crates .sound journalOnly
              (disk₂.truncate n) = (.ok store'', disk₃) ∧
            store''.records = wholeLines crates [r] n := by
  rcases exists_record 0 accentedRequest unreachable with
    ⟨r, hRecord⟩
  have hAppends :=
    SnapshotStore.Appends.single
      (append_sample emptyStore hRecord (diskOf (some [])))
  have hSequence :
      Replay.Accepted Replay.Verdict.record (Admits crates) []
        [r] [r] :=
    .record rfl (admits_ingestRecord hRecord rfl) (.nil [r])
  have hText :
      (emptyStore.recorded crates r
          (diskOf (some []))).journal.getD [] =
        journalText crates [r] := by
    rw [hAppends.journal_eq rfl]
    simp [diskOf]
  rcases exists_not_valid_take (accent_mem_journal hRecord)
    with ⟨n, hn⟩
  rw [← journalLine] at hn
  have hLength : n ≤ (journalLine crates r).length := by
    by_contra hLong
    apply hn
    rw [List.take_of_length_le (by omega)]
    exact valid_journalLine r
  refine ⟨r, _, _, n, parse_accentedJson, hRecord, hAppends,
    ?_⟩
  intro hOpened
  have hValid :=
    ((openAt_truncate_written_iff lawful_serde rfl hSequence
      hText (by simp [journalOnly]) n).mp hOpened).1
  rw [take_journalText_of_le hLength] at hValid
  exact hn hValid

end UnidppArchive
