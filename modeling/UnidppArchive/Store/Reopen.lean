import UnidppArchive.Store.Append

/-
  Stores that a later open reads back.

  The compact printer writes no control character, so that
  each entry of the journal is one line.  A store is synced
  with a disk when every journal line is one of its records
  and every archival copy is the body of its record; opening
  that disk yields the store and changes nothing.

  Key definitions include:
    * `Decodable`
    * `CleanJournal`
    * `SnapshotStore.Synced`

  Key theorems include:
    * `lines_append_journalText`
    * `parseLine_append_journalLine`
    * `SnapshotStore.Synced.openAt`
    * `SnapshotStore.Synced.appends`
-/

------------------------------------------------------------
-- Journal Lines
------------------------------------------------------------

namespace UnidppArchive

open Json

/- The record is read back from its own line. -/
def Decodable
    (C : Crates)
    (r : SnapshotRecord) : Prop :=
  parseLine C (C.serde.toString (r.toJournalJson C)) = .ok r

variable {C : Crates}

/- The journal form is an object with lettered keys. -/
theorem exists_toJournalJson_eq
    (C : Crates)
    (r : SnapshotRecord) :
    ∃ es, es ≠ [] ∧ (∀ e ∈ es, Lettered e.1) ∧
      r.toJournalJson C = object es := by
  have hKeys :
      ∀ k ∈ ["seq", "snapshot_id", "notarized_at",
          "passport_id", "state_hash", "log_head",
          "submitter", "state_size", "anchoring",
          "signature", "key_id", "body_digest"],
        k.toList.head?.any Char.isAlpha = true := by
    decide +kernel
  refine ⟨_, ?_, ?_, rfl⟩
  · simp
  · intro e hMem
    exact lettered_of_any
      (hKeys e.1 (List.mem_map_of_mem (f := Prod.fst) hMem))

/- A line holds no octet of a control character. -/
theorem not_mem_journalLine
    (hSerde : C.serde.Lawful)
    {r : SnapshotRecord}
    {b : UInt8}
    (hControl : b.toNat < 0x20) :
    b ∉ journalLine C r := by
  intro hMem
  rcases Utf8.exists_of_ascii_mem_encode (by omega) hMem with
    ⟨c, hChar, hCode⟩
  have hAbove := hSerde.control_free _ c hChar
  omega

/- A line opens with a brace. -/
theorem exists_journalLine_eq
    (hSerde : C.serde.Lawful)
    (r : SnapshotRecord) :
    ∃ tail, journalLine C r = 123 :: tail := by
  rcases exists_toJournalJson_eq C r with
    ⟨es, hNe, hKeys, hObject⟩
  rcases hSerde.toString_object hNe hKeys with
    ⟨c, tail, -, hText⟩
  refine ⟨Utf8.encodeChars ('\"' :: c :: tail), ?_⟩
  rw [journalLine, hObject, Utf8.encode, hText]
  rfl

theorem lineVerdict_journalLine_iff
    {r r' : SnapshotRecord} :
    lineVerdict C (journalLine C r) = .record r' ↔
      parseLine C (C.serde.toString (r.toJournalJson C)) =
        .ok r' :=
  lineVerdict_encode_eq_record_iff

theorem Decodable.lineVerdict
    {r : SnapshotRecord}
    (h : Decodable C r) :
    lineVerdict C (journalLine C r) = .record r :=
  lineVerdict_journalLine_iff.mpr h

theorem journalText_cons
    (r : SnapshotRecord)
    (rs : List SnapshotRecord) :
    journalText C (r :: rs) =
      journalLine C r ++ 10 :: journalText C rs := by
  simp [journalText, journalEntry]

theorem terminated_journalText
    (rs : List SnapshotRecord) :
    Lines.Terminated (journalText C rs) := by
  induction rs with
  | nil => simp [journalText]
  | cons r rs ih =>
      have hEntry :
          Lines.Terminated (journalEntry C r) :=
        Lines.terminated_append_newline _
      simpa [journalText] using hEntry.append ih

/- After an open line an entry continues the line. -/
theorem lines_open_append_entry
    (hSerde : C.serde.Lawful)
    {t : Bytes}
    (ht : 10 ∉ t)
    (r : SnapshotRecord)
    (b : Bytes) :
    Lines.lines (t ++ journalLine C r ++ 10 :: b) =
      (t ++ journalLine C r) :: Lines.lines b := by
  have hLine : (10 : UInt8) ∉ t ++ journalLine C r := by
    simp only [List.mem_append, not_or]
    exact ⟨ht, not_mem_journalLine hSerde (by decide)⟩
  have hReturn :
      (t ++ journalLine C r).getLast? ≠ some 13 := by
    rcases exists_journalLine_eq hSerde r with ⟨tail, hEq⟩
    intro hLast
    rw [List.getLast?_append_of_ne_nil] at hLast
    · exact not_mem_journalLine hSerde (by decide)
        (List.mem_of_getLast? hLast)
    · simp [hEq]
  exact Lines.lines_terminate_append hLine hReturn b

theorem lines_entry_append
    (hSerde : C.serde.Lawful)
    (r : SnapshotRecord)
    (b : Bytes) :
    Lines.lines (journalLine C r ++ 10 :: b) =
      journalLine C r :: Lines.lines b := by
  have hEntry :=
    lines_open_append_entry hSerde
      (List.not_mem_nil (a := (10 : UInt8))) r b
  simpa using hEntry

/- A journal of one entry is one line. -/
theorem lines_journalEntry
    (hSerde : C.serde.Lawful)
    (r : SnapshotRecord) :
    Lines.lines (journalEntry C r) = [journalLine C r] :=
  lines_entry_append hSerde r []

/- Each entry is one line of the journal. -/
theorem lines_journalText
    (hSerde : C.serde.Lawful)
    (rs : List SnapshotRecord) :
    Lines.lines (journalText C rs) =
      rs.map (journalLine C) := by
  induction rs with
  | nil => rfl
  | cons r rs ih =>
      rw [journalText_cons, lines_entry_append hSerde, ih]
      rfl

theorem lines_append_journalText
    (hSerde : C.serde.Lawful)
    {b : Bytes}
    (hb : Lines.Terminated b)
    (rs : List SnapshotRecord) :
    Lines.lines (b ++ journalText C rs) =
      Lines.lines b ++ rs.map (journalLine C) := by
  rw [Lines.lines_append_of_terminated hb,
    lines_journalText hSerde]

end UnidppArchive

------------------------------------------------------------
-- Damaged Lines
------------------------------------------------------------

namespace UnidppArchive

open Json

variable {C : Crates}

theorem parseLine_error
    {line e : String}
    (h : C.serde.fromStr line = .error e) :
    ∃ e', parseLine C line = .error e' := by
  exact ⟨e, by simp [parseLine, h, bind, Except.bind]⟩

/- JSON white space is white space. -/
theorem isWhitespace_of_isSpace
    {c : Char}
    (h : Lexical.isSpace c = true) :
    Text.isWhitespace c = true := by
  simp only [Lexical.isSpace, Bool.or_eq_true, beq_iff_eq]
    at h
  rcases h with ((rfl | rfl) | rfl) | rfl <;> rfl

/- A torn text has content. -/
theorem all_isSpace_of_trim_ne
    {line : String}
    (h : Text.trim line ≠ "") :
    line.toList.all Lexical.isSpace = false := by
  rw [ne_eq, Text.trim_eq_empty_iff, Text.isBlank,
    List.all_eq_true] at h
  rw [List.all_eq_false]
  by_contra hAll
  apply h
  intro c hMem
  apply isWhitespace_of_isSpace
  by_contra hSpace
  exact hAll ⟨c, hMem, hSpace⟩

/- A brace is content. -/
theorem exists_mem_of_brace
    {line : String}
    (h : 123 ∈ Utf8.encode line) :
    ∃ c ∈ line.toList, Text.isWhitespace c = false := by
  rcases Utf8.exists_of_ascii_mem_encode (by decide) h with
    ⟨c, hMem, hCode⟩
  refine ⟨c, hMem, ?_⟩
  unfold Text.isWhitespace
  rw [hCode]
  decide

/- The line of a record has content. -/
theorem trim_journalLine
    (hSerde : C.serde.Lawful)
    (r : SnapshotRecord) :
    Text.trim (C.serde.toString (r.toJournalJson C)) ≠ "" := by
  rcases exists_journalLine_eq hSerde r with ⟨tail, hTail⟩
  have hBrace :
      (123 : UInt8) ∈
        Utf8.encode (C.serde.toString (r.toJournalJson C)) := by
    rw [journalLine] at hTail
    simp [hTail]
  rcases exists_mem_of_brace hBrace with ⟨c, hMem, hSpace⟩
  exact Text.trim_ne_empty_of_mem hMem hSpace

/- A line that was appended to other content is torn. -/
theorem lineVerdict_append_journalLine
    (hSerde : C.serde.Lawful)
    {t : String}
    (hText : Text.trim t ≠ "")
    (r : SnapshotRecord) :
    lineVerdict C (Utf8.encode t ++ journalLine C r) =
      .torn := by
  rcases exists_toJournalJson_eq C r with
    ⟨es, hNe, hKeys, hObject⟩
  rcases hSerde.fromStr_append hNe hKeys
      (all_isSpace_of_trim_ne hText) with ⟨e, hParse⟩
  rw [← hObject] at hParse
  rw [journalLine, ← Utf8.encode_append,
    lineVerdict_encode_eq_torn_iff]
  refine ⟨parseLine_error hParse, ?_⟩
  rcases exists_journalLine_eq hSerde r with ⟨tail, hTail⟩
  rw [journalLine] at hTail
  have hBrace :
      (123 : UInt8) ∈
        Utf8.encode
          (t ++ C.serde.toString (r.toJournalJson C)) := by
    rw [Utf8.encode_append, hTail]
    simp
  rcases exists_mem_of_brace hBrace with ⟨c, hMem, hSpace⟩
  exact Text.trim_ne_empty_of_mem hMem hSpace

/-
  A line cut short is torn, unless the cut is inside a
  character.
-/
theorem lineVerdict_take_journalLine
    (hSerde : C.serde.Lawful)
    {r : SnapshotRecord}
    {n : Nat}
    (hSome : 0 < n)
    (hCut : n < (journalLine C r).length)
    (hValid : Utf8.Valid ((journalLine C r).take n)) :
    lineVerdict C ((journalLine C r).take n) = .torn := by
  rcases exists_journalLine_eq hSerde r with ⟨tail, hTail⟩
  rcases Utf8.valid_iff.mp hValid with ⟨s, hs⟩
  have hSplit :
      Utf8.encode (C.serde.toString (r.toJournalJson C)) =
        Utf8.encode s ++ (journalLine C r).drop n := by
    rw [← hs]
    exact (List.take_append_drop n (journalLine C r)).symm
  rcases Utf8.toList_prefix_of_encode hSplit with
    ⟨back, hText, hDrop⟩
  have hBack : back ≠ [] := by
    rintro rfl
    have hLength := congrArg List.length hDrop
    simp at hLength
    omega
  have hBrace : (123 : UInt8) ∈ Utf8.encode s := by
    rw [← hs, hTail]
    cases n with
    | zero => omega
    | succ n => simp
  rcases exists_mem_of_brace hBrace with ⟨c, hMem, hSpace⟩
  have hFront : s ≠ "" := by
    rintro rfl
    simp at hMem
  rcases exists_toJournalJson_eq C r with ⟨es, -, -, hObject⟩
  rw [hObject] at hText
  rcases hSerde.fromStr_cut hText hFront hBack with
    ⟨e, hParse⟩
  rw [hs, lineVerdict_encode_eq_torn_iff]
  exact ⟨parseLine_error hParse,
    Text.trim_ne_empty_of_mem hMem hSpace⟩

end UnidppArchive

------------------------------------------------------------
-- Synced Stores
------------------------------------------------------------

namespace UnidppArchive

/-
  The journal ends in no open line, and each of its lines is
  a record.
-/
def CleanJournal
    (C : Crates)
    (disk : Disk) : Prop :=
  Lines.Terminated (disk.journal.getD []) ∧
    ∀ l ∈ Lines.lines (disk.journal.getD []),
      ∃ r, lineVerdict C l = .record r

namespace SnapshotStore

/- Where the store is kept. -/
def paths
    (store : SnapshotStore) : StorePaths :=
  ⟨store.journal, store.snapshotDir⟩

/- The disk holds exactly the records of the store. -/
structure Synced
    (C : Crates)
    (store : SnapshotStore)
    (disk : Disk) : Prop where
  journal :
    ∃ b, disk.journal = some b ∧ Lines.Terminated b ∧
      Replay.Accepted (lineVerdict C) (Admits C) []
        (Lines.lines b) store.records
  files :
    ∀ dir, store.snapshotDir = some dir →
      FilesAgree C dir store.records disk

variable {C : Crates}
variable {store store' : SnapshotStore}
variable {disk disk' : Disk}
variable {rs : List SnapshotRecord}

/- Opening a synced disk yields the store again. -/
theorem Synced.openAt
    (h : Synced C store disk)
    (hJournal : store.journal = true) :
    SnapshotStore.openAt C .sound store.paths disk =
      (.ok store, disk) := by
  rcases h.journal with ⟨b, hDisk, -, hAccepted⟩
  have hHandle : disk.withJournal store.paths = disk :=
    Disk.withJournal_of_some hDisk store.paths
  rw [openAt_sound_eq_ok_iff]
  refine ⟨?_, ?_, rfl, ?_⟩
  · simp only [JournalReads, paths, hJournal, if_true, hDisk,
      Option.getD_some]
    exact hAccepted.replays
  · intro dir hDir
    exact ⟨(h.files dir hDir).intact,
      (h.files dir hDir).compatible⟩
  · unfold Disk.opened
    rw [hHandle]
    cases hDir : store.snapshotDir with
    | none => simp [paths, hDir]
    | some dir =>
        simp [paths, hDir, (h.files dir hDir).writeBodies]

/- A store that was opened on a clean journal is synced. -/
theorem synced_of_openAt
    {paths : StorePaths}
    (hJournal : paths.journal = true)
    (hOpen :
      SnapshotStore.openAt C .sound paths disk =
        (.ok store, disk'))
    (hClean : CleanJournal C disk) :
    Synced C store disk' := by
  rcases openAt_sound_eq_ok_iff.mp hOpen with
    ⟨hReads, hFiles, hStore, rfl⟩
  constructor
  · refine ⟨disk.journal.getD [], ?_, hClean.1, ?_⟩
    · simp [Disk.withJournal, hJournal]
    · simp only [JournalReads, hJournal, if_true] at hReads
      exact Replay.Replays.accepted_of_records hReads hClean.2
  · intro dir hDir
    rw [hStore] at hDir
    have hPaths : paths.snapshotDir = some dir := hDir
    simpa [Disk.opened, hPaths]
      using filesAgree_writeBodies (hFiles dir hPaths).2

/- Decodable records of a synced store stay on its disk. -/
theorem Synced.appends
    (hSerde : C.serde.Lawful)
    (h : Synced C store disk)
    (hJournal : store.journal = true)
    (hAppends : Appends C store disk rs store' disk')
    (hDecodable : ∀ r ∈ rs, Decodable C r)
    (hCompatible :
      ∀ dir, store.snapshotDir = some dir →
        Compatible C dir (store.records ++ rs)) :
    Synced C store' disk' := by
  rcases h.journal with ⟨b, hDisk, hEnd, hAccepted⟩
  have hAppended := hAppends.journal_eq hJournal
  rw [hDisk, Option.getD_some] at hAppended
  rw [hAppends.store_eq]
  constructor
  · refine ⟨b ++ journalText C rs, ?_, ?_, ?_⟩
    · rw [← hAppended]
      exact hAppends.journal_eq_some hDisk
    · exact hEnd.append (terminated_journalText rs)
    · rw [lines_append_journalText hSerde hEnd]
      exact hAccepted.append
        (hAppends.accepted
          (fun r hr => (hDecodable r hr).lineVerdict))
  · intro dir hDir
    have hWritten :=
      (h.files dir hDir).append (hCompatible dir hDir)
    intro r hr
    have hFiles := hAppends.files_eq
    rw [hDir] at hFiles
    rw [hFiles]
    exact hWritten r hr

end SnapshotStore

end UnidppArchive
