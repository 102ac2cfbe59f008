import UnidppArchive.Store.Specification

/-
  A journal with one damaged line.

  A line of a written journal is replaced and its newline
  stays.  An open that succeeds still holds as many records
  as there are lines, except when the last line has become
  text that cannot be decoded, for then it is taken for a
  torn one.

  Key definitions include:
    * `damaged`
    * `damagedLines`

  Key theorems include:
    * `lines_damaged`
    * `length_of_damaged_iff`
-/

------------------------------------------------------------
-- Damaged Journals
------------------------------------------------------------

namespace UnidppArchive

variable (C : Crates)

/- The text of the journal line of a record. -/
def lineText
    (r : SnapshotRecord) : String :=
  C.serde.toString (r.toJournalJson C)

/- The journal of the records with line `i` replaced. -/
def damaged
    (records : List SnapshotRecord)
    (i : Nat)
    (text : String) : Bytes :=
  journalText C (records.take i) ++
    (Utf8.encode text ++
      10 :: journalText C (records.drop (i + 1)))

/- The lines that are read of it. -/
def damagedLines
    (records : List SnapshotRecord)
    (i : Nat)
    (text : String) : List String :=
  (records.map (lineText C)).set i (Lines.readText text)

variable {C : Crates}
variable {records : List SnapshotRecord}
variable {i : Nat}
variable {text : String}

@[simp] theorem length_damagedLines :
    (damagedLines C records i text).length =
      records.length := by
  simp [damagedLines]

theorem lines_damaged
    (hSerde : C.serde.Lawful)
    (hi : i < records.length)
    (hText : '\n' ∉ text.toList) :
    Lines.lines (damaged C records i text) =
      (damagedLines C records i text).map Utf8.encode := by
  have hLine :
      ∀ rs : List SnapshotRecord,
        rs.map (journalLine C) =
          (rs.map (lineText C)).map Utf8.encode := by
    intro rs
    rw [List.map_map]
    rfl
  have hSet :
      damagedLines C records i text =
        (records.take i).map (lineText C) ++
          Lines.readText text ::
            (records.drop (i + 1)).map (lineText C) := by
    rw [damagedLines, List.set_eq_take_append_cons_drop,
      if_pos (by simpa using hi), List.map_take,
      List.map_drop]
  rw [damaged,
    Lines.lines_append_of_terminated
      (terminated_journalText _),
    lines_journalText hSerde, Lines.lines_text_append hText,
    lines_journalText hSerde, hSet, List.map_append,
    List.map_cons, hLine, hLine]

end UnidppArchive

------------------------------------------------------------
-- Opening a Damaged Journal
------------------------------------------------------------

namespace UnidppArchive

variable {C : Crates}
variable {b : Bytes}
variable {lines : List String}

/- The last line is torn, and the others are in place. -/
def LosesLast
    (C : Crates)
    (lines : List String) : Prop :=
  (∃ line, lines.getLast? = some line ∧ TornLine C line) ∧
    ∀ i line, lines[i]? = some line →
      i + 1 < lines.length → BelongsAt C i line

/- A replay loses the last line or none. -/
theorem length_of_replayed
    (hLines : Lines.lines b = lines.map Utf8.encode)
    {rs : List SnapshotRecord}
    (h : Replayed C b rs) :
    rs.length = lines.length ∨ LosesLast C lines := by
  rcases (replayed_iff_wellFormed hLines).mp h with
    ⟨hFormed, -⟩
  rcases List.eq_nil_or_concat lines with
    rfl | ⟨front, line, hConcat⟩
  · left
    have hLength := h.length_le
    simp [hLines] at hLength
    simpa using hLength
  · rw [List.concat_eq_append] at hConcat
    rcases hFormed.last front.length line
        (by rw [hConcat, List.getElem?_concat_length])
        (by simp [hConcat]) with hBelongs | hTorn
    · left
      have hAccepted :
          Replay.Accepted (lineVerdict C) (Admits C) []
            (Lines.lines b) rs := by
        rcases h with h | ⟨ls, l, hSplit, hTorn, -⟩
        · exact h
        · exfalso
          rw [hLines, hConcat, List.map_append] at hSplit
          rcases List.append_inj' hSplit rfl with ⟨-, hLast⟩
          rcases belongsAt_iff.mp hBelongs with
            ⟨record, hRecord, -⟩
          cases hLast
          rw [hTorn] at hRecord
          cases hRecord
      rw [hAccepted.length_eq, hLines]
      simp
    · right
      refine ⟨⟨line, by simp [hConcat], hTorn⟩, ?_⟩
      exact hFormed.front

/- A journal that loses its last line replays without it. -/
theorem exists_replayed_of_losesLast
    (hLines : Lines.lines b = lines.map Utf8.encode)
    (h : LosesLast C lines) :
    ∃ rs, Replayed C b rs ∧ rs.length < lines.length := by
  rcases h with ⟨⟨line, hLast, hTorn⟩, hFront⟩
  have hFormed : WellFormed C lines := by
    refine ⟨hFront, ?_⟩
    intro i line' hLine hEnd
    right
    rw [List.getLast?_eq_getElem?] at hLast
    have hPlace : lines.length - 1 = i := by omega
    rw [hPlace, hLine] at hLast
    cases hLast
    exact hTorn
  have hReplayed :=
    (replayed_iff_wellFormed hLines).mpr ⟨hFormed, rfl⟩
  refine ⟨_, hReplayed, ?_⟩
  by_contra hLength
  have hAccepted :=
    hReplayed.accepted_of_length (by
      rw [hLines]
      simp only [List.length_nil, List.length_map]
      omega)
  have hMem : Utf8.encode line ∈ Lines.lines b := by
    rw [hLines]
    exact List.mem_map_of_mem (List.mem_of_getLast? hLast)
  rcases hAccepted.exists_record hMem with ⟨r, hRecord⟩
  rw [tornLine_iff.mp hTorn] at hRecord
  cases hRecord

/-
  An open of a damaged journal never succeeds with fewer
  records exactly when the last line is blank or decodes, or
  a line before it is no record of its place.
-/
theorem length_of_damaged_iff
    (hSerde : C.serde.Lawful)
    {records : List SnapshotRecord}
    {i : Nat}
    {text : String}
    (hi : i < records.length)
    (hText : '\n' ∉ text.toList) :
    (∀ io paths disk store disk',
      paths.journal = true →
        disk.journal = some (damaged C records i text) →
          SnapshotStore.openAt C io paths disk =
              (.ok store, disk') →
            store.records.length = records.length) ↔
      (∀ line,
        (damagedLines C records i text).getLast? =
            some line →
          ¬ TornLine C line) ∨
        ∃ j line,
          (damagedLines C records i text)[j]? = some line ∧
            j + 1 < records.length ∧
              ¬ BelongsAt C j line := by
  have hLines := lines_damaged hSerde hi hText
  have hLoses :
      ¬ LosesLast C (damagedLines C records i text) ↔
        (∀ line,
          (damagedLines C records i text).getLast? =
              some line →
            ¬ TornLine C line) ∨
          ∃ j line,
            (damagedLines C records i text)[j]? =
                some line ∧
              j + 1 < records.length ∧
                ¬ BelongsAt C j line := by
    rw [LosesLast, Classical.not_and_iff_not_or_not]
    simp only [not_exists, not_and, not_forall,
      exists_prop, length_damagedLines]
  rw [← hLoses]
  constructor
  · intro h hLost
    rcases exists_replayed_of_losesLast hLines hLost with
      ⟨rs, hReplayed, hFewer⟩
    have hOpen :
        SnapshotStore.openAt C .sound ⟨true, none⟩
            ⟨some (damaged C records i text),
              fun _ => none⟩ =
          (.ok ⟨rs, true, none⟩, _) :=
      SnapshotStore.openAt_sound_eq_ok_iff.mpr
        ⟨by simpa [JournalReads] using hReplayed, by simp,
          rfl, rfl⟩
    have hLength := h _ _ _ _ _ rfl rfl hOpen
    rw [length_damagedLines] at hFewer
    simp only at hLength
    omega
  · intro hKept io paths disk store disk' hJournal hDisk
      hOpen
    have hReads := (SnapshotStore.openAt_reads hOpen).1
    simp only [JournalReads, hJournal, if_true, hDisk,
      Option.getD_some] at hReads
    rcases length_of_replayed hLines hReads with
      hLength | hLost
    · rw [hLength, length_damagedLines]
    · exact (hKept hLost).elim

end UnidppArchive

------------------------------------------------------------
-- Damage to a Sample Journal
------------------------------------------------------------

namespace UnidppArchive

open Reference

/- A line that was blanked is not passed over. -/
theorem length_of_damaged_iff_blank :
    ∃ r,
      ingestRecord crates notary 0 now request unreachable =
          .ok r ∧
        ∀ io paths disk store disk',
          paths.journal = true →
            disk.journal = some (damaged crates [r] 0 "") →
              SnapshotStore.openAt crates io paths disk =
                  (.ok store, disk') →
                store.records.length = 1 := by
  rcases exists_record 0 request unreachable with
    ⟨r, hRecord⟩
  refine ⟨r, hRecord, ?_⟩
  have hFirst : 0 < [r].length := by simp
  apply (length_of_damaged_iff lawful_serde hFirst
    (by simp)).mpr
  left
  intro line hLast hTorn
  have hBlank : "" = line := Option.some.inj hLast
  subst hBlank
  exact hTorn.1 rfl

/-
  The only line of a written journal is overwritten with one
  brace, and the archive opens without its record.
-/
theorem damaged_last_line_is_lost :
    ∃ r store₁ disk₁ store disk',
      ingestRecord crates notary 0 now request unreachable =
          .ok r ∧
        SnapshotStore.Appends crates emptyStore
            (diskOf (some [])) [r] store₁ disk₁ ∧
          disk₁.journal = some (journalText crates [r]) ∧
            Utf8.encode "\x7b" ≠ journalLine crates r ∧
              SnapshotStore.openAt crates .sound journalOnly
                  { disk₁ with
                    journal :=
                      some (damaged crates [r] 0 "\x7b") } =
                (.ok store, disk') ∧
                store.records = [] := by
  rcases exists_record 0 request unreachable with
    ⟨r, hRecord⟩
  have hSome :
      ∃ store₁ disk₁,
        SnapshotStore.Appends crates emptyStore
          (diskOf (some [])) [r] store₁ disk₁ :=
    ⟨_, _, .single (append_sample emptyStore hRecord _)⟩
  rcases hSome with ⟨store₁, disk₁, hAppends⟩
  have hBrace : Utf8.encode "\x7b" = [123] := by
    decide +kernel
  have hDamaged :
      Lines.lines (damaged crates [r] 0 "\x7b") = [[123]] := by
    rw [lines_damaged lawful_serde (by simp) (by decide)]
    simp [damagedLines, Lines.readText, hBrace]
  refine ⟨r, store₁, disk₁, emptyStore, _, hRecord, hAppends,
    hAppends.journal_of_fresh rfl rfl, ?_,
    SnapshotStore.openAt_torn_line rfl hDamaged
      lineVerdict_brace, rfl⟩
  intro hSame
  have hLine := (decodable_sample hRecord).lineVerdict
  rw [← hSame, hBrace, lineVerdict_brace] at hLine
  cases hLine

end UnidppArchive
