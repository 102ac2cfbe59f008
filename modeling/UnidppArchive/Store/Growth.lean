import UnidppArchive.Store.Specification

/-
  How a journal grows.

  Whatever becomes of the write of an entry, the journal has
  its complete lines and an open tail: nothing, the line of a
  record without its newline, or a text with open brackets.
  An entry after an open tail spoils the line, so that every
  write adds the record of its entry or none, and takes away
  none but that of the tail.

  Key definitions include:
    * `UnclosedOctets`
    * `JournalTail`
    * `Written`
    * `ReadBack`

  Key theorems include:
    * `Written.append`
    * `Written.grows`
    * `named_of_readBack`
-/

------------------------------------------------------------
-- Octets with Open Brackets
------------------------------------------------------------

namespace UnidppArchive

open Json

/- If the octets are text, some bracket is open at its end. -/
def UnclosedOctets
    (t : Bytes) : Prop :=
  ∀ s : String, t = Utf8.encode s →
    Lexical.Unclosed s.toList

variable {C : Crates}
variable {r : SnapshotRecord}
variable {t p lost : Bytes}

/- They are no record. -/
theorem UnclosedOctets.not_record
    (hSerde : C.serde.Lawful)
    (h : UnclosedOctets t)
    (q : SnapshotRecord) :
    lineVerdict C t ≠ .record q := by
  intro hRecord
  rcases lineVerdict_eq_record_iff.mp hRecord with
    ⟨s, hText, hLine⟩
  rcases bind_eq_ok_iff.mp hLine with ⟨v, hParse, -⟩
  exact Lexical.not_complete_of_unclosed (h s hText)
    (hSerde.complete_of_fromStr hParse)

/- The text of a line: a bracketed object with a lettered key. -/
theorem exists_chars_journalLine
    (hSerde : C.serde.Lawful)
    (r : SnapshotRecord) :
    ∃ c cs,
      c.isAlpha = true ∧
        (C.serde.toString (r.toJournalJson C)).toList =
            '{' :: '\"' :: c :: cs ∧
          Lexical.Bracketed ('{' :: '\"' :: c :: cs) := by
  rcases exists_toJournalJson_eq C r with
    ⟨es, hNe, hKeys, hObject⟩
  rcases hSerde.toString_object hNe hKeys with
    ⟨c, cs, hLetter, hText⟩
  refine ⟨c, cs, hLetter, by rw [hObject, hText], ?_⟩
  rw [← hText]
  exact hSerde.bracketed_toString _

/- A text that ends in the front of a line splits there. -/
theorem exists_split_of_brace
    {s : String}
    (hText : t ++ 123 :: p = Utf8.encode s) :
    ∃ s₁ s₂ : String,
      t = Utf8.encode s₁ ∧ 123 :: p = Utf8.encode s₂ ∧
        s.toList = s₁.toList ++ s₂.toList := by
  have hValid : Utf8.Valid (t ++ 123 :: p) :=
    Utf8.valid_iff.mpr ⟨s, hText⟩
  rcases Utf8.valid_iff.mp
      (hValid.of_append_ascii (by decide)) with ⟨s₁, rfl⟩
  rcases Utf8.toList_prefix_of_encode hText.symm with
    ⟨es, hChars, hBack⟩
  refine ⟨s₁, String.ofList es, rfl, ?_, by simpa using hChars⟩
  rw [hBack, Utf8.encode, String.toList_ofList]

/- A line cut short has its bracket open. -/
theorem unclosedOctets_of_cut
    (hSerde : C.serde.Lawful)
    (hCut : journalLine C r = p ++ lost)
    (hSome : p ≠ [])
    (hLost : lost ≠ []) :
    UnclosedOctets p := by
  rintro s rfl
  rcases exists_chars_journalLine hSerde r with
    ⟨c, cs, -, hText, hBracketed⟩
  rcases Utf8.toList_prefix_of_encode hCut with
    ⟨back, hChars, hBack⟩
  rw [← hText, hChars] at hBracketed
  apply Lexical.unclosed_of_cut hBracketed
  · intro hNil
    apply hSome
    rw [Utf8.encode, hNil]
    rfl
  · rintro rfl
    exact hLost hBack

/- What such a text ends in is the front of the line's text. -/
theorem exists_split_of_line
    (hSerde : C.serde.Lawful)
    (hCut : journalLine C r = p ++ lost)
    (hSome : p ≠ [])
    {s : String}
    (hText : t ++ p = Utf8.encode s) :
    ∃ s₁ s₂ : String, ∃ back,
      t = Utf8.encode s₁ ∧ p = Utf8.encode s₂ ∧
        s.toList = s₁.toList ++ s₂.toList ∧
        (C.serde.toString (r.toJournalJson C)).toList =
          s₂.toList ++ back := by
  rcases exists_journalLine_eq hSerde r with ⟨tail, hTail⟩
  cases p with
  | nil => exact (hSome rfl).elim
  | cons b p =>
      rw [hTail, List.cons_append, List.cons.injEq] at hCut
      rcases hCut with ⟨rfl, hCut⟩
      rcases exists_split_of_brace hText with
        ⟨s₁, s₂, hFront, hBack, hChars⟩
      have hPrefix :
          Utf8.encode
              (C.serde.toString (r.toJournalJson C)) =
            Utf8.encode s₂ ++ lost := by
        rw [← hBack, List.cons_append, ← hCut]
        exact hTail
      rcases Utf8.toList_prefix_of_encode hPrefix with
        ⟨back, hCharsBack, -⟩
      exact ⟨s₁, s₂, back, hFront, hBack, hChars, hCharsBack⟩

/- The front of a line closes no bracket before it. -/
theorem UnclosedOctets.append
    (hSerde : C.serde.Lawful)
    (h : UnclosedOctets t)
    (hCut : journalLine C r = p ++ lost) :
    UnclosedOctets (t ++ p) := by
  intro s hText
  by_cases hNone : p = []
  · subst hNone
    exact h s (by simpa using hText)
  · rcases exists_split_of_line hSerde hCut hNone hText with
      ⟨s₁, s₂, back, hFront, -, hChars, hCharsBack⟩
    rcases exists_chars_journalLine hSerde r with
      ⟨c, cs, hLetter, hLine, hBracketed⟩
    rw [hChars]
    apply (h s₁ hFront).append hBracketed hLetter
    rw [← hLine]
    exact hCharsBack

/- Nor does it follow the complete line of another record. -/
theorem unclosedOctets_line_append
    (hSerde : C.serde.Lawful)
    (q : SnapshotRecord)
    (hCut : journalLine C r = p ++ lost)
    (hSome : p ≠ []) :
    UnclosedOctets (journalLine C q ++ p) := by
  intro s hText
  rcases exists_split_of_line hSerde hCut hSome hText with
    ⟨s₁, s₂, back, hFront, hBack, hChars, hCharsBack⟩
  rcases exists_chars_journalLine hSerde q with
    ⟨c, cs, -, hLine, hBracketed⟩
  have hFirst :
      C.serde.toString (q.toJournalJson C) = s₁ :=
    Utf8.encode_injective hFront
  have hSecond : ∃ ds, s₂.toList = '{' :: ds := by
    rcases exists_chars_journalLine hSerde r with
      ⟨d, ds, -, hLine', -⟩
    rw [hLine'] at hCharsBack
    cases hList : s₂.toList with
    | nil =>
        rw [Utf8.encode, hList] at hBack
        exact (hSome hBack).elim
    | cons e es =>
        rw [hList, List.cons_append, List.cons.injEq]
          at hCharsBack
        exact ⟨es, by rw [← hCharsBack.1]⟩
  rcases hSecond with ⟨ds, hSecond⟩
  rw [hChars, ← hFirst, hLine, hSecond]
  exact Lexical.unclosed_of_bracketed_append hBracketed

end UnidppArchive

------------------------------------------------------------
-- Journals with an Open Tail
------------------------------------------------------------

namespace UnidppArchive

/-
  What can stand behind the last newline: nothing, the line
  of a record, or a text with open brackets.
-/
inductive JournalTail
    (C : Crates) :
    Bytes → Prop where
  | empty : JournalTail C []
  | whole (r : SnapshotRecord) :
      JournalTail C (journalLine C r)
  | unclosed
      {t : Bytes}
      (h : UnclosedOctets t) :
      JournalTail C t

/- The complete lines of a journal, and its open tail. -/
structure Written
    (C : Crates)
    (front t : Bytes) : Prop where
  terminated : Lines.Terminated front
  noNewline : 10 ∉ t
  tail : JournalTail C t

/- The record is what the line of another is read as. -/
def ReadBack
    (C : Crates)
    (r q : SnapshotRecord) : Prop :=
  lineVerdict C (journalLine C r) = .record q

variable {C : Crates}
variable {r : SnapshotRecord}
variable {front t p lost : Bytes}

theorem written_nil :
    Written C [] [] :=
  ⟨by simp, by simp, .empty⟩

/- An open tail is read as one line. -/
theorem mem_readRecords_tail_iff
    (hNewline : 10 ∉ t)
    {q : SnapshotRecord} :
    q ∈ readRecords C t ↔
      t ≠ [] ∧ lineVerdict C t = .record q := by
  rw [mem_readRecords_iff]
  by_cases hNil : t = []
  · subst hNil
    simp
  · rw [Lines.lines_of_not_mem hNewline hNil]
    simp [hNil]

/-
  A piece of a line behind the tail: it changes nothing, it
  is the whole line behind no tail, or it is no record.
-/
theorem Written.append_piece
    (hSerde : C.serde.Lawful)
    (h : Written C front t)
    (hCut : journalLine C r = p ++ lost) :
    Written C front (t ++ p) ∧
      (p = [] ∨ t ++ p = journalLine C r ∨
        ∀ q, lineVerdict C (t ++ p) ≠ .record q) := by
  have hNewline : 10 ∉ t ++ p := by
    have hLine : 10 ∉ journalLine C r :=
      not_mem_journalLine hSerde (by decide)
    rw [hCut] at hLine
    simp only [List.mem_append, not_or] at hLine ⊢
    exact ⟨h.noNewline, hLine.1⟩
  have hUnclosed (hOpen : UnclosedOctets (t ++ p)) :
      Written C front (t ++ p) ∧
        (p = [] ∨ t ++ p = journalLine C r ∨
          ∀ q, lineVerdict C (t ++ p) ≠ .record q) :=
    ⟨⟨h.terminated, hNewline, .unclosed hOpen⟩,
      Or.inr (Or.inr (hOpen.not_record hSerde))⟩
  by_cases hSome : p = []
  · subst hSome
    rw [List.append_nil]
    exact ⟨h, Or.inl rfl⟩
  · cases h.tail with
    | empty =>
        by_cases hLost : lost = []
        · -- the whole line, without its newline
          rw [hLost, List.append_nil] at hCut
          rw [List.nil_append, ← hCut]
          rw [List.nil_append, ← hCut] at hNewline
          exact ⟨⟨h.terminated, hNewline, .whole r⟩,
            Or.inr (Or.inl rfl)⟩
        · exact hUnclosed
            (unclosedOctets_of_cut hSerde hCut hSome hLost)
    | whole q =>
        exact hUnclosed
          (unclosedOctets_line_append hSerde q hCut hSome)
    | unclosed hOpen =>
        exact hUnclosed (hOpen.append hSerde hCut)

/- An entry behind the tail ends the line. -/
theorem Written.append_entry
    (hSerde : C.serde.Lawful)
    (h : Written C front t)
    (r : SnapshotRecord) :
    Written C (front ++ t ++ journalEntry C r) [] ∧
      Lines.lines (front ++ t ++ journalEntry C r) =
          Lines.lines front ++ [t ++ journalLine C r] ∧
        (t = [] ∨
          ∀ q,
            lineVerdict C (t ++ journalLine C r) ≠
              .record q) := by
  have hLines :
      Lines.lines (front ++ t ++ journalEntry C r) =
        Lines.lines front ++ [t ++ journalLine C r] := by
    rw [List.append_assoc,
      Lines.lines_append_of_terminated h.terminated,
      journalEntry, ← List.append_assoc,
      lines_open_append_entry hSerde h.noNewline]
    rfl
  have hTerminated :
      Lines.Terminated (front ++ t ++ journalEntry C r) := by
    rw [journalEntry, ← List.append_assoc]
    exact Lines.terminated_append_newline _
  refine ⟨⟨hTerminated, by simp, .empty⟩, hLines, ?_⟩
  rcases h.append_piece hSerde
      (p := journalLine C r) (List.append_nil _).symm with
    ⟨-, hNil | hSame | hNone⟩
  · rcases exists_journalLine_eq hSerde r with ⟨tail, hTail⟩
    rw [hTail] at hNil
    cases hNil
  · exact Or.inl (by simpa using hSame)
  · exact Or.inr hNone

/-
  What becomes of a write adds the record of its entry, or
  none, to the complete lines, which are else the same.  The
  tail is the old one, or it is read as that record or none.
-/
theorem Written.grows
    (hSerde : C.serde.Lawful)
    (h : Written C front t)
    (r : SnapshotRecord)
    (w : WriteResult) :
    ∃ front' t',
      front ++ t ++ w.kept (journalEntry C r) =
          front' ++ t' ∧
        Written C front' t' ∧
        ((front' = front ∧
            (t' = t ∨
              ∀ q ∈ readRecords C t', ReadBack C r q)) ∨
          (t' = [] ∧
            ∃ new,
              readRecords C front' =
                  readRecords C front ++ new ∧
                ∀ q ∈ new, ReadBack C r q)) := by
  rcases w.exists_kept_append (journalEntry C r) with
    ⟨lost, hKept⟩
  generalize w.kept (journalEntry C r) = kept at hKept ⊢
  rcases List.eq_nil_or_concat lost with rfl | ⟨lost, b, rfl⟩
  · -- the whole entry
    rw [List.append_nil] at hKept
    rw [← hKept]
    rcases h.append_entry hSerde r with
      ⟨hWritten, hLines, hVerdict⟩
    refine ⟨front ++ t ++ journalEntry C r, [], by simp,
      hWritten, Or.inr ⟨rfl, Replay.recordsOf (lineVerdict C)
        [t ++ journalLine C r], ?_, ?_⟩⟩
    · rw [readRecords, hLines, Replay.recordsOf_append]
      rfl
    · intro q hq
      rcases Replay.mem_recordsOf_iff.mp hq with
        ⟨l, hl, hRecord⟩
      rw [List.mem_singleton.mp hl] at hRecord
      rcases hVerdict with rfl | hNone
      · exact hRecord
      · exact (hNone q hRecord).elim
  · -- a piece of the line
    rw [List.concat_eq_append, journalEntry,
      ← List.append_assoc] at hKept
    rcases List.append_inj' hKept rfl with ⟨hCut, -⟩
    rcases h.append_piece hSerde hCut with
      ⟨hWritten, hVerdict⟩
    refine ⟨front, t ++ kept, by simp, hWritten,
      Or.inl ⟨rfl, ?_⟩⟩
    rcases hVerdict with rfl | hSame | hNone
    · exact Or.inl (List.append_nil t)
    · right
      intro q hq
      rw [mem_readRecords_tail_iff hWritten.noNewline, hSame]
        at hq
      exact hq.2
    · right
      intro q hq
      rw [mem_readRecords_tail_iff hWritten.noNewline] at hq
      exact (hNone q hq.2).elim

end UnidppArchive

------------------------------------------------------------
-- Records Read Back
------------------------------------------------------------

namespace UnidppArchive

open Json

variable {C : Crates}
variable {q r : SnapshotRecord}

/- A journal of one entry reads back its record, or none. -/
theorem mem_readRecords_entry_iff
    (hSerde : C.serde.Lawful) :
    q ∈ readRecords C (journalEntry C r) ↔
      ReadBack C r q := by
  rw [mem_readRecords_iff, lines_journalEntry hSerde]
  simp [ReadBack]

theorem readRecords_entry
    (hSerde : C.serde.Lawful)
    (h : ReadBack C r q) :
    readRecords C (journalEntry C r) = [q] := by
  have hVerdict : lineVerdict C (journalLine C r) = .record q :=
    h
  rw [readRecords, lines_journalEntry hSerde]
  simp [Replay.recordsOf, hVerdict, Replay.Verdict.record?]

/- A record that is read back has its instant and passport. -/
theorem named_of_readBack
    (hStrings : C.serde.KeepsStrings)
    (h : ReadBack C r q) :
    q.notarizedAt = r.notarizedAt ∧
      q.passportId = r.passportId := by
  rcases bind_eq_ok_iff.mp (lineVerdict_journalLine_iff.mp h)
    with ⟨v, hParse, hRead⟩
  rcases SnapshotRecord.members_toJournalJson C r with
    ⟨obj, hObj, hMembers⟩
  rw [hObj] at hParse
  rcases hStrings obj v hParse with ⟨obj', rfl, hKept⟩
  exact SnapshotRecord.named_of_fromJournalJson hRead
    (hKept _ _ hMembers.notarizedAt)
    (hKept _ _ hMembers.passportId)

end UnidppArchive
