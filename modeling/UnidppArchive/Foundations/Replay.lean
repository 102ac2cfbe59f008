import Mathlib.Data.List.Basic
import Mathlib.Tactic.Common

/-
  Replaying an append-only line journal.

  A reader classifies each line as a record, as torn, or as
  refused.  A journal replays when each of its lines is an
  admitted record, except that one torn line is tolerated
  in the final position.  Whether a record is admitted may
  depend on the records before it.

  Key definitions include:
    * `Replay.Verdict`
    * `Replay.Accepted`
    * `Replay.Replays`

  Key theorems include:
    * `Replay.Accepted.append`
    * `Replay.replays_append_iff`
    * `Replay.replays_cons_record_iff`
    * `Replay.Replays.accepted_of_length`
    * `Replay.replays_iff_placed`
    * `Replay.Replays.exists_line`
-/

------------------------------------------------------------
-- Accepted and Replayed Journals
------------------------------------------------------------

namespace UnidppArchive

namespace Replay

/- What a reader makes of one line. -/
inductive Verdict (α : Type) where
  | record (a : α)
  | torn
  | refused

variable {Line α : Type}
variable (verdict : Line → Verdict α)
variable (admits : List α → α → Prop)

/-
  Every line is a record admitted after the records before
  it, starting from the records `acc`.
-/
inductive Accepted :
    List α → List Line → List α → Prop where
  | nil (acc : List α) : Accepted acc [] acc
  | record
      {acc rs : List α} {l : Line} {ls : List Line} {a : α}
      (hLine : verdict l = .record a)
      (hAdmits : admits acc a)
      (hRest : Accepted (acc ++ [a]) ls rs) :
      Accepted acc (l :: ls) rs

/-
  The journal is accepted, or it is accepted up to one torn
  final line.
-/
def Replays
    (acc : List α)
    (ls : List Line)
    (rs : List α) : Prop :=
  Accepted verdict admits acc ls rs ∨
    ∃ front t,
      ls = front ++ [t] ∧ verdict t = .torn ∧
        Accepted verdict admits acc front rs

end Replay

end UnidppArchive

------------------------------------------------------------
-- Accepted Journals
------------------------------------------------------------

namespace UnidppArchive

namespace Replay

variable {Line α : Type}
variable {verdict : Line → Verdict α}
variable {admits : List α → α → Prop}

theorem Accepted.length_eq
    {acc rs : List α}
    {ls : List Line}
    (h : Accepted verdict admits acc ls rs) :
    rs.length = acc.length + ls.length := by
  induction h with
  | nil acc => simp
  | record hLine hAdmits hRest ih =>
      rw [ih]
      simp
      omega

theorem Accepted.append
    {acc mid rs : List α}
    {ls ms : List Line}
    (hFront : Accepted verdict admits acc ls mid)
    (hBack : Accepted verdict admits mid ms rs) :
    Accepted verdict admits acc (ls ++ ms) rs := by
  induction hFront with
  | nil acc => exact hBack
  | record hLine hAdmits hRest ih =>
      exact Accepted.record hLine hAdmits (ih hBack)

/- The records before a journal stay in front of it. -/
theorem Accepted.exists_append
    {acc rs : List α}
    {ls : List Line}
    (h : Accepted verdict admits acc ls rs) :
    ∃ new, rs = acc ++ new := by
  induction h with
  | nil acc => exact ⟨[], by simp⟩
  | record hLine hAdmits hRest ih =>
      rcases ih with ⟨new, rfl⟩
      exact ⟨_ :: new, List.append_assoc _ _ _⟩

/- The first line is a record, and is admitted. -/
theorem accepted_cons_iff
    {acc rs : List α}
    {l : Line}
    {ls : List Line} :
    Accepted verdict admits acc (l :: ls) rs ↔
      ∃ a, verdict l = .record a ∧ admits acc a ∧
        Accepted verdict admits (acc ++ [a]) ls rs := by
  constructor
  · intro h
    cases h with
    | record hLine hAdmits hRest =>
        exact ⟨_, hLine, hAdmits, hRest⟩
  · rintro ⟨a, hLine, hAdmits, hRest⟩
    exact Accepted.record hLine hAdmits hRest

theorem accepted_nil_iff
    {acc rs : List α} :
    Accepted verdict admits acc [] rs ↔ rs = acc := by
  constructor
  · intro h
    cases h
    rfl
  · rintro rfl
    exact Accepted.nil _

/- A single accepted line is one admitted record. -/
theorem accepted_singleton_iff
    {acc rs : List α}
    {l : Line} :
    Accepted verdict admits acc [l] rs ↔
      ∃ a, verdict l = .record a ∧ admits acc a ∧
        rs = acc ++ [a] := by
  simp only [accepted_cons_iff, accepted_nil_iff]

/- Every line of an accepted journal is a record. -/
theorem Accepted.exists_record
    {acc rs : List α}
    {ls : List Line}
    (h : Accepted verdict admits acc ls rs)
    {l : Line}
    (hMem : l ∈ ls) :
    ∃ a, verdict l = .record a := by
  induction h with
  | nil acc => simp at hMem
  | record hLine hAdmits hRest ih =>
      rcases List.mem_cons.mp hMem with rfl | hTail
      · exact ⟨_, hLine⟩
      · exact ih hTail

end Replay

end UnidppArchive

------------------------------------------------------------
-- Replayed Journals
------------------------------------------------------------

namespace UnidppArchive

namespace Replay

variable {Line α : Type}
variable {verdict : Line → Verdict α}
variable {admits : List α → α → Prop}

theorem Accepted.replays
    {acc rs : List α}
    {ls : List Line}
    (h : Accepted verdict admits acc ls rs) :
    Replays verdict admits acc ls rs :=
  Or.inl h

@[simp] theorem replays_nil_iff
    {acc rs : List α} :
    Replays verdict admits acc [] rs ↔ rs = acc := by
  constructor
  · rintro (h | ⟨front, t, hEq, -, -⟩)
    · cases h
      rfl
    · simp at hEq
  · rintro rfl
    exact (Accepted.nil _).replays

/- Each journal line yields at most one record. -/
theorem Replays.length_le
    {acc rs : List α}
    {ls : List Line}
    (h : Replays verdict admits acc ls rs) :
    rs.length ≤ acc.length + ls.length := by
  rcases h with h | ⟨front, t, rfl, -, h⟩
  · exact Nat.le_of_eq h.length_eq
  · have hLength := h.length_eq
    simp
    omega

theorem Replays.exists_append
    {acc rs : List α}
    {ls : List Line}
    (h : Replays verdict admits acc ls rs) :
    ∃ new, rs = acc ++ new := by
  rcases h with h | ⟨front, t, -, -, h⟩
  · exact h.exists_append
  · exact h.exists_append

/- A journal that loses no line tolerated none. -/
theorem Replays.accepted_of_length
    {acc rs : List α}
    {ls : List Line}
    (h : Replays verdict admits acc ls rs)
    (hLength : acc.length + ls.length ≤ rs.length) :
    Accepted verdict admits acc ls rs := by
  rcases h with h | ⟨front, t, rfl, -, h⟩
  · exact h
  · have hFront := h.length_eq
    simp at hLength
    omega

/- A journal of records tolerated no line. -/
theorem Replays.accepted_of_records
    {acc rs : List α}
    {ls : List Line}
    (h : Replays verdict admits acc ls rs)
    (hRecords : ∀ l ∈ ls, ∃ a, verdict l = .record a) :
    Accepted verdict admits acc ls rs := by
  rcases h with h | ⟨front, t, rfl, hTorn, h⟩
  · exact h
  · rcases hRecords t (by simp) with ⟨a, hLine⟩
    rw [hTorn] at hLine
    cases hLine

/-
  The first line is an admitted record with the others
  behind it, or it is torn and the last.
-/
theorem replays_cons_iff
    {acc rs : List α}
    {l : Line}
    {ls : List Line} :
    Replays verdict admits acc (l :: ls) rs ↔
      (∃ a, verdict l = .record a ∧ admits acc a ∧
        Replays verdict admits (acc ++ [a]) ls rs) ∨
          (verdict l = .torn ∧ ls = [] ∧ rs = acc) := by
  constructor
  · rintro (h | ⟨front, t, hEq, hTorn, h⟩)
    · rcases accepted_cons_iff.mp h with
        ⟨a, hLine, hAdmits, hRest⟩
      exact Or.inl ⟨a, hLine, hAdmits, hRest.replays⟩
    · cases front with
      | nil =>
          simp only [List.nil_append, List.cons.injEq]
            at hEq
          rcases hEq with ⟨rfl, rfl⟩
          exact Or.inr
            ⟨hTorn, rfl, accepted_nil_iff.mp h⟩
      | cons f front =>
          simp only [List.cons_append, List.cons.injEq]
            at hEq
          rcases hEq with ⟨rfl, rfl⟩
          rcases accepted_cons_iff.mp h with
            ⟨a, hLine, hAdmits, hRest⟩
          exact Or.inl ⟨a, hLine, hAdmits,
            Or.inr ⟨front, t, rfl, hTorn, hRest⟩⟩
  · rintro (⟨a, hLine, hAdmits, h⟩ | ⟨hTorn, rfl, rfl⟩)
    · rcases h with h | ⟨front, t, rfl, hTorn, h⟩
      · exact Or.inl (Accepted.record hLine hAdmits h)
      · exact Or.inr ⟨l :: front, t, rfl, hTorn,
          Accepted.record hLine hAdmits h⟩
    · exact Or.inr ⟨[], l, rfl, hTorn, Accepted.nil _⟩

/- Nothing but a record may stand before another line. -/
theorem replays_cons_record_iff
    {acc rs : List α}
    {l : Line}
    {ls : List Line}
    {a : α}
    (hLine : verdict l = .record a) :
    Replays verdict admits acc (l :: ls) rs ↔
      admits acc a ∧
        Replays verdict admits (acc ++ [a]) ls rs := by
  simp [replays_cons_iff, hLine]

/- A torn line replays only in the final position. -/
theorem replays_cons_torn_iff
    {acc rs : List α}
    {l : Line}
    {ls : List Line}
    (hLine : verdict l = .torn) :
    Replays verdict admits acc (l :: ls) rs ↔
      ls = [] ∧ rs = acc := by
  simp [replays_cons_iff, hLine]

/- A refused line never replays. -/
theorem not_replays_cons_refused
    {acc rs : List α}
    {l : Line}
    {ls : List Line}
    (hLine : verdict l = .refused) :
    ¬ Replays verdict admits acc (l :: ls) rs := by
  simp [replays_cons_iff, hLine]

/- Before another line there must be an admitted record. -/
theorem replays_cons_cons_iff
    {acc rs : List α}
    {l l' : Line}
    {ls : List Line} :
    Replays verdict admits acc (l :: l' :: ls) rs ↔
      ∃ a, verdict l = .record a ∧ admits acc a ∧
        Replays verdict admits (acc ++ [a]) (l' :: ls) rs := by
  rw [replays_cons_iff]
  simp

/- A last line is an admitted record or is tolerated. -/
theorem replays_singleton_iff
    {acc rs : List α}
    {l : Line} :
    Replays verdict admits acc [l] rs ↔
      (∃ a, verdict l = .record a ∧ admits acc a ∧
        rs = acc ++ [a]) ∨
          (verdict l = .torn ∧ rs = acc) := by
  rw [replays_cons_iff]
  simp

/- An accepted front can be replayed first. -/
theorem replays_append_iff
    {acc mid rs : List α}
    {ls ms : List Line}
    (hFront : Accepted verdict admits acc ls mid) :
    Replays verdict admits acc (ls ++ ms) rs ↔
      Replays verdict admits mid ms rs := by
  induction hFront with
  | nil acc => rfl
  | record hLine hAdmits hRest ih =>
      rw [List.cons_append,
        replays_cons_record_iff hLine, ih]
      exact ⟨fun h => h.2, fun h => ⟨hAdmits, h⟩⟩

end Replay

end UnidppArchive

------------------------------------------------------------
-- Records Admitted by Their Place
------------------------------------------------------------

namespace UnidppArchive

namespace Replay

/- The record of a line, if it is one. -/
def Verdict.record?
    {α : Type} :
    Verdict α → Option α
| .record a => some a
| _ => none

variable {Line α : Type}
variable {verdict : Line → Verdict α}
variable {admits : List α → α → Prop}
variable {fits : Nat → α → Prop}

/- The records of the lines that are records, in order. -/
def recordsOf
    (verdict : Line → Verdict α)
    (ls : List Line) : List α :=
  ls.filterMap (fun l => (verdict l).record?)

/- The line is a record that fits the place. -/
def Placed
    (verdict : Line → Verdict α)
    (fits : Nat → α → Prop)
    (place : Nat)
    (l : Line) : Prop :=
  ∃ a, verdict l = .record a ∧ fits place a

@[simp] theorem recordsOf_append
    (ls ms : List Line) :
    recordsOf verdict (ls ++ ms) =
      recordsOf verdict ls ++ recordsOf verdict ms := by
  simp [recordsOf]

theorem recordsOf_cons_record
    {l : Line}
    {a : α}
    (hLine : verdict l = .record a)
    (ls : List Line) :
    recordsOf verdict (l :: ls) =
      a :: recordsOf verdict ls := by
  simp [recordsOf, hLine, Verdict.record?]

theorem recordsOf_torn
    {l : Line}
    (hLine : verdict l = .torn) :
    recordsOf verdict [l] = [] := by
  simp [recordsOf, hLine, Verdict.record?]

theorem mem_recordsOf_iff
    {ls : List Line}
    {a : α} :
    a ∈ recordsOf verdict ls ↔
      ∃ l ∈ ls, verdict l = .record a := by
  have hRecord (v : Verdict α) :
      v.record? = some a ↔ v = .record a := by
    cases v <;> simp [Verdict.record?]
  simp only [recordsOf, List.mem_filterMap, hRecord]

/-
  Where only the place of a record decides, a journal is
  accepted when each line is a record that fits its place.
-/
theorem accepted_iff_placed
    (hPlace : ∀ acc a, admits acc a ↔ fits acc.length a)
    {acc rs : List α}
    {ls : List Line} :
    Accepted verdict admits acc ls rs ↔
      (∀ i l, ls[i]? = some l →
        Placed verdict fits (acc.length + i) l) ∧
        rs = acc ++ recordsOf verdict ls := by
  induction ls generalizing acc with
  | nil =>
      constructor
      · intro h
        cases h
        simp [recordsOf]
      · rintro ⟨-, rfl⟩
        simpa [recordsOf] using Accepted.nil acc
  | cons l ls ih =>
      constructor
      · intro h
        cases h with
        | record hLine hAdmits hRest =>
            rcases ih.mp hRest with ⟨hPlaced, hRecords⟩
            constructor
            · intro i m hm
              cases i with
              | zero =>
                  cases Option.some.inj hm
                  exact ⟨_, hLine, (hPlace _ _).mp hAdmits⟩
              | succ i =>
                  have hNext := hPlaced i m (by simpa using hm)
                  rw [List.length_append,
                    List.length_singleton, Nat.add_assoc,
                    Nat.add_comm 1] at hNext
                  exact hNext
            · rw [hRecords, recordsOf_cons_record hLine,
                List.append_assoc, List.singleton_append]
      · rintro ⟨hPlaced, rfl⟩
        rcases hPlaced 0 l rfl with ⟨a, hLine, hFits⟩
        apply Accepted.record hLine ((hPlace _ _).mpr hFits)
        apply ih.mpr
        constructor
        · intro i m hm
          have hNext := hPlaced (i + 1) m (by simpa using hm)
          rw [List.length_append, List.length_singleton,
            Nat.add_assoc, Nat.add_comm 1]
          exact hNext
        · rw [recordsOf_cons_record hLine, List.append_assoc,
            List.singleton_append]

/- The last line may be torn instead. -/
theorem replays_iff_placed
    (hPlace : ∀ acc a, admits acc a ↔ fits acc.length a)
    {acc rs : List α}
    {ls : List Line} :
    Replays verdict admits acc ls rs ↔
      (∀ i l, ls[i]? = some l →
        Placed verdict fits (acc.length + i) l ∨
          (i + 1 = ls.length ∧ verdict l = .torn)) ∧
        rs = acc ++ recordsOf verdict ls := by
  constructor
  · rintro (h | ⟨front, t, rfl, hTorn, h⟩)
    · rcases (accepted_iff_placed hPlace).mp h with
        ⟨hPlaced, hRecords⟩
      exact ⟨fun i l hl => Or.inl (hPlaced i l hl), hRecords⟩
    · rcases (accepted_iff_placed hPlace).mp h with
        ⟨hPlaced, hRecords⟩
      constructor
      · intro i l hl
        rcases Nat.lt_or_ge i front.length with hFront | hLast
        · rw [List.getElem?_append_left hFront] at hl
          exact Or.inl (hPlaced i l hl)
        · have hEnd := (List.getElem?_eq_some_iff.mp hl).1
          rw [List.length_append, List.length_singleton]
            at hEnd
          have hPos : i = front.length := by omega
          subst hPos
          rw [List.getElem?_concat_length] at hl
          cases Option.some.inj hl
          exact Or.inr ⟨by simp, hTorn⟩
      · simpa [recordsOf_torn hTorn] using hRecords
  · rintro ⟨hLines, rfl⟩
    rcases List.eq_nil_or_concat ls with
      rfl | ⟨front, t, hConcat⟩
    · simp [recordsOf]
    · rw [List.concat_eq_append] at hConcat
      subst hConcat
      have hFront :
          Accepted verdict admits acc front
            (acc ++ recordsOf verdict front) := by
        apply (accepted_iff_placed hPlace).mpr
        refine ⟨?_, rfl⟩
        intro i l hl
        have hLt := (List.getElem?_eq_some_iff.mp hl).1
        have hWhole : (front ++ [t])[i]? = some l := by
          rw [List.getElem?_append_left hLt]
          exact hl
        rcases hLines i l hWhole with hPlaced | ⟨hLast, -⟩
        · exact hPlaced
        · rw [List.length_append, List.length_singleton]
            at hLast
          omega
      rw [replays_append_iff hFront, replays_singleton_iff]
      rcases hLines front.length t List.getElem?_concat_length
        with ⟨a, hLine, hFits⟩ | ⟨-, hTorn⟩
      · left
        refine ⟨a, hLine, ?_, ?_⟩
        · rw [hPlace, hFront.length_eq]
          exact hFits
        · rw [recordsOf_append, recordsOf_cons_record hLine,
            ← List.append_assoc]
          rfl
      · right
        refine ⟨hTorn, ?_⟩
        rw [recordsOf_append, recordsOf_torn hTorn,
          List.append_nil]

/- The new records come from lines, in their places. -/
theorem Accepted.exists_line
    (hPlace : ∀ acc a, admits acc a → fits acc.length a)
    {acc rs : List α}
    {ls : List Line}
    (h : Accepted verdict admits acc ls rs)
    {i : Nat}
    {a : α}
    (hNew : acc.length ≤ i)
    (hi : rs[i]? = some a) :
    ∃ l ∈ ls, verdict l = .record a ∧ fits i a := by
  induction h with
  | nil acc =>
      have hLt := (List.getElem?_eq_some_iff.mp hi).1
      omega
  | @record acc rs l ls b hLine hAdmits hRest ih =>
      rcases Nat.eq_or_lt_of_le hNew with hHere | hLater
      · rcases hRest.exists_append with ⟨new, rfl⟩
        rw [← hHere, List.append_assoc,
          List.getElem?_append_right (Nat.le_refl _),
          Nat.sub_self] at hi
        cases Option.some.inj hi
        refine ⟨l, by simp, hLine, ?_⟩
        rw [← hHere]
        exact hPlace acc _ hAdmits
      · have hNext : (acc ++ [b]).length ≤ i := by
          rw [List.length_append, List.length_singleton]
          omega
        rcases ih hNext hi with ⟨m, hm, hRecord⟩
        exact ⟨m, List.mem_cons_of_mem l hm, hRecord⟩

theorem Replays.exists_line
    (hPlace : ∀ acc a, admits acc a → fits acc.length a)
    {rs : List α}
    {ls : List Line}
    (h : Replays verdict admits [] ls rs)
    {i : Nat}
    {a : α}
    (hi : rs[i]? = some a) :
    ∃ l ∈ ls, verdict l = .record a ∧ fits i a := by
  rcases h with h | ⟨front, t, rfl, -, h⟩
  · exact h.exists_line hPlace (Nat.zero_le i) hi
  · rcases h.exists_line hPlace (Nat.zero_le i) hi with
      ⟨l, hl, hRecord⟩
    exact ⟨l, List.mem_append_left [t] hl, hRecord⟩

end Replay

end UnidppArchive
