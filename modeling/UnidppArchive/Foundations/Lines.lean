import UnidppArchive.Foundations.Utf8
import Mathlib.Data.List.Basic

/-
  Newline-separated octets, read line by line.

  `pieces` keeps each line's terminator, so that the pieces
  of a byte list join back to it; `lines` strips a newline,
  and one carriage return before it, from each piece.

  Key definitions include:
    * `Lines.pieces`
    * `Lines.chomp`
    * `Lines.lines`
    * `Lines.Terminated`
    * `Lines.readText`

  Key theorems include:
    * `Lines.lines_append_of_terminated`
    * `Lines.lines_terminate_append`
    * `Lines.exists_open_tail`
    * `Lines.lines_text_append`
-/

------------------------------------------------------------
-- Splitting
------------------------------------------------------------

namespace UnidppArchive

namespace Lines

/- Split after each newline; the last piece may lack one. -/
def pieces : Bytes → List Bytes
| [] => []
| b :: bs =>
    if b = 10 then
      [10] :: pieces bs
    else
      match pieces bs with
      | [] => [[b]]
      | p :: ps => (b :: p) :: ps

/- Strip a final newline and a carriage return before it. -/
def chomp
    (p : Bytes) : Bytes :=
  if p.getLast? = some 10 then
    if p.dropLast.getLast? = some 13 then
      p.dropLast.dropLast
    else
      p.dropLast
  else
    p

/- The lines of a byte list, without their terminators. -/
def lines
    (b : Bytes) : List Bytes :=
  (pieces b).map chomp

/- Nothing follows the last newline. -/
def Terminated
    (b : Bytes) : Prop :=
  b = [] ∨ b.getLast? = some 10

instance
    (b : Bytes) :
    Decidable (Terminated b) := by
  unfold Terminated
  infer_instance

@[simp] theorem pieces_nil :
    pieces [] = [] := by
  rfl

@[simp] theorem lines_nil :
    lines [] = [] := by
  rfl

@[simp] theorem terminated_nil :
    Terminated [] :=
  Or.inl rfl

@[simp] theorem terminated_append_newline
    (b : Bytes) :
    Terminated (b ++ [10]) := by
  right
  simp

/- A newline-terminated line is one piece. -/
theorem pieces_line_append
    {l : Bytes}
    (hl : 10 ∉ l)
    (b : Bytes) :
    pieces (l ++ 10 :: b) = (l ++ [10]) :: pieces b := by
  induction l with
  | nil =>
      simp [pieces]
  | cons c l ih =>
      have hc : c ≠ 10 := by
        intro hEq
        exact hl (by simp [hEq])
      have hRest : 10 ∉ l := by
        intro hMem
        exact hl (by simp [hMem])
      simp [pieces, hc, ih hRest]

/- A nonempty open line is one piece. -/
theorem pieces_of_not_mem
    {t : Bytes}
    (ht : 10 ∉ t)
    (hNe : t ≠ []) :
    pieces t = [t] := by
  induction t with
  | nil => exact (hNe rfl).elim
  | cons c t ih =>
      have hc : c ≠ 10 := by
        intro hEq
        exact ht (by simp [hEq])
      have hRest : 10 ∉ t := by
        intro hMem
        exact ht (by simp [hMem])
      cases t with
      | nil => simp [pieces, hc]
      | cons d t =>
          rw [pieces, if_neg hc, ih hRest (by simp)]

end Lines

end UnidppArchive

------------------------------------------------------------
-- Appending
------------------------------------------------------------

namespace UnidppArchive

namespace Lines

/-
  Octets are a terminated part followed by an open line.
-/
theorem exists_open_tail
    (b : Bytes) :
    ∃ front t,
      b = front ++ t ∧ Terminated front ∧ 10 ∉ t := by
  induction b using List.reverseRecOn with
  | nil => exact ⟨[], [], by simp⟩
  | append_singleton b c ih =>
      by_cases hc : c = 10
      · subst c
        exact ⟨b ++ [10], [], by simp⟩
      · rcases ih with ⟨front, t, rfl, hFront, ht⟩
        refine ⟨front, t ++ [c], by simp, hFront, ?_⟩
        simp only [List.mem_append, List.mem_singleton,
          not_or]
        exact ⟨ht, fun hEq => hc hEq.symm⟩

/- Pieces of a terminated part are not affected by a suffix. -/
theorem pieces_append_of_terminated
    {b : Bytes}
    (hb : Terminated b)
    (c : Bytes) :
    pieces (b ++ c) = pieces b ++ pieces c := by
  -- induction on the length: each step removes one line
  induction hLength : b.length using Nat.strong_induction_on
    generalizing b with
  | _ n ih =>
      by_cases hMem : (10 : UInt8) ∈ b
      · rcases List.eq_append_cons_of_mem hMem with
          ⟨l, rest, hSplit, hl⟩
        have hRest : Terminated rest := by
          rcases hb with hNil | hLast
          · simp [hNil] at hMem
          · rw [hSplit, List.getLast?_append] at hLast
            cases rest with
            | nil => exact terminated_nil
            | cons d rest =>
                right
                simpa using hLast
        have hShorter : rest.length < n := by
          rw [← hLength, hSplit]
          simp
          omega
        rw [hSplit, List.append_assoc, List.cons_append,
          pieces_line_append hl, pieces_line_append hl,
          ih rest.length hShorter hRest rfl,
          List.cons_append]
      · rcases hb with hNil | hLast
        · simp [hNil]
        · exact (hMem (List.mem_of_getLast? hLast)).elim

theorem lines_append_of_terminated
    {b : Bytes}
    (hb : Terminated b)
    (c : Bytes) :
    lines (b ++ c) = lines b ++ lines c := by
  simp [lines, pieces_append_of_terminated hb]

/- An open line is read as it stands. -/
theorem lines_of_not_mem
    {t : Bytes}
    (ht : 10 ∉ t)
    (hNe : t ≠ []) :
    lines t = [t] := by
  have hLast : t.getLast? ≠ some 10 := by
    intro hEq
    exact ht (List.mem_of_getLast? hEq)
  simp [lines, pieces_of_not_mem ht hNe, chomp, hLast]

/- Terminating a line that ends in no carriage return. -/
theorem lines_terminate_append
    {l : Bytes}
    (hl : 10 ∉ l)
    (hReturn : l.getLast? ≠ some 13)
    (b : Bytes) :
    lines (l ++ 10 :: b) = l :: lines b := by
  simp [lines, pieces_line_append hl, chomp, hReturn]

theorem Terminated.append
    {b c : Bytes}
    (hb : Terminated b)
    (hc : Terminated c) :
    Terminated (b ++ c) := by
  rcases hc with rfl | hLast
  · simpa using hb
  · right
    simp [List.getLast?_append, hLast]

end Lines

end UnidppArchive

------------------------------------------------------------
-- Lines of Text
------------------------------------------------------------

namespace UnidppArchive

namespace Lines

/- A terminated text line as it is read. -/
def readText
    (s : String) : String :=
  if s.toList.getLast? = some '\r' then
    String.ofList s.toList.dropLast
  else
    s

theorem chomp_append_newline
    (b : Bytes) :
    chomp (b ++ [10]) =
      if b.getLast? = some 13 then b.dropLast else b := by
  simp [chomp]

/- Only the last character can end in a carriage return. -/
theorem chomp_encode
    (s : String) :
    chomp (Utf8.encode s ++ [10]) =
      Utf8.encode (readText s) := by
  rw [chomp_append_newline]
  unfold readText Utf8.encode
  rcases List.eq_nil_or_concat s.toList with
    hNil | ⟨front, c, hConcat⟩
  · simp [hNil]
  · rw [hConcat, List.concat_eq_append,
      Utf8.encodeChars_append, Utf8.encodeChars_cons,
      Utf8.encodeChars_nil, List.append_nil,
      List.getLast?_concat]
    by_cases hReturn : c = '\r'
    · have hByte : String.utf8EncodeChar '\r' = [13] := by
        decide
      subst hReturn
      simp [hByte]
    · have hLast :
          (Utf8.encodeChars front ++
              String.utf8EncodeChar c).getLast? ≠ some 13 := by
        intro hEq
        have hSome : String.utf8EncodeChar c ≠ [] :=
          String.utf8EncodeChar_ne_nil
        rw [List.getLast?_append_of_ne_nil _ hSome] at hEq
        have hCode : c.toNat = (13 : UInt8).toNat :=
          Utf8.toNat_of_ascii_mem (by decide)
            (List.mem_of_getLast? hEq)
        apply hReturn
        apply Char.toNat_inj.mp
        rw [hCode]
        rfl
      rw [if_neg hLast, if_neg (by simpa using hReturn),
        hConcat, List.concat_eq_append]
      simp

/- A text without newlines is one line when terminated. -/
theorem lines_text_append
    {s : String}
    (hs : '\n' ∉ s.toList)
    (b : Bytes) :
    lines (Utf8.encode s ++ 10 :: b) =
      Utf8.encode (readText s) :: lines b := by
  have hLine : (10 : UInt8) ∉ Utf8.encode s := by
    intro hMem
    rcases Utf8.exists_of_ascii_mem_encode (by decide) hMem
      with ⟨c, hc, hCode⟩
    apply hs
    have hNewline : c = '\n' := by
      apply Char.toNat_inj.mp
      rw [hCode]
      rfl
    rwa [hNewline] at hc
  rw [lines, pieces_line_append hLine, List.map_cons,
    chomp_encode, lines]

end Lines

end UnidppArchive
