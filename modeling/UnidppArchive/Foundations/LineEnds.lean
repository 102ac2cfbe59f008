import UnidppArchive.Foundations.Subslice
import UnidppArchive.Foundations.Text

/-
  Blocks of lines.

  A block is lines, each with a line end of two symbols, and
  an empty line.  The first empty line ends the block, and
  the lines are read back, exactly if no line has a line end
  in it.

  Key definitions include:
    * `block`

  Key theorems include:
    * `firstAt_block`
    * `infix_append_cons_iff`
    * `Utf8.lineEnd_of_encodeChars`
    * `Text.splitLineEnds_block_iff`
-/

------------------------------------------------------------
-- Line Ends
------------------------------------------------------------

namespace UnidppArchive

variable {α : Type}
variable {a b : α}

/- Lines with their ends, and an empty line. -/
def block
    (eol : List α) :
    List (List α) → List α
| [] => eol
| l :: ls => l ++ eol ++ block eol ls

/- A symbol that is in no line end cuts none. -/
theorem infix_append_cons_iff
    {c : α}
    (ha : c ≠ a)
    (hb : c ≠ b)
    {xs ys : List α} :
    [a, b] <:+: xs ++ c :: ys ↔
      [a, b] <:+: xs ∨ [a, b] <:+: ys := by
  induction xs with
  | nil =>
      rw [List.nil_append, List.infix_cons_iff,
        List.cons_prefix_cons]
      simp [ha.symm]
  | cons x xs ih =>
      rw [List.cons_append, List.infix_cons_iff, ih,
        List.infix_cons_iff, List.cons_prefix_cons,
        List.cons_prefix_cons]
      cases xs with
      | nil =>
          simp [List.cons_prefix_cons, hb.symm]
      | cons y xs =>
          simp only [List.cons_append, List.cons_prefix_cons,
            List.nil_prefix, and_true, or_assoc]

theorem infix_cons_iff_of_ne
    {c : α}
    (ha : c ≠ a)
    (hb : c ≠ b)
    {xs : List α} :
    [a, b] <:+: c :: xs ↔ [a, b] <:+: xs := by
  have hCut : [a, b] <:+: [] ++ c :: xs ↔ _ :=
    infix_append_cons_iff ha hb
  rw [List.nil_append] at hCut
  rw [hCut, List.infix_nil]
  simp

theorem infix_append_replicate_iff
    {c : α}
    (ha : c ≠ a)
    (hb : c ≠ b)
    (xs : List α)
    (n : Nat) :
    [a, b] <:+: xs ++ List.replicate n c ↔ [a, b] <:+: xs := by
  induction n with
  | zero => simp
  | succ n ih =>
      rw [List.replicate_succ', ← List.append_assoc,
        infix_append_cons_iff ha hb, ih, List.infix_nil]
      simp

/- A list without the first symbol has no line end. -/
theorem not_infix_of_not_mem
    {xs : List α}
    (h : a ∉ xs) :
    ¬ [a, b] <:+: xs := by
  rintro ⟨front, back, rfl⟩
  exact h (by simp)

/- A line end stands first behind a line without one. -/
theorem eq_length_of_prefix_drop
    (hab : a ≠ b)
    {l rest : List α}
    (h : ¬ [a, b] <:+: l)
    {j : Nat}
    (hj : j ≤ l.length)
    (hHere : [a, b] <+: (l ++ a :: b :: rest).drop j) :
    j = l.length := by
  by_contra hNe
  have hLt : j < l.length := by omega
  rw [List.drop_append_of_le_length (by omega),
    List.drop_eq_getElem_cons hLt] at hHere
  cases hDrop : l.drop (j + 1) with
  | nil =>
      rw [hDrop] at hHere
      simp only [List.cons_append, List.nil_append,
        List.cons_prefix_cons] at hHere
      exact hab hHere.2.1.symm
  | cons c cs =>
      rw [hDrop] at hHere
      simp only [List.cons_append, List.cons_prefix_cons,
        List.nil_prefix, and_true] at hHere
      apply h
      have hTail : l.drop j = a :: b :: cs := by
        rw [List.drop_eq_getElem_cons hLt, hDrop, ← hHere.1,
          ← hHere.2]
      have hInfix : [a, b] <:+: l.drop j := by
        rw [hTail]
        exact ⟨[], cs, rfl⟩
      exact hInfix.trans (List.drop_suffix j l).isInfix

/- The block of some lines is longer than two line ends. -/
theorem length_block_cons
    (l : List α)
    (ls : List (List α)) :
    (block [a, b] (l :: ls)).length =
      l.length + 2 + (block [a, b] ls).length := by
  simp [block]
  omega

/- A block whose first line is one does not start with an end. -/
theorem not_prefix_block
    (hab : a ≠ b)
    {m : List α}
    {ls : List (List α)}
    (hLine : m ≠ [] ∧ ¬ [a, b] <:+: m)
    (rest : List α) :
    ¬ [a, b] <+: block [a, b] (m :: ls) ++ rest := by
  intro hHere
  have hText :
      block [a, b] (m :: ls) ++ rest =
        m ++ a :: b :: (block [a, b] ls ++ rest) := by
    simp [block]
  have hStart :
      [a, b] <+:
        (m ++ a :: b :: (block [a, b] ls ++ rest)).drop 0 := by
    rw [List.drop_zero, ← hText]
    exact hHere
  have hZero :=
    eq_length_of_prefix_drop hab hLine.2 (Nat.zero_le _) hStart
  exact hLine.1 (List.eq_nil_of_length_eq_zero hZero.symm)

/-
  A line in front of a text puts the first empty line off, if
  the text does not start with a line end.
-/
theorem firstAt_behind_line
    (hab : a ≠ b)
    {l more : List α}
    {i : Nat}
    (hLine : ¬ [a, b] <:+: l)
    (hStart : ¬ [a, b] <+: more)
    (hFirst : FirstAt [a, b, a, b] more i) :
    FirstAt [a, b, a, b] (l ++ a :: b :: more)
      (l.length + 2 + i) := by
  have hShift (k : Nat) :
      (l ++ a :: b :: more).drop (l.length + 2 + k) =
        more.drop k := by
    rw [Nat.add_assoc, ← List.drop_drop, List.drop_left,
      Nat.add_comm]
    rfl
  constructor
  · rw [hShift]
    exact hFirst.here
  · intro j hj hHere
    have hHalf : [a, b] <+: [a, b, a, b] := ⟨[a, b], rfl⟩
    have hEnd := hHalf.trans hHere
    rcases Nat.lt_or_ge l.length j with hBehind | hBefore
    · rcases Nat.eq_or_lt_of_le hBehind with hNext | hLater
      · -- the second symbol of the line end is no first one
        subst hNext
        have hDrop :
            (l ++ a :: b :: more).drop (l.length + 1) =
              b :: more := by
          rw [← List.drop_drop, List.drop_left]
          rfl
        rw [Nat.succ_eq_add_one, hDrop,
          List.cons_prefix_cons] at hEnd
        exact hab hEnd.1
      · apply hFirst.first (j - (l.length + 2)) (by omega)
        rw [← hShift]
        have hPlace :
            l.length + 2 + (j - (l.length + 2)) = j := by
          omega
        rw [hPlace]
        exact hHere
    · have hEq :=
        eq_length_of_prefix_drop hab hLine hBefore hEnd
      subst hEq
      rw [List.drop_left] at hHere
      simp only [List.cons_prefix_cons, true_and] at hHere
      exact hStart hHere

/-
  The first empty line ends a block.  The induction is on
  the lines; a line end is found before only inside of one.
-/
theorem firstAt_block
    (hab : a ≠ b)
    {l : List α}
    {ls : List (List α)}
    (hLines : ∀ x ∈ l :: ls, x ≠ [] ∧ ¬ [a, b] <:+: x)
    (rest : List α) :
    ∃ i,
      (block [a, b] (l :: ls)).length = i + 4 ∧
        FirstAt [a, b, a, b] (block [a, b] (l :: ls) ++ rest)
          i := by
  induction ls generalizing l with
  | nil =>
      have hText :
          block [a, b] [l] ++ rest =
            l ++ a :: b :: a :: b :: rest := by
        simp [block]
      refine ⟨l.length, by simp [block], ?_⟩
      rw [hText]
      constructor
      · rw [List.drop_left]
        exact ⟨rest, rfl⟩
      · intro j hj hHere
        have hEnd : [a, b] <+: (l ++ a :: b :: a :: b ::
            rest).drop j :=
          List.IsPrefix.trans ⟨[a, b], rfl⟩ hHere
        have hEq :=
          eq_length_of_prefix_drop hab
            (hLines l (by simp)).2 (by omega) hEnd
        omega
  | cons m ls ih =>
      have hRest :
          ∀ x ∈ m :: ls, x ≠ [] ∧ ¬ [a, b] <:+: x :=
        fun x hx => hLines x (List.mem_cons_of_mem l hx)
      rcases ih hRest with ⟨i, hLength, hFirst⟩
      have hText :
          block [a, b] (l :: m :: ls) ++ rest =
            l ++ a :: b :: (block [a, b] (m :: ls) ++ rest) := by
        simp [block]
      refine ⟨l.length + 2 + i, ?_, ?_⟩
      · rw [length_block_cons, hLength]
        omega
      · rw [hText]
        exact firstAt_behind_line hab (hLines l (by simp)).2
          (not_prefix_block hab (hLines m (by simp)) rest)
          hFirst

end UnidppArchive

------------------------------------------------------------
-- Splitting Blocks
------------------------------------------------------------

namespace UnidppArchive

namespace Text

theorem splitLineEnds_ne_nil
    (cs : List Char) :
    splitLineEnds cs ≠ [] := by
  fun_induction splitLineEnds cs with
  | case1 => simp
  | case2 cs ih => simp
  | case3 c cs hNot ih => simpa using ih

/- A line end cuts the text at itself. -/
theorem splitLineEnds_append
    (cs ds : List Char) :
    splitLineEnds (cs ++ '\r' :: '\n' :: ds) =
      splitLineEnds cs ++ splitLineEnds ds := by
  fun_induction splitLineEnds cs with
  | case1 => simp [splitLineEnds]
  | case2 cs ih =>
      rw [List.cons_append, List.cons_append, splitLineEnds, ih]
      rfl
  | case3 c cs hNot ih =>
      rw [List.cons_append, splitLineEnds, ih]
      · cases hPieces : splitLineEnds cs with
        | nil => exact absurd hPieces (splitLineEnds_ne_nil cs)
        | cons piece pieces => rfl
      · -- no line end reaches over the cut
        intro rest hc hRest
        cases cs with
        | nil => cases hRest
        | cons d cs =>
            simp only [List.cons_append, List.cons.injEq]
              at hRest
            exact hNot cs hc (by rw [hRest.1])

/- A text is one line exactly if it has no line end. -/
theorem splitLineEnds_eq_singleton_iff
    {cs : List Char} :
    splitLineEnds cs = [cs] ↔ ¬ ['\r', '\n'] <:+: cs := by
  constructor
  · rintro h ⟨front, back, rfl⟩
    have hCut := splitLineEnds_append front back
    have hSame :
        front ++ ['\r', '\n'] ++ back =
          front ++ '\r' :: '\n' :: back := by
      simp
    rw [hSame] at h
    rw [h] at hCut
    have hLength := congrArg List.length hCut
    have hFront :=
      List.length_pos_of_ne_nil (splitLineEnds_ne_nil front)
    have hBack :=
      List.length_pos_of_ne_nil (splitLineEnds_ne_nil back)
    rw [List.length_append, List.length_singleton] at hLength
    omega
  · intro h
    fun_induction splitLineEnds cs with
    | case1 => rfl
    | case2 cs ih => exact absurd ⟨[], cs, rfl⟩ h
    | case3 c cs hNot ih =>
        rw [ih fun hInfix => h (hInfix.trans
          (List.suffix_cons c cs).isInfix)]
        rfl

theorem length_splitLineEnds_pos
    (cs : List Char) :
    1 ≤ (splitLineEnds cs).length :=
  List.length_pos_of_ne_nil (splitLineEnds_ne_nil cs)

theorem splitLineEnds_block
    (ls : List (List Char)) :
    splitLineEnds (block ['\r', '\n'] ls) =
      ls.flatMap splitLineEnds ++ [[], []] := by
  induction ls with
  | nil => rfl
  | cons l ls ih =>
      have hText :
          block ['\r', '\n'] (l :: ls) =
            l ++ '\r' :: '\n' :: block ['\r', '\n'] ls := by
        simp [block]
      rw [hText, splitLineEnds_append, ih, List.flatMap_cons,
        List.append_assoc]

/-
  The lines of a block are read back exactly if no line has
  a line end in it.
-/
theorem splitLineEnds_block_iff
    {ls : List (List Char)} :
    splitLineEnds (block ['\r', '\n'] ls) = ls ++ [[], []] ↔
      ∀ l ∈ ls, ¬ ['\r', '\n'] <:+: l := by
  rw [splitLineEnds_block, List.append_cancel_right_eq]
  constructor
  · intro h
    induction ls with
    | nil => simp
    | cons l ls ih =>
        rw [List.flatMap_cons] at h
        -- one line cannot be split, since the others are not joined
        have hMany (ms : List (List Char)) :
            ms.length ≤ (ms.flatMap splitLineEnds).length := by
          induction ms with
          | nil => simp
          | cons m ms ih =>
              have hPos := length_splitLineEnds_pos m
              simp only [List.flatMap_cons, List.length_cons,
                List.length_append]
              omega
        have hRest := hMany ls
        have hLength := congrArg List.length h
        have hPos := length_splitLineEnds_pos l
        rw [List.length_append, List.length_cons] at hLength
        have hOne : (splitLineEnds l).length = 1 := by omega
        rcases List.length_eq_one_iff.mp hOne with ⟨piece, hl⟩
        rw [hl] at h
        simp only [List.singleton_append, List.cons.injEq] at h
        rw [h.1] at hl
        intro x hx
        rcases List.mem_cons.mp hx with rfl | hMem
        · exact splitLineEnds_eq_singleton_iff.mp hl
        · exact ih h.2 x hMem
  · intro h
    induction ls with
    | nil => rfl
    | cons l ls ih =>
        rw [List.flatMap_cons,
          splitLineEnds_eq_singleton_iff.mpr (h l (by simp)),
          ih fun x hx => h x (by simp [hx])]
        rfl

end Text

end UnidppArchive

------------------------------------------------------------
-- The Octets of a Block
------------------------------------------------------------

namespace UnidppArchive

namespace Utf8

/- The first character is read off its octets. -/
theorem exists_cons_of_encodeChars
    {c : Char}
    {cs : List Char}
    {back : Bytes}
    (h : encodeChars cs = String.utf8EncodeChar c ++ back) :
    ∃ ds, cs = c :: ds ∧ encodeChars ds = back := by
  have hFront : encodeChars [c] = String.utf8EncodeChar c := by
    simp
  rw [← hFront] at h
  rcases encodeChars_prefix h with ⟨ds, rfl, rfl⟩
  exact ⟨ds, rfl, rfl⟩

/- Octets of a line end are a line end of the text. -/
theorem lineEnd_of_encodeChars
    {cs : List Char}
    (h : [13, 10] <:+: encodeChars cs) :
    ['\r', '\n'] <:+: cs := by
  rcases h with ⟨front, back, hBytes⟩
  have hSplit :
      encodeChars cs = front ++ 13 :: (10 :: back) := by
    rw [← hBytes]
    simp
  rcases exists_of_encodeChars_eq (by decide) hSplit with
    ⟨ds, rfl⟩
  rcases encodeChars_prefix hSplit with ⟨es, rfl, hEs⟩
  rcases exists_cons_of_encodeChars (c := '\r') hEs.symm with
    ⟨fs, rfl, hFs⟩
  rcases exists_cons_of_encodeChars (c := '\n') hFs with
    ⟨gs, rfl, -⟩
  exact ⟨ds, gs, by simp⟩

/- The octets of a block are the block of the octets. -/
theorem encodeChars_block
    (ls : List (List Char)) :
    encodeChars (block ['\r', '\n'] ls) =
      block [13, 10] (ls.map encodeChars) := by
  induction ls with
  | nil => rfl
  | cons l ls ih =>
      have hEnd : encodeChars ['\r', '\n'] = [13, 10] := rfl
      simp only [block, encodeChars_append, ih, hEnd,
        List.map_cons]

theorem encodeChars_ne_nil
    {cs : List Char}
    (h : cs ≠ []) :
    encodeChars cs ≠ [] := by
  cases cs with
  | nil => exact absurd rfl h
  | cons c cs =>
      have hPos := Char.utf8Size_pos c
      have hLength := String.length_utf8EncodeChar c
      rw [encodeChars_cons]
      intro hNil
      have hChar := (List.append_eq_nil_iff.mp hNil).1
      rw [hChar, List.length_nil] at hLength
      omega

end Utf8

end UnidppArchive
