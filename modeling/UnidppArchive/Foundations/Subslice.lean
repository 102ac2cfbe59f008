import Mathlib.Data.List.Infix
import Mathlib.Tactic.Common

/-
  The first place where a slice occurs in another.

  A place that is found is found again when more is appended
  behind, which is what a reader relies on that searches a
  growing buffer.

  Key definitions include:
    * `findSubslice`
    * `FirstAt`

  Key theorems include:
    * `findSubslice_eq_some_iff`
    * `findSubslice_append`
    * `findSubslice_of_not_mem`
-/

------------------------------------------------------------
-- Searching
------------------------------------------------------------

namespace UnidppArchive

variable {α : Type}

/- `windows(needle.len()).position(|w| w == needle)`. -/
def findSubslice
    [DecidableEq α]
    (needle : List α) :
    List α → Option Nat
| [] => none
| x :: xs =>
    if needle <+: x :: xs then
      some 0
    else
      (findSubslice needle xs).map (· + 1)

/- The needle stands at this place and at none before. -/
structure FirstAt
    (needle xs : List α)
    (i : Nat) : Prop where
  here : needle <+: xs.drop i
  first : ∀ j < i, ¬ needle <+: xs.drop j

namespace FirstAt

variable {needle xs : List α}
variable {i : Nat}

/- What stands before, and what stands behind. -/
theorem exists_split
    (h : FirstAt needle xs i)
    (hi : i ≤ xs.length) :
    ∃ rest, xs = xs.take i ++ needle ++ rest ∧
      (xs.take i).length = i := by
  rcases h.here with ⟨rest, hRest⟩
  refine ⟨rest, ?_, List.length_take_of_le hi⟩
  rw [List.append_assoc, hRest, List.take_append_drop]

theorem unique
    {j : Nat}
    (hi : FirstAt needle xs i)
    (hj : FirstAt needle xs j) :
    i = j := by
  rcases Nat.lt_trichotomy i j with hLt | hEq | hGt
  · exact (hj.first i hLt hi.here).elim
  · exact hEq
  · exact (hi.first j hGt hj.here).elim

/- Nothing that is appended behind comes first. -/
theorem append
    (h : FirstAt needle xs i)
    (ys : List α) :
    FirstAt needle (xs ++ ys) i := by
  have hLength := h.here.length_le
  rw [List.length_drop] at hLength
  constructor
  · by_cases hi : i ≤ xs.length
    · rw [List.drop_append_of_le_length hi]
      exact h.here.trans (List.prefix_append _ _)
    · have hNil : needle = [] := by
        apply List.eq_nil_of_length_eq_zero
        omega
      rw [hNil]
      exact List.nil_prefix
  · intro j hj hHere
    have hBefore : needle.length ≤ (xs.drop j).length := by
      rw [List.length_drop]
      omega
    rw [List.drop_append] at hHere
    exact h.first j hj
      (List.prefix_of_prefix_length_le hHere
        (List.prefix_append _ _) hBefore)

/- It stands there in every part that it lies inside of. -/
theorem of_append
    {ys : List α}
    (h : FirstAt needle (xs ++ ys) i)
    (hInside : i + needle.length ≤ xs.length) :
    FirstAt needle xs i := by
  constructor
  · have hHere := h.here
    rw [List.drop_append_of_le_length (by omega)] at hHere
    apply List.prefix_of_prefix_length_le hHere
      (List.prefix_append _ _)
    rw [List.length_drop]
    omega
  · intro j hj hEarlier
    apply h.first j hj
    rw [List.drop_append_of_le_length (by omega)]
    exact hEarlier.trans (List.prefix_append _ _)

end FirstAt

end UnidppArchive

------------------------------------------------------------
-- What Is Found
------------------------------------------------------------

namespace UnidppArchive

variable {α : Type} [DecidableEq α]
variable {needle xs : List α}
variable {i : Nat}

theorem findSubslice_eq_some_iff
    (hNeedle : needle ≠ []) :
    findSubslice needle xs = some i ↔ FirstAt needle xs i := by
  induction xs generalizing i with
  | nil =>
      simp only [findSubslice, reduceCtorEq, false_iff]
      intro h
      have hHere := h.here
      rw [List.drop_nil, List.prefix_nil] at hHere
      exact hNeedle hHere
  | cons x xs ih =>
      unfold findSubslice
      split
      · rename_i hHere
        have hFirst : FirstAt needle (x :: xs) 0 :=
          ⟨hHere, fun j hj => absurd hj (Nat.not_lt_zero j)⟩
        rw [Option.some.injEq]
        constructor
        · rintro rfl
          exact hFirst
        · exact hFirst.unique
      · rename_i hHere
        cases i with
        | zero =>
            constructor
            · intro h
              rcases Option.map_eq_some_iff.mp h with
                ⟨j, -, hj⟩
              omega
            · intro h
              exact (hHere h.here).elim
        | succ i =>
            have hShift :
                FirstAt needle (x :: xs) (i + 1) ↔
                  FirstAt needle xs i := by
              constructor
              · intro h
                exact ⟨h.here,
                  fun j hj => h.first (j + 1) (by omega)⟩
              · intro h
                refine ⟨h.here, ?_⟩
                intro j hj
                cases j with
                | zero => exact hHere
                | succ j => exact h.first j (by omega)
            rw [hShift, ← ih]
            simp

/- The slice that is found lies inside. -/
theorem le_of_findSubslice
    (hNeedle : needle ≠ [])
    (h : findSubslice needle xs = some i) :
    i + needle.length ≤ xs.length := by
  have hFirst := (findSubslice_eq_some_iff hNeedle).mp h
  have hLength := hFirst.here.length_le
  have hPos := List.length_pos_of_ne_nil hNeedle
  rw [List.length_drop] at hLength
  omega

theorem findSubslice_append
    (hNeedle : needle ≠ [])
    (h : findSubslice needle xs = some i)
    (ys : List α) :
    findSubslice needle (xs ++ ys) = some i := by
  rw [findSubslice_eq_some_iff hNeedle] at h ⊢
  exact h.append ys

/- A slice stands first where its first element does. -/
theorem findSubslice_of_not_mem
    {c : α}
    {cs front : List α}
    (hNotMem : c ∉ front)
    (back : List α) :
    findSubslice (c :: cs) (front ++ (c :: cs ++ back)) =
      some front.length := by
  rw [findSubslice_eq_some_iff (List.cons_ne_nil c cs)]
  constructor
  · rw [List.drop_left]
    exact List.prefix_append _ _
  · intro j hj hHere
    have hHead :
        (front ++ (c :: cs ++ back))[j]? = some c := by
      rcases hHere with ⟨rest, hRest⟩
      rw [← List.head?_drop, ← hRest]
      rfl
    rw [List.getElem?_append_left hj] at hHead
    exact hNotMem (List.mem_of_getElem? hHead)

end UnidppArchive
