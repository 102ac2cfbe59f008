import Mathlib.Data.List.Basic
import Mathlib.Tactic.Common

/-
  Reading a list page by page.

  A reader that goes on where its last page ended collects a
  list that grows meanwhile, in order and without gaps.  One
  that takes strides of a fixed length finds the whole only
  if a page is as long as a stride, or one page is enough.

  Key definitions include:
    * `Paging.window`
    * `Paging.strides`

  Key theorems include:
    * `Paging.prefix_append_window`
    * `Paging.eq_of_window_nil`
    * `Paging.strides_eq_iff`
-/

------------------------------------------------------------
-- Windows
------------------------------------------------------------

namespace UnidppArchive

namespace Paging

variable {α β : Type}

/- At most so many elements from an offset on. -/
def window
    (limit offset : Nat)
    (xs : List α) : List α :=
  (xs.drop offset).take limit

variable {limit offset : Nat}
variable {xs got : List α}

theorem length_window :
    (window limit offset xs).length =
      min limit (xs.length - offset) := by
  rw [window, List.length_take, List.length_drop]

theorem map_window
    (f : α → β)
    (limit offset : Nat)
    (xs : List α) :
    (window limit offset xs).map f =
      window limit offset (xs.map f) := by
  rw [window, List.map_take, List.map_drop, window]

/- What was read and the next page are read so far. -/
theorem prefix_append_window
    (h : got <+: xs)
    (limit : Nat) :
    got ++ window limit got.length xs <+: xs := by
  have hGot : got = xs.take got.length :=
    List.prefix_iff_eq_take.mp h
  have hBoth :
      got ++ window limit got.length xs =
        xs.take (got.length + limit) := by
    rw [List.take_add, ← hGot, window]
  rw [hBoth]
  exact List.take_prefix _ _

/- After an empty page nothing is left. -/
theorem eq_of_window_nil
    (h : got <+: xs)
    (hLimit : 0 < limit)
    (hPage : window limit got.length xs = []) :
    got = xs := by
  have hLength := congrArg List.length hPage
  rw [length_window, List.length_nil] at hLength
  apply h.eq_of_length_le
  omega

end Paging

end UnidppArchive

------------------------------------------------------------
-- Strides
------------------------------------------------------------

namespace UnidppArchive

namespace Paging

variable {α : Type}

/- Pages at the multiples of a stride. -/
def strides
    (limit stride : Nat) :
    Nat → Nat → List α → List α
| 0, _, _ => []
| rounds + 1, offset, xs =>
    window limit offset xs ++
      strides limit stride rounds (offset + stride) xs

variable {limit stride rounds offset : Nat}
variable {xs : List α}

/- The pages one after the other. -/
theorem strides_eq_flatMap
    (limit stride rounds offset : Nat)
    (xs : List α) :
    strides limit stride rounds offset xs =
      (List.range rounds).flatMap
        (fun k => window limit (offset + k * stride) xs) := by
  induction rounds generalizing offset with
  | zero => rfl
  | succ rounds ih =>
      rw [strides, ih, List.range_succ_eq_map,
        List.flatMap_cons, List.flatMap_map, Nat.zero_mul,
        Nat.add_zero]
      congr 2
      funext k
      rw [Nat.succ_mul, Nat.add_assoc, Nat.add_comm stride]

/- The pages have no more than there is. -/
theorem length_strides_le
    (hLimit : limit ≤ stride) :
    (strides limit stride rounds offset xs).length ≤
      xs.length - offset := by
  induction rounds generalizing offset with
  | zero => exact Nat.zero_le _
  | succ rounds ih =>
      have hRest := @ih (offset + stride)
      rw [strides, List.length_append, length_window]
      omega

/- Pages as long as the strides are all that there is. -/
theorem strides_self
    (hRounds : xs.length ≤ offset + rounds * stride) :
    strides stride stride rounds offset xs =
      xs.drop offset := by
  induction rounds generalizing offset with
  | zero =>
      rw [strides, List.drop_of_length_le (by omega)]
  | succ rounds ih =>
      have hRest :
          xs.length ≤ offset + stride + rounds * stride := by
        rw [Nat.succ_mul] at hRounds
        omega
      rw [strides, ih hRest, window, ← List.drop_drop,
        List.take_append_drop]

/- Behind the end there are empty pages. -/
theorem strides_of_length_le
    (h : xs.length ≤ offset) :
    strides limit stride rounds offset xs = [] := by
  induction rounds generalizing offset with
  | zero => rfl
  | succ rounds ih =>
      rw [strides, window, List.drop_of_length_le h,
        List.take_nil, List.nil_append]
      exact ih (by omega)

/-
  Strides from the start find the whole exactly if the pages
  are as long, or the first page is the whole.
-/
theorem strides_eq_iff
    (hLe : limit ≤ stride)
    (hRounds : xs.length ≤ rounds * stride) :
    strides limit stride rounds 0 xs = xs ↔
      limit = stride ∨ xs.length ≤ limit := by
  constructor
  · intro hWhole
    by_contra hShort
    rw [not_or, Nat.not_le] at hShort
    cases rounds with
    | zero => omega
    | succ rounds =>
        have hLength := congrArg List.length hWhole
        have hRest :
            (strides limit stride rounds (0 + stride)
                xs).length ≤
              xs.length - (0 + stride) :=
          length_strides_le hLe
        rw [strides, List.length_append, length_window]
          at hLength
        omega
  · rintro (rfl | hFirst)
    · rw [strides_self (by omega), List.drop_zero]
    · cases rounds with
      | zero =>
          have hNone : xs = [] :=
            List.length_eq_zero_iff.mp (by omega)
          rw [hNone]
          rfl
      | succ rounds =>
          rw [strides, strides_of_length_le (by omega), window,
            List.drop_zero, List.take_of_length_le hFirst,
            List.append_nil]

end Paging

end UnidppArchive
