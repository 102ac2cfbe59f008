import UnidppArchive.Foundations.Fallible
import UnidppArchive.Foundations.Utf8
import Mathlib.Algebra.Order.Ring.Int

/-
  Computations that may panic.

  A step returns, refuses its input with an error, or
  panics: at an index or a slice that is out of bounds, or
  at a sum that leaves the machine word.

  Key definitions include:
    * `Fault`
    * `Checked`
    * `Checked.index`
    * `Checked.slice`
    * `Checked.add`
    * `Checked.i64`
    * `Checked.Keeps`

  Key theorems include:
    * `Checked.Keeps.bind`
-/

------------------------------------------------------------
-- Faults
------------------------------------------------------------

namespace UnidppArchive

/- Why a step did not return. -/
inductive Fault
    (ε : Type) where
  | refused (e : ε)
  | panicked
  deriving DecidableEq

abbrev Checked
    (ε α : Type) : Type :=
  Except (Fault ε) α

namespace Checked

variable {ε α : Type}

/- `ok_or` before a question mark. -/
def orRefuse
    (o : Option α)
    (e : ε) : Checked ε α :=
  match o with
  | some a => .ok a
  | none => .error (.refused e)

/- `xs[i]`. -/
def index
    (xs : List α)
    (i : Nat) : Checked ε α :=
  match xs[i]? with
  | some a => .ok a
  | none => .error .panicked

/- `&xs[lo..hi]`. -/
def slice
    (xs : List α)
    (lo hi : Nat) : Checked ε (List α) :=
  if lo ≤ hi ∧ hi ≤ xs.length then
    .ok ((xs.drop lo).take (hi - lo))
  else
    .error .panicked

/- `m + n` in a machine word of the given width. -/
def add
    (width m n : Nat) : Checked ε Nat :=
  if m + n < 2 ^ width then
    .ok (m + n)
  else
    .error .panicked

/- A result of arithmetic in a signed 64-bit word. -/
def i64
    (n : Int) : Checked ε Int :=
  if -2 ^ 63 ≤ n ∧ n < 2 ^ 63 then
    .ok n
  else
    .error .panicked

/- `?` on a result without panics. -/
def ofExcept
    (r : Except ε α) : Checked ε α :=
  match r with
  | .ok a => .ok a
  | .error e => .error (.refused e)

end Checked

end UnidppArchive

------------------------------------------------------------
-- Steps in Bounds
------------------------------------------------------------

namespace UnidppArchive

namespace Checked

variable {ε α : Type}

@[simp] theorem orRefuse_some
    (a : α)
    (e : ε) :
    orRefuse (some a) e = .ok a := by
  rfl

@[simp] theorem orRefuse_none
    (e : ε) :
    orRefuse (none : Option α) e = .error (.refused e) := by
  rfl

theorem orRefuse_eq_ok_iff
    {o : Option α}
    {e : ε}
    {a : α} :
    orRefuse o e = .ok a ↔ o = some a := by
  cases o <;> simp [orRefuse]

theorem slice_eq_ok_iff
    {xs ys : List α}
    {lo hi : Nat} :
    (slice xs lo hi : Checked ε (List α)) = .ok ys ↔
      (lo ≤ hi ∧ hi ≤ xs.length) ∧
        ys = (xs.drop lo).take (hi - lo) := by
  unfold slice
  split
  · rename_i hBounds
    simp [hBounds, eq_comm]
  · rename_i hBounds
    simp [hBounds]

theorem add_eq_ok_iff
    {width m n k : Nat} :
    (add width m n : Checked ε Nat) = .ok k ↔
      m + n < 2 ^ width ∧ k = m + n := by
  unfold add
  split
  · rename_i hFits
    simp [hFits, eq_comm]
  · rename_i hWraps
    simp [hWraps]

theorem orRefuse_ne_panicked
    (o : Option α)
    (e : ε) :
    orRefuse o e ≠ .error .panicked := by
  cases o <;> simp [orRefuse]

theorem index_of_lt
    {xs : List α}
    {i : Nat}
    (h : i < xs.length)
    (a : α) :
    (index xs i : Checked ε α) = .ok (xs.getD i a) := by
  simp [index, h, List.getD_eq_getElem?_getD]

theorem slice_of_le
    {xs : List α}
    {lo hi : Nat}
    (hOrder : lo ≤ hi)
    (hBound : hi ≤ xs.length) :
    (slice xs lo hi : Checked ε (List α)) =
      .ok ((xs.drop lo).take (hi - lo)) :=
  if_pos ⟨hOrder, hBound⟩

theorem add_of_lt
    {width m n : Nat}
    (h : m + n < 2 ^ width) :
    (add width m n : Checked ε Nat) = .ok (m + n) :=
  if_pos h

theorem i64_of_fits
    {n : Int}
    (hLow : -2 ^ 63 ≤ n)
    (hHigh : n < 2 ^ 63) :
    (i64 n : Checked ε Int) = .ok n :=
  if_pos ⟨hLow, hHigh⟩

@[simp] theorem ofExcept_ok
    (a : α) :
    ofExcept (.ok a : Except ε α) = .ok a := by
  rfl

@[simp] theorem ofExcept_error
    (e : ε) :
    ofExcept (.error e : Except ε α) = .error (.refused e) := by
  rfl

theorem ofExcept_eq_ok_iff
    {r : Except ε α}
    {a : α} :
    ofExcept r = .ok a ↔ r = .ok a := by
  cases r <;> simp

theorem ofExcept_ne_panicked
    (r : Except ε α) :
    ofExcept r ≠ .error .panicked := by
  cases r <;> simp

theorem add_of_le
    {width m n : Nat}
    (h : 2 ^ width ≤ m + n) :
    (add width m n : Checked ε Nat) = .error .panicked :=
  if_neg (not_lt.mpr h)

end Checked

end UnidppArchive

------------------------------------------------------------
-- Retried Steps
------------------------------------------------------------

namespace UnidppArchive

namespace Checked

variable {ε α β : Type}

/-
  A step that is tried again with more input does the same,
  unless it was refused.
-/
def Keeps
    (r r' : Checked ε α) : Prop :=
  r' = r ∨ ∃ e, r = .error (.refused e)

/- What a caller has who goes on after a refusal. -/
def settled
    {ε' : Type} :
    Checked ε α → Option (Checked ε' α)
| .ok a => some (.ok a)
| .error .panicked => some (.error .panicked)
| .error (.refused _) => none

namespace Keeps

theorem refl
    (r : Checked ε α) :
    Keeps r r :=
  Or.inl rfl

theorem refused
    (e : ε)
    (r : Checked ε α) :
    Keeps (.error (.refused e)) r :=
  Or.inr ⟨e, rfl⟩

theorem bind
    {r r' : Checked ε α}
    {f f' : α → Checked ε β}
    (h : Keeps r r')
    (hf : ∀ a, r = .ok a → Keeps (f a) (f' a)) :
    Keeps (r >>= f) (r' >>= f') := by
  rcases h with rfl | ⟨e, rfl⟩
  · cases r' with
    | error e => exact Or.inl rfl
    | ok a => exact hf a rfl
  · exact Or.inr ⟨e, rfl⟩

theorem orRefuse
    {o o' : Option α}
    {e : ε}
    (h : ∀ a, o = some a → o' = some a) :
    Keeps (Checked.orRefuse o e) (Checked.orRefuse o' e) := by
  cases o with
  | none => exact refused e _
  | some a =>
      rw [h a rfl]
      exact refl _

/- A slice of what was there is not changed. -/
theorem slice
    {xs : List α}
    {lo hi : Nat}
    (hBound : hi ≤ xs.length)
    (ys : List α) :
    Keeps (Checked.slice xs lo hi : Checked ε (List α))
      (Checked.slice (xs ++ ys) lo hi) := by
  left
  by_cases hOrder : lo ≤ hi
  · rw [slice_of_le hOrder hBound,
      slice_of_le hOrder
        (by rw [List.length_append]; omega),
      List.drop_append_of_le_length (by omega),
      List.take_append_of_le_length
        (by rw [List.length_drop]; omega)]
  · unfold Checked.slice
    rw [if_neg (fun h => hOrder h.1),
      if_neg (fun h => hOrder h.1)]

theorem settled
    {ε' : Type}
    {r r' : Checked ε α}
    {a : Checked ε' α}
    (h : Keeps r r')
    (hSettled : Checked.settled r = some a) :
    Checked.settled r' = some a := by
  rcases h with rfl | ⟨e, rfl⟩
  · exact hSettled
  · cases hSettled

end Keeps

end Checked

end UnidppArchive
