import Mathlib.Tactic.Common

/-
  Steps that succeed with a value or fail with an error.

  Key definitions include:
    * `okOr`

  Key theorems include:
    * `bind_eq_ok_iff`
-/

------------------------------------------------------------
-- Fallible Steps
------------------------------------------------------------

namespace UnidppArchive

/- `ok_or`. -/
def okOr
    {α : Type}
    (o : Option α)
    (msg : String) : Except String α :=
  match o with
  | some a => .ok a
  | none => .error msg

@[simp] theorem okOr_some
    {α : Type}
    (a : α)
    (msg : String) :
    okOr (some a) msg = .ok a := by
  rfl

theorem okOr_eq_ok_iff
    {α : Type}
    {o : Option α}
    {msg : String}
    {a : α} :
    okOr o msg = .ok a ↔ o = some a := by
  cases o <;> simp [okOr]

theorem ok_bind
    {ε α β : Type}
    (a : α)
    (f : α → Except ε β) :
    (Except.ok a >>= f) = f a := by
  rfl

/- A sequence of fallible steps succeeds step by step. -/
theorem bind_eq_ok_iff
    {ε α β : Type}
    {x : Except ε α}
    {f : α → Except ε β}
    {b : β} :
    (x >>= f) = .ok b ↔ ∃ a, x = .ok a ∧ f a = .ok b := by
  cases x <;> simp [bind, Except.bind]

end UnidppArchive
