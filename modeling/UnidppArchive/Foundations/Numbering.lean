import Mathlib.Data.Int.ConditionallyCompleteOrder
import Mathlib.Data.Int.Interval
import Mathlib.Order.SuccPred.LinearLocallyFinite

/-
  Numbering an order by the integers.

  A numbering gives the next element the next number.  Where
  every element is reached from those before it in finitely
  many steps, a numbering is strictly increasing, and it is
  known from the number of one element.  If moreover some
  function finds an element for every number, that function
  is the inverse.

  Key definitions include:
    * `Numbering`
    * `Numbering.orderIso`

  Key theorems include:
    * `Numbering.strictMono`
    * `Numbering.eq_of_apply_eq`
    * `isSuccArchimedean_of_strictMono`
-/

------------------------------------------------------------
-- Numberings
------------------------------------------------------------

namespace UnidppArchive

variable {α : Type*}
variable [LinearOrder α] [SuccOrder α]

/- The next element has the next number. -/
def Numbering
    (f : α → Int) : Prop :=
  ∀ a, f (Order.succ a) = f a + 1

namespace Numbering

variable {f g : α → Int}

theorem iterate
    (h : Numbering f)
    (n : Nat)
    (a : α) :
    f (Order.succ^[n] a) = f a + n := by
  induction n with
  | zero => simp
  | succ n ih =>
      rw [Function.iterate_succ_apply', h, ih]
      push_cast
      omega

variable [IsSuccArchimedean α]

theorem strictMono
    (h : Numbering f) :
    StrictMono f := by
  apply strictMono_of_lt_succ
  intro a _
  rw [h a]
  omega

/- Numberings that agree somewhere agree everywhere. -/
theorem eq_of_apply_eq
    (hf : Numbering f)
    (hg : Numbering g)
    {a : α}
    (hStart : f a = g a) :
    f = g := by
  funext b
  rcases le_total a b with hBehind | hBefore
  · obtain ⟨n, rfl⟩ := hBehind.exists_succ_iterate
    rw [hf.iterate, hg.iterate, hStart]
  · obtain ⟨n, rfl⟩ := hBefore.exists_succ_iterate
    rw [hf.iterate, hg.iterate] at hStart
    omega

/- A numbering that leaves no number out is invertible. -/
noncomputable def orderIso
    (h : Numbering f)
    (element : Int → α)
    (hElement : Function.RightInverse element f) :
    α ≃o Int :=
  StrictMono.orderIsoOfRightInverse f h.strictMono element
    hElement

end Numbering

/- Steps into the integers are finitely many. -/
theorem isSuccArchimedean_of_strictMono
    {μ : α → Int}
    (h : StrictMono μ) :
    IsSuccArchimedean α := by
  let _ : LocallyFiniteOrder α :=
    (OrderEmbedding.ofStrictMono μ h).locallyFiniteOrder
  infer_instance

end UnidppArchive
