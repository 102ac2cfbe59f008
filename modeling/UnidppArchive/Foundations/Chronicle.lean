import Mathlib.Data.List.Basic
import Mathlib.Order.Lattice

/-
  Lists of entries with an instant each.

  Key definitions include:
    * `Chronicle.upTo`
    * `Chronicle.Chronological`

  Key theorems include:
    * `Chronicle.upTo_eq_nil_iff`
    * `Chronicle.Chronological.upTo_prefix`
-/

------------------------------------------------------------
-- Entries up to an Instant
------------------------------------------------------------

namespace UnidppArchive

namespace Chronicle

variable {α β : Type*} [LinearOrder β]

/- The entries up to an instant, in their order. -/
def upTo
    (instant : α → β)
    (t : β)
    (l : List α) : List α :=
  l.filter fun a => decide (instant a ≤ t)

/- No entry is before one that is ahead of it. -/
def Chronological
    (instant : α → β)
    (l : List α) : Prop :=
  l.Pairwise fun a b => instant a ≤ instant b

variable {instant : α → β}
variable {t : β}
variable {l l' : List α}

@[simp] theorem mem_upTo_iff
    {a : α} :
    a ∈ upTo instant t l ↔ a ∈ l ∧ instant a ≤ t := by
  simp [upTo]

theorem upTo_append :
    upTo instant t (l ++ l') =
      upTo instant t l ++ upTo instant t l' := by
  simp [upTo]

/- No entry is in the view when all are later. -/
theorem upTo_eq_nil_iff :
    upTo instant t l = [] ↔ ∀ a ∈ l, t < instant a := by
  simp [upTo]

theorem chronological_nil :
    Chronological instant [] :=
  List.Pairwise.nil

theorem Chronological.append
    (h : Chronological instant l)
    (h' : Chronological instant l')
    (hLater :
      ∀ a ∈ l, ∀ b ∈ l', instant a ≤ instant b) :
    Chronological instant (l ++ l') :=
  List.pairwise_append.mpr ⟨h, h', hLater⟩

theorem Chronological.sublist
    (h : Chronological instant l')
    (hSublist : l.Sublist l') :
    Chronological instant l :=
  List.Pairwise.sublist hSublist h

/- Entries of one instant. -/
theorem chronological_of_const
    (h : ∀ a ∈ l, instant a = t) :
    Chronological instant l := by
  apply List.pairwise_of_forall_mem_list
  intro a ha b hb
  rw [h a ha, h b hb]

/- The views of a chronicle are its prefixes. -/
theorem Chronological.upTo_prefix
    (h : Chronological instant l) :
    upTo instant t l <+: l := by
  induction l with
  | nil => exact List.prefix_refl []
  | cons a l ih =>
      rcases List.pairwise_cons.mp h with ⟨hFirst, hRest⟩
      by_cases hUpTo : instant a ≤ t
      · rw [upTo, List.filter_cons_of_pos (by simpa using hUpTo)]
        exact List.cons_prefix_cons.mpr ⟨rfl, ih hRest⟩
      · -- nothing behind a later entry is in the view
        have hNone : upTo instant t (a :: l) = [] := by
          apply upTo_eq_nil_iff.mpr
          intro b hb
          have hLater := not_le.mp hUpTo
          rcases List.mem_cons.mp hb with rfl | hMem
          · exact hLater
          · exact lt_of_lt_of_le hLater (hFirst b hMem)
        rw [hNone]
        exact List.nil_prefix

end Chronicle

end UnidppArchive
