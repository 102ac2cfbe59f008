import Mathlib.Logic.Function.Basic

/-
  Locks and the threads that hold them.

  Key definitions include:
    * `Guarded`

  Key theorems include:
    * `Guarded.keep`
    * `Guarded.acquire`
    * `Guarded.release`
-/

------------------------------------------------------------
-- Guarded States
------------------------------------------------------------

namespace UnidppArchive

/-
  The threads in a state of this kind are exactly the owner
  of the lock.
-/
def Guarded
    {Thread State : Type}
    (lock : Option Thread)
    (holds : State → Prop)
    (state : Thread → State) : Prop :=
  ∀ t, holds (state t) ↔ lock = some t

namespace Guarded

variable {Thread State : Type}
variable {lock : Option Thread}
variable {holds : State → Prop}
variable {state : Thread → State}
variable {t u : Thread}
variable {p : State}

theorem free
    (h : Guarded none holds state)
    (t : Thread) :
    ¬ holds (state t) := by
  intro hHolds
  cases (h t).mp hHolds

/- Two threads do not hold one lock. -/
theorem eq_of_holds
    (h : Guarded lock holds state)
    (ht : holds (state t))
    (hu : holds (state u)) :
    u = t := by
  have hOwner := (h t).mp ht
  rw [(h u).mp hu] at hOwner
  exact Option.some.inj hOwner

variable [DecidableEq Thread]

/- A thread moves on without the lock, or with it. -/
theorem keep
    (h : Guarded lock holds state)
    (hSame : holds p ↔ holds (state t)) :
    Guarded lock holds (Function.update state t p) := by
  intro u
  by_cases hThread : u = t
  · subst hThread
    rw [Function.update_self, hSame]
    exact h u
  · rw [Function.update_of_ne hThread]
    exact h u

/- A thread takes the free lock. -/
theorem acquire
    (h : Guarded none holds state)
    (hHolds : holds p) :
    Guarded (some t) holds (Function.update state t p) := by
  intro u
  by_cases hThread : u = t
  · subst hThread
    simpa using hHolds
  · rw [Function.update_of_ne hThread]
    have hOther : t ≠ u := fun hEq => hThread hEq.symm
    simpa [hOther] using h.free u

/- The owner gives the lock back. -/
theorem release
    (h : Guarded lock holds state)
    (hOwner : holds (state t))
    (hGone : ¬ holds p) :
    Guarded none holds (Function.update state t p) := by
  intro u
  by_cases hThread : u = t
  · subst hThread
    simpa using hGone
  · rw [Function.update_of_ne hThread]
    have hOther : ¬ holds (state u) := by
      intro hu
      exact hThread (h.eq_of_holds hOwner hu)
    simpa using hOther

end Guarded

end UnidppArchive
