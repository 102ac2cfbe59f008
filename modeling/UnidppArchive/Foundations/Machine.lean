import Mathlib.Data.List.Forall2
import Mathlib.Tactic.Common

/-
  Machines that answer one input after the other.

  An input whose step leaves the state as it was can be
  deleted from a run: the other inputs are answered alike,
  and the run ends in the same state.  What one step keeps,
  of one machine or of two side by side, a run keeps.

  Key definitions include:
    * `Machine.run`

  Key theorems include:
    * `Machine.run_kept`
    * `Machine.run_invariant`
    * `Machine.run_related`
    * `Machine.exists_run_matched`
    * `Machine.pairwise_of_matched`
-/

------------------------------------------------------------
-- Runs and Deletions
------------------------------------------------------------

namespace UnidppArchive

namespace Machine

variable {σ ι ω : Type*}

/- The inputs with their answers, and the last state. -/
def run
    (step : σ → ι → ω × σ)
    (s : σ) :
    List ι → List (ι × ω) × σ
| [] => ([], s)
| i :: is =>
    let (o, s') := step s i
    let (answers, last) := run step s' is
    ((i, o) :: answers, last)

/- The first input is answered in the first state. -/
theorem head_mem_run
    (step : σ → ι → ω × σ)
    (s : σ)
    (i : ι)
    (is : List ι) :
    (i, (step s i).1) ∈ (run step s (i :: is)).1 := by
  simp [run]

variable {step : σ → ι → ω × σ}
variable {delete : ι × ω → Bool}

/- Inputs without effect are deleted without effect. -/
theorem run_kept
    (hInert :
      ∀ s i, delete (i, (step s i).1) = true →
        (step s i).2 = s)
    (s : σ)
    (is : List ι) :
    run step s
        (((run step s is).1.filter fun a => !delete a).map
          Prod.fst) =
      ((run step s is).1.filter fun a => !delete a,
        (run step s is).2) := by
  induction is generalizing s with
  | nil => rfl
  | cons i is ih =>
      have hRest := ih (step s i).2
      simp only [run]
      cases hDelete : delete (i, (step s i).1) with
      | true =>
          rw [List.filter_cons_of_neg (by simp [hDelete])]
          rw [hInert s i hDelete] at hRest ⊢
          exact hRest
      | false =>
          rw [List.filter_cons_of_pos (by simp [hDelete]),
            List.map_cons, run]
          simp only [hRest]

end Machine

end UnidppArchive

------------------------------------------------------------
-- What a Run Keeps
------------------------------------------------------------

namespace UnidppArchive

namespace Machine

variable {σ ι ω : Type*}
variable {step : σ → ι → ω × σ}

theorem run_cons
    (step : σ → ι → ω × σ)
    (s : σ)
    (i : ι)
    (is : List ι) :
    run step s (i :: is) =
      ((i, (step s i).1) :: (run step (step s i).2 is).1,
        (run step (step s i).2 is).2) := by
  rfl

theorem run_singleton
    (step : σ → ι → ω × σ)
    (s : σ)
    (i : ι) :
    run step s [i] = ([(i, (step s i).1)], (step s i).2) := by
  rfl

/- A run is cut where its inputs are cut. -/
theorem run_append
    (s : σ)
    (is js : List ι) :
    run step s (is ++ js) =
      ((run step s is).1 ++ (run step (run step s is).2 js).1,
        (run step (run step s is).2 js).2) := by
  induction is generalizing s with
  | nil => rfl
  | cons i is ih =>
      rw [List.cons_append, run_cons, run_cons, ih]
      rfl

/-
  Along a run every input is answered in a state with the
  invariant, and leaves such a state.
-/
theorem run_invariant
    {Inv : σ → Prop}
    {is : List ι}
    (hStep : ∀ s, Inv s → ∀ i ∈ is, Inv (step s i).2)
    {s : σ}
    (hStart : Inv s) :
    Inv (run step s is).2 ∧
      ∀ a ∈ (run step s is).1,
        a.1 ∈ is ∧
          ∃ s, Inv s ∧ a.2 = (step s a.1).1 := by
  induction is generalizing s with
  | nil => exact ⟨hStart, by simp [run]⟩
  | cons i is ih =>
      have hNext := hStep s hStart i (by simp)
      rcases ih (fun s hs j hj => hStep s hs j (by simp [hj]))
          hNext with
        ⟨hLast, hAnswers⟩
      rw [run_cons]
      refine ⟨hLast, ?_⟩
      intro a ha
      rcases List.mem_cons.mp ha with rfl | hRest
      · exact ⟨by simp, s, hStart, rfl⟩
      · rcases hAnswers a hRest with ⟨hInput, hAnswer⟩
        exact ⟨by simp [hInput], hAnswer⟩

/- An answer of a run is given in some state. -/
theorem exists_state_of_mem_run
    {s : σ}
    {is : List ι}
    {a : ι × ω}
    (h : a ∈ (run step s is).1) :
    ∃ s, a.2 = (step s a.1).1 := by
  have hAny : ∀ s : σ, True → ∀ i ∈ is, True :=
    fun _ _ _ _ => trivial
  rcases (run_invariant hAny trivial).2 a h with
    ⟨-, s, -, hAnswer⟩
  exact ⟨s, hAnswer⟩

/-
  Two machines whose steps keep a relation of their states
  and give related answers to related inputs, as long as the
  answers of both are of a kind.
-/
theorem run_related
    {τ κ ψ : Type*}
    {step' : τ → κ → ψ × τ}
    {S : σ → τ → Prop}
    {I : ι → κ → Prop}
    {O : ω → ψ → Prop}
    {P : ω → Prop}
    {Q : ψ → Prop}
    (hStep :
      ∀ s t i k, S s t → I i k →
        P (step s i).1 → Q (step' t k).1 →
          O (step s i).1 (step' t k).1 ∧
            S (step s i).2 (step' t k).2)
    {s : σ}
    {t : τ}
    {is : List ι}
    {ks : List κ}
    (hInputs : List.Forall₂ I is ks)
    (hStart : S s t)
    (hKind : ∀ a ∈ (run step s is).1, P a.2)
    (hKind' : ∀ a ∈ (run step' t ks).1, Q a.2) :
    List.Forall₂ (fun a b => I a.1 b.1 ∧ O a.2 b.2)
        (run step s is).1 (run step' t ks).1 ∧
      S (run step s is).2 (run step' t ks).2 := by
  induction hInputs generalizing s t with
  | nil => exact ⟨List.Forall₂.nil, hStart⟩
  | @cons i k is ks hHead _ ih =>
      rw [run_cons] at hKind hKind'
      rw [List.forall_mem_cons] at hKind hKind'
      rcases hStep s t i k hStart hHead hKind.1 hKind'.1 with
        ⟨hAnswer, hNext⟩
      rcases ih hNext hKind.2 hKind'.2 with
        ⟨hAnswers, hLast⟩
      rw [run_cons, run_cons]
      exact ⟨List.Forall₂.cons ⟨hHead, hAnswer⟩ hAnswers, hLast⟩

/-
  A machine each of whose steps is matched by some step of
  another one: each of its runs is matched by a run.
-/
theorem exists_run_matched
    {τ κ ψ : Type*}
    {step' : τ → κ → ψ × τ}
    {S : σ → τ → Prop}
    {R : ι × ω → κ × ψ → Prop}
    (hStep :
      ∀ s t i, S s t → ∃ k,
        R (i, (step s i).1) (k, (step' t k).1) ∧
          S (step s i).2 (step' t k).2)
    {s : σ}
    {t : τ}
    (is : List ι)
    (hStart : S s t) :
    ∃ ks,
      List.Forall₂ R (run step s is).1 (run step' t ks).1 ∧
        S (run step s is).2 (run step' t ks).2 := by
  induction is generalizing s t with
  | nil => exact ⟨[], List.Forall₂.nil, hStart⟩
  | cons i is ih =>
      rcases hStep s t i hStart with ⟨k, hMatch, hNext⟩
      rcases ih hNext with ⟨ks, hMatches, hLast⟩
      refine ⟨k :: ks, ?_, hLast⟩
      rw [run_cons, run_cons]
      exact List.Forall₂.cons hMatch hMatches

/- What holds in order on one side holds so on the other. -/
theorem pairwise_of_matched
    {α β : Type*}
    {R : α → β → Prop}
    {P : α → α → Prop}
    {Q : β → β → Prop}
    (hPair :
      ∀ a a' b b', R a b → R a' b' → Q b b' → P a a')
    {as : List α}
    {bs : List β}
    (hMatched : List.Forall₂ R as bs)
    (hPairwise : List.Pairwise Q bs) :
    List.Pairwise P as := by
  induction hMatched with
  | nil => exact List.Pairwise.nil
  | @cons a b as bs hHead hRest ih =>
      rcases List.pairwise_cons.mp hPairwise with
        ⟨hFirst, hLater⟩
      refine List.Pairwise.cons ?_ (ih hLater)
      intro a' ha'
      rcases List.mem_iff_getElem.mp ha' with ⟨i, hi, rfl⟩
      have hj : i < bs.length := hRest.length_eq ▸ hi
      exact hPair _ _ _ _ hHead (hRest.get hi hj)
        (hFirst _ (List.getElem_mem hj))

end Machine

end UnidppArchive
