import Mathlib.Data.List.Infix
import Mathlib.Tactic.Common

/-
  Reading a stream that arrives in segments.

  A reader tests its buffer before each read and appends
  what it reads.  A test that keeps its answer when more is
  appended makes the reader blind to where the stream is
  cut.

  Key definitions include:
    * `readUntil`
    * `Stable`

  Key theorems include:
    * `readUntil_of_some`
    * `readUntil_of_none`
-/

------------------------------------------------------------
-- Readers
------------------------------------------------------------

namespace UnidppArchive

variable {α β : Type}

/- How a reader stops: with an answer, or without input. -/
inductive Reading
    (α β : Type) where
  | settled (b : β) (buffer : List α) (rest : List (List α))
  | exhausted (buffer : List α)

/- Test the buffer, else read on. -/
def readUntil
    (test : List α → Option β)
    (buffer : List α) :
    List (List α) → Reading α β
| [] =>
    match test buffer with
    | some b => .settled b buffer []
    | none => .exhausted buffer
| s :: ss =>
    match test buffer with
    | some b => .settled b buffer (s :: ss)
    | none => readUntil test (buffer ++ s) ss

/- An answer is not changed by what comes behind. -/
def Stable
    (test : List α → Option β) : Prop :=
  ∀ xs b, test xs = some b → ∀ ys, test (xs ++ ys) = some b

end UnidppArchive

------------------------------------------------------------
-- Readers and Streams
------------------------------------------------------------

namespace UnidppArchive

variable {α β : Type}
variable {test : List α → Option β}
variable {buffer : List α}
variable {ss : List (List α)}

/- A reader that stops has tested a front of the stream. -/
theorem readUntil_cases
    (test : List α → Option β)
    (buffer : List α)
    (ss : List (List α)) :
    (∃ b front rest,
        readUntil test buffer ss = .settled b front rest ∧
          test front = some b ∧
          front ++ rest.flatten = buffer ++ ss.flatten) ∨
      (readUntil test buffer ss =
          .exhausted (buffer ++ ss.flatten) ∧
        test (buffer ++ ss.flatten) = none) := by
  induction ss generalizing buffer with
  | nil =>
      unfold readUntil
      cases hTest : test buffer with
      | some b => exact Or.inl ⟨b, buffer, [], rfl, hTest, rfl⟩
      | none => exact Or.inr (by simpa using hTest)
  | cons s ss ih =>
      unfold readUntil
      cases hTest : test buffer with
      | some b =>
          exact Or.inl ⟨b, buffer, s :: ss, rfl, hTest, rfl⟩
      | none =>
          have hRest := ih (buffer ++ s)
          rw [List.append_assoc] at hRest
          exact hRest

/- The answer for the whole stream is found in every cut. -/
theorem readUntil_of_some
    {b : β}
    (hStable : Stable test)
    (h : test (buffer ++ ss.flatten) = some b) :
    ∃ front rest,
      readUntil test buffer ss = .settled b front rest ∧
        test front = some b ∧
        front ++ rest.flatten = buffer ++ ss.flatten := by
  rcases readUntil_cases test buffer ss with
    ⟨b', front, rest, hRead, hTest, hWhole⟩ | ⟨-, hNone⟩
  · have hSame := hStable front b' hTest rest.flatten
    rw [hWhole, h, Option.some.injEq] at hSame
    subst hSame
    exact ⟨front, rest, hRead, hTest, hWhole⟩
  · rw [h] at hNone
    cases hNone

/- Without one, the reader reads to the end. -/
theorem readUntil_of_none
    (hStable : Stable test)
    (h : test (buffer ++ ss.flatten) = none) :
    readUntil test buffer ss =
      .exhausted (buffer ++ ss.flatten) := by
  rcases readUntil_cases test buffer ss with
    ⟨b, front, rest, -, hTest, hWhole⟩ | ⟨hRead, -⟩
  · have hSome := hStable front b hTest rest.flatten
    rw [hWhole, h] at hSome
    cases hSome
  · exact hRead

end UnidppArchive
