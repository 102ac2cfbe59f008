import Mathlib.Data.List.DropRight
import UnidppArchive.Foundations.Text

/-
  Trimmed text.

  Text is trimmed exactly if neither its first nor its last
  character is white space.

  Key definitions include:
    * `Text.Trimmed`

  Key theorems include:
    * `Text.trim_eq_self_iff`
    * `Text.trim_trim`
    * `Text.trimmed_append`
    * `Text.rdropWhile_append_cons`
-/

------------------------------------------------------------
-- Trimmed Text
------------------------------------------------------------

namespace UnidppArchive

namespace Text

/- Neither end of the text is white space. -/
structure Trimmed
    (s : String) : Prop where
  first : ∀ c ∈ s.toList.head?, isWhitespace c = false
  last : ∀ c ∈ s.toList.getLast?, isWhitespace c = false

/- A front that is dropped is none of a list that starts well. -/
theorem dropWhile_eq_self
    {cs : List Char}
    {p : Char → Bool}
    (h : ∀ c ∈ cs.head?, p c = false) :
    cs.dropWhile p = cs := by
  rw [List.dropWhile_eq_self_iff]
  intro hSome
  simpa using h cs[0] (by simp [List.head?_eq_getElem?])

/- What is left starts well. -/
theorem head?_dropWhile
    {cs : List Char}
    {p : Char → Bool} :
    ∀ c ∈ (cs.dropWhile p).head?, p c = false := by
  intro c hc
  have hHead := List.head?_dropWhile_not p cs
  rw [Option.mem_def.mp hc] at hHead
  simpa using hHead

/- Dropping behind keeps the first character, if any is left. -/
theorem head?_reverse_dropWhile
    {cs : List Char}
    {p : Char → Bool}
    (h : ∀ c ∈ cs.head?, p c = false) :
    ∀ c ∈ (cs.reverse.dropWhile p).reverse.head?,
      p c = false := by
  have hPrefix : (cs.reverse.dropWhile p).reverse <+: cs := by
    rw [← List.reverse_suffix, List.reverse_reverse]
    exact List.dropWhile_suffix p
  rcases hPrefix with ⟨back, hBack⟩
  intro c hc
  apply h
  rw [← hBack, List.head?_append]
  simp [Option.mem_def.mp hc]

theorem trimmed_trim
    (s : String) :
    Trimmed (trim s) := by
  unfold trim
  constructor
  · rw [String.toList_ofList]
    exact head?_reverse_dropWhile head?_dropWhile
  · rw [String.toList_ofList, List.getLast?_reverse]
    exact head?_dropWhile

theorem trim_eq_self_iff
    {s : String} :
    trim s = s ↔ Trimmed s := by
  constructor
  · intro h
    rw [← h]
    exact trimmed_trim s
  · rintro ⟨hFirst, hLast⟩
    unfold trim
    rw [dropWhile_eq_self hFirst, dropWhile_eq_self (by
      rw [List.head?_reverse]
      exact hLast)]
    simp

@[simp] theorem trim_trim
    (s : String) :
    trim (trim s) = trim s :=
  trim_eq_self_iff.mpr (trimmed_trim s)

/- The ends of a text are those of its parts. -/
theorem trimmed_append
    {s t : String}
    (hFirst : ∀ c ∈ s.toList.head?, isWhitespace c = false)
    (ht : Trimmed t)
    (hSome : s ≠ "")
    (hSome' : t ≠ "") :
    Trimmed (s ++ t) := by
  constructor
  · intro c hc
    apply hFirst
    rw [String.toList_append, List.head?_append] at hc
    cases hHead : s.toList.head? with
    | none =>
        rw [List.head?_eq_none_iff] at hHead
        exact absurd (String.toList_eq_nil_iff.mp hHead) hSome
    | some d =>
        rw [hHead] at hc
        exact hc
  · intro c hc
    apply ht.last
    rw [String.toList_append, List.getLast?_append] at hc
    cases hLast : t.toList.getLast? with
    | none =>
        rw [List.getLast?_eq_none_iff] at hLast
        exact absurd (String.toList_eq_nil_iff.mp hLast) hSome'
    | some d =>
        rw [hLast] at hc
        exact hc

end Text

end UnidppArchive

------------------------------------------------------------
-- Text Without an End
------------------------------------------------------------

namespace UnidppArchive

namespace Text

theorem toList_trimEndMatches
    (s : String)
    (c : Char) :
    (trimEndMatches s c).toList =
      s.toList.rdropWhile (· == c) := by
  simp [trimEndMatches, List.rdropWhile]

/- Nothing is dropped in front of another character. -/
theorem rdropWhile_append_cons
    {c d : Char}
    (hNe : d ≠ c)
    (front back : List Char) :
    (front ++ d :: back).rdropWhile (· == c) =
      front ++ d :: back.rdropWhile (· == c) := by
  have hKept :
      (d :: front.reverse).dropWhile (· == c) =
        d :: front.reverse := by
    rw [List.dropWhile_cons_of_neg]
    simpa using hNe
  have hReverse :
      (front ++ d :: back).reverse =
        back.reverse ++ d :: front.reverse := by
    simp
  unfold List.rdropWhile
  rw [hReverse, List.dropWhile_append]
  cases hBack : back.reverse.dropWhile (· == c) with
  | nil => simp [hKept]
  | cons e rest => simp

/- What is dropped are copies of the character. -/
theorem exists_rdropWhile
    (c : Char)
    (cs : List Char) :
    ∃ n,
      cs = cs.rdropWhile (· == c) ++ List.replicate n c := by
  have hWhole :=
    List.takeWhile_append_dropWhile (p := (· == c))
      (l := cs.reverse)
  have hReverse := congrArg List.reverse hWhole
  rw [List.reverse_append, List.reverse_reverse] at hReverse
  have hCopies :
      (cs.reverse.takeWhile (· == c)).reverse =
        List.replicate
          (cs.reverse.takeWhile (· == c)).length c := by
    rw [List.eq_replicate_iff]
    refine ⟨by simp, ?_⟩
    intro d hd
    have hTaken :=
      List.mem_takeWhile_imp (List.mem_reverse.mp hd)
    simpa using hTaken
  refine ⟨(cs.reverse.takeWhile (· == c)).length, ?_⟩
  rw [List.rdropWhile, ← hCopies, hReverse]

/- What is left does not end with the character. -/
theorem getLast?_rdropWhile
    (c : Char)
    (cs : List Char) :
    ∀ d ∈ (cs.rdropWhile (· == c)).getLast?, d ≠ c := by
  rw [List.rdropWhile, List.getLast?_reverse]
  intro d hd
  have hNot := head?_dropWhile d hd
  simpa using hNot

end Text

end UnidppArchive
