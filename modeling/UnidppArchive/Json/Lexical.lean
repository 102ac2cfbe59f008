import Mathlib.Data.List.Infix
import Mathlib.Data.List.TakeWhile

/-
  The bracket discipline of JSON text.

  A scanner follows string quotes, escapes and brackets of a
  text, without building values.  Every JSON text ends
  outside strings with all brackets closed, opens no bracket
  after its top-level value has begun, and puts no letter
  directly after a closing quote.

  Two consequences matter for line journals: a text cut
  inside an object is not complete, and neither is a text in
  which an object follows other content.

  Key definitions include:
    * `Json.Lexical.step`
    * `Json.Lexical.scan`
    * `Json.Lexical.Complete`
    * `Json.Lexical.Bracketed`
    * `Json.Lexical.Stays`
    * `Json.Lexical.Unclosed`

  Key theorems include:
    * `Json.Lexical.not_complete_of_cut`
    * `Json.Lexical.space_of_complete_append`
    * `Json.Lexical.bracketed_of_stays`
    * `Json.Lexical.Unclosed.append`
-/

------------------------------------------------------------
-- Scanner
------------------------------------------------------------

namespace UnidppArchive

namespace Json

namespace Lexical

/- Where the scanner stands with respect to strings. -/
inductive Mode where
  | outside
  | inString
  | escaped
  | closed
  deriving DecidableEq

/- Open brackets, string mode, and whether content began. -/
structure State where
  depth : Nat
  mode : Mode
  begun : Bool
  deriving DecidableEq

/- The state before the first character. -/
def State.start : State :=
  ⟨0, .outside, false⟩

/- JSON white space. -/
def isSpace
    (c : Char) : Bool :=
  c == ' ' || c == '\t' || c == '\n' || c == '\r'

/- Depth and mode after one character outside strings. -/
def moveOutside
    (s : State)
    (c : Char) : Option (Nat × Mode) :=
  if c = '\"' then
    some (s.depth, .inString)
  else if c = '{' ∨ c = '[' then
    if s.depth = 0 ∧ s.begun = true then
      none
    else
      some (s.depth + 1, .outside)
  else if c = '}' ∨ c = ']' then
    if s.depth = 0 then
      none
    else
      some (s.depth - 1, .outside)
  else if s.mode = .closed ∧ c.isAlpha = true then
    none
  else
    some (s.depth, .outside)

/- Depth and mode after one character. -/
def move
    (s : State)
    (c : Char) : Option (Nat × Mode) :=
  match s.mode with
  | .outside => moveOutside s c
  | .closed => moveOutside s c
  | .inString =>
      if c = '\"' then
        some (s.depth, .closed)
      else if c = '\\' then
        some (s.depth, .escaped)
      else
        some (s.depth, .inString)
  | .escaped => some (s.depth, .inString)

/- One character of a JSON text. -/
def step
    (s : State)
    (c : Char) : Option State :=
  match move s c with
  | some (depth, mode) =>
      some ⟨depth, mode, s.begun || !isSpace c⟩
  | none => none

/- All characters of a text, if none is misplaced. -/
def scan
    (s : State) :
    List Char → Option State
| [] => some s
| c :: cs =>
    match step s c with
    | some s' => scan s' cs
    | none => none

/- The scanner stands outside strings. -/
def State.Between
    (s : State) : Prop :=
  s.mode = .outside ∨ s.mode = .closed

/- All brackets and strings of the text are closed. -/
def Complete
    (cs : List Char) : Prop :=
  ∃ s, scan State.start cs = some s ∧
    s.depth = 0 ∧ s.Between

/-
  The text opens a bracket wherever a value may stand, stays
  inside it up to its last character, and closes it there.
-/
def Bracketed
    (cs : List Char) : Prop :=
  ∀ s : State, s.Between → (s.depth = 0 → s.begun = false) →
    scan s cs = some ⟨s.depth, .outside, true⟩ ∧
      ∀ front back,
        cs = front ++ back → front ≠ [] → back ≠ [] →
          ∃ s', scan s front = some s' ∧ s.depth < s'.depth

@[simp] theorem scan_nil
    (s : State) :
    scan s [] = some s := by
  rfl

theorem scan_cons
    (s : State)
    (c : Char)
    (cs : List Char) :
    scan s (c :: cs) = (step s c).bind (scan · cs) := by
  cases h : step s c <;> simp [scan, h]

theorem scan_append
    (s : State)
    (cs ds : List Char) :
    scan s (cs ++ ds) = (scan s cs).bind (scan · ds) := by
  induction cs generalizing s with
  | nil => simp
  | cons c cs ih =>
      rw [List.cons_append, scan_cons, scan_cons]
      cases step s c with
      | none => rfl
      | some s' => simpa using ih s'

end Lexical

end Json

end UnidppArchive

------------------------------------------------------------
-- Cut Objects
------------------------------------------------------------

namespace UnidppArchive

namespace Json

namespace Lexical

/- An object's text cut short is not complete. -/
theorem not_complete_of_cut
    {cs front back : List Char}
    (hText : Bracketed cs)
    (hCut : cs = front ++ back)
    (hFront : front ≠ [])
    (hBack : back ≠ []) :
    ¬ Complete front := by
  rintro ⟨s, hScan, hDepth, -⟩
  rcases (hText State.start (Or.inl rfl) (fun _ => rfl)).2
      front back hCut hFront hBack with
    ⟨s', hScan', hDeeper⟩
  rw [hScan] at hScan'
  cases hScan'
  omega

end Lexical

end Json

end UnidppArchive

------------------------------------------------------------
-- Objects After Other Content
------------------------------------------------------------

namespace UnidppArchive

namespace Json

namespace Lexical

/- What has begun stays begun, and content begins it. -/
theorem scan_begun
    {s s' : State}
    {cs : List Char}
    (hScan : scan s cs = some s') :
    s'.begun = (s.begun || cs.any (!isSpace ·)) := by
  induction cs generalizing s with
  | nil =>
      cases hScan
      simp
  | cons c cs ih =>
      rw [scan_cons] at hScan
      rcases Option.bind_eq_some_iff.mp hScan with
        ⟨s₁, hStep, hRest⟩
      unfold step at hStep
      split at hStep
      · cases hStep
        simpa [Bool.or_assoc] using ih hRest
      · simp at hStep

/- A letter is misplaced directly after a closing quote. -/
theorem step_letter
    {s : State}
    {c : Char}
    (hMode : s.mode = .closed)
    (hLetter : c.isAlpha = true) :
    step s c = none := by
  have hNotBracket : ∀ b : Char, b.isAlpha = false → c ≠ b := by
    rintro b hb rfl
    rw [hLetter] at hb
    cases hb
  have hQuote := hNotBracket '\"' (by decide)
  have hOpen := hNotBracket '{' (by decide)
  have hOpen' := hNotBracket '[' (by decide)
  have hClose := hNotBracket '}' (by decide)
  have hClose' := hNotBracket ']' (by decide)
  simp [step, move, moveOutside, hMode, hQuote, hOpen,
    hOpen', hClose, hClose', hLetter]

/-
  An object's text whose first key begins with a letter can
  follow nothing but white space.
-/
theorem space_of_complete_append
    {t cs : List Char}
    {c : Char}
    (hText : Bracketed ('{' :: '\"' :: c :: cs))
    (hLetter : c.isAlpha = true)
    (hComplete : Complete (t ++ '{' :: '\"' :: c :: cs)) :
    t.all isSpace = true := by
  rcases hComplete with ⟨s, hScan, hDepth, -⟩
  rw [scan_append] at hScan
  rcases Option.bind_eq_some_iff.mp hScan with
    ⟨s₁, hFront, hBack⟩
  -- in a string the object's first quote closes it, and the
  -- letter that follows is misplaced
  have hString :
      ∀ s₂ : State, s₂.mode = .inString →
        scan s₂ ('\"' :: c :: cs) = none := by
    intro s₂ hMode
    have hQuote :
        step s₂ '\"' =
          some ⟨s₂.depth, .closed, s₂.begun || true⟩ := by
      simp [step, move, hMode, isSpace]
    rw [scan_cons, hQuote, Option.bind_some, scan_cons,
      step_letter rfl hLetter]
    rfl
  -- between values the object's bracket needs a fresh start
  have hBetween : s₁.Between → t.all isSpace = true := by
    intro hMode
    have hFresh : s₁.depth = 0 → s₁.begun = false := by
      intro hZero
      by_contra hBegun
      rw [scan_cons] at hBack
      rcases hMode with hMode | hMode <;>
        simp [step, move, moveOutside, hMode, hZero,
          hBegun] at hBack
    rw [(hText s₁ hMode hFresh).1] at hBack
    cases hBack
    have hBegun := scan_begun hFront
    rw [hFresh hDepth] at hBegun
    simpa [State.start] using hBegun
  cases hMode : s₁.mode with
  | inString =>
      rw [scan_cons] at hBack
      simp [step, move, hMode, hString] at hBack
  | escaped =>
      rw [scan_cons] at hBack
      simp [step, move, hMode, hString] at hBack
  | outside => exact hBetween (Or.inl hMode)
  | closed => exact hBetween (Or.inr hMode)

end Lexical

end Json

end UnidppArchive

------------------------------------------------------------
-- Scanning Above a Depth
------------------------------------------------------------

namespace UnidppArchive

namespace Json

namespace Lexical

/- The scanner gets from `s` to `s'` and never below `d`. -/
def Stays
    (d : Nat)
    (s s' : State)
    (cs : List Char) : Prop :=
  scan s cs = some s' ∧
    ∀ front back, cs = front ++ back →
      ∃ s₁, scan s front = some s₁ ∧ d ≤ s₁.depth

theorem Stays.nil
    {d : Nat}
    {s : State}
    (hDepth : d ≤ s.depth) :
    Stays d s s [] := by
  refine ⟨rfl, ?_⟩
  intro front back hCut
  rcases List.append_eq_nil_iff.mp hCut.symm with ⟨rfl, rfl⟩
  exact ⟨s, rfl, hDepth⟩

theorem Stays.cons
    {d : Nat}
    {s s₁ s' : State}
    {c : Char}
    {cs : List Char}
    (hDepth : d ≤ s.depth)
    (hStep : step s c = some s₁)
    (hRest : Stays d s₁ s' cs) :
    Stays d s s' (c :: cs) := by
  refine ⟨?_, ?_⟩
  · rw [scan_cons, hStep]
    exact hRest.1
  · intro front back hCut
    cases front with
    | nil => exact ⟨s, rfl, hDepth⟩
    | cons e front =>
        rw [List.cons_append, List.cons.injEq] at hCut
        rcases hCut with ⟨rfl, hCut⟩
        rcases hRest.2 front back hCut with
          ⟨s₂, hScan, hAbove⟩
        refine ⟨s₂, ?_, hAbove⟩
        rw [scan_cons, hStep]
        exact hScan

theorem Stays.append
    {d : Nat}
    {s s₁ s' : State}
    {cs ds : List Char}
    (hFront : Stays d s s₁ cs)
    (hBack : Stays d s₁ s' ds) :
    Stays d s s' (cs ++ ds) := by
  induction cs generalizing s with
  | nil =>
      have hSame := hFront.1
      cases hSame
      exact hBack
  | cons c cs ih =>
      rcases hFront with ⟨hScan, hAbove⟩
      rw [scan_cons] at hScan
      rcases Option.bind_eq_some_iff.mp hScan with
        ⟨s₂, hStep, hRest⟩
      have hHere : d ≤ s.depth := by
        rcases hAbove [] (c :: cs) rfl with ⟨s₃, hSame, hLe⟩
        cases hSame
        exact hLe
      refine Stays.cons hHere hStep (ih ⟨hRest, ?_⟩)
      intro front back hCut
      rcases hAbove (c :: front) back (by rw [hCut]; rfl) with
        ⟨s₃, hScan', hLe⟩
      rw [scan_cons, hStep] at hScan'
      exact ⟨s₃, hScan', hLe⟩

/- A text between brackets that stays inside them. -/
theorem bracketed_of_stays
    {o c : Char}
    {inner : List Char}
    (hOpen : o = '{' ∨ o = '[')
    (hClose : c = '}' ∨ c = ']')
    (hInner :
      ∀ d, ∃ m, State.Between ⟨d + 1, m, true⟩ ∧
        Stays (d + 1) ⟨d + 1, .outside, true⟩
          ⟨d + 1, m, true⟩ inner) :
    Bracketed (o :: (inner ++ [c])) := by
  intro s hMode hFresh
  rcases hInner s.depth with ⟨m, hBetween, hScan, hAbove⟩
  have hStepOpen :
      step s o = some ⟨s.depth + 1, .outside, true⟩ := by
    have hBegun : ¬ (s.depth = 0 ∧ s.begun = true) := by
      rintro ⟨hZero, hBegun⟩
      rw [hFresh hZero] at hBegun
      cases hBegun
    rcases hOpen with rfl | rfl <;>
      rcases hMode with hMode | hMode <;>
        simp [step, move, moveOutside, hMode, hBegun, isSpace]
  have hStepClose :
      step ⟨s.depth + 1, m, true⟩ c =
        some ⟨s.depth, .outside, true⟩ := by
    rcases hClose with rfl | rfl <;>
      rcases hBetween with hBetween | hBetween <;>
        simp only at hBetween <;>
          simp [step, move, moveOutside, hBetween]
  refine ⟨?_, ?_⟩
  · rw [scan_cons, hStepOpen, Option.bind_some, scan_append,
      hScan, Option.bind_some, scan_cons, hStepClose]
    rfl
  · intro front back hCut hFront hBack
    cases front with
    | nil => exact (hFront rfl).elim
    | cons e front =>
        rw [List.cons_append, List.cons.injEq] at hCut
        rcases hCut with ⟨rfl, hCut⟩
        -- the last character belongs to the part cut off
        rcases List.eq_nil_or_concat back with hNil | hLast
        · exact (hBack hNil).elim
        · rcases hLast with ⟨back', e', rfl⟩
          rw [List.concat_eq_append, ← List.append_assoc]
            at hCut
          have hFrontInner :=
            (List.append_inj' hCut rfl).1
          rcases hAbove front back' hFrontInner with
            ⟨s', hScan', hLe⟩
          refine ⟨s', ?_, by omega⟩
          rw [scan_cons, hStepOpen]
          exact hScan'

/- A bracketed text does not leave the depth it starts at. -/
theorem Bracketed.stays
    {cs : List Char}
    (h : Bracketed cs)
    {s : State}
    (hMode : s.Between)
    (hFresh : s.depth = 0 → s.begun = false) :
    Stays s.depth s ⟨s.depth, .outside, true⟩ cs := by
  rcases h s hMode hFresh with ⟨hScan, hInside⟩
  refine ⟨hScan, ?_⟩
  intro front back hCut
  by_cases hFront : front = []
  · subst hFront
    exact ⟨s, rfl, Nat.le_refl _⟩
  · by_cases hBack : back = []
    · subst hBack
      rw [List.append_nil] at hCut
      subst hCut
      exact ⟨_, hScan, Nat.le_refl _⟩
    · rcases hInside front back hCut hFront hBack with
        ⟨s', hScan', hDeeper⟩
      exact ⟨s', hScan', by omega⟩

end Lexical

end Json

end UnidppArchive

------------------------------------------------------------
-- Unclosed Texts
------------------------------------------------------------

namespace UnidppArchive

namespace Json

namespace Lexical

/- Wherever the scanner gets, some bracket is open there. -/
def Unclosed
    (cs : List Char) : Prop :=
  ∀ s, scan State.start cs = some s → 0 < s.depth

theorem not_complete_of_unclosed
    {cs : List Char}
    (h : Unclosed cs) :
    ¬ Complete cs := by
  rintro ⟨s, hScan, hDepth, -⟩
  have hDeep := h s hScan
  omega

/- An object's text cut short is unclosed. -/
theorem unclosed_of_cut
    {front back : List Char}
    (hText : Bracketed (front ++ back))
    (hFront : front ≠ [])
    (hBack : back ≠ []) :
    Unclosed front := by
  intro s hScan
  rcases (hText State.start (Or.inl rfl) (fun _ => rfl)).2
      front back rfl hFront hBack with
    ⟨s', hScan', hDeeper⟩
  rw [hScan] at hScan'
  cases hScan'
  omega

/- A complete object leaves no room for another bracket. -/
theorem unclosed_of_bracketed_append
    {t cs : List Char}
    (hText : Bracketed t) :
    Unclosed (t ++ '{' :: cs) := by
  intro s hScan
  rw [scan_append,
    (hText State.start (Or.inl rfl) (fun _ => rfl)).1,
    Option.bind_some, scan_cons] at hScan
  simp [step, move, moveOutside, State.start] at hScan

/- In a string the text of an object does not get to its key. -/
theorem depth_of_scan_in_string
    {s s' : State}
    {c : Char}
    {cs front back : List Char}
    (hMode : s.mode = .inString)
    (hLetter : c.isAlpha = true)
    (hCut : '\"' :: c :: cs = front ++ back)
    (hScan : scan s front = some s') :
    s'.depth = s.depth := by
  cases front with
  | nil =>
      cases hScan
      rfl
  | cons e front =>
      rw [List.cons_append, List.cons.injEq] at hCut
      rcases hCut with ⟨rfl, hCut⟩
      have hQuote :
          step s '\"' =
            some ⟨s.depth, .closed, s.begun || true⟩ := by
        simp [step, move, hMode, isSpace]
      rw [scan_cons, hQuote, Option.bind_some] at hScan
      cases front with
      | nil =>
          cases hScan
          rfl
      | cons e front =>
          -- the letter after the quote is misplaced
          rw [List.cons_append, List.cons.injEq] at hCut
          rcases hCut with ⟨rfl, -⟩
          rw [scan_cons, step_letter rfl hLetter] at hScan
          cases hScan

/- What follows an unclosed text leaves it unclosed. -/
theorem Unclosed.append
    {t cs front back : List Char}
    {c : Char}
    (h : Unclosed t)
    (hText : Bracketed ('{' :: '\"' :: c :: cs))
    (hLetter : c.isAlpha = true)
    (hCut : '{' :: '\"' :: c :: cs = front ++ back) :
    Unclosed (t ++ front) := by
  intro s hScan
  rw [scan_append] at hScan
  rcases Option.bind_eq_some_iff.mp hScan with
    ⟨s₁, hTail, hFront⟩
  have hDeep := h s₁ hTail
  have hFresh : s₁.depth = 0 → s₁.begun = false := by
    intro hZero
    omega
  have hBetween : s₁.Between → 0 < s.depth := by
    intro hMode
    have hStays := hText.stays hMode hFresh
    rcases hStays.2 front back hCut with
      ⟨s₂, hScan₂, hAbove⟩
    rw [hFront] at hScan₂
    cases hScan₂
    omega
  have hString :
      step s₁ '{' = some ⟨s₁.depth, .inString, true⟩ →
        0 < s.depth := by
    intro hStep
    cases front with
    | nil =>
        cases hFront
        exact hDeep
    | cons e front =>
        rw [List.cons_append, List.cons.injEq] at hCut
        rcases hCut with ⟨rfl, hCut⟩
        rw [scan_cons, hStep, Option.bind_some] at hFront
        have hDepth :=
          depth_of_scan_in_string rfl hLetter hCut hFront
        simp only at hDepth
        omega
  cases hMode : s₁.mode with
  | outside => exact hBetween (Or.inl hMode)
  | closed => exact hBetween (Or.inr hMode)
  | inString =>
      exact hString (by simp [step, move, hMode, isSpace])
  | escaped =>
      exact hString (by simp [step, move, hMode, isSpace])

end Lexical

end Json

end UnidppArchive
