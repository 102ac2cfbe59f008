import UnidppArchive.Json.Serde
import UnidppArchive.Foundations.Text

/-
  A printer of JSON values.

  It writes the compact and the pretty text of
  `serde_json`, except that a float stands by its bits.  Its
  texts have the bracket discipline of JSON.

  Key definitions include:
    * `Reference.printValue`

  Key theorems include:
    * `Reference.stays_printValue`
    * `Reference.bracketed_printValue`
    * `Reference.control_free_printValue`
-/

------------------------------------------------------------
-- Texts of Values
------------------------------------------------------------

namespace UnidppArchive

namespace Reference

open Json

/- A character of a string literal. -/
def escapeChar
    (c : Char) : List Char :=
  if c = '\"' then ['\\', '\"']
  else if c = '\\' then ['\\', '\\']
  else if c.toNat = 8 then ['\\', 'b']
  else if c.toNat = 9 then ['\\', 't']
  else if c.toNat = 10 then ['\\', 'n']
  else if c.toNat = 12 then ['\\', 'f']
  else if c.toNat = 13 then ['\\', 'r']
  else if c.toNat < 0x20 then
    ['\\', 'u', '0', '0', Nat.digitChar (c.toNat / 16),
      Nat.digitChar (c.toNat % 16)]
  else [c]

def printString
    (s : String) : List Char :=
  '\"' :: (s.toList.flatMap escapeChar ++ ['\"'])

def printNumber :
    Number → List Char
| .posInt n => Nat.toDigits 10 n.toNat
| .negInt n => '-' :: Nat.toDigits 10 (n.val + 1)
| .float bits => Nat.toDigits 10 bits.toNat ++ ['e', '0']

/- A line break with indentation, in pretty texts. -/
def lineBreak
    (pretty : Bool)
    (n : Nat) : List Char :=
  if pretty then '\n' :: List.replicate (2 * n) ' ' else []

def colon
    (pretty : Bool) : List Char :=
  if pretty then [':', ' '] else [':']

mutual

/- The text of a value at indentation `n`. -/
def printValue
    (pretty : Bool)
    (n : Nat) :
    Value → List Char
| .null => ['n', 'u', 'l', 'l']
| .bool true => ['t', 'r', 'u', 'e']
| .bool false => ['f', 'a', 'l', 's', 'e']
| .number m => printNumber m
| .string s => printString s
| .array .nil => ['[', ']']
| .array (.cons v vs) =>
    '[' :: ((lineBreak pretty (n + 1) ++
      printValue pretty (n + 1) v ++
        printItems pretty (n + 1) vs ++
          lineBreak pretty n) ++ [']'])
| .object .nil => ['{', '}']
| .object (.cons k _ v fs) =>
    '{' :: ((lineBreak pretty (n + 1) ++
      (printString k ++ colon pretty ++
        printValue pretty (n + 1) v) ++
          printEntries pretty (n + 1) fs ++
            lineBreak pretty n) ++ ['}'])

/- The elements after the first one. -/
def printItems
    (pretty : Bool)
    (n : Nat) :
    Values → List Char
| .nil => []
| .cons v vs =>
    ',' :: (lineBreak pretty n ++ printValue pretty n v ++
      printItems pretty n vs)

/- The entries after the first one. -/
def printEntries
    (pretty : Bool)
    (n : Nat) :
    {lo : Option String} → Fields lo → List Char
| _, .nil => []
| _, .cons k _ v fs =>
    ',' :: (lineBreak pretty n ++
      (printString k ++ colon pretty ++
        printValue pretty n v) ++
          printEntries pretty n fs)

end

end Reference

end UnidppArchive

------------------------------------------------------------
-- Scanning Printed Texts
------------------------------------------------------------

namespace UnidppArchive

namespace Reference

open Json Json.Lexical

/- A character that is no quote, bracket or white space. -/
structure Plain
    (c : Char) : Prop where
  quote : c ≠ '\"'
  brace : c ≠ '{' ∧ c ≠ '}'
  bracket : c ≠ '[' ∧ c ≠ ']'
  space : isSpace c = false

theorem stays_plain
    {d : Nat}
    {b : Bool}
    {cs : List Char}
    (hNe : cs ≠ [])
    (hPlain : ∀ c ∈ cs, Plain c) :
    Stays d ⟨d, .outside, b⟩ ⟨d, .outside, true⟩ cs := by
  induction cs generalizing b with
  | nil => exact (hNe rfl).elim
  | cons c cs ih =>
      rcases hPlain c (by simp) with
        ⟨hQuote, hBrace, hBracket, hSpace⟩
      have hStep :
          step ⟨d, .outside, b⟩ c =
            some ⟨d, .outside, true⟩ := by
        simp [step, move, moveOutside, hQuote, hBrace,
          hBracket, hSpace]
      refine Stays.cons (Nat.le_refl d) hStep ?_
      cases cs with
      | nil => exact Stays.nil (Nat.le_refl d)
      | cons e es =>
          exact ih (by simp)
            (fun x hx => hPlain x (List.mem_cons_of_mem c hx))

theorem plain_of_isDigit
    {c : Char}
    (h : c.isDigit = true) :
    Plain c := by
  have hRange := Char.isDigit_iff_toNat.mp h
  have hZero : '0'.toNat = 48 := rfl
  have hNine : '9'.toNat = 57 := rfl
  have hNe :
      ∀ e : Char, e.toNat < 48 ∨ 57 < e.toNat → c ≠ e := by
    rintro e he rfl
    omega
  refine ⟨hNe _ (by decide),
    ⟨hNe _ (by decide), hNe _ (by decide)⟩,
    ⟨hNe _ (by decide), hNe _ (by decide)⟩, ?_⟩
  simp [isSpace, hNe ' ' (by decide), hNe '\t' (by decide),
    hNe '\n' (by decide), hNe '\r' (by decide)]

theorem plain_of_mem_toDigits
    {n : Nat}
    {c : Char}
    (h : c ∈ Nat.toDigits 10 n) :
    Plain c :=
  plain_of_isDigit (Text.isDigit_of_mem_toDigits h)

/- Letters and signs of numbers and literals. -/
theorem plain_of_mem_literal
    {c : Char}
    (h : c ∈ "-e0nultrfas".toList) :
    Plain c := by
  have hAll :
      ∀ c ∈ "-e0nultrfas".toList,
        c ≠ '\"' ∧ (c ≠ '{' ∧ c ≠ '}') ∧
          (c ≠ '[' ∧ c ≠ ']') ∧ isSpace c = false :=
    List.all_iff_forall_prop.mp (by decide)
  rcases hAll c h with ⟨hQuote, hBrace, hBracket, hSpace⟩
  exact ⟨hQuote, hBrace, hBracket, hSpace⟩

theorem stays_printNumber
    (d : Nat)
    (b : Bool)
    (m : Number) :
    Stays d ⟨d, .outside, b⟩ ⟨d, .outside, true⟩
      (printNumber m) := by
  cases m with
  | posInt n =>
      exact stays_plain Nat.toDigits_ne_nil
        (fun c hc => plain_of_mem_toDigits hc)
  | negInt n =>
      apply stays_plain (List.cons_ne_nil _ _)
      intro c hc
      rcases List.mem_cons.mp hc with rfl | hc
      · exact plain_of_mem_literal (by decide)
      · exact plain_of_mem_toDigits hc
  | float bits =>
      apply stays_plain (by simp [printNumber])
      intro c hc
      rcases List.mem_append.mp hc with hc | hc
      · exact plain_of_mem_toDigits hc
      · simp only [List.mem_cons, List.not_mem_nil,
          or_false] at hc
        rcases hc with rfl | rfl <;>
          exact plain_of_mem_literal (by decide)

/- Ordinary characters stay in the string. -/
theorem stays_inString
    {d : Nat}
    {cs : List Char}
    (hPlain : ∀ c ∈ cs, c ≠ '\"' ∧ c ≠ '\\') :
    Stays d ⟨d, .inString, true⟩ ⟨d, .inString, true⟩ cs := by
  induction cs with
  | nil => exact Stays.nil (Nat.le_refl d)
  | cons c cs ih =>
      rcases hPlain c (by simp) with ⟨hQuote, hSlash⟩
      exact Stays.cons (Nat.le_refl d)
        (by simp [step, move, hQuote, hSlash])
        (ih (fun e he => hPlain e (by simp [he])))

/- So does a backslash with the character after it. -/
theorem stays_escaped
    (d : Nat)
    (e : Char) :
    Stays d ⟨d, .inString, true⟩ ⟨d, .inString, true⟩
      ['\\', e] := by
  have hSlash :
      step ⟨d, .inString, true⟩ '\\' =
        some ⟨d, .escaped, true⟩ := by
    simp [step, move]
  have hEscaped :
      step ⟨d, .escaped, true⟩ e =
        some ⟨d, .inString, true⟩ := by
    simp [step, move]
  exact Stays.cons (Nat.le_refl d) hSlash
    (Stays.cons (Nat.le_refl d) hEscaped
      (Stays.nil (Nat.le_refl d)))

theorem digitChar_ne
    (n : Fin 16) :
    Nat.digitChar n ≠ '\"' ∧ Nat.digitChar n ≠ '\\' := by
  revert n
  decide

theorem stays_escapeChar
    (d : Nat)
    (c : Char) :
    Stays d ⟨d, .inString, true⟩ ⟨d, .inString, true⟩
      (escapeChar c) := by
  unfold escapeChar
  split
  · exact stays_escaped d _
  rename_i hQuote
  split
  · exact stays_escaped d _
  rename_i hSlash
  split
  · exact stays_escaped d _
  split
  · exact stays_escaped d _
  split
  · exact stays_escaped d _
  split
  · exact stays_escaped d _
  split
  · exact stays_escaped d _
  split
  · rename_i hControl
    have hHigh := digitChar_ne ⟨c.toNat / 16, by omega⟩
    have hLow := digitChar_ne ⟨c.toNat % 16, by omega⟩
    refine (stays_escaped d 'u').append (stays_inString ?_)
    intro e he
    simp only [List.mem_cons, List.not_mem_nil,
      or_false] at he
    rcases he with rfl | rfl | rfl | rfl
    · decide
    · decide
    · exact hHigh
    · exact hLow
  · apply stays_inString
    intro e he
    rw [List.mem_singleton] at he
    subst he
    exact ⟨hQuote, hSlash⟩

theorem stays_printString
    (d : Nat)
    (b : Bool)
    (s : String) :
    Stays d ⟨d, .outside, b⟩ ⟨d, .closed, true⟩
      (printString s) := by
  have hInner :
      ∀ cs : List Char,
        Stays d ⟨d, .inString, true⟩ ⟨d, .inString, true⟩
          (cs.flatMap escapeChar) := by
    intro cs
    induction cs with
    | nil => exact Stays.nil (Nat.le_refl d)
    | cons c cs ih =>
        exact (stays_escapeChar d c).append ih
  have hOpen :
      step ⟨d, .outside, b⟩ '\"' =
        some ⟨d, .inString, true⟩ := by
    simp [step, move, moveOutside, isSpace]
  have hClose :
      step ⟨d, .inString, true⟩ '\"' =
        some ⟨d, .closed, true⟩ := by
    simp [step, move]
  exact Stays.cons (Nat.le_refl d) hOpen
    ((hInner _).append
      (Stays.cons (Nat.le_refl d) hClose
        (Stays.nil (Nat.le_refl d))))

/- Punctuation and white space lead outside strings. -/
theorem stays_separator
    {d : Nat}
    {m : Mode}
    (hMode : State.Between ⟨d, m, true⟩)
    {c : Char}
    (h : c ∈ ",: \n".toList) :
    Stays d ⟨d, m, true⟩ ⟨d, .outside, true⟩ [c] := by
  have hAll :
      ∀ c ∈ ",: \n".toList,
        c ≠ '\"' ∧ (c ≠ '{' ∧ c ≠ '}') ∧
          (c ≠ '[' ∧ c ≠ ']') ∧ c.isAlpha = false :=
    List.all_iff_forall_prop.mp (by decide)
  rcases hAll c h with ⟨hQuote, hBrace, hBracket, hAlpha⟩
  refine Stays.cons (Nat.le_refl d) ?_
    (Stays.nil (Nat.le_refl d))
  rcases hMode with hMode | hMode <;>
    simp only at hMode <;>
      simp [step, move, moveOutside, hMode, hQuote, hBrace,
        hBracket, hAlpha]

/- A line break between values changes no depth. -/
theorem stays_lineBreak
    (pretty : Bool)
    (n d : Nat)
    {m : Mode}
    (hMode : State.Between ⟨d, m, true⟩) :
    ∃ m', State.Between ⟨d, m', true⟩ ∧
      (m = .outside → m' = .outside) ∧
        Stays d ⟨d, m, true⟩ ⟨d, m', true⟩
          (lineBreak pretty n) := by
  cases pretty with
  | false =>
      exact ⟨m, hMode, id, Stays.nil (Nat.le_refl d)⟩
  | true =>
      have hSpaces :
          ∀ k, Stays d ⟨d, .outside, true⟩
            ⟨d, .outside, true⟩ (List.replicate k ' ') := by
        intro k
        induction k with
        | zero => exact Stays.nil (Nat.le_refl d)
        | succ k ih =>
            exact (stays_separator (Or.inl rfl)
              (by decide)).append ih
      exact ⟨.outside, Or.inl rfl, fun _ => rfl,
        (stays_separator hMode (by decide)).append
          (hSpaces (2 * n))⟩

theorem stays_colon
    (pretty : Bool)
    {d : Nat}
    {m : Mode}
    (hMode : State.Between ⟨d, m, true⟩) :
    Stays d ⟨d, m, true⟩ ⟨d, .outside, true⟩
      (colon pretty) := by
  cases pretty with
  | false => exact stays_separator hMode (by decide)
  | true =>
      exact (stays_separator hMode
        (show ':' ∈ ",: \n".toList by decide)).append
          (stays_separator (Or.inl rfl) (by decide))

end Reference

end UnidppArchive

------------------------------------------------------------
-- The Bracket Discipline
------------------------------------------------------------

namespace UnidppArchive

namespace Reference

open Json Json.Lexical

/- The scanner leaves the text outside strings. -/
def Settles
    (s : State)
    (cs : List Char) : Prop :=
  ∃ m, State.Between ⟨s.depth, m, true⟩ ∧
    Stays s.depth s ⟨s.depth, m, true⟩ cs

theorem settles_literal
    {d : Nat}
    {b : Bool}
    {cs : List Char}
    (hNe : cs ≠ [])
    (hLetters :
      cs.all ("-e0nultrfas".toList.contains ·) = true) :
    Settles ⟨d, .outside, b⟩ cs := by
  refine ⟨.outside, Or.inl rfl, stays_plain hNe ?_⟩
  intro c hc
  apply plain_of_mem_literal
  simpa using List.all_eq_true.mp hLetters c hc

theorem bracketed_empty
    {o c : Char}
    (hOpen : o = '{' ∨ o = '[')
    (hClose : c = '}' ∨ c = ']') :
    Bracketed [o, c] := by
  have hNone :
      ∀ d, ∃ m, State.Between ⟨d + 1, m, true⟩ ∧
        Stays (d + 1) ⟨d + 1, .outside, true⟩
          ⟨d + 1, m, true⟩ [] :=
    fun d => ⟨.outside, Or.inl rfl, Stays.nil (Nat.le_refl _)⟩
  exact bracketed_of_stays hOpen hClose hNone

/- One line break, a value, the rest, and a line break. -/
theorem settles_block
    (pretty : Bool)
    (n : Nat)
    {d : Nat}
    {value rest : List Char}
    (hValue : Settles ⟨d, .outside, true⟩ value)
    (hRest :
      ∀ m, State.Between ⟨d, m, true⟩ →
        Settles ⟨d, m, true⟩ rest) :
    Settles ⟨d, .outside, true⟩
      (lineBreak pretty (n + 1) ++ value ++ rest ++
        lineBreak pretty n) := by
  rcases stays_lineBreak pretty (n + 1) d
      (m := .outside) (Or.inl rfl) with
    ⟨m₁, -, hOutside, hBreak⟩
  rw [hOutside rfl] at hBreak
  rcases hValue with ⟨m₂, hBetween₂, hValue⟩
  rcases hRest m₂ hBetween₂ with ⟨m₃, hBetween₃, hRest⟩
  rcases stays_lineBreak pretty n d hBetween₃ with
    ⟨m₄, hBetween₄, -, hBreak'⟩
  exact ⟨m₄, hBetween₄,
    ((hBreak.append hValue).append hRest).append hBreak'⟩

/- A comma, a line break, a value, and the rest. -/
theorem settles_next
    (pretty : Bool)
    (n : Nat)
    {d : Nat}
    {m : Mode}
    (hMode : State.Between ⟨d, m, true⟩)
    {value rest : List Char}
    (hValue : Settles ⟨d, .outside, true⟩ value)
    (hRest :
      ∀ m, State.Between ⟨d, m, true⟩ →
        Settles ⟨d, m, true⟩ rest) :
    Settles ⟨d, m, true⟩
      (',' :: (lineBreak pretty n ++ value ++ rest)) := by
  rcases stays_lineBreak pretty n d
      (m := .outside) (Or.inl rfl) with
    ⟨m₁, -, hOutside, hBreak⟩
  rw [hOutside rfl] at hBreak
  rcases hValue with ⟨m₂, hBetween₂, hValue⟩
  rcases hRest m₂ hBetween₂ with ⟨m₃, hBetween₃, hRest⟩
  exact ⟨m₃, hBetween₃,
    (stays_separator hMode
      (show ',' ∈ ",: \n".toList by decide)).append
        ((hBreak.append hValue).append hRest)⟩

/- A key with its value. -/
theorem settles_entry
    (pretty : Bool)
    (k : String)
    {d : Nat}
    {value : List Char}
    (hValue : Settles ⟨d, .outside, true⟩ value) :
    Settles ⟨d, .outside, true⟩
      (printString k ++ colon pretty ++ value) := by
  rcases hValue with ⟨m, hBetween, hValue⟩
  exact ⟨m, hBetween,
    ((stays_printString d true k).append
      (stays_colon pretty (Or.inr rfl))).append hValue⟩

mutual

theorem settles_printValue
    (pretty : Bool)
    (n : Nat) :
    (v : Value) → (d : Nat) → (b : Bool) →
      (d = 0 → b = false) →
        Settles ⟨d, .outside, b⟩ (printValue pretty n v)
| .null, _, _, _ =>
    settles_literal (List.cons_ne_nil _ _) rfl
| .bool true, _, _, _ =>
    settles_literal (List.cons_ne_nil _ _) rfl
| .bool false, _, _, _ =>
    settles_literal (List.cons_ne_nil _ _) rfl
| .number m, d, b, _ =>
    ⟨.outside, Or.inl rfl, stays_printNumber d b m⟩
| .string s, d, b, _ =>
    ⟨.closed, Or.inr rfl, stays_printString d b s⟩
| .array .nil, d, b, hFresh =>
    ⟨.outside, Or.inl rfl,
      (bracketed_empty (Or.inr rfl) (Or.inr rfl)).stays
        (Or.inl rfl) hFresh⟩
| .array (.cons v vs), d, b, hFresh =>
    ⟨.outside, Or.inl rfl,
      (bracketed_of_stays (Or.inr rfl) (Or.inr rfl)
        (fun d => settles_block pretty n
          (settles_printValue pretty (n + 1) v (d + 1) true
            (by omega))
          (settles_printItems pretty (n + 1) vs (d + 1)
            (by omega)))).stays
        (Or.inl rfl) hFresh⟩
| .object .nil, d, b, hFresh =>
    ⟨.outside, Or.inl rfl,
      (bracketed_empty (Or.inl rfl) (Or.inl rfl)).stays
        (Or.inl rfl) hFresh⟩
| .object (.cons k hAbove v fs), d, b, hFresh =>
    ⟨.outside, Or.inl rfl,
      (bracketed_of_stays (Or.inl rfl) (Or.inl rfl)
        (fun d => settles_block pretty n
          (settles_entry pretty k
            (settles_printValue pretty (n + 1) v (d + 1) true
              (by omega)))
          (settles_printEntries pretty (n + 1) fs (d + 1)
            (by omega)))).stays
        (Or.inl rfl) hFresh⟩

theorem settles_printItems
    (pretty : Bool)
    (n : Nat) :
    (vs : Values) → (d : Nat) → d ≠ 0 → (m : Mode) →
      State.Between ⟨d, m, true⟩ →
        Settles ⟨d, m, true⟩ (printItems pretty n vs)
| .nil, d, _, m, hMode =>
    ⟨m, hMode, Stays.nil (Nat.le_refl d)⟩
| .cons v vs, d, hDeep, m, hMode =>
    settles_next pretty n hMode
      (settles_printValue pretty n v d true (by omega))
      (settles_printItems pretty n vs d hDeep)

theorem settles_printEntries
    (pretty : Bool)
    (n : Nat) :
    {lo : Option String} → (fs : Fields lo) → (d : Nat) →
      d ≠ 0 → (m : Mode) → State.Between ⟨d, m, true⟩ →
        Settles ⟨d, m, true⟩ (printEntries pretty n fs)
| _, .nil, d, _, m, hMode =>
    ⟨m, hMode, Stays.nil (Nat.le_refl d)⟩
| _, .cons k hAbove v fs, d, hDeep, m, hMode =>
    settles_next pretty n hMode
      (settles_entry pretty k
        (settles_printValue pretty n v d true (by omega)))
      (settles_printEntries pretty n fs d hDeep)

end

/- A printed value is a complete text. -/
theorem complete_printValue
    (pretty : Bool)
    (v : Value) :
    Complete (printValue pretty 0 v) := by
  rcases settles_printValue pretty 0 v 0 false (fun _ => rfl)
    with ⟨m, hBetween, hScan, -⟩
  exact ⟨⟨0, m, true⟩, hScan, rfl, hBetween⟩

/- A printed object is bracketed. -/
theorem bracketed_printValue
    (pretty : Bool)
    (n : Nat)
    (fs : Map) :
    Bracketed (printValue pretty n (.object fs)) := by
  cases fs with
  | nil => exact bracketed_empty (Or.inl rfl) (Or.inl rfl)
  | cons k hAbove v fs =>
      exact bracketed_of_stays (Or.inl rfl) (Or.inl rfl)
        (fun d => settles_block pretty n
          (settles_entry pretty k
            (settles_printValue pretty (n + 1) v (d + 1) true
              (by omega)))
          (settles_printEntries pretty (n + 1) fs (d + 1)
            (by omega)))

end Reference

end UnidppArchive

------------------------------------------------------------
-- Control Characters
------------------------------------------------------------

namespace UnidppArchive

namespace Reference

open Json

/- No character of the text is a control character. -/
def Visible
    (cs : List Char) : Prop :=
  ∀ c ∈ cs, 0x20 ≤ c.toNat

theorem visible_of_all
    {cs : List Char}
    (h : cs.all (0x20 ≤ ·.toNat) = true) :
    Visible cs := by
  intro c hc
  simpa using List.all_eq_true.mp h c hc

theorem visible_append
    {cs ds : List Char}
    (hFront : Visible cs)
    (hBack : Visible ds) :
    Visible (cs ++ ds) := by
  intro c hc
  rcases List.mem_append.mp hc with hc | hc
  · exact hFront c hc
  · exact hBack c hc

theorem visible_cons
    {c : Char}
    {cs : List Char}
    (hHead : 0x20 ≤ c.toNat)
    (hTail : Visible cs) :
    Visible (c :: cs) := by
  intro e he
  rcases List.mem_cons.mp he with rfl | he
  · exact hHead
  · exact hTail e he

theorem visible_toDigits
    (n : Nat) :
    Visible (Nat.toDigits 10 n) := by
  intro c hc
  have hDigit :=
    Char.isDigit_iff_toNat.mp (Text.isDigit_of_mem_toDigits hc)
  have hZero : '0'.toNat = 48 := rfl
  omega

theorem visible_escapeChar
    (c : Char) :
    Visible (escapeChar c) := by
  have hHex :
      ∀ n : Fin 16, 0x20 ≤ (Nat.digitChar n).toNat := by
    decide
  unfold escapeChar
  split
  · exact visible_of_all rfl
  split
  · exact visible_of_all rfl
  split
  · exact visible_of_all rfl
  split
  · exact visible_of_all rfl
  split
  · exact visible_of_all rfl
  split
  · exact visible_of_all rfl
  split
  · exact visible_of_all rfl
  split
  · have hHigh := hHex ⟨c.toNat / 16, by omega⟩
    have hLow := hHex ⟨c.toNat % 16, by omega⟩
    intro e he
    simp only [List.mem_cons, List.not_mem_nil,
      or_false] at he
    rcases he with rfl | rfl | rfl | rfl | rfl | rfl
    · decide
    · decide
    · decide
    · decide
    · exact hHigh
    · exact hLow
  · intro e he
    rw [List.mem_singleton] at he
    subst he
    omega

theorem visible_printString
    (s : String) :
    Visible (printString s) := by
  refine visible_cons (by decide) (visible_append ?_ (visible_of_all rfl))
  intro e he
  rcases List.mem_flatMap.mp he with ⟨c, -, he⟩
  exact visible_escapeChar c e he

theorem visible_printNumber
    (m : Number) :
    Visible (printNumber m) := by
  cases m with
  | posInt n => exact visible_toDigits _
  | negInt n =>
      exact visible_cons (by decide) (visible_toDigits _)
  | float bits =>
      exact visible_append (visible_toDigits _)
        (visible_of_all rfl)

mutual

/- The compact text of a value has no control character. -/
theorem visible_printValue
    (n : Nat) :
    (v : Value) → Visible (printValue false n v)
| .null => visible_of_all rfl
| .bool true => visible_of_all rfl
| .bool false => visible_of_all rfl
| .number m => visible_printNumber m
| .string s => visible_printString s
| .array .nil => visible_of_all rfl
| .array (.cons v vs) =>
    visible_cons (by decide) (visible_append
      (visible_append
        (visible_append
          (visible_append (visible_of_all rfl)
            (visible_printValue (n + 1) v))
          (visible_printItems (n + 1) vs)) (visible_of_all rfl))
      (visible_of_all rfl))
| .object .nil => visible_of_all rfl
| .object (.cons k hAbove v fs) =>
    visible_cons (by decide) (visible_append
      (visible_append
        (visible_append
          (visible_append (visible_of_all rfl)
            (visible_append
              (visible_append (visible_printString k)
                (visible_of_all rfl))
              (visible_printValue (n + 1) v)))
          (visible_printEntries (n + 1) fs)) (visible_of_all rfl))
      (visible_of_all rfl))

theorem visible_printItems
    (n : Nat) :
    (vs : Values) → Visible (printItems false n vs)
| .nil => visible_of_all rfl
| .cons v vs =>
    visible_cons (by decide)
      (visible_append
        (visible_append (visible_of_all rfl) (visible_printValue n v))
        (visible_printItems n vs))

theorem visible_printEntries
    (n : Nat) :
    {lo : Option String} → (fs : Fields lo) →
      Visible (printEntries false n fs)
| _, .nil => visible_of_all rfl
| _, .cons k hAbove v fs =>
    visible_cons (by decide)
      (visible_append
        (visible_append (visible_of_all rfl)
          (visible_append
            (visible_append (visible_printString k)
              (visible_of_all rfl))
            (visible_printValue n v)))
        (visible_printEntries n fs))

end

end Reference

end UnidppArchive

------------------------------------------------------------
-- Members of Printed Objects
------------------------------------------------------------

namespace UnidppArchive

namespace Reference

open Json

theorem mem_printEntries
    {key : String}
    {w : Value}
    {c : Char}
    (hc : ∀ n, c ∈ printValue false n w)
    (n : Nat) :
    {lo : Option String} → (fs : Fields lo) →
      fs.get? key = some w → c ∈ printEntries false n fs
| _, .nil, h => by
    simp [Fields.get?] at h
| _, .cons k hAbove v fs, h => by
    rw [Fields.get?] at h
    split at h
    · cases h
      simp [printEntries, hc n]
    · have hRest := mem_printEntries hc n fs h
      simp [printEntries, hRest]

/- The text of a member is part of the object's text. -/
theorem mem_printValue_of_member
    {v w : Value}
    {key : String}
    {c : Char}
    (h : v.get? key = some w)
    (hc : ∀ n, c ∈ printValue false n w)
    (n : Nat) :
    c ∈ printValue false n v := by
  cases v with
  | object fs =>
      cases fs with
      | nil => simp [Value.get?, Fields.get?] at h
      | cons k hAbove v fs =>
          rw [Value.get?, Fields.get?] at h
          split at h
          · cases h
            simp [printValue, hc (n + 1)]
          · have hRest := mem_printEntries hc (n + 1) fs h
            simp [printValue, hRest]
  | null => simp [Value.get?] at h
  | bool b => simp [Value.get?] at h
  | number m => simp [Value.get?] at h
  | string s => simp [Value.get?] at h
  | array vs => simp [Value.get?] at h

end Reference

end UnidppArchive
