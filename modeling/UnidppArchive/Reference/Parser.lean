import UnidppArchive.Reference.Printer

/-
  A parser of JSON texts, and a lawful instance of the
  functions of `serde_json`.

  The parser inverts the printer on every value.  It stands
  for the real parser on values that are not nested too deep
  and hold no float.

  Key definitions include:
    * `Reference.parseValue`
    * `Reference.serde`

  Key theorems include:
    * `Reference.parseValue_printValue`
    * `Reference.lawful_serde`
    * `Reference.inverts_serde`
-/

------------------------------------------------------------
-- Parsing
------------------------------------------------------------

namespace UnidppArchive

namespace Reference

open Json

def skipSpace
    (cs : List Char) : List Char :=
  cs.dropWhile Lexical.isSpace

/- The character that a short escape stands for. -/
def unescape
    (e : Char) : Option Char :=
  if e = '\"' ∨ e = '\\' ∨ e = '/' then some e
  else if e = 'b' then some (Char.ofNat 8)
  else if e = 't' then some (Char.ofNat 9)
  else if e = 'n' then some (Char.ofNat 10)
  else if e = 'f' then some (Char.ofNat 12)
  else if e = 'r' then some (Char.ofNat 13)
  else none

def hexValue
    (c : Char) : Option Nat :=
  if c.isDigit then some (c.toNat - 48)
  else if 97 ≤ c.toNat ∧ c.toNat ≤ 102 then
    some (c.toNat - 87)
  else if 65 ≤ c.toNat ∧ c.toNat ≤ 70 then
    some (c.toNat - 55)
  else none

/- The character of a four-digit escape. -/
def unescapeHex
    (h₁ h₂ h₃ h₄ : Char) : Option Char := do
  let a ← hexValue h₁
  let b ← hexValue h₂
  let c ← hexValue h₃
  let d ← hexValue h₄
  let n := ((a * 16 + b) * 16 + c) * 16 + d
  if 0xd800 ≤ n ∧ n ≤ 0xdfff then none
  else some (Char.ofNat n)

/- The characters up to the closing quote. -/
def parseString :
    List Char → Option (List Char × List Char)
| [] => none
| '\"' :: rest => some ([], rest)
| '\\' :: 'u' :: h₁ :: h₂ :: h₃ :: h₄ :: rest => do
    let c ← unescapeHex h₁ h₂ h₃ h₄
    let (cs, rest) ← parseString rest
    some (c :: cs, rest)
| '\\' :: e :: rest => do
    let c ← unescape e
    let (cs, rest) ← parseString rest
    some (c :: cs, rest)
| c :: rest =>
    if c = '\\' ∨ c.toNat < 0x20 then
      none
    else do
      let (cs, rest) ← parseString rest
      some (c :: cs, rest)

/- A number without a sign. -/
def parseUnsigned
    (cs : List Char) : Option (Number × List Char) :=
  let n := Nat.ofDigitChars 10 (cs.takeWhile Char.isDigit) 0
  if cs.takeWhile Char.isDigit = [] ∨ 2 ^ 64 ≤ n then
    none
  else
    match cs.dropWhile Char.isDigit with
    | 'e' :: '0' :: rest =>
        some (.float (UInt64.ofNat n), rest)
    | rest => some (.posInt (UInt64.ofNat n), rest)

/- A number after its minus sign. -/
def parseNegative
    (cs : List Char) : Option (Number × List Char) :=
  let n := Nat.ofDigitChars 10 (cs.takeWhile Char.isDigit) 0
  if h : n - 1 < 2 ^ 63 ∧ n ≠ 0 then
    some (.negInt ⟨n - 1, h.1⟩, cs.dropWhile Char.isDigit)
  else
    none

/- A later entry replaces an earlier one of the same key. -/
def fromEntries :
    List (String × Value) → Map
| [] => .nil
| (k, v) :: es =>
    let m := fromEntries es
    match Fields.get? m k with
    | some _ => m
    | none => Map.insert m k v

mutual

/- A value after white space, with nesting up to `fuel`. -/
def parseValue :
    Nat → List Char → Option (Value × List Char)
| 0, _ => none
| fuel + 1, cs =>
    match skipSpace cs with
    | '\"' :: rest => do
        let (s, rest) ← parseString rest
        some (.string (String.ofList s), rest)
    | '[' :: rest => do
        match skipSpace rest with
        | ']' :: rest => some (.array .nil, rest)
        | rest => do
            let (v, rest) ← parseValue fuel rest
            let (vs, rest) ← parseItems fuel rest
            some (.array (.cons v vs), rest)
    | '{' :: rest =>
        match skipSpace rest with
        | '}' :: rest => some (.object .nil, rest)
        | rest => do
            let (e, rest) ← parseEntry fuel rest
            let (es, rest) ← parseEntries fuel rest
            some (.object (fromEntries (e :: es)), rest)
    | 'n' :: 'u' :: 'l' :: 'l' :: rest => some (.null, rest)
    | 't' :: 'r' :: 'u' :: 'e' :: rest =>
        some (.bool true, rest)
    | 'f' :: 'a' :: 'l' :: 's' :: 'e' :: rest =>
        some (.bool false, rest)
    | '-' :: rest => do
        let (m, rest) ← parseNegative rest
        some (.number m, rest)
    | cs => do
        let (m, rest) ← parseUnsigned cs
        some (.number m, rest)

/- The elements after the first one, and the bracket. -/
def parseItems :
    Nat → List Char → Option (Values × List Char)
| 0, _ => none
| fuel + 1, cs =>
    match skipSpace cs with
    | ']' :: rest => some (.nil, rest)
    | ',' :: rest => do
        let (v, rest) ← parseValue fuel rest
        let (vs, rest) ← parseItems fuel rest
        some (.cons v vs, rest)
    | _ => none

/- A key with its value. -/
def parseEntry :
    Nat → List Char → Option ((String × Value) × List Char)
| 0, _ => none
| fuel + 1, cs =>
    match skipSpace cs with
    | '\"' :: rest => do
        let (k, rest) ← parseString rest
        match skipSpace rest with
        | ':' :: rest => do
            let (v, rest) ← parseValue fuel rest
            some ((String.ofList k, v), rest)
        | _ => none
    | _ => none

/- The entries after the first one, and the bracket. -/
def parseEntries :
    Nat → List Char →
      Option (List (String × Value) × List Char)
| 0, _ => none
| fuel + 1, cs =>
    match skipSpace cs with
    | '}' :: rest => some ([], rest)
    | ',' :: rest => do
        let (e, rest) ← parseEntry fuel rest
        let (es, rest) ← parseEntries fuel rest
        some (e :: es, rest)
    | _ => none

end

end Reference

end UnidppArchive

------------------------------------------------------------
-- Strings and Numbers Read Back
------------------------------------------------------------

namespace UnidppArchive

namespace Reference

open Json

theorem hexValue_digitChar
    (n : Fin 16) :
    hexValue (Nat.digitChar n) = some n.val := by
  revert n
  decide

/- A control character is read back from its escape. -/
theorem unescapeHex_control
    {c : Char}
    (h : c.toNat < 0x20) :
    unescapeHex '0' '0' (Nat.digitChar (c.toNat / 16))
      (Nat.digitChar (c.toNat % 16)) = some c := by
  have hZero : hexValue '0' = some 0 := rfl
  have hHigh := hexValue_digitChar ⟨c.toNat / 16, by omega⟩
  have hLow := hexValue_digitChar ⟨c.toNat % 16, by omega⟩
  simp only at hHigh hLow
  have hCode :
      ((0 * 16 + 0) * 16 + c.toNat / 16) * 16 + c.toNat % 16 =
        c.toNat := by
    omega
  simp only [unescapeHex, hZero, hHigh, hLow,
    Option.bind_eq_bind, Option.bind_some, hCode]
  rw [if_neg (by omega), Char.ofNat_toNat]

theorem parseString_escapeChar
    (c : Char)
    (rest : List Char) :
    parseString (escapeChar c ++ rest) =
      (do
        let (cs, rest) ← parseString rest
        some (c :: cs, rest)) := by
  have hCode :
      ∀ n, c.toNat = n → c = Char.ofNat n := by
    rintro n rfl
    exact (Char.ofNat_toNat c).symm
  unfold escapeChar
  split
  · rename_i hQuote
    subst hQuote
    simp [parseString, unescape]
  rename_i hQuote
  split
  · rename_i hSlash
    subst hSlash
    simp [parseString, unescape]
  rename_i hSlash
  split
  · rename_i hBell
    have hChar := hCode 8 hBell
    subst hChar
    simp [parseString, unescape]
  split
  · rename_i hTab
    have hChar := hCode 9 hTab
    subst hChar
    simp [parseString, unescape]
  split
  · rename_i hLine
    have hChar := hCode 10 hLine
    subst hChar
    simp [parseString, unescape]
  split
  · rename_i hFeed
    have hChar := hCode 12 hFeed
    subst hChar
    simp [parseString, unescape]
  split
  · rename_i hReturn
    have hChar := hCode 13 hReturn
    subst hChar
    simp [parseString, unescape]
  split
  · rename_i hControl
    simp [parseString, unescapeHex_control hControl]
  · rename_i hControl
    simp [parseString, hSlash, hControl]

/- A printed string is read back. -/
theorem parseString_printed
    (cs rest : List Char) :
    parseString (cs.flatMap escapeChar ++ '\"' :: rest) =
      some (cs, rest) := by
  induction cs with
  | nil => simp [parseString]
  | cons c cs ih =>
      rw [List.flatMap_cons, List.append_assoc,
        parseString_escapeChar, ih]
      rfl

/- What may follow a number: no digit and no exponent. -/
def Stop
    (rest : List Char) : Prop :=
  ∀ c cs, rest = c :: cs → c.isDigit = false ∧ c ≠ 'e'

theorem takeWhile_digits
    {ds rest : List Char}
    (hDigits : ∀ c ∈ ds, c.isDigit = true)
    (hStop : ∀ c cs, rest = c :: cs → c.isDigit = false) :
    (ds ++ rest).takeWhile Char.isDigit = ds ∧
      (ds ++ rest).dropWhile Char.isDigit = rest := by
  induction ds with
  | nil =>
      cases rest with
      | nil => exact ⟨rfl, rfl⟩
      | cons c cs =>
          have hHead := hStop c cs rfl
          simp [hHead]
  | cons d ds ih =>
      have hHead := hDigits d (by simp)
      have hTail := ih (fun c hc => hDigits c (by simp [hc]))
      simp [hHead, hTail]

theorem toDigits_read
    (n : Nat)
    {rest : List Char}
    (hStop : ∀ c cs, rest = c :: cs → c.isDigit = false) :
    (Nat.toDigits 10 n ++ rest).takeWhile Char.isDigit =
        Nat.toDigits 10 n ∧
      (Nat.toDigits 10 n ++ rest).dropWhile Char.isDigit =
        rest :=
  takeWhile_digits
    (fun _ hc => Text.isDigit_of_mem_toDigits hc) hStop

/- Printed numbers are read back where they end. -/
theorem parseUnsigned_posInt
    (n : UInt64)
    {rest : List Char}
    (hStop : Stop rest) :
    parseUnsigned (Nat.toDigits 10 n.toNat ++ rest) =
      some (.posInt n, rest) := by
  have hRead :=
    toDigits_read n.toNat (fun c cs h => (hStop c cs h).1)
  have hRange :
      ¬ (Nat.toDigits 10 n.toNat = [] ∨
        2 ^ 64 ≤ n.toNat) := by
    rintro (hNil | hLarge)
    · exact Nat.toDigits_ne_nil hNil
    · have h := n.toNat_lt
      omega
  have hRest : ∀ tail, rest ≠ 'e' :: '0' :: tail := by
    intro tail h
    exact (hStop _ _ h).2 rfl
  unfold parseUnsigned
  simp only [hRead.1, hRead.2, Nat.ofDigitChars_ten_toDigits]
  rw [if_neg hRange]
  simp

theorem parseUnsigned_float
    (bits : UInt64)
    (rest : List Char) :
    parseUnsigned
      (Nat.toDigits 10 bits.toNat ++ 'e' :: '0' :: rest) =
        some (.float bits, rest) := by
  have hExponent :
      ∀ c cs, 'e' :: '0' :: rest = c :: cs →
        c.isDigit = false := by
    intro c cs h
    cases h
    rfl
  have hRead :=
    toDigits_read bits.toNat hExponent
  have hRange :
      ¬ (Nat.toDigits 10 bits.toNat = [] ∨
        2 ^ 64 ≤ bits.toNat) := by
    rintro (hNil | hLarge)
    · exact Nat.toDigits_ne_nil hNil
    · have h := bits.toNat_lt
      omega
  unfold parseUnsigned
  simp only [hRead.1, hRead.2, Nat.ofDigitChars_ten_toDigits]
  rw [if_neg hRange]
  simp

theorem parseNegative_negInt
    (n : Fin (2 ^ 63))
    {rest : List Char}
    (hStop : Stop rest) :
    parseNegative (Nat.toDigits 10 (n.val + 1) ++ rest) =
      some (.negInt n, rest) := by
  have hRead :=
    toDigits_read (n.val + 1)
      (fun c cs h => (hStop c cs h).1)
  unfold parseNegative
  simp only [hRead.1, hRead.2, Nat.ofDigitChars_ten_toDigits]
  rw [dif_pos ⟨by have h := n.isLt; omega, by omega⟩]
  simp

end Reference

end UnidppArchive

------------------------------------------------------------
-- White Space and First Characters
------------------------------------------------------------

namespace UnidppArchive

namespace Reference

open Json

@[simp] theorem skipSpace_cons
    {c : Char}
    (h : Lexical.isSpace c = false)
    (cs : List Char) :
    skipSpace (c :: cs) = c :: cs := by
  simp [skipSpace, h]

@[simp] theorem skipSpace_lineBreak
    (pretty : Bool)
    (n : Nat)
    (cs : List Char) :
    skipSpace (lineBreak pretty n ++ cs) = skipSpace cs := by
  cases pretty with
  | false => rfl
  | true =>
      have hSpaces :
          ∀ k, skipSpace (List.replicate k ' ' ++ cs) =
            skipSpace cs := by
        intro k
        induction k with
        | zero => rfl
        | succ k ih =>
            rw [List.replicate_succ, List.cons_append,
              skipSpace, List.dropWhile_cons_of_pos (by decide)]
            exact ih
      rw [lineBreak, if_pos rfl, List.cons_append, skipSpace,
        List.dropWhile_cons_of_pos (by decide)]
      exact hSpaces (2 * n)

/- The text starts with no white space and no bracket end. -/
def Starts
    (cs : List Char) : Prop :=
  ∃ c tail, cs = c :: tail ∧ Lexical.isSpace c = false ∧
    c ≠ ']' ∧ c ≠ '}'

theorem starts_of_plain
    {c : Char}
    (h : Plain c)
    (tail : List Char) :
    Starts (c :: tail) :=
  ⟨c, tail, rfl, h.space, h.bracket.2, h.brace.2⟩

theorem starts_toDigits
    (n : Nat)
    (rest : List Char) :
    Starts (Nat.toDigits 10 n ++ rest) := by
  cases hDigits : Nat.toDigits 10 n with
  | nil => exact (Nat.toDigits_ne_nil hDigits).elim
  | cons c cs =>
      exact starts_of_plain
        (plain_of_mem_toDigits (by rw [hDigits]; simp)) _

theorem starts_printValue
    (pretty : Bool)
    (n : Nat)
    (v : Value)
    (rest : List Char) :
    Starts (printValue pretty n v ++ rest) := by
  cases v with
  | null => exact ⟨'n', _, rfl, by decide⟩
  | bool b => cases b <;> exact ⟨_, _, rfl, by decide⟩
  | number m =>
      cases m with
      | posInt n => exact starts_toDigits _ _
      | negInt n => exact ⟨'-', _, rfl, by decide⟩
      | float bits =>
          rw [printValue, printNumber, List.append_assoc]
          exact starts_toDigits _ _
  | string s => exact ⟨'\"', _, rfl, by decide⟩
  | array vs => cases vs <;> exact ⟨'[', _, rfl, by decide⟩
  | object fs => cases fs <;> exact ⟨'{', _, rfl, by decide⟩

theorem skipSpace_starts
    {cs : List Char}
    (h : Starts cs) :
    skipSpace cs = cs := by
  rcases h with ⟨c, tail, rfl, hSpace, -⟩
  exact skipSpace_cons hSpace tail

/- Neither a digit nor an exponent follows a value. -/
theorem stop_lineBreak
    (pretty : Bool)
    (n : Nat)
    {rest : List Char}
    (hRest : Stop rest) :
    Stop (lineBreak pretty n ++ rest) := by
  cases pretty with
  | false => exact hRest
  | true =>
      intro c cs h
      rw [lineBreak, if_pos rfl, List.cons_append,
        List.cons.injEq] at h
      rw [← h.1]
      decide

theorem stop_cons
    {c : Char}
    (h : c.isDigit = false ∧ c ≠ 'e')
    (rest : List Char) :
    Stop (c :: rest) := by
  intro d cs hEq
  cases hEq
  exact h

end Reference

end UnidppArchive

------------------------------------------------------------
-- Values Read Back
------------------------------------------------------------

namespace UnidppArchive

namespace Reference

open Json

mutual

/- Enough fuel to read a value's text. -/
def weight :
    Value → Nat
| .array (.cons v vs) => weight v + weightItems vs + 1
| .object (.cons _ _ v fs) => weight v + weightEntries fs + 2
| _ => 1

def weightItems :
    Values → Nat
| .nil => 1
| .cons v vs => weight v + weightItems vs + 1

def weightEntries :
    {lo : Option String} → Fields lo → Nat
| _, .nil => 1
| _, .cons _ _ v fs => weight v + weightEntries fs + 2

end

/- Leading white space is skipped. -/
theorem parseValue_congr
    {cs ds : List Char}
    (h : skipSpace cs = skipSpace ds)
    (fuel : Nat) :
    parseValue fuel cs = parseValue fuel ds := by
  cases fuel with
  | zero => rfl
  | succ fuel => rw [parseValue, parseValue, h]

theorem parseValue_lineBreak
    (pretty : Bool)
    (n fuel : Nat)
    (cs : List Char) :
    parseValue fuel (lineBreak pretty n ++ cs) =
      parseValue fuel cs :=
  parseValue_congr (skipSpace_lineBreak pretty n cs) fuel

theorem parseEntry_lineBreak
    (pretty : Bool)
    (n fuel : Nat)
    (cs : List Char) :
    parseEntry fuel (lineBreak pretty n ++ cs) =
      parseEntry fuel cs := by
  cases fuel with
  | zero => rfl
  | succ fuel =>
      rw [parseEntry, parseEntry, skipSpace_lineBreak]

/- A digit starts an unsigned number. -/
theorem parseValue_toDigits
    (fuel n : Nat)
    (rest : List Char) :
    parseValue (fuel + 1) (Nat.toDigits 10 n ++ rest) =
      (do
        let (m, rest) ←
          parseUnsigned (Nat.toDigits 10 n ++ rest)
        some (.number m, rest)) := by
  cases hDigits : Nat.toDigits 10 n with
  | nil => exact (Nat.toDigits_ne_nil hDigits).elim
  | cons c cs =>
      have hMem : c ∈ Nat.toDigits 10 n := by
        rw [hDigits]
        simp
      have hDigit : c.isDigit = true :=
        Text.isDigit_of_mem_toDigits hMem
      have hNe : ∀ e : Char, e.isDigit = false → c ≠ e := by
        rintro e he rfl
        rw [hDigit] at he
        cases he
      have hQuote := hNe '\"' (by decide)
      have hBracket := hNe '[' (by decide)
      have hBrace := hNe '{' (by decide)
      have hNull := hNe 'n' (by decide)
      have hTrue := hNe 't' (by decide)
      have hFalse := hNe 'f' (by decide)
      have hMinus := hNe '-' (by decide)
      rw [List.cons_append, parseValue,
        skipSpace_cons (plain_of_isDigit hDigit).space]
      split <;> simp_all

/- A bracket with content starts with the first element. -/
theorem parseValue_array
    (fuel : Nat)
    {cs ds : List Char}
    (hSkip : skipSpace cs = ds)
    (hStarts : Starts ds) :
    parseValue (fuel + 1) ('[' :: cs) =
      (do
        let (v, rest) ← parseValue fuel ds
        let (vs, rest) ← parseItems fuel rest
        some (.array (.cons v vs), rest)) := by
  rcases hStarts with ⟨c, tail, rfl, -, hEnd, -⟩
  rw [parseValue, skipSpace_cons (by decide)]
  simp only [hSkip]
  split
  · rename_i hEq
    cases hEq
    exact (hEnd rfl).elim
  · rfl

theorem parseValue_object
    (fuel : Nat)
    {cs ds : List Char}
    (hSkip : skipSpace cs = ds)
    (hStarts : Starts ds) :
    parseValue (fuel + 1) ('{' :: cs) =
      (do
        let (e, rest) ← parseEntry fuel ds
        let (es, rest) ← parseEntries fuel rest
        some (.object (fromEntries (e :: es)), rest)) := by
  rcases hStarts with ⟨c, tail, rfl, -, -, hEnd⟩
  rw [parseValue, skipSpace_cons (by decide)]
  simp only [hSkip]
  split
  · rename_i hEq
    cases hEq
    exact (hEnd rfl).elim
  · rfl

/- The entries of a map, whatever bounds its keys. -/
def weaken :
    {lo : Option String} → Fields lo → Map
| _, .nil => .nil
| _, .cons k _ v fs => .cons k trivial v fs

/- The entries of a map make up the map again. -/
theorem fromEntries_toList
    {lo : Option String}
    (fs : Fields lo) :
    fromEntries fs.toList = weaken fs := by
  cases fs with
  | nil => rfl
  | cons k hLow v fs =>
      have ih := fromEntries_toList fs
      have hNew : Fields.get? (weaken fs) k = none := by
        have hAbove :=
          Fields.get?_eq_none_of_not_above fs k (lt_irrefl k)
        cases fs with
        | nil => rfl
        | cons k' hAbove' v' fs' => exact hAbove
      have hFront :
          Map.insert (weaken fs) k v = .cons k trivial v fs := by
        cases fs with
        | nil => rfl
        | cons k' hAbove' v' fs' =>
            simp [Map.insert, weaken, Fields.insert,
              show k < k' from hAbove']
      simp only [Fields.toList, fromEntries, ih, hNew, hFront]
      rfl

theorem stop_printItems
    (pretty : Bool)
    (n m : Nat)
    (vs : Values)
    (rest : List Char) :
    Stop (printItems pretty n vs ++
      (lineBreak pretty m ++ ']' :: rest)) := by
  cases vs with
  | nil =>
      exact stop_lineBreak pretty m (stop_cons (by decide) _)
  | cons v vs => exact stop_cons (by decide) _

theorem stop_printEntries
    (pretty : Bool)
    (n m : Nat)
    {lo : Option String}
    (fs : Fields lo)
    (rest : List Char) :
    Stop (printEntries pretty n fs ++
      (lineBreak pretty m ++ '}' :: rest)) := by
  cases fs with
  | nil =>
      exact stop_lineBreak pretty m (stop_cons (by decide) _)
  | cons k hAbove v fs => exact stop_cons (by decide) _

/- A key with its value is read when the value is. -/
theorem parseEntry_printed
    (pretty : Bool)
    (k : String)
    {v : Value}
    {fuel : Nat}
    {text rest : List Char}
    (hValue : parseValue fuel text = some (v, rest)) :
    parseEntry (fuel + 1)
      (printString k ++ (colon pretty ++ text)) =
        some ((k, v), rest) := by
  have hColon :
      ∃ gap, skipSpace (colon pretty ++ text) = ':' :: gap ∧
        parseValue fuel gap = some (v, rest) := by
    cases pretty with
    | false =>
        exact ⟨text, skipSpace_cons (by decide) _, hValue⟩
    | true =>
        refine ⟨' ' :: text, skipSpace_cons (by decide) _, ?_⟩
        rw [← hValue]
        apply parseValue_congr
        rw [skipSpace, List.dropWhile_cons_of_pos (by decide)]
        rfl
  rcases hColon with ⟨gap, hSkip, hGap⟩
  rw [printString, List.cons_append, List.append_assoc,
    parseEntry, skipSpace_cons (by decide)]
  simp only [List.cons_append, List.nil_append,
    parseString_printed, Option.bind_eq_bind,
    Option.bind_some, hSkip, hGap, String.ofList_toList]

mutual

/- A printed value is read back, and nothing after it. -/
theorem parseValue_printValue
    (pretty : Bool)
    (n : Nat) :
    (v : Value) → (fuel : Nat) → (rest : List Char) →
      weight v ≤ fuel → Stop rest →
        parseValue fuel (printValue pretty n v ++ rest) =
          some (v, rest)
| v, 0, rest, hFuel, _ => by
    have hWeight : 0 < weight v := by
      unfold weight
      split <;> omega
    omega
| .null, fuel + 1, rest, _, _ => by
    simp [printValue, parseValue, skipSpace, Lexical.isSpace]
| .bool true, fuel + 1, rest, _, _ => by
    simp [printValue, parseValue, skipSpace, Lexical.isSpace]
| .bool false, fuel + 1, rest, _, _ => by
    simp [printValue, parseValue, skipSpace, Lexical.isSpace]
| .number (.posInt m), fuel + 1, rest, _, hStop => by
    rw [printValue, printNumber, parseValue_toDigits,
      parseUnsigned_posInt m hStop]
    rfl
| .number (.negInt m), fuel + 1, rest, _, hStop => by
    simp [printValue, printNumber, parseValue, skipSpace,
      Lexical.isSpace, parseNegative_negInt m hStop]
| .number (.float bits), fuel + 1, rest, _, _ => by
    rw [printValue, printNumber, List.append_assoc,
      parseValue_toDigits]
    simp only [List.cons_append, List.nil_append,
      parseUnsigned_float bits rest]
    rfl
| .string s, fuel + 1, rest, _, _ => by
    simp [printValue, printString, parseValue, skipSpace,
      Lexical.isSpace, parseString_printed]
| .array .nil, fuel + 1, rest, _, _ => by
    simp [printValue, parseValue, skipSpace, Lexical.isSpace]
| .object .nil, fuel + 1, rest, _, _ => by
    simp [printValue, parseValue, skipSpace, Lexical.isSpace]
| .array (.cons v vs), fuel + 1, rest, hFuel, _ => by
    simp only [weight] at hFuel
    simp only [printValue, List.cons_append,
      List.append_assoc, List.nil_append]
    have hStarts :=
      starts_printValue pretty (n + 1) v
        (printItems pretty (n + 1) vs ++
          (lineBreak pretty n ++ ']' :: rest))
    have hSkip :=
      skipSpace_lineBreak pretty (n + 1)
        (printValue pretty (n + 1) v ++
          (printItems pretty (n + 1) vs ++
            (lineBreak pretty n ++ ']' :: rest)))
    rw [skipSpace_starts hStarts] at hSkip
    rw [parseValue_array fuel hSkip hStarts,
      parseValue_printValue pretty (n + 1) v fuel _ (by omega)
        (stop_printItems pretty (n + 1) n vs rest)]
    simp only [Option.bind_eq_bind, Option.bind_some,
      parseItems_printItems pretty (n + 1) n vs fuel rest
        (by omega)]
| .object (.cons k hAbove v fs), 1, rest, hFuel, _ => by
    simp only [weight] at hFuel
    omega
| .object (.cons k hAbove v fs), fuel + 2, rest, hFuel, _ => by
    simp only [weight] at hFuel
    simp only [printValue, List.cons_append,
      List.append_assoc, List.nil_append]
    have hStarts :
        Starts (printString k ++ (colon pretty ++
          (printValue pretty (n + 1) v ++
            (printEntries pretty (n + 1) fs ++
              (lineBreak pretty n ++ '}' :: rest))))) :=
      ⟨'\"', _, rfl, by decide⟩
    have hSkip :=
      skipSpace_lineBreak pretty (n + 1)
        (printString k ++ (colon pretty ++
          (printValue pretty (n + 1) v ++
            (printEntries pretty (n + 1) fs ++
              (lineBreak pretty n ++ '}' :: rest)))))
    rw [skipSpace_starts hStarts] at hSkip
    have hValue :=
      parseValue_printValue pretty (n + 1) v fuel _ (by omega)
        (stop_printEntries pretty (n + 1) n fs rest)
    rw [parseValue_object (fuel + 1) hSkip hStarts,
      parseEntry_printed pretty k hValue]
    simp only [Option.bind_eq_bind, Option.bind_some,
      parseEntries_printEntries pretty (n + 1) n fs (fuel + 1)
        rest (by omega)]
    have hMap :=
      fromEntries_toList (Fields.cons k hAbove v fs)
    simp only [Fields.toList] at hMap
    rw [hMap]
    rfl

theorem parseItems_printItems
    (pretty : Bool)
    (n m : Nat) :
    (vs : Values) → (fuel : Nat) → (rest : List Char) →
      weightItems vs ≤ fuel →
        parseItems fuel (printItems pretty n vs ++
          (lineBreak pretty m ++ ']' :: rest)) =
            some (vs, rest)
| vs, 0, rest, hFuel => by
    cases vs <;> simp [weightItems] at hFuel
| .nil, fuel + 1, rest, _ => by
    simp only [printItems, List.nil_append, parseItems,
      skipSpace_lineBreak]
    rw [skipSpace_cons (by decide)]
    rfl
| .cons v vs, fuel + 1, rest, hFuel => by
    simp only [weightItems] at hFuel
    simp only [printItems, List.cons_append,
      List.append_assoc, parseItems]
    rw [skipSpace_cons (by decide)]
    simp only [parseValue_lineBreak]
    rw [parseValue_printValue pretty n v fuel _ (by omega)
      (stop_printItems pretty n m vs rest)]
    simp only [Option.bind_eq_bind, Option.bind_some,
      parseItems_printItems pretty n m vs fuel rest
        (by omega)]

theorem parseEntries_printEntries
    (pretty : Bool)
    (n m : Nat) :
    {lo : Option String} → (fs : Fields lo) →
      (fuel : Nat) → (rest : List Char) →
        weightEntries fs ≤ fuel →
          parseEntries fuel (printEntries pretty n fs ++
            (lineBreak pretty m ++ '}' :: rest)) =
              some (fs.toList, rest)
| _, fs, 0, rest, hFuel => by
    cases fs <;> simp [weightEntries] at hFuel
| _, .nil, fuel + 1, rest, _ => by
    simp only [printEntries, List.nil_append, parseEntries,
      skipSpace_lineBreak]
    rw [skipSpace_cons (by decide)]
    rfl
| _, .cons k hAbove v fs, 1, rest, hFuel => by
    simp only [weightEntries] at hFuel
    omega
| _, .cons k hAbove v fs, fuel + 2, rest, hFuel => by
    simp only [weightEntries] at hFuel
    simp only [printEntries, List.cons_append,
      List.append_assoc]
    rw [parseEntries, skipSpace_cons (by decide)]
    have hValue :=
      parseValue_printValue pretty n v fuel _ (by omega)
        (stop_printEntries pretty n m fs rest)
    simp only [parseEntry_lineBreak,
      parseEntry_printed pretty k hValue,
      Option.bind_eq_bind, Option.bind_some,
      parseEntries_printEntries pretty n m fs (fuel + 1) rest
        (by omega), Fields.toList]

end

end Reference

end UnidppArchive

------------------------------------------------------------
-- A Lawful Instance
------------------------------------------------------------

namespace UnidppArchive

namespace Reference

open Json

mutual

/- A text is long enough to pay for its reading. -/
theorem weight_le_length
    (pretty : Bool)
    (n : Nat) :
    (v : Value) → weight v ≤ (printValue pretty n v).length
| .null => by simp [weight, printValue]
| .bool true => by simp [weight, printValue]
| .bool false => by simp [weight, printValue]
| .number m => by
    cases m <;> simp [weight, printValue, printNumber]
    exact Nat.length_toDigits_pos
| .string s => by simp [weight, printValue, printString]
| .array .nil => by simp [weight, printValue]
| .object .nil => by simp [weight, printValue]
| .array (.cons v vs) => by
    have hHead := weight_le_length pretty (n + 1) v
    have hTail := weightItems_le_length pretty (n + 1) vs
    simp [weight, printValue]
    omega
| .object (.cons k hAbove v fs) => by
    have hHead := weight_le_length pretty (n + 1) v
    have hTail := weightEntries_le_length pretty (n + 1) fs
    simp [weight, printValue, printString]
    omega

theorem weightItems_le_length
    (pretty : Bool)
    (n : Nat) :
    (vs : Values) →
      weightItems vs ≤ (printItems pretty n vs).length + 1
| .nil => by simp [weightItems]
| .cons v vs => by
    have hHead := weight_le_length pretty n v
    have hTail := weightItems_le_length pretty n vs
    simp [weightItems, printItems]
    omega

theorem weightEntries_le_length
    (pretty : Bool)
    (n : Nat) :
    {lo : Option String} → (fs : Fields lo) →
      weightEntries fs ≤
        (printEntries pretty n fs).length + 1
| _, .nil => by simp [weightEntries]
| _, .cons k hAbove v fs => by
    have hHead := weight_le_length pretty n v
    have hTail := weightEntries_le_length pretty n fs
    simp [weightEntries, printEntries, printString]
    omega

end

instance (cs : List Char) :
    Decidable (Lexical.Complete cs) :=
  match h : Lexical.scan Lexical.State.start cs with
  | none =>
      .isFalse (by
        rintro ⟨s, hScan, -⟩
        rw [h] at hScan
        cases hScan)
  | some s =>
      if hEnd : s.depth = 0 ∧ s.mode ≠ .inString ∧
          s.mode ≠ .escaped then
        .isTrue ⟨s, h, hEnd.1, by
          cases hMode : s.mode <;>
            simp_all [Lexical.State.Between]⟩
      else
        .isFalse (by
          rintro ⟨s', hScan, hDepth, hMode⟩
          rw [h] at hScan
          cases hScan
          rcases hMode with hMode | hMode <;>
            simp [hDepth, hMode] at hEnd)

def fromStr
    (s : String) : Except String Value :=
  if Lexical.Complete s.toList then
    match parseValue s.toList.length s.toList with
    | some (v, rest) =>
        if skipSpace rest = [] then .ok v
        else .error "trailing characters"
    | none => .error "expected value"
  else
    .error "unbalanced brackets"

/- The functions of `serde_json`. -/
def serde : SerdeJson where
  fromStr := fromStr
  toString := fun v => String.ofList (printValue false 0 v)
  toStringPretty :=
    fun v => String.ofList (printValue true 0 v)

theorem fromStr_printValue
    (pretty : Bool)
    (v : Value) :
    fromStr (String.ofList (printValue pretty 0 v)) = .ok v := by
  have hStop : Stop [] := by
    intro c cs h
    cases h
  have hRead :=
    parseValue_printValue pretty 0 v
      (printValue pretty 0 v).length []
      (weight_le_length pretty 0 v) hStop
  rw [List.append_nil] at hRead
  simp only [fromStr, String.toList_ofList, hRead]
  rw [if_pos (complete_printValue pretty v)]
  rfl

/- Every value is read back from its compact text. -/
theorem inverts_serde
    (v : Value) :
    serde.Inverts v :=
  fromStr_printValue false v

/- So are the strings of an object. -/
theorem keepsStrings_serde :
    serde.KeepsStrings := by
  intro fs v hRead
  have hSame : Value.object fs = v :=
    Except.ok.inj ((inverts_serde (.object fs)).symm.trans hRead)
  exact ⟨fs, hSame.symm, fun _ _ h => h⟩

/- Every value is read back from its pretty text. -/
theorem invertsPretty_serde
    (v : Value) :
    serde.InvertsPretty v :=
  fromStr_printValue true v

theorem escapeChar_letter
    {c : Char}
    (h : c.isAlpha = true) :
    escapeChar c = [c] := by
  have hNe : ∀ e : Char, e.isAlpha = false → c ≠ e := by
    rintro e he rfl
    rw [h] at he
    cases he
  have hRange : 65 ≤ c.toNat := by
    have hLetter : (c.isUpper || c.isLower) = true := h
    have hLow : 'A'.val ≤ c.val ∨ 'a'.val ≤ c.val := by
      rcases Bool.or_eq_true_iff.mp hLetter with hUpper | hLower
      · exact Or.inl (of_decide_eq_true hUpper).1
      · exact Or.inr
          (of_decide_eq_true (Bool.and_eq_true_iff.mp hLower).1)
    have hCode : c.val.toNat = c.toNat := rfl
    have hUpper : 'A'.val.toNat = 65 := rfl
    have hLower : 'a'.val.toNat = 97 := rfl
    simp only [UInt32.le_iff_toNat_le] at hLow
    omega
  unfold escapeChar
  rw [if_neg (hNe _ (by decide)), if_neg (hNe _ (by decide)),
    if_neg (by omega), if_neg (by omega), if_neg (by omega),
    if_neg (by omega), if_neg (by omega), if_neg (by omega)]

theorem lawful_serde :
    serde.Lawful where
  complete_of_fromStr := by
    intro s v h
    simp only [serde, fromStr] at h
    split at h
    · assumption
    · cases h
  bracketed_toString := by
    intro fs
    simpa [serde] using bracketed_printValue false 0 fs
  toString_cons := by
    intro k hAbove v fs c cs hKey hLetter
    have hPlain := escapeChar_letter hLetter
    simp [serde, printValue, lineBreak, printString, hKey,
      hPlain]
  control_free := by
    intro v c hc
    simp only [serde, String.toList_ofList] at hc
    exact visible_printValue 0 v c hc

end Reference

end UnidppArchive
