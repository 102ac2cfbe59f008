import UnidppArchive.Json.Serde

/-
  How deep arrays and objects nest.

  `serde_json` counts the brackets that are open while it
  reads, and refuses a text that opens too many.  The texts
  it prints are read back up to that depth.

  Key definitions include:
    * `Json.Value.depth`
    * `Json.SerdeJson.Nests`
    * `Json.SerdeJson.limited`

  Key theorems include:
    * `Json.depth_object`
    * `Json.SerdeJson.Nests.accepts_iff`
    * `Json.SerdeJson.nests_limited`
-/

------------------------------------------------------------
-- Depth
------------------------------------------------------------

namespace UnidppArchive

namespace Json

mutual

/- The nesting of arrays and objects, none for a scalar. -/
def Value.depth :
    Value → Nat
| .null | .bool _ | .number _ | .string _ => 0
| .array xs => xs.depth + 1
| .object fs => fs.depth + 1

/- The deepest element. -/
def Values.depth :
    Values → Nat
| .nil => 0
| .cons v vs => max v.depth vs.depth

/- The deepest member. -/
def Fields.depth :
    {lo : Option String} → Fields lo → Nat
| _, .nil => 0
| _, .cons _ _ v fs => max v.depth fs.depth

end

/- A new member counts beside the others. -/
theorem Fields.depth_insert :
    {lo : Option String} → (fs : Fields lo) →
      (key : String) → (hKey : Above lo key) →
        (val : Value) → fs.get? key = none →
          (fs.insert key hKey val).depth =
            max val.depth fs.depth
| _, .nil, key, hKey, val, hFresh => by
    simp [insert, depth]
| _, .cons k hAbove v fs, key, hKey, val, hFresh => by
    by_cases hLt : key < k
    · simp [insert, depth, hLt]
    · by_cases hEq : key = k
      · simp [get?, hEq] at hFresh
      · rw [get?, if_neg hEq] at hFresh
        have ih := depth_insert fs key
          (lt_of_le_of_ne (not_lt.mp hLt) (Ne.symm hEq))
          val hFresh
        simp only [insert, hLt, hEq, dite_false, depth, ih]
        omega

/- The deepest of new members and of the old ones. -/
theorem Map.depth_insertAll
    (es : List (String × Value))
    (m : Map)
    (hKeys : (es.map Prod.fst).Nodup)
    (hFresh : ∀ e ∈ es, m.get? e.1 = none) :
    (insertAll m es).depth =
      max m.depth ((es.map fun e => e.2.depth).foldr max 0) := by
  induction es generalizing m with
  | nil => simp
  | cons e es ih =>
      simp only [List.map_cons, List.nodup_cons] at hKeys
      have hHead : m.get? e.1 = none := hFresh e (by simp)
      have hTail :
          ∀ d ∈ es, (insert m e.1 e.2).get? d.1 = none := by
        intro d hd
        have hNe : d.1 ≠ e.1 := by
          intro hSame
          exact hKeys.1 (hSame ▸ List.mem_map_of_mem hd)
        rw [get?_insert, if_neg hNe]
        exact hFresh d (List.mem_cons_of_mem e hd)
      have hDepth :
          (insert m e.1 e.2).depth =
            max e.2.depth m.depth :=
        Fields.depth_insert m e.1 trivial e.2 hHead
      have hRest := ih (insert m e.1 e.2) hKeys.2 hTail
      rw [hDepth] at hRest
      simp only [List.map_cons, List.foldr_cons]
      calc (insertAll m (e :: es)).depth
          = (insertAll (insert m e.1 e.2) es).depth := rfl
        _ = _ := by rw [hRest]; omega

/- An object literal is one deeper than its members. -/
theorem depth_object
    {es : List (String × Value)}
    (hKeys : (es.map Prod.fst).Nodup) :
    (object es).depth =
      (es.map fun e => e.2.depth).foldr max 0 + 1 := by
  have hMap :=
    Map.depth_insertAll es .nil hKeys (fun _ _ => rfl)
  rw [object, Value.depth, hMap]
  simp [Fields.depth]

@[simp] theorem depth_string
    (s : String) :
    (Value.string s).depth = 0 := by
  simp [Value.depth]

@[simp] theorem depth_null :
    Value.null.depth = 0 := by
  simp [Value.depth]

@[simp] theorem depth_u64
    (n : UInt64) :
    (u64 n).depth = 0 := by
  simp [u64, Value.depth]

@[simp] theorem depth_optString
    (s : Option String) :
    (optString s).depth = 0 := by
  cases s <;> simp [optString]

@[simp] theorem depth_optU64
    (n : Option UInt64) :
    (optU64 n).depth = 0 := by
  cases n <;> simp [optU64]

end Json

end UnidppArchive

------------------------------------------------------------
-- The Limit of the Parser
------------------------------------------------------------

namespace UnidppArchive

namespace Json

namespace SerdeJson

/- The text is read. -/
def Accepts
    (S : SerdeJson)
    (text : String) : Prop :=
  ∃ v, S.fromStr text = .ok v

/-
  What is printed is read back up to a depth of nesting, and
  refused when it is deeper.
-/
structure Nests
    (S : SerdeJson)
    (limit : Nat) : Prop where
  inverts : ∀ v : Value, v.depth ≤ limit → S.Inverts v
  invertsPretty :
    ∀ v : Value, v.depth ≤ limit → S.InvertsPretty v
  refuses :
    ∀ v : Value, limit < v.depth → ¬ S.Accepts (S.toString v)
  refusesPretty :
    ∀ v : Value, limit < v.depth →
      ¬ S.Accepts (S.toStringPretty v)

namespace Nests

variable {S : SerdeJson}
variable {limit : Nat}

theorem accepts_iff
    (h : S.Nests limit)
    (v : Value) :
    S.Accepts (S.toString v) ↔ v.depth ≤ limit := by
  constructor
  · intro hAccepts
    by_contra hDeep
    exact h.refuses v (by omega) hAccepts
  · intro hDepth
    exact ⟨v, h.inverts v hDepth⟩

theorem acceptsPretty_iff
    (h : S.Nests limit)
    (v : Value) :
    S.Accepts (S.toStringPretty v) ↔ v.depth ≤ limit := by
  constructor
  · intro hAccepts
    by_contra hDeep
    exact h.refusesPretty v (by omega) hAccepts
  · intro hDepth
    exact ⟨v, h.invertsPretty v hDepth⟩

end Nests

/- A parser that refuses what is nested too deep. -/
def limited
    (S : SerdeJson)
    (limit : Nat) : SerdeJson :=
  { S with
    fromStr := fun s =>
      match S.fromStr s with
      | .error e => .error e
      | .ok v =>
          if v.depth ≤ limit then
            .ok v
          else
            .error "recursion limit exceeded" }

variable {S : SerdeJson}
variable {limit : Nat}

theorem fromStr_limited_eq_ok_iff
    {s : String}
    {v : Value} :
    (S.limited limit).fromStr s = .ok v ↔
      S.fromStr s = .ok v ∧ v.depth ≤ limit := by
  unfold limited
  cases hParse : S.fromStr s with
  | error e => simp [hParse]
  | ok w =>
      by_cases hDepth : w.depth ≤ limit
      · simp only [hParse, if_pos hDepth, Except.ok.injEq]
        constructor
        · rintro rfl
          exact ⟨rfl, hDepth⟩
        · exact And.left
      · simp only [hParse, if_neg hDepth, Except.ok.injEq]
        constructor
        · intro h
          cases h
        · rintro ⟨rfl, hShallow⟩
          exact absurd hShallow hDepth

/- A limit takes nothing from the laws. -/
theorem Lawful.limited
    (h : S.Lawful) :
    (S.limited limit).Lawful where
  complete_of_fromStr := fun hParse =>
    h.complete_of_fromStr (fromStr_limited_eq_ok_iff.mp hParse).1
  bracketed_toString := h.bracketed_toString
  toString_cons := h.toString_cons
  control_free := h.control_free

/- An inverting parser nests up to the limit it is given. -/
theorem nests_limited
    (hInverts : ∀ v, S.Inverts v)
    (hPretty : ∀ v, S.InvertsPretty v) :
    (S.limited limit).Nests limit where
  inverts := fun v hDepth =>
    fromStr_limited_eq_ok_iff.mpr ⟨hInverts v, hDepth⟩
  invertsPretty := fun v hDepth =>
    fromStr_limited_eq_ok_iff.mpr ⟨hPretty v, hDepth⟩
  refuses := by
    rintro v hDeep ⟨w, hParse⟩
    rcases fromStr_limited_eq_ok_iff.mp hParse with
      ⟨hRead, hShallow⟩
    have hSame : v = w :=
      Except.ok.inj ((hInverts v).symm.trans hRead)
    rw [← hSame] at hShallow
    omega
  refusesPretty := by
    rintro v hDeep ⟨w, hParse⟩
    rcases fromStr_limited_eq_ok_iff.mp hParse with
      ⟨hRead, hShallow⟩
    have hSame : v = w :=
      Except.ok.inj ((hPretty v).symm.trans hRead)
    rw [← hSame] at hShallow
    omega

end SerdeJson

end Json

end UnidppArchive
