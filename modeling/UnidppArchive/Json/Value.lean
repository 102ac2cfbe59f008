import Mathlib.Data.String.Basic
import Mathlib.Tactic.Common

/-
  JSON values as `serde_json` holds them.

  An object is a sorted map without duplicate keys.  The
  type `Fields lo` lists the entries of a map whose keys are
  all above `lo`, so that an unsorted map or a repeated key
  cannot be built.

  Key definitions include:
    * `Json.Number`
    * `Json.Value`
    * `Json.Map`
    * `Json.Map.insert`
    * `Json.object`
    * `Json.Value.get?`

  Key theorems include:
    * `Json.Map.get?_insert`
    * `Json.Map.mem_toList_insertAll`
-/

------------------------------------------------------------
-- Values
------------------------------------------------------------

namespace UnidppArchive

namespace Json

/-
  A JSON number: an unsigned 64-bit integer, a negative
  64-bit integer `-(n + 1)`, or a finite float by its bits.
-/
inductive Number where
  | posInt (n : UInt64)
  | negInt (n : Fin (2 ^ 63))
  | float (bits : UInt64)
  deriving DecidableEq

/- A key is above a lower bound, if there is one. -/
@[reducible]
def Above :
    Option String → String → Prop
| none, _ => True
| some lo, k => lo < k

mutual

/- A JSON value. -/
inductive Value : Type
  | null
  | bool (b : Bool)
  | number (n : Number)
  | string (s : String)
  | array (xs : Values)
  | object (fs : Fields none)

/- The elements of an array. -/
inductive Values : Type
  | nil
  | cons (v : Value) (vs : Values)

/- Map entries in ascending key order, above a bound. -/
inductive Fields : Option String → Type
  | nil {lo : Option String} : Fields lo
  | cons {lo : Option String}
      (k : String) (hAbove : Above lo k)
      (v : Value) (fs : Fields (some k)) : Fields lo

end

/- `serde_json::Map`. -/
abbrev Map :=
  Fields none

end Json

end UnidppArchive

------------------------------------------------------------
-- Maps
------------------------------------------------------------

namespace UnidppArchive

namespace Json

namespace Fields

variable {lo : Option String}

/- `Map::get`. -/
def get? :
    {lo : Option String} → Fields lo → String →
      Option Value
| _, .nil, _ => none
| _, .cons k _ v fs, key =>
    if key = k then some v else fs.get? key

/- `Map::insert`, replacing the value of a present key. -/
def insert
    {lo : Option String}
    (fs : Fields lo)
    (key : String)
    (hKey : Above lo key)
    (val : Value) : Fields lo :=
  match fs with
  | .nil => .cons key hKey val .nil
  | .cons k hAbove v fs =>
      if hLt : key < k then
        .cons key hKey val (.cons k hLt v fs)
      else if hEq : key = k then
        .cons k hAbove val fs
      else
        .cons k hAbove v
          (fs.insert key
            (lt_of_le_of_ne (not_lt.mp hLt) (Ne.symm hEq))
            val)

/- The entries in order. -/
def toList :
    {lo : Option String} → Fields lo →
      List (String × Value)
| _, .nil => []
| _, .cons k _ v fs => (k, v) :: fs.toList

/- Keys below the first entry are absent. -/
theorem get?_eq_none_of_not_above :
    {lo : Option String} → (fs : Fields lo) →
      (key : String) → ¬ Above lo key →
        fs.get? key = none
| _, .nil, key, h => rfl
| lo, .cons k hAbove v fs, key, h => by
    have hNe : key ≠ k := by
      rintro rfl
      exact h hAbove
    have hBelow : ¬ Above (some k) key := by
      intro hLt
      apply h
      cases lo with
      | none => exact trivial
      | some lo => exact lt_trans hAbove hLt
    rw [get?, if_neg hNe,
      get?_eq_none_of_not_above fs key hBelow]

/- An inserted key reads back, every other is unchanged. -/
theorem get?_insert :
    {lo : Option String} → (fs : Fields lo) →
      (key : String) → (hKey : Above lo key) →
        (val : Value) → (key' : String) →
          (fs.insert key hKey val).get? key' =
            if key' = key then some val else fs.get? key'
| _, .nil, key, hKey, val, key' => by
    simp [insert, get?]
| _, .cons k hAbove v fs, key, hKey, val, key' => by
    by_cases hLt : key < k
    · simp [insert, get?, hLt]
    · by_cases hEq : key = k
      · subst key
        by_cases hSame : key' = k <;>
          simp [insert, get?, hSame]
      · have ih := get?_insert fs key
          (lt_of_le_of_ne (not_lt.mp hLt) (Ne.symm hEq))
          val key'
        by_cases hSame : key' = k
        · have hNe : key' ≠ key := by
            rintro rfl
            exact hEq hSame
          simp [insert, get?, hLt, hEq, hSame, Ne.symm hEq]
        · simp [insert, get?, hLt, hEq, hSame, ih]

/- Every entry of a map comes from an insertion or before. -/
theorem mem_toList_insert :
    {lo : Option String} → (fs : Fields lo) →
      (key : String) → (hKey : Above lo key) →
        (val : Value) → (e : String × Value) →
          e ∈ (fs.insert key hKey val).toList →
            e = (key, val) ∨ e ∈ fs.toList
| _, .nil, key, hKey, val, e, h => by
    simpa [insert, toList] using h
| _, .cons k hAbove v fs, key, hKey, val, e, h => by
    unfold insert at h
    split at h
    · simpa [toList] using h
    · split at h
      · rename_i hEq
        subst key
        simp only [toList, List.mem_cons] at h ⊢
        tauto
      · simp only [toList, List.mem_cons] at h ⊢
        rcases h with h | h
        · exact Or.inr (Or.inl h)
        · rcases mem_toList_insert fs key _ val e h with
            h | h
          · exact Or.inl h
          · exact Or.inr (Or.inr h)

end Fields

namespace Map

/- `Map::insert` at the top of a map. -/
def insert
    (m : Map)
    (key : String)
    (val : Value) : Map :=
  Fields.insert m key trivial val

/- Insert entries one after the other. -/
def insertAll
    (m : Map)
    (es : List (String × Value)) : Map :=
  es.foldl (fun m e => insert m e.1 e.2) m

@[simp] theorem get?_insert
    (m : Map)
    (key key' : String)
    (val : Value) :
    Fields.get? (insert m key val) key' =
      if key' = key then some val else Fields.get? m key' :=
  Fields.get?_insert m key trivial val key'

theorem mem_toList_insertAll
    (es : List (String × Value))
    (m : Map)
    {e : String × Value}
    (h : e ∈ (insertAll m es).toList) :
    e ∈ es ∨ e ∈ m.toList := by
  induction es generalizing m with
  | nil => exact Or.inr h
  | cons d es ih =>
      rcases ih (insert m d.1 d.2) h with hMem | hMem
      · exact Or.inl (List.mem_cons_of_mem d hMem)
      · rcases Fields.mem_toList_insert m d.1 trivial d.2
          e hMem with rfl | hOld
        · exact Or.inl (by simp)
        · exact Or.inr hOld

end Map

end Json

end UnidppArchive

------------------------------------------------------------
-- Building and Reading Values
------------------------------------------------------------

namespace UnidppArchive

namespace Json

/- The `json!` macro on an object literal. -/
def object
    (es : List (String × Value)) : Value :=
  .object (Map.insertAll .nil es)

/- An optional string, `null` when absent. -/
def optString :
    Option String → Value
| some s => .string s
| none => .null

/- An unsigned number. -/
def u64
    (n : UInt64) : Value :=
  .number (.posInt n)

/- An optional unsigned number, `null` when absent. -/
def optU64 :
    Option UInt64 → Value
| some n => u64 n
| none => .null

/- The elements of a vector. -/
def Values.ofList :
    List Value → Values
| [] => .nil
| v :: vs => .cons v (ofList vs)

namespace Value

/- `Value::get` with a string key. -/
def get?
    (v : Value)
    (key : String) : Option Value :=
  match v with
  | .object fs => fs.get? key
  | _ => none

/- `Value::as_object`. -/
def asObject? :
    Value → Option Map
| .object fs => some fs
| _ => none

/- `Value::as_str`. -/
def asStr? :
    Value → Option String
| .string s => some s
| _ => none

/- `Value::as_u64`. -/
def asU64? :
    Value → Option UInt64
| .number (.posInt n) => some n
| _ => none

end Value

@[simp] theorem get?_object
    (es : List (String × Value))
    (key : String) :
    (object es).get? key =
      Fields.get? (Map.insertAll .nil es) key := by
  rfl

@[simp] theorem asObject?_object
    (es : List (String × Value)) :
    (object es).asObject? =
      some (Map.insertAll .nil es) := by
  rfl

@[simp] theorem Map.insertAll_nil
    (m : Map) :
    Map.insertAll m [] = m := by
  rfl

@[simp] theorem Map.insertAll_cons
    (m : Map)
    (e : String × Value)
    (es : List (String × Value)) :
    Map.insertAll m (e :: es) =
      Map.insertAll (Map.insert m e.1 e.2) es := by
  rfl

@[simp] theorem Fields.get?_nil
    {lo : Option String}
    (key : String) :
    Fields.get? (Fields.nil : Fields lo) key = none := by
  rfl

end Json

end UnidppArchive
