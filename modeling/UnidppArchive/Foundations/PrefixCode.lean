import Mathlib.Data.List.Basic
import Mathlib.Tactic.Common

/-
  Codes that can be told apart in front of anything.

  A code is decodable on a set of inputs if two codewords
  with any continuations are equal only when the inputs and
  the continuations are.  Fixed-width codes and codes with a
  length in front are decodable, and so are pairs and tagged
  options of decodable codes.

  Key definitions include:
    * `PrefixCode.Decodable`
    * `PrefixCode.pair`
    * `PrefixCode.option`

  Key theorems include:
    * `PrefixCode.Decodable.injective`
    * `PrefixCode.decodable_of_width`
    * `PrefixCode.decodable_of_length`
    * `PrefixCode.decodable_pair`
    * `PrefixCode.decodable_option`
-/

------------------------------------------------------------
-- Decodable Codes
------------------------------------------------------------

namespace UnidppArchive

namespace PrefixCode

variable {α β σ : Type}

/- Valid inputs are read off the front of any text. -/
def Decodable
    (code : α → List σ)
    (valid : α → Prop) : Prop :=
  ∀ a b x y, valid a → valid b →
    code a ++ x = code b ++ y → a = b ∧ x = y

/- Different valid inputs have different codewords. -/
theorem Decodable.injective
    {code : α → List σ}
    {valid : α → Prop}
    (h : Decodable code valid)
    {a b : α}
    (ha : valid a)
    (hb : valid b)
    (hEq : code a = code b) :
    a = b :=
  (h a b [] [] ha hb (by rw [hEq])).1

/- Codewords of one width. -/
theorem decodable_of_width
    {code : α → List σ}
    {valid : α → Prop}
    {k : Nat}
    (hWidth : ∀ a, (code a).length = k)
    (hInjective :
      ∀ a b, valid a → valid b → code a = code b → a = b) :
    Decodable code valid := by
  intro a b x y ha hb hEq
  have hLength : (code a).length = (code b).length := by
    rw [hWidth, hWidth]
  rcases List.append_inj hEq hLength with ⟨hCode, hRest⟩
  exact ⟨hInjective a b ha hb hCode, hRest⟩

/- A body after a codeword for its length. -/
theorem decodable_of_length
    {len : Nat → List σ}
    {body : α → List σ}
    {fits : Nat → Prop}
    (hLen : Decodable len fits)
    (hBody : Function.Injective body) :
    Decodable (fun a => len (body a).length ++ body a)
      (fun a => fits (body a).length) := by
  intro a b x y ha hb hEq
  rw [List.append_assoc, List.append_assoc] at hEq
  rcases hLen _ _ _ _ ha hb hEq with ⟨hLength, hRest⟩
  rcases List.append_inj hRest hLength with ⟨hSame, hTail⟩
  exact ⟨hBody hSame, hTail⟩

/- One codeword after the other. -/
def pair
    (code : α → List σ)
    (code' : β → List σ)
    (p : α × β) : List σ :=
  code p.1 ++ code' p.2

theorem decodable_pair
    {code : α → List σ}
    {code' : β → List σ}
    {valid : α → Prop}
    {valid' : β → Prop}
    (h : Decodable code valid)
    (h' : Decodable code' valid') :
    Decodable (pair code code')
      (fun p => valid p.1 ∧ valid' p.2) := by
  rintro ⟨a, b⟩ ⟨a', b'⟩ x y ⟨ha, hb⟩ ⟨ha', hb'⟩ hEq
  simp only [pair, List.append_assoc] at hEq
  rcases h a a' _ _ ha ha' hEq with ⟨rfl, hRest⟩
  rcases h' b b' _ _ hb hb' hRest with ⟨rfl, hTail⟩
  exact ⟨rfl, hTail⟩

/- One tag for nothing, another in front of something. -/
def option
    (tagNone tagSome : List σ)
    (code : α → List σ) :
    Option α → List σ
| none => tagNone
| some a => tagSome ++ code a

theorem decodable_option
    {tagNone tagSome : List σ}
    {code : α → List σ}
    {valid : α → Prop}
    (hWidth : tagNone.length = tagSome.length)
    (hTags : tagNone ≠ tagSome)
    (h : Decodable code valid) :
    Decodable (option tagNone tagSome code)
      (fun o => ∀ a, o = some a → valid a) := by
  intro o o' x y ho ho' hEq
  cases o with
  | none =>
      cases o' with
      | none => exact ⟨rfl, List.append_cancel_left hEq⟩
      | some b =>
          simp only [option, List.append_assoc] at hEq
          exact (hTags (List.append_inj hEq hWidth).1).elim
  | some a =>
      cases o' with
      | none =>
          simp only [option, List.append_assoc] at hEq
          exact (hTags
            (List.append_inj hEq hWidth.symm).1.symm).elim
      | some b =>
          simp only [option, List.append_assoc] at hEq
          have hRest := List.append_cancel_left hEq
          rcases h a b x y (ho a rfl) (ho' b rfl) hRest with
            ⟨rfl, hTail⟩
          exact ⟨rfl, hTail⟩

end PrefixCode

end UnidppArchive
