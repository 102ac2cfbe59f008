import UnidppArchive.Json.Value
import UnidppArchive.Json.Lexical

/-
  The functions of `serde_json` that the archive calls.

  `SerdeJson` holds the parser and the two printers as
  parameters.  `SerdeJson.Lawful` states what is documented
  of them: the parser accepts only texts with the bracket
  discipline of JSON, and the compact printer writes an
  object between brackets and no control character.  That
  the parser inverts a printer depends on the value, which
  may be nested too deep or hold a float that is not read
  back exactly; it is the separate statement `Inverts`.

  Key definitions include:
    * `Json.SerdeJson`
    * `Json.SerdeJson.Lawful`
    * `Json.SerdeJson.Inverts`
    * `Json.SerdeJson.KeepsStrings`
    * `Json.Lettered`

  Key theorems include:
    * `Json.SerdeJson.Lawful.fromStr_cut`
    * `Json.SerdeJson.Lawful.fromStr_append`
-/

------------------------------------------------------------
-- Parser and Printers
------------------------------------------------------------

namespace UnidppArchive

namespace Json

/- `from_str`, `to_string` and `to_string_pretty`. -/
structure SerdeJson where
  fromStr : String → Except String Value
  toString : Value → String
  toStringPretty : Value → String

/- The documented behaviour of the parser and printers. -/
structure SerdeJson.Lawful
    (S : SerdeJson) : Prop where
  complete_of_fromStr :
    ∀ {s v}, S.fromStr s = .ok v → Lexical.Complete s.toList
  bracketed_toString :
    ∀ fs, Lexical.Bracketed (S.toString (.object fs)).toList
  toString_cons :
    ∀ (k : String) (hAbove : Above none k) (v : Value)
      (fs : Fields (some k)) (c : Char) (cs : List Char),
      k.toList = c :: cs → c.isAlpha = true →
        ∃ tail,
          (S.toString (.object (.cons k hAbove v fs))).toList =
            '{' :: '\"' :: c :: tail
  control_free :
    ∀ v, ∀ c ∈ (S.toString v).toList, 0x20 ≤ c.toNat

/- The compact text of the value is read back. -/
def SerdeJson.Inverts
    (S : SerdeJson)
    (v : Value) : Prop :=
  S.fromStr (S.toString v) = .ok v

/-
  If the text of an object is read back, its members that
  are strings are the same, whatever the floats became.
-/
def SerdeJson.KeepsStrings
    (S : SerdeJson) : Prop :=
  ∀ fs v, S.fromStr (S.toString (.object fs)) = .ok v →
    ∃ fs' : Map,
      v = .object fs' ∧
        ∀ k s, fs.get? k = some (.string s) →
          fs'.get? k = some (.string s)

/- The pretty text of the value is read back. -/
def SerdeJson.InvertsPretty
    (S : SerdeJson)
    (v : Value) : Prop :=
  S.fromStr (S.toStringPretty v) = .ok v

end Json

end UnidppArchive

------------------------------------------------------------
-- Objects With Lettered Keys
------------------------------------------------------------

namespace UnidppArchive

namespace Json

/- The key begins with a letter. -/
def Lettered
    (k : String) : Prop :=
  ∃ c cs, k.toList = c :: cs ∧ c.isAlpha = true

theorem lettered_of_any
    {k : String}
    (h : k.toList.head?.any Char.isAlpha = true) :
    Lettered k := by
  cases hKey : k.toList with
  | nil => simp [hKey] at h
  | cons c cs => exact ⟨c, cs, hKey, by simpa [hKey] using h⟩

/- An object literal is a map with one of its entries first. -/
theorem exists_object_cons
    {es : List (String × Value)}
    (hNe : es ≠ []) :
    ∃ k hAbove v fs,
      object es = .object (.cons k hAbove v fs) ∧
        (k, v) ∈ es := by
  have hSome : ∃ k, (object es).get? k ≠ none := by
    rcases List.eq_nil_or_concat es with hNil | ⟨fr, e, rfl⟩
    · exact (hNe hNil).elim
    · refine ⟨e.1, ?_⟩
      simp [Map.insertAll]
  rcases hSome with ⟨key, hKey⟩
  cases hMap : Map.insertAll .nil es with
  | nil =>
      simp [hMap] at hKey
  | cons k hAbove v fs =>
      refine ⟨k, hAbove, v, fs, ?_, ?_⟩
      · simp [object, hMap]
      · have hMem :
            (k, v) ∈ (Map.insertAll .nil es).toList := by
          rw [hMap]
          simp [Fields.toList]
        rcases Map.mem_toList_insertAll es .nil hMem with
          h | h
        · exact h
        · simp [Fields.toList] at h

end Json

end UnidppArchive

------------------------------------------------------------
-- Damaged Object Texts
------------------------------------------------------------

namespace UnidppArchive

namespace Json

namespace SerdeJson

namespace Lawful

variable {S : SerdeJson}

/- The text of an object literal opens with `{"` and a letter. -/
theorem toString_object
    (hS : S.Lawful)
    {es : List (String × Value)}
    (hNe : es ≠ [])
    (hKeys : ∀ e ∈ es, Lettered e.1) :
    ∃ c tail,
      c.isAlpha = true ∧
        (S.toString (object es)).toList =
          '{' :: '\"' :: c :: tail := by
  rcases exists_object_cons hNe with
    ⟨k, hAbove, v, fs, hObject, hMem⟩
  rcases hKeys (k, v) hMem with ⟨c, cs, hKey, hLetter⟩
  rcases hS.toString_cons k hAbove v fs c cs hKey hLetter with
    ⟨tail, hText⟩
  exact ⟨c, tail, hLetter, by rw [hObject, hText]⟩

/- An object's text cut short is not accepted. -/
theorem fromStr_cut
    (hS : S.Lawful)
    {fs : Map}
    {s : String}
    {back : List Char}
    (hCut :
      (S.toString (.object fs)).toList = s.toList ++ back)
    (hFront : s ≠ "")
    (hBack : back ≠ []) :
    ∃ e, S.fromStr s = .error e := by
  cases hParse : S.fromStr s with
  | error e => exact ⟨e, rfl⟩
  | ok v =>
      have hFront' : s.toList ≠ [] := by
        simpa using hFront
      exact (Lexical.not_complete_of_cut
        (hS.bracketed_toString fs) hCut hFront' hBack
        (hS.complete_of_fromStr hParse)).elim

/-
  An object literal's text after other content is not
  accepted.
-/
theorem fromStr_append
    (hS : S.Lawful)
    {es : List (String × Value)}
    (hNe : es ≠ [])
    (hKeys : ∀ e ∈ es, Lettered e.1)
    {t : String}
    (hContent : t.toList.all Lexical.isSpace = false) :
    ∃ e, S.fromStr (t ++ S.toString (object es)) =
      .error e := by
  cases hParse : S.fromStr (t ++ S.toString (object es)) with
  | error e => exact ⟨e, rfl⟩
  | ok v =>
      rcases hS.toString_object hNe hKeys with
        ⟨c, tail, hLetter, hText⟩
      have hBracketed :
          Lexical.Bracketed ('{' :: '\"' :: c :: tail) := by
        rw [← hText]
        exact hS.bracketed_toString _
      have hComplete := hS.complete_of_fromStr hParse
      rw [String.toList_append, hText] at hComplete
      have hSpace :=
        Lexical.space_of_complete_append hBracketed hLetter
          hComplete
      rw [hContent] at hSpace
      cases hSpace

end Lawful

end SerdeJson

end Json

end UnidppArchive
