import UnidppArchive.Foundations.Percent
import UnidppArchive.Foundations.Text

/-
  Form data in a query string.

  Names and values are percent-coded and joined by an equals
  sign, and the pairs by ampersands.  What a framework makes
  of the target of a request is a parameter, with the promise
  that it reads what is written so.

  Key definitions include:
    * `FormData.render`
    * `FormData.Extractor`
    * `FormData.Extracts`

  Key theorems include:
    * `FormData.mem_render`
    * `FormData.encode_of_kept`
-/

------------------------------------------------------------
-- Queries
------------------------------------------------------------

namespace UnidppArchive

namespace FormData

/- `name=value`. -/
def pair
    (p : List Char × List Char) : List Char :=
  p.1 ++ '=' :: p.2

def render
    (ps : List (List Char × List Char)) : List Char :=
  ['&'].intercalate (ps.map pair)

/- The query that a target has behind a path. -/
def target
    (path : String)
    (ps : List (List Char × List Char)) : String :=
  path ++ "?" ++ String.ofList (render ps)

/-
  What a framework hands to a handler for a target: the
  values of the names in its query, or nothing at all.
-/
abbrev Extractor :=
  String → Option (String → Option String)

/- A path of kept characters and of slashes. -/
def PlainPath
    (keep : UInt8 → Bool)
    (path : String) : Prop :=
  ∃ cs, path.toList = '/' :: cs ∧
    ∀ c ∈ cs, c = '/' ∨
      ∃ b, keep b = true ∧ c = Char.ofNat b.toNat

/-
  Behind a plain path, pairs of percent-coded texts with
  different names are read, up to a length of the target.
-/
def Extracts
    (keep : UInt8 → Bool)
    (limit : Nat)
    (extract : Extractor) : Prop :=
  ∀ path (ps : List ((List Char × List Char) × String × String)),
    PlainPath keep path →
      (∀ p ∈ ps,
        Percent.Spells keep p.1.1 (Utf8.encode p.2.1) ∧
          Percent.Spells keep p.1.2 (Utf8.encode p.2.2)) →
      (ps.map (·.2.1)).Nodup →
      Text.byteLen (target path (ps.map Prod.fst)) ≤ limit →
        ∃ params,
          extract (target path (ps.map Prod.fst)) =
              some params ∧
            ∀ name,
              params name = (ps.map Prod.snd).lookup name

end FormData

end UnidppArchive

------------------------------------------------------------
-- Characters
------------------------------------------------------------

namespace UnidppArchive

namespace FormData

variable {keep : UInt8 → Bool}

/- Between the names and the values there are two signs. -/
theorem mem_render
    {ps : List (List Char × List Char)}
    {c : Char}
    (h : c ∈ render ps) :
    c = '&' ∨ c = '=' ∨ ∃ p ∈ ps, c ∈ p.1 ∨ c ∈ p.2 := by
  have hPair {p : List Char × List Char}
      (hMem : c ∈ pair p) :
      c = '=' ∨ c ∈ p.1 ∨ c ∈ p.2 := by
    simp only [pair, List.mem_append, List.mem_cons] at hMem
    tauto
  induction ps with
  | nil => cases h
  | cons p ps ih =>
      have hCut :
          c ∈ pair p ∨ c = '&' ∨ c ∈ render ps := by
        cases ps with
        | nil =>
            left
            simpa [render, List.intercalate] using h
        | cons q ps =>
            simpa [render, List.intercalate] using h
      rcases hCut with hFirst | hSign | hRest
      · rcases hPair hFirst with hEquals | hText
        · exact Or.inr (Or.inl hEquals)
        · exact Or.inr (Or.inr ⟨p, by simp, hText⟩)
      · exact Or.inl hSign
      · rcases ih hRest with hSign | hEquals | ⟨q, hq, hText⟩
        · exact Or.inl hSign
        · exact Or.inr (Or.inl hEquals)
        · exact Or.inr (Or.inr ⟨q, by simp [hq], hText⟩)

/- A text of kept octets is written as it is. -/
theorem encode_of_kept
    (hSafe : Percent.Safe keep)
    {s : String}
    (h : ∀ b ∈ Utf8.encode s, keep b = true) :
    Percent.encode keep (Utf8.encode s) = s.toList := by
  have hAscii : ∀ c ∈ s.toList, c.toNat < 128 := by
    intro c hc
    by_contra hWide
    have hPos := Char.utf8Size_pos c
    have hLength := String.length_utf8EncodeChar c
    cases hBytes : String.utf8EncodeChar c with
    | nil => simp [hBytes] at hLength; omega
    | cons b rest =>
        have hMem : b ∈ String.utf8EncodeChar c := by
          simp [hBytes]
        have hb : b ∈ Utf8.encode s :=
          List.mem_flatMap.mpr ⟨c, hc, hMem⟩
        have hSmall := (hSafe b (h b hb)).1
        have hCode := Utf8.toNat_of_ascii_mem hSmall hMem
        omega
  rw [Utf8.encode_ascii hAscii] at h ⊢
  unfold Percent.encode
  rw [List.flatMap_map]
  have hSingle :
      ∀ c ∈ s.toList,
        Percent.encodeOctet keep (UInt8.ofNat c.toNat) =
          [c] := by
    intro c hc
    have hKept :=
      h _ (List.mem_map_of_mem hc)
    have hCode : (UInt8.ofNat c.toNat).toNat = c.toNat := by
      have hSmall := hAscii c hc
      rw [UInt8.toNat_ofNat', Nat.mod_eq_of_lt (by omega)]
    rw [Percent.encodeOctet, if_pos hKept, hCode,
      Char.ofNat_toNat]
  rw [List.flatMap_congr hSingle, List.flatMap_singleton']

end FormData

end UnidppArchive
