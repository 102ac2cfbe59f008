import UnidppArchive.Http.Url

/-
  A framework that reads form data.

  It cuts the target at the first question mark and the query
  at its ampersands, takes a plus sign for a space, reads
  percent triplets, and reads the octets as UTF-8.  Of one
  name it keeps the last value.

  Key definitions include:
    * `Reference.extract`

  Key theorems include:
    * `Reference.extracts_extract`
-/

------------------------------------------------------------
-- Reading Pairs
------------------------------------------------------------

namespace UnidppArchive

namespace Reference

open Http

/- What stands before and behind the first equals sign. -/
def splitPair
    (cs : List Char) : List Char × List Char :=
  (cs.takeWhile (· ≠ '='), (cs.dropWhile (· ≠ '=')).tail)

/- The text of a name or a value. -/
def decodeText
    (cs : List Char) : String :=
  Utf8.decodeLossy
    (Percent.decode
      (cs.map fun c => if c = '+' then ' ' else c))

/- The pairs of a query string, in their order. -/
def parsePairs
    (cs : List Char) : List (String × String) :=
  ((cs.splitOn '&').filter (· ≠ [])).map
    (fun piece =>
      (decodeText (splitPair piece).1,
        decodeText (splitPair piece).2))

/- The last value of every name. -/
def extract : FormData.Extractor :=
  fun target =>
    some fun name =>
      (parsePairs
        (target.toList.dropWhile (· ≠ '?')).tail).reverse.lookup
          name

variable {cs : List Char}
variable {bytes : Bytes}
variable {s : String}

/- An unreserved octet is no sign of a target. -/
theorem ne_sign_of_unreserved
    {b : UInt8}
    (h : Url.unreserved b = true) :
    Char.ofNat b.toNat ≠ '&' ∧ Char.ofNat b.toNat ≠ '=' ∧
      Char.ofNat b.toNat ≠ '+' ∧ Char.ofNat b.toNat ≠ '?' := by
  revert b
  apply forall_octet
  decide +kernel

/- No sign of a query is written in a component. -/
theorem signs_not_mem
    (h : Percent.Spells Url.unreserved cs bytes) :
    '&' ∉ cs ∧ '=' ∉ cs ∧ '+' ∉ cs :=
  ⟨h.not_mem (fun _ hb => (ne_sign_of_unreserved hb).1)
      (by decide) (by decide),
    h.not_mem (fun _ hb => (ne_sign_of_unreserved hb).2.1)
      (by decide) (by decide),
    h.not_mem (fun _ hb => (ne_sign_of_unreserved hb).2.2.1)
      (by decide) (by decide)⟩

/- A text is read off what spells it. -/
theorem decodeText_of_spells
    (h : Percent.Spells Url.unreserved cs (Utf8.encode s)) :
    decodeText cs = s := by
  have hPlus := (signs_not_mem h).2.2
  have hSame :
      cs.map (fun c => if c = '+' then ' ' else c) = cs := by
    conv_rhs => rw [← List.map_id cs]
    apply List.map_congr_left
    intro c hc
    rw [if_neg, id]
    rintro rfl
    exact hPlus hc
  rw [decodeText, hSame, h.decode Url.safe_unreserved,
    Utf8.decodeLossy_encode]

/- A pair is cut at its equals sign. -/
theorem splitPair_pair
    {p : List Char × List Char}
    (h : '=' ∉ p.1) :
    splitPair (FormData.pair p) = p := by
  have hAll : ∀ c ∈ p.1, decide (c ≠ '=') = true := by
    intro c hc
    rw [decide_eq_true_eq]
    rintro rfl
    exact h hc
  unfold splitPair FormData.pair
  rw [List.takeWhile_append_of_pos hAll,
    List.dropWhile_append_of_pos hAll]
  simp

/- Pairs that are spelled are read, in their order. -/
theorem parsePairs_render
    {ps : List ((List Char × List Char) × String × String)}
    (h :
      ∀ p ∈ ps,
        Percent.Spells Url.unreserved p.1.1
            (Utf8.encode p.2.1) ∧
          Percent.Spells Url.unreserved p.1.2
            (Utf8.encode p.2.2)) :
    parsePairs (FormData.render (ps.map Prod.fst)) =
      ps.map Prod.snd := by
  have hPieces :
      ((FormData.render (ps.map Prod.fst)).splitOn '&').filter
          (· ≠ []) =
        (ps.map Prod.fst).map FormData.pair := by
    cases ps with
    | nil => rfl
    | cons p ps =>
        unfold FormData.render
        rw [List.splitOn_intercalate _ _ (by simp)]
        · rw [List.filter_eq_self]
          intro piece hPiece
          rcases List.mem_map.mp hPiece with ⟨q, -, rfl⟩
          simp [FormData.pair]
        · intro piece hPiece
          rcases List.mem_map.mp hPiece with ⟨q, hq, rfl⟩
          rcases List.mem_map.mp hq with ⟨r, hr, rfl⟩
          have hName := (signs_not_mem (h r hr).1).1
          have hValue := (signs_not_mem (h r hr).2).1
          simp [FormData.pair, hName, hValue]
  unfold parsePairs
  rw [hPieces, List.map_map, List.map_map]
  apply List.map_congr_left
  intro p hp
  have hSplit :=
    splitPair_pair (signs_not_mem (h p hp).1).2.1
  simp only [Function.comp_apply, hSplit,
    decodeText_of_spells (h p hp).1,
    decodeText_of_spells (h p hp).2]

end Reference

end UnidppArchive

------------------------------------------------------------
-- Targets
------------------------------------------------------------

namespace UnidppArchive

namespace Reference

open Http

/- There is no question mark in a plain path. -/
theorem question_not_mem
    {path : String}
    (h : FormData.PlainPath Url.unreserved path) :
    '?' ∉ path.toList := by
  rcases h with ⟨cs, hPath, hPlain⟩
  rw [hPath]
  intro hMem
  rcases List.mem_cons.mp hMem with hFirst | hLater
  · exact absurd hFirst (by decide)
  · rcases hPlain _ hLater with hSlash | ⟨b, hb, hChar⟩
    · exact absurd hSlash (by decide)
    · exact (ne_sign_of_unreserved hb).2.2.2 hChar.symm

/- Of names that differ, the last value is the first. -/
theorem lookup_reverse_of_nodup
    {ps : List (String × String)}
    (h : (ps.map Prod.fst).Nodup)
    (name : String) :
    ps.reverse.lookup name = ps.lookup name := by
  induction ps with
  | nil => rfl
  | cons p ps ih =>
      rw [List.map_cons, List.nodup_cons] at h
      rw [List.reverse_cons, List.lookup_append, ih h.2,
        List.lookup_cons, List.lookup_cons]
      by_cases hName : name = p.1
      · subst hName
        have hNone : ps.lookup p.1 = none := by
          rw [List.lookup_eq_none_iff]
          intro q hq
          rw [bne_iff_ne]
          intro hSame
          exact h.1 (List.mem_map.mpr ⟨q, hq, hSame.symm⟩)
        simp [hNone]
      · have hFalse : (name == p.1) = false :=
          beq_eq_false_iff_ne.mpr hName
        simp [hFalse]

/- The framework keeps the promise, for targets of any length. -/
theorem extracts_extract
    (limit : Nat) :
    FormData.Extracts Url.unreserved limit extract := by
  intro path ps hPath hSpells hNames _
  refine ⟨_, rfl, ?_⟩
  intro name
  have hAll : ∀ c ∈ path.toList, decide (c ≠ '?') = true := by
    intro c hc
    rw [decide_eq_true_eq]
    rintro rfl
    exact question_not_mem hPath hc
  have hQuery :
      ((FormData.target path
          (ps.map Prod.fst)).toList.dropWhile (· ≠ '?')).tail =
        FormData.render (ps.map Prod.fst) := by
    unfold FormData.target
    rw [String.toList_append, String.toList_append,
      String.toList_ofList, List.append_assoc,
      List.dropWhile_append_of_pos hAll]
    simp
  rw [hQuery, parsePairs_render hSpells]
  apply lookup_reverse_of_nodup
  rw [List.map_map]
  exact hNames

end Reference

end UnidppArchive
