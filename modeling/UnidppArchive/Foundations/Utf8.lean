import Mathlib.Data.List.Infix
import Mathlib.Tactic.Common

/-
  UTF-8 text as byte lists.

  A string is encoded by concatenating the encodings of its
  characters, and a byte list is decoded only when it is
  exactly such a concatenation.

  Key definitions include:
    * `Bytes`
    * `Utf8.encodeChars`
    * `Utf8.encode`
    * `Utf8.decode`

  Key theorems include:
    * `Utf8.decode_eq_some_iff`
    * `Utf8.encodeChars_prefix`
    * `Utf8.exists_of_ascii_mem_encode`
-/

namespace UnidppArchive

/- A sequence of octets. -/
abbrev Bytes :=
  List UInt8

/- What is checked for 256 octets holds of every octet. -/
theorem forall_octet
    {P : UInt8 → Prop}
    (h : ∀ n : Fin 256, P (UInt8.ofNat n))
    (b : UInt8) :
    P b := by
  have hb := h ⟨b.toNat, b.toNat_lt⟩
  rwa [UInt8.ofNat_toNat] at hb

end UnidppArchive

------------------------------------------------------------
-- Encoding and Decoding
------------------------------------------------------------

namespace UnidppArchive

namespace Utf8

/- The octets of a character sequence. -/
def encodeChars
    (cs : List Char) : Bytes :=
  cs.flatMap String.utf8EncodeChar

/- The octets of a string. -/
def encode
    (s : String) : Bytes :=
  encodeChars s.toList

/- Read octets as text, refusing anything but UTF-8. -/
def decode
    (b : Bytes) : Option String :=
  String.fromUTF8? b.toByteArray

/- The octets form well-formed UTF-8. -/
def Valid
    (b : Bytes) : Prop :=
  ∃ s, decode b = some s

@[simp] theorem encodeChars_nil :
    encodeChars [] = [] := by
  rfl

@[simp] theorem encodeChars_cons
    (c : Char)
    (cs : List Char) :
    encodeChars (c :: cs) =
      String.utf8EncodeChar c ++ encodeChars cs := by
  simp [encodeChars]

@[simp] theorem encodeChars_append
    (cs ds : List Char) :
    encodeChars (cs ++ ds) =
      encodeChars cs ++ encodeChars ds := by
  simp [encodeChars]

@[simp] theorem encode_append
    (s t : String) :
    encode (s ++ t) = encode s ++ encode t := by
  simp [encode]

theorem toByteArray_encode
    (s : String) :
    (encode s).toByteArray = s.toByteArray := by
  rw [← String.utf8Encode_toList]
  rfl

/- Decoding accepts exactly the encodings. -/
theorem decode_eq_some_iff
    {b : Bytes}
    {s : String} :
    decode b = some s ↔ b = encode s := by
  unfold decode String.fromUTF8?
  constructor
  · intro h
    split at h
    · rename_i hValid
      have hText : String.fromUTF8 b.toByteArray hValid = s :=
        Option.some.inj h
      apply List.toByteArray_inj.mp
      rw [toByteArray_encode, ← hText]
      rfl
    · simp at h
  · intro h
    have hBytes : b.toByteArray = s.toByteArray := by
      rw [h, toByteArray_encode]
    have hValid : b.toByteArray.IsValidUTF8 := by
      rw [hBytes]
      exact s.isValidUTF8
    rw [dif_pos hValid]
    apply congrArg some
    apply String.toByteArray_inj.mp
    exact hBytes

@[simp] theorem decode_encode
    (s : String) :
    decode (encode s) = some s :=
  decode_eq_some_iff.mpr rfl

theorem encode_injective :
    Function.Injective encode := by
  intro s t h
  have hDecoded : decode (encode s) = decode (encode t) :=
    congrArg decode h
  simpa using hDecoded

theorem valid_encode
    (s : String) :
    Valid (encode s) :=
  ⟨s, decode_encode s⟩

theorem valid_iff
    {b : Bytes} :
    Valid b ↔ ∃ s, b = encode s := by
  simp [Valid, decode_eq_some_iff]

theorem Valid.append
    {b c : Bytes}
    (hb : Valid b)
    (hc : Valid c) :
    Valid (b ++ c) := by
  rcases valid_iff.mp hb with ⟨s, rfl⟩
  rcases valid_iff.mp hc with ⟨t, rfl⟩
  rw [← encode_append]
  exact valid_encode (s ++ t)

end Utf8

end UnidppArchive

------------------------------------------------------------
-- Unique Reading
------------------------------------------------------------

namespace UnidppArchive

namespace Utf8

/- The first character can be read off the octets. -/
theorem utf8EncodeChar_append_inj
    {c d : Char}
    {b b' : Bytes}
    (h :
      String.utf8EncodeChar c ++ b =
        String.utf8EncodeChar d ++ b') :
    c = d ∧ b = b' := by
  have hArrays := congrArg List.toByteArray h
  rw [List.toByteArray_append, List.toByteArray_append]
    at hArrays
  have hChar : c = d := by
    have hFirst :=
      congrArg (fun a => ByteArray.utf8DecodeChar? a 0)
        hArrays
    simpa [ByteArray.utf8DecodeChar?_utf8EncodeChar_append]
      using hFirst
  subst d
  exact ⟨rfl, List.append_cancel_left h⟩

/-
  A character sequence whose octets begin another one's
  octets begins that sequence.
-/
theorem encodeChars_prefix
    {cs ds : List Char}
    {b : Bytes}
    (h : encodeChars ds = encodeChars cs ++ b) :
    ∃ es, ds = cs ++ es ∧ b = encodeChars es := by
  induction cs generalizing ds with
  | nil =>
      exact ⟨ds, rfl, by simpa using h.symm⟩
  | cons c cs ih =>
      cases ds with
      | nil =>
          have hLength := congrArg List.length h
          simp at hLength
          have hPositive := c.utf8Size_pos
          omega
      | cons d ds =>
          rw [encodeChars_cons, encodeChars_cons,
            List.append_assoc] at h
          rcases utf8EncodeChar_append_inj h with
            ⟨rfl, hRest⟩
          rcases ih hRest with ⟨es, rfl, hb⟩
          exact ⟨es, rfl, hb⟩

/-
  Text that extends to longer text by well-formed octets is
  a beginning of it.
-/
theorem toList_prefix_of_encode
    {s t : String}
    {b : Bytes}
    (h : encode t = encode s ++ b) :
    ∃ es, t.toList = s.toList ++ es ∧
      b = encodeChars es :=
  encodeChars_prefix h

/-
  Octets that complete a well-formed text to a well-formed
  text are well formed.
-/
theorem Valid.of_append_left
    {b c : Bytes}
    (hb : Valid b)
    (h : Valid (b ++ c)) :
    Valid c := by
  rcases valid_iff.mp hb with ⟨s, rfl⟩
  rcases valid_iff.mp h with ⟨t, ht⟩
  rcases toList_prefix_of_encode ht.symm with ⟨es, -, hc⟩
  apply valid_iff.mpr
  refine ⟨String.ofList es, ?_⟩
  simpa [encode] using hc

end Utf8

end UnidppArchive

------------------------------------------------------------
-- ASCII Octets
------------------------------------------------------------

namespace UnidppArchive

namespace Utf8

/- Lead and continuation octets are not ASCII. -/
private theorem ascii_ne_ofNat
    {b : UInt8}
    {n : Nat}
    (hAscii : b.toNat < 128)
    (hLow : 128 ≤ n)
    (hHigh : n < 256) :
    b ≠ UInt8.ofNat n := by
  intro h
  have hNat := congrArg UInt8.toNat h
  simp only [UInt8.toNat_ofNat'] at hNat
  omega

/- An ASCII octet occurs only as the character of its code. -/
theorem toNat_of_ascii_mem
    {b : UInt8}
    {c : Char}
    (hAscii : b.toNat < 128)
    (h : b ∈ String.utf8EncodeChar c) :
    c.toNat = b.toNat := by
  unfold String.utf8EncodeChar at h
  simp only at h
  split at h
  · rename_i hSmall
    have hByte : b = UInt8.ofNat c.val.toNat := by
      simpa using h
    have hNat := congrArg UInt8.toNat hByte
    simp only [UInt8.toNat_ofNat'] at hNat
    have hSame : c.val.toNat = c.toNat := rfl
    omega
  -- every octet of a longer encoding is at least 128
  · exfalso
    split at h
    · simp only [List.mem_cons, List.not_mem_nil,
        or_false] at h
      rcases h with h | h
      all_goals
        exact ascii_ne_ofNat hAscii (by omega) (by omega) h
    · split at h
      · simp only [List.mem_cons, List.not_mem_nil,
          or_false] at h
        rcases h with h | h | h
        all_goals
          exact ascii_ne_ofNat hAscii (by omega) (by omega) h
      · simp only [List.mem_cons, List.not_mem_nil,
          or_false] at h
        rcases h with h | h | h | h
        all_goals
          exact ascii_ne_ofNat hAscii (by omega) (by omega) h

/- ASCII octets of a text are characters of the text. -/
theorem exists_of_ascii_mem_encode
    {b : UInt8}
    {s : String}
    (hAscii : b.toNat < 128)
    (h : b ∈ encode s) :
    ∃ c ∈ s.toList, c.toNat = b.toNat := by
  rcases List.mem_flatMap.mp h with ⟨c, hMem, hByte⟩
  exact ⟨c, hMem, toNat_of_ascii_mem hAscii hByte⟩

end Utf8

end UnidppArchive

------------------------------------------------------------
-- ASCII Text
------------------------------------------------------------

namespace UnidppArchive

namespace Utf8

theorem utf8EncodeChar_ascii
    {c : Char}
    (h : c.toNat < 128) :
    String.utf8EncodeChar c = [UInt8.ofNat c.toNat] := by
  have hCode : c.val.toNat ≤ 0x7f := by
    have hSame : c.val.toNat = c.toNat := rfl
    omega
  unfold String.utf8EncodeChar
  simp only
  rw [if_pos hCode]
  rfl

/- ASCII text has one octet for each character. -/
theorem encode_ascii
    {s : String}
    (h : ∀ c ∈ s.toList, c.toNat < 128) :
    encode s =
      s.toList.map (fun c => UInt8.ofNat c.toNat) := by
  unfold encode encodeChars
  generalize s.toList = cs at h
  induction cs with
  | nil => rfl
  | cons c cs ih =>
      rw [List.flatMap_cons,
        utf8EncodeChar_ascii (h c (by simp)),
        ih (fun d hd => h d (by simp [hd]))]
      rfl

end Utf8

end UnidppArchive

------------------------------------------------------------
-- Cuts Before ASCII Octets
------------------------------------------------------------

namespace UnidppArchive

namespace Utf8

/- No octet follows the only octet of an ASCII character. -/
theorem eq_nil_of_utf8EncodeChar
    {c : Char}
    {b back : Bytes}
    {a : UInt8}
    (hAscii : a.toNat < 128)
    (h : String.utf8EncodeChar c = b ++ a :: back) :
    b = [] ∧ back = [] := by
  have hMem : a ∈ String.utf8EncodeChar c := by
    simp [h]
  have hCode := toNat_of_ascii_mem hAscii hMem
  rw [utf8EncodeChar_ascii (by omega)] at h
  cases b with
  | nil =>
      simp only [List.nil_append, List.cons.injEq] at h
      exact ⟨rfl, h.2.symm⟩
  | cons d b =>
      simp at h

/-
  Text that is cut before an ASCII octet is text.  The
  induction removes one character at a time.
-/
theorem exists_of_encodeChars_eq
    {a : UInt8}
    (hAscii : a.toNat < 128)
    {cs : List Char}
    {b back : Bytes}
    (h : encodeChars cs = b ++ a :: back) :
    ∃ front, b = encodeChars front := by
  induction cs generalizing b with
  | nil => simp at h
  | cons c cs ih =>
      rw [encodeChars_cons] at h
      rcases List.append_eq_append_iff.mp h with
        ⟨rest, hb, hRest⟩ | ⟨rest, hChar, hRest⟩
      · rcases ih hRest with ⟨front, hFront⟩
        exact ⟨c :: front, by rw [hb, hFront, encodeChars_cons]⟩
      · cases rest with
        | nil =>
            exact ⟨[c], by simpa using hChar.symm⟩
        | cons d rest =>
            simp only [List.cons_append, List.cons.injEq]
              at hRest
            rw [← hRest.1] at hChar
            have hNil :=
              (eq_nil_of_utf8EncodeChar hAscii hChar).1
            exact ⟨[], by simpa using hNil⟩

theorem Valid.of_append_ascii
    {b back : Bytes}
    {a : UInt8}
    (hAscii : a.toNat < 128)
    (h : Valid (b ++ a :: back)) :
    Valid b := by
  rcases valid_iff.mp h with ⟨s, hs⟩
  rcases exists_of_encodeChars_eq hAscii hs.symm with
    ⟨front, hFront⟩
  rw [hFront]
  have hValid := valid_encode (String.ofList front)
  simpa [encode] using hValid

end Utf8

end UnidppArchive
