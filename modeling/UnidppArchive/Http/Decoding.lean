import UnidppArchive.Http.Chunked

/-
  What the decoder of chunked bodies returns (`http.rs`).

  A body is decoded when a header of size zero stands behind
  whole chunks.  It makes the decoder panic when a header
  announces a size whose sum with the position leaves the
  machine word, and is refused in all other cases.

  Key definitions include:
    * `Http.ByteSlice`
    * `Http.Finished`
    * `Http.Overruns`

  Key theorems include:
    * `Http.finished_of_decode`
    * `Http.decodeChunkedBody_eq_ok_iff`
    * `Http.decodeChunkedBody_ne_panicked_iff`
-/

------------------------------------------------------------
-- What the Decoder Returns
------------------------------------------------------------

namespace UnidppArchive

namespace Http

variable {width : Nat}
variable {raw out : Bytes}

/- A slice takes at most `isize::MAX` octets. -/
structure ByteSlice
    (width : Nat) where
  bytes : Bytes
  length_lt : bytes.length < 2 ^ (width - 1)

/-
  Behind whole chunks stands a header line that announces
  this size, and something else.
-/
structure HeaderAt
    (width : Nat)
    (raw cs out line : Bytes)
    (size : Nat) : Prop where
  chunks : WholeChunks width cs out
  header : HeaderLine width line size
  eq : ∃ rest, raw = cs ++ (line ++ crlf ++ rest)

/- What is decoded ends with a chunk of size zero. -/
def Finished
    (width : Nat)
    (raw out : Bytes) : Prop :=
  ∃ cs line, HeaderAt width raw cs out line 0

/- The position behind a header and its size do not add up. -/
def Overruns
    (width : Nat)
    (raw : Bytes) : Prop :=
  ∃ cs out line size,
    HeaderAt width raw cs out line size ∧
      2 ^ width ≤ (cs ++ line ++ crlf).length + size

/- The decoder does at a header what its round does there. -/
theorem decode_at_header
    {cs line : Bytes}
    {size : Nat}
    (hFits : raw.length < 2 ^ (width - 1))
    (h : HeaderAt width raw cs out line size) :
    decodeChunkedBody width raw =
        decodeLoop width raw cs.length out ∧
      ∃ rest, raw = cs ++ (line ++ crlf ++ rest) := by
  rcases h.eq with ⟨rest, rfl⟩
  have hRun := decodeLoop_wholeChunks [] [] h.chunks hFits
  exact ⟨hRun, rest, rfl⟩

theorem decode_of_finished
    (hFits : raw.length < 2 ^ (width - 1))
    (h : Finished width raw out) :
    decodeChunkedBody width raw = .ok out := by
  rcases h with ⟨cs, line, h⟩
  rcases decode_at_header hFits h with ⟨hRun, rest, rfl⟩
  rw [hRun]
  apply decodeLoop_none
  rw [chunkStep_of_line h.header hFits, if_pos rfl]

theorem decode_of_overruns
    (hFits : raw.length < 2 ^ (width - 1))
    (h : Overruns width raw) :
    decodeChunkedBody width raw = .error .panicked := by
  rcases h with ⟨cs, out, line, size, h, hWraps⟩
  rcases decode_at_header hFits h with ⟨hRun, rest, rfl⟩
  have hWord := lt_word_of_slice hFits
  rw [hRun]
  apply decodeLoop_error
  rw [chunkStep_of_line h.header hFits, if_neg, if_pos hWraps]
  rintro rfl
  simp only [List.length_append] at hWraps hWord
  omega

/- What is decoded ends with a chunk of size zero. -/
theorem finished_of_decode
    (h : decodeChunkedBody width raw = .ok out) :
    Finished width raw out := by
  rcases exists_wholeChunks width [] raw [] with
    ⟨cs, out', ys, rfl, hChunks, hLast, hRun⟩
  simp only [List.nil_append] at hLast hRun
  have hDecode : decodeChunkedBody width _ = _ := hRun
  rw [hDecode] at h
  cases hStep : chunkStep width (cs ++ ys) cs.length with
  | error f =>
      rw [decodeLoop_error hStep] at h
      cases h
  | ok next =>
      cases next with
      | some next => exact absurd hStep (hLast next)
      | none =>
          rw [decodeLoop_none hStep, Except.ok.injEq] at h
          subst h
          rcases exists_line_of_last hStep with
            ⟨line, rest, rfl, hLine⟩
          exact ⟨cs, line, hChunks, hLine, rest, rfl⟩

theorem overruns_of_decode
    (hFits : raw.length < 2 ^ (width - 1))
    (h : decodeChunkedBody width raw = .error .panicked) :
    Overruns width raw := by
  rcases exists_wholeChunks width [] raw [] with
    ⟨cs, out, ys, rfl, hChunks, hLast, hRun⟩
  simp only [List.nil_append] at hLast hRun
  have hDecode : decodeChunkedBody width _ = _ := hRun
  rw [hDecode] at h
  cases hHeader : chunkHeader width (cs ++ ys) cs.length with
  | error f =>
      have hStep :
          chunkStep width (cs ++ ys) cs.length = .error f := by
        unfold chunkStep
        rw [hHeader]
        rfl
      rw [decodeLoop_error hStep, Except.error.injEq] at h
      subst h
      exact absurd hHeader
        (chunkHeader_ne_panicked (lt_word_of_slice hFits))
  | ok header =>
      rcases header with ⟨size, start⟩
      rcases exists_line_of_chunkHeader hHeader with
        ⟨line, rest, rfl, hLine, -⟩
      have hStep := chunkStep_of_line hLine hFits
      split at hStep
      · rw [decodeLoop_none hStep] at h
        cases h
      split at hStep
      · rename_i hWraps
        exact ⟨cs, out, line, size,
          ⟨hChunks, hLine, rest, rfl⟩, hWraps⟩
      split at hStep
      · rw [decodeLoop_error hStep] at h
        cases h
      split at hStep
      · rw [decodeLoop_error hStep] at h
        cases h
      · exact absurd hStep (hLast _)

/- A body is decoded exactly up to its last chunk. -/
theorem decodeChunkedBody_eq_ok_iff
    (raw : ByteSlice width) :
    decodeChunkedBody width raw.bytes = .ok out ↔
      Finished width raw.bytes out := by
  constructor
  · exact finished_of_decode
  · exact decode_of_finished raw.length_lt

/-
  The decoder panics exactly where a chunk announces a size
  that does not add up with its position.
-/
theorem decodeChunkedBody_ne_panicked_iff
    (raw : ByteSlice width) :
    decodeChunkedBody width raw.bytes ≠ .error .panicked ↔
      ¬ Overruns width raw.bytes := by
  rw [not_iff_not]
  constructor
  · exact overruns_of_decode raw.length_lt
  · exact decode_of_overruns raw.length_lt

/- One header of sixteen digits is enough. -/
def wrappingLine : String :=
  sizeLine ((List.replicate 16 15).map Nat.digitChar) []

def wrappingBody : ByteSlice 64 :=
  ⟨Utf8.encode wrappingLine ++ crlf, by
    rw [wrappingLine, sizeLine, Utf8.encode,
      String.toList_ofList]
    decide⟩

theorem decodeChunkedBody_panics :
    ∃ raw : ByteSlice 64,
      decodeChunkedBody 64 raw.bytes = .error .panicked := by
  have hSpelling :=
    Text.hexSpelling_digitChar (List.replicate 16 15)
      (by decide) (by decide)
  have hExt : Extension [] :=
    ⟨Or.inl rfl, by simp, by simp⟩
  refine ⟨wrappingBody, ?_⟩
  apply decode_of_overruns wrappingBody.length_lt
  refine ⟨[], [], _, _,
    ⟨.nil, headerLine_sizeLine hSpelling hExt (by decide), [],
      by simp [wrappingBody, wrappingLine]⟩, ?_⟩
  have hSize :
      Nat.ofDigits 16 (List.replicate 16 15).reverse =
        2 ^ 64 - 1 := by
    decide
  rw [hSize]
  simp only [List.length_append, length_crlf]
  omega

end Http

end UnidppArchive
