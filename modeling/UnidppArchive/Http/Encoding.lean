import UnidppArchive.Http.Decoding

/-
  Chunked encoding, and that the decoder inverts it.

  A chunk is sent with its size in any hex spelling and with
  any extension.  The decoder returns the data of all chunks
  as soon as the last chunk has arrived, and asks for more
  before that.

  Key definitions include:
    * `Http.WireChunk`
    * `Http.encodeChunks`
    * `Http.lastChunk`

  Key theorems include:
    * `Http.wholeChunks_encodeChunks`
    * `Http.decodeLoop_of_cutShort`
    * `Http.decode_inverts_encode`
-/

------------------------------------------------------------
-- Encoded Chunks
------------------------------------------------------------

namespace UnidppArchive

namespace Http

/- A chunk with its size, as a peer may write it. -/
structure WireChunk
    (width : Nat) where
  digits : List Char
  ext : List Char
  data : Bytes
  spelling : Text.HexSpelling digits data.length
  extension : Extension ext
  data_ne_nil : data ≠ []
  length_lt : data.length < 2 ^ (width - 1)

namespace WireChunk

variable {width : Nat}

/- The line before the data. -/
def line
    (c : WireChunk width) : Bytes :=
  Utf8.encode (sizeLine c.digits c.ext)

def encode
    (c : WireChunk width) : Bytes :=
  c.line ++ crlf ++ (c.data ++ crlf)

theorem headerLine
    (c : WireChunk width) :
    HeaderLine width c.line c.data.length :=
  headerLine_sizeLine c.spelling c.extension
    (lt_word_of_slice c.length_lt)

end WireChunk

variable {width : Nat}

def encodeChunks
    (chunks : List (WireChunk width)) : Bytes :=
  chunks.flatMap WireChunk.encode

def chunksData
    (chunks : List (WireChunk width)) : Bytes :=
  chunks.flatMap WireChunk.data

def lastLine : Bytes :=
  Utf8.encode (sizeLine ['0'] [])

/- `0` and a line end. -/
def lastChunk : Bytes :=
  lastLine ++ crlf

theorem headerLine_last :
    HeaderLine width lastLine 0 := by
  have hSpelling : Text.HexSpelling ['0'] 0 :=
    Text.hexSpelling_digitChar [0] (by decide)
      (by decide)
  have hExt : Extension [] :=
    ⟨Or.inl rfl, by simp, by simp⟩
  exact headerLine_sizeLine hSpelling hExt (Nat.two_pow_pos _)

theorem encodeChunks_cons
    (c : WireChunk width)
    (chunks : List (WireChunk width)) :
    encodeChunks (c :: chunks) =
      c.line ++ crlf ++
        (c.data ++ crlf ++ encodeChunks chunks) := by
  simp [encodeChunks, WireChunk.encode]

/- What is encoded is whole chunks. -/
theorem wholeChunks_encodeChunks
    (chunks : List (WireChunk width)) :
    WholeChunks width (encodeChunks chunks)
      (chunksData chunks) := by
  induction chunks with
  | nil => exact .nil
  | cons c chunks ih =>
      rw [encodeChunks_cons, chunksData, List.flatMap_cons]
      exact .cons c.headerLine c.data_ne_nil length_crlf ih

end Http

end UnidppArchive

------------------------------------------------------------
-- Parts of an Encoding
------------------------------------------------------------

namespace UnidppArchive

namespace Http

variable {width size : Nat}
variable {front line ys zs : Bytes}

/- A text that ends before the other one does. -/
def CutShort
    (ys xs : Bytes) : Prop :=
  ys <+: xs ∧ ys ≠ xs

theorem CutShort.length_lt
    {xs : Bytes}
    (h : CutShort ys xs) :
    ys.length < xs.length := by
  have hLe := h.1.length_le
  by_contra hLong
  exact h.2 (h.1.eq_of_length (by omega))

/- A text is cut in its front or behind it. -/
theorem CutShort.cases_append
    {xs back : Bytes}
    (h : CutShort ys (xs ++ back)) :
    CutShort ys xs ∨
      ∃ zs, ys = xs ++ zs ∧ CutShort zs back := by
  rcases h with ⟨hPart, hProper⟩
  have hFront : xs <+: xs ++ back := List.prefix_append xs back
  by_cases hLength : ys.length < xs.length
  · left
    refine ⟨List.prefix_of_prefix_length_le hPart hFront
      (by omega), ?_⟩
    rintro rfl
    omega
  · right
    rcases List.prefix_of_prefix_length_le hFront hPart
        (by omega) with
      ⟨zs, rfl⟩
    refine ⟨zs, rfl,
      (List.prefix_append_right_inj xs).mp hPart, ?_⟩
    rintro rfl
    exact hProper rfl

/- In front of the end of its line, no header is read. -/
theorem chunkHeader_of_cutShort
    (hLine : HeaderLine width line size)
    (hCut : CutShort ys (line ++ crlf))
    (hFits : (front ++ ys).length < 2 ^ width) :
    chunkHeader width (front ++ ys) front.length =
      .error (.refused "incomplete chunk header") := by
  have hNone : findSubslice crlf ys = none := by
    cases hFind : findSubslice crlf ys with
    | none => rfl
    | some i =>
        rcases hCut.1 with ⟨rest, hRest⟩
        have hEnds := hLine.ends
        rw [← hRest,
          findSubslice_append crlf_ne_nil hFind rest,
          Option.some.injEq] at hEnds
        have hInside := le_of_findSubslice crlf_ne_nil hFind
        have hLength := hCut.length_lt
        rw [List.length_append] at hLength
        omega
  rw [chunkHeader_append hFits, hNone]
  rfl

/- Before the data has arrived, a round asks for more. -/
theorem chunkStep_of_cutShort
    (c : WireChunk width)
    (hCut : CutShort zs (c.data ++ crlf))
    (hFits :
      (front ++ (c.line ++ crlf ++ zs)).length <
        2 ^ (width - 1)) :
    ∃ e,
      chunkStep width (front ++ (c.line ++ crlf ++ zs))
          front.length =
        .error (.refused e) := by
  have hPos := List.length_pos_of_ne_nil c.data_ne_nil
  have hShort := hCut.length_lt
  have hRoom := room_of_slice c.length_lt hPos
  have hLt := c.length_lt
  have hStart :
      (front ++ c.line ++ crlf).length ≤
        (front ++ (c.line ++ crlf ++ zs)).length := by
    simp only [List.length_append]
    omega
  rw [List.length_append, length_crlf] at hShort
  rw [chunkStep_of_line c.headerLine hFits,
    if_neg (by omega), if_neg (by omega), if_pos hShort]
  split
  · exact ⟨_, rfl⟩
  · exact ⟨_, rfl⟩

theorem decodeLoop_of_cutHeader
    (hLine : HeaderLine width line size)
    (hCut : CutShort ys (line ++ crlf))
    (hFits : (front ++ ys).length < 2 ^ (width - 1))
    (out : Bytes) :
    ∃ e,
      decodeLoop width (front ++ ys) front.length out =
        .error (.refused e) := by
  have hHeader :=
    chunkHeader_of_cutShort hLine hCut (lt_word_of_slice hFits)
  have hStep :
      chunkStep width (front ++ ys) front.length =
        .error (.refused "incomplete chunk header") := by
    unfold chunkStep
    rw [hHeader]
    rfl
  exact ⟨_, decodeLoop_error hStep out⟩

/- The rounds ask for more until the last chunk is there. -/
theorem decodeLoop_of_cutShort
    {chunks : List (WireChunk width)}
    {out : Bytes}
    (front : Bytes)
    (hCut : CutShort ys (encodeChunks chunks ++ lastChunk))
    (hFits : (front ++ ys).length < 2 ^ (width - 1)) :
    ∃ e,
      decodeLoop width (front ++ ys) front.length out =
        .error (.refused e) := by
  induction chunks generalizing front ys out with
  | nil =>
      exact decodeLoop_of_cutHeader headerLine_last hCut hFits
        out
  | cons c chunks ih =>
      rw [encodeChunks_cons, List.append_assoc] at hCut
      rcases hCut.cases_append with hHead | ⟨zs, rfl, hBody⟩
      · exact decodeLoop_of_cutHeader c.headerLine hHead hFits
          out
      rw [List.append_assoc] at hBody
      rcases hBody.cases_append with hData | ⟨ws, rfl, hRest⟩
      · rcases chunkStep_of_cutShort c hData hFits with
          ⟨e, hStep⟩
        exact ⟨e, decodeLoop_error hStep out⟩
      · rw [decodeLoop_some
          (chunkStep_of_chunk c.headerLine c.data_ne_nil
            length_crlf hFits)]
        have hSplit :
            front ++
                (c.line ++ crlf ++ (c.data ++ crlf ++ ws)) =
              (front ++ (c.line ++ crlf ++ (c.data ++ crlf))) ++
                ws := by
          simp
        rw [hSplit] at hFits ⊢
        exact ih _ hRest hFits

end Http

end UnidppArchive

------------------------------------------------------------
-- Decoding Inverts Encoding
------------------------------------------------------------

namespace UnidppArchive

namespace Http

variable {width : Nat}

/-
  Encoded chunks are decoded to their data, whatever stands
  behind the last chunk, and no proper part up to its end is
  taken for a whole body.
-/
theorem decode_inverts_encode
    (chunks : List (WireChunk width))
    (raw : ByteSlice width) :
    (encodeChunks chunks ++ lastChunk <+: raw.bytes →
        decodeChunkedBody width raw.bytes =
          .ok (chunksData chunks)) ∧
      (raw.bytes <+: encodeChunks chunks ++ lastChunk →
        raw.bytes ≠ encodeChunks chunks ++ lastChunk →
          ∃ e,
            decodeChunkedBody width raw.bytes =
              .error (.refused e)) := by
  constructor
  · rintro ⟨rest, hRest⟩
    apply decode_of_finished raw.length_lt
    refine ⟨encodeChunks chunks, lastLine,
      wholeChunks_encodeChunks chunks, headerLine_last, rest,
      ?_⟩
    rw [← hRest, List.append_assoc]
    rfl
  · intro hPart hProper
    exact decodeLoop_of_cutShort [] ⟨hPart, hProper⟩
      raw.length_lt

/- Two octets, sent with a leading zero and an extension. -/
def sampleChunk : WireChunk 64 where
  digits := ['0', '2']
  ext := [';', 'x']
  data := crlf
  spelling :=
    Text.hexSpelling_digitChar [0, 2] (by decide)
      (by decide)
  extension :=
    ⟨Or.inr ⟨['x'], rfl⟩, by simp, by simp⟩
  data_ne_nil := crlf_ne_nil
  length_lt := by decide

theorem decode_inverts_encode_sample :
    (∃ raw : ByteSlice 64,
        decodeChunkedBody 64 raw.bytes = .ok crlf) ∧
      ∃ raw : ByteSlice 64, ∃ e,
        decodeChunkedBody 64 raw.bytes =
          .error (.refused e) := by
  have hWhole :
      (encodeChunks [sampleChunk] ++ lastChunk).length <
        2 ^ 63 := by
    decide
  constructor
  · refine ⟨⟨encodeChunks [sampleChunk] ++ lastChunk, hWhole⟩,
      ?_⟩
    exact (decode_inverts_encode [sampleChunk] _).1
      List.prefix_rfl
  · refine ⟨⟨encodeChunks [sampleChunk], by decide⟩, ?_⟩
    apply (decode_inverts_encode [sampleChunk] _).2
    · exact List.prefix_append _ _
    · decide

end Http

end UnidppArchive
