import UnidppArchive.Foundations.Checked
import UnidppArchive.Foundations.Radix
import UnidppArchive.Foundations.Subslice
import UnidppArchive.Foundations.Text

/-
  The decoder of chunked bodies (`http.rs`).

  Positions and sizes are machine words of any width.  Each
  round of the loop reads one header and the data that it
  announces; sums and slices are checked.

  Key definitions include:
    * `Http.chunkHeader`
    * `Http.chunkStep`
    * `Http.decodeChunkedBody`
    * `Http.HeaderLine`
    * `Http.WholeChunks`

  Key theorems include:
    * `Http.headerLine_sizeLine`
    * `Http.chunkStep_of_line`
    * `Http.exists_wholeChunks`
-/

------------------------------------------------------------
-- The Decoder
------------------------------------------------------------

namespace UnidppArchive

namespace Http

/- `b"\r\n"`. -/
def crlf : Bytes :=
  [13, 10]

/- The text before the first semicolon, trimmed. -/
def sizeHex
    (line : String) : String :=
  Text.trim (String.ofList (line.toList.takeWhile (· ≠ ';')))

/- The size of the chunk at a position, and its data. -/
def chunkHeader
    (width : Nat)
    (raw : Bytes)
    (pos : Nat) : Checked String (Nat × Nat) := do
  let tail ← Checked.slice raw pos raw.length
  let i ←
    Checked.orRefuse (findSubslice crlf tail)
      "incomplete chunk header"
  let lineEnd ← Checked.add width i pos
  let line ← Checked.slice raw pos lineEnd
  let sizeStr ←
    Checked.orRefuse (Utf8.decode line) "bad chunk header"
  let size ←
    Checked.orRefuse
      (Text.fromStrRadix 16 width (sizeHex sizeStr).toList)
      s!"bad chunk size `{sizeHex sizeStr}`"
  let pos ← Checked.add width lineEnd 2
  .ok (size, pos)

/-
  One round of the loop: the data of a chunk and the
  position behind it, or nothing after the last chunk.

  Where the sum with the size wraps, a build without
  overflow checks panics too: at the slice, whose end then
  comes before its start.
-/
def chunkStep
    (width : Nat)
    (raw : Bytes)
    (pos : Nat) :
    Checked String (Option (Bytes × Nat)) := do
  let (size, pos) ← chunkHeader width raw pos
  if size = 0 then
    .ok none
  else do
    let stop ← Checked.add width pos size
    if stop > raw.length then
      .error (.refused "incomplete chunk data")
    else do
      let data ← Checked.slice raw pos stop
      let next ← Checked.add width stop 2
      if raw.length < next then
        .error (.refused "incomplete chunk trailer")
      else
        .ok (some (data, next))

/- A header ends behind its line. -/
theorem chunkHeader_progress
    {width pos size next : Nat}
    {raw : Bytes}
    (h : chunkHeader width raw pos = .ok (size, next)) :
    pos < next := by
  simp only [chunkHeader, bind_eq_ok_iff,
    Checked.add_eq_ok_iff, Except.ok.injEq,
    Prod.mk.injEq] at h
  rcases h with ⟨tail, -, i, -, lineEnd, ⟨-, hLine⟩, line, -,
    sizeStr, -, size', -, pos', ⟨-, hPos⟩, -, rfl⟩
  omega

/- Every round moves forward, and not beyond the end. -/
theorem chunkStep_progress
    {width pos next : Nat}
    {raw data : Bytes}
    (h : chunkStep width raw pos = .ok (some (data, next))) :
    pos < next ∧ next ≤ raw.length := by
  unfold chunkStep at h
  rcases bind_eq_ok_iff.mp h with ⟨⟨size, pos'⟩, hHeader, h⟩
  have hProgress := chunkHeader_progress hHeader
  simp only at h
  split at h
  · cases h
  · rcases bind_eq_ok_iff.mp h with ⟨stop, hStop, h⟩
    rw [Checked.add_eq_ok_iff] at hStop
    split at h
    · cases h
    · rcases bind_eq_ok_iff.mp h with ⟨data', -, h⟩
      rcases bind_eq_ok_iff.mp h with ⟨next', hNext, h⟩
      rw [Checked.add_eq_ok_iff] at hNext
      split at h
      · cases h
      · simp only [Except.ok.injEq, Option.some.injEq,
          Prod.mk.injEq] at h
        omega

/- The rounds from a position on. -/
def decodeLoop
    (width : Nat)
    (raw : Bytes)
    (pos : Nat)
    (out : Bytes) : Checked String Bytes :=
  match _hStep : chunkStep width raw pos with
  | .error f => .error f
  | .ok none => .ok out
  | .ok (some (data, next)) =>
      decodeLoop width raw next (out ++ data)
termination_by raw.length - pos
decreasing_by
  have hProgress := chunkStep_progress _hStep
  omega

def decodeChunkedBody
    (width : Nat)
    (raw : Bytes) : Checked String Bytes :=
  decodeLoop width raw 0 []

end Http

end UnidppArchive

------------------------------------------------------------
-- Headers
------------------------------------------------------------

namespace UnidppArchive

namespace Http

variable {width size : Nat}
variable {front xs line rest : Bytes}

theorem crlf_ne_nil :
    crlf ≠ [] := by
  decide

@[simp] theorem length_crlf :
    crlf.length = 2 := by
  rfl

/-
  A line, without its line end, that announces a size.  The
  size may be spelled with blanks around it, with a plus
  sign, and with anything behind a semicolon.
-/
structure HeaderLine
    (width : Nat)
    (line : Bytes)
    (size : Nat) : Prop where
  ends : findSubslice crlf (line ++ crlf) = some line.length
  announces :
    ∃ s, Utf8.decode line = some s ∧
      Text.fromStrRadix 16 width (sizeHex s).toList = some size

/- The header in what is left, if the text is in memory. -/
theorem chunkHeader_append
    (hFits : (front ++ xs).length < 2 ^ width) :
    chunkHeader width (front ++ xs) front.length =
      (do
        let i ←
          Checked.orRefuse (findSubslice crlf xs)
            "incomplete chunk header"
        let sizeStr ←
          Checked.orRefuse (Utf8.decode (xs.take i))
            "bad chunk header"
        let size ←
          Checked.orRefuse
            (Text.fromStrRadix 16 width (sizeHex sizeStr).toList)
            s!"bad chunk size `{sizeHex sizeStr}`"
        .ok (size, front.length + (i + 2))) := by
  rw [List.length_append] at hFits
  have hTail :
      (Checked.slice (front ++ xs) front.length
        (front ++ xs).length : Checked String Bytes) =
          .ok xs := by
    rw [Checked.slice_of_le (by simp) (by simp)]
    simp
  unfold chunkHeader
  rw [hTail]
  simp only [bind, Except.bind]
  cases hFind : findSubslice crlf xs with
  | none => rfl
  | some i =>
      have hInside := le_of_findSubslice crlf_ne_nil hFind
      rw [length_crlf] at hInside
      have hLine :
          (Checked.slice (front ++ xs) front.length
            (i + front.length) : Checked String Bytes) =
              .ok (xs.take i) := by
        rw [Checked.slice_of_le (by omega)
          (by rw [List.length_append]; omega)]
        simp
      simp only [Checked.orRefuse_some]
      rw [Checked.add_of_lt (by omega)]
      simp only [hLine]
      cases Utf8.decode (xs.take i) with
      | none => rfl
      | some sizeStr =>
      simp only [Checked.orRefuse_some]
      cases Text.fromStrRadix 16 width
          (sizeHex sizeStr).toList with
      | none => rfl
      | some size =>
      simp only [Checked.orRefuse_some]
      rw [Checked.add_of_lt (by omega)]
      simp only [Except.ok.injEq, Prod.mk.injEq, true_and]
      omega

theorem chunkHeader_of_line
    (hLine : HeaderLine width line size)
    (hFits :
      (front ++ (line ++ crlf ++ rest)).length < 2 ^ width) :
    chunkHeader width (front ++ (line ++ crlf ++ rest))
        front.length =
      .ok (size, front.length + (line.length + 2)) := by
  rcases hLine.announces with ⟨s, hDecode, hSize⟩
  have hFind :
      findSubslice crlf (line ++ crlf ++ rest) =
        some line.length :=
    findSubslice_append crlf_ne_nil hLine.ends rest
  have hTake :
      (line ++ crlf ++ rest).take line.length = line := by
    rw [List.append_assoc, List.take_left]
  rw [chunkHeader_append hFits, hFind]
  simp only [Checked.orRefuse_some, bind, Except.bind, hTake,
    hDecode, hSize]

/- What a header that is read looks like. -/
theorem exists_line_of_chunkHeader
    {next : Nat}
    (h :
      chunkHeader width (front ++ xs) front.length =
        .ok (size, next)) :
    ∃ line rest,
      xs = line ++ crlf ++ rest ∧ HeaderLine width line size ∧
        next = front.length + (line.length + 2) := by
  simp only [chunkHeader, bind_eq_ok_iff,
    Checked.orRefuse_eq_ok_iff, Checked.slice_eq_ok_iff,
    Checked.add_eq_ok_iff, Except.ok.injEq,
    Prod.mk.injEq] at h
  rcases h with ⟨tail, ⟨-, hTail⟩, i, hFind, lineEnd,
    ⟨-, rfl⟩, text, ⟨-, hText⟩, s, hDecode, size', hSize,
    next', ⟨-, rfl⟩, rfl, rfl⟩
  rw [List.drop_left, List.length_append,
    Nat.add_sub_cancel_left, List.take_length] at hTail
  rw [List.drop_left, Nat.add_sub_cancel_right] at hText
  subst hTail hText
  have hInside := le_of_findSubslice crlf_ne_nil hFind
  have hFirst :=
    (findSubslice_eq_some_iff crlf_ne_nil).mp hFind
  rcases hFirst.exists_split (by omega) with
    ⟨rest, hSplit, hLength⟩
  refine ⟨tail.take i, rest, hSplit, ⟨?_, s, hDecode, hSize⟩,
    by rw [hLength]; omega⟩
  rw [findSubslice_eq_some_iff crlf_ne_nil, hLength]
  rw [hSplit] at hFirst
  apply hFirst.of_append
  rw [List.length_append, hLength]

theorem chunkHeader_ne_panicked
    (hFits : (front ++ xs).length < 2 ^ width) :
    chunkHeader width (front ++ xs) front.length ≠
      .error .panicked := by
  rw [chunkHeader_append hFits]
  cases findSubslice crlf xs with
  | none => simp [bind, Except.bind]
  | some i =>
  cases hDecode : Utf8.decode (xs.take i) with
  | none => simp [bind, Except.bind, hDecode]
  | some s =>
  cases hSize :
      Text.fromStrRadix 16 width (sizeHex s).toList with
  | none => simp [bind, Except.bind, hDecode, hSize]
  | some size => simp [bind, Except.bind, hDecode, hSize]

end Http

end UnidppArchive

------------------------------------------------------------
-- Spelled Sizes
------------------------------------------------------------

namespace UnidppArchive

namespace Http

variable {width n : Nat}
variable {ds ext : List Char}

/- Nothing, or ASCII text of one line behind a semicolon. -/
structure Extension
    (ext : List Char) : Prop where
  introduced : ext = [] ∨ ∃ cs, ext = ';' :: cs
  ascii : ∀ c ∈ ext, c.toNat < 128
  oneLine : ∀ c ∈ ext, c ≠ '\r' ∧ c ≠ '\n'

/- A size in hex, with what stands behind it. -/
def sizeLine
    (ds ext : List Char) : String :=
  String.ofList (ds ++ ext)

theorem code_of_mem_spelling
    (h : Text.HexSpelling ds n)
    {c : Char}
    (hc : c ∈ ds) :
    48 ≤ c.toNat ∧ c.toNat ≤ 102 ∧
      (c.toNat ≤ 57 ∨ 65 ≤ c.toNat) := by
  rcases h with ⟨-, vs, hDigits, -⟩
  induction hDigits with
  | nil => cases hc
  | cons hDigit hRest ih =>
      rcases List.mem_cons.mp hc with rfl | hc
      · exact Text.code_of_spells hDigit
      · exact ih hc

/- A size line is ASCII text without line ends. -/
theorem encode_sizeLine
    (hSpelling : Text.HexSpelling ds n)
    (hExt : Extension ext) :
    13 ∉ Utf8.encode (sizeLine ds ext) ∧
      10 ∉ Utf8.encode (sizeLine ds ext) := by
  have hCode :
      ∀ c ∈ ds ++ ext,
        c.toNat < 128 ∧ c.toNat ≠ 13 ∧ c.toNat ≠ 10 := by
    intro c hc
    rcases List.mem_append.mp hc with hDigit | hTail
    · have hRange := code_of_mem_spelling hSpelling hDigit
      omega
    · have hAscii := hExt.ascii c hTail
      have hLine := hExt.oneLine c hTail
      refine ⟨hAscii, ?_, ?_⟩
      · intro hReturn
        apply hLine.1
        exact Char.toNat_inj.mp hReturn
      · intro hFeed
        apply hLine.2
        exact Char.toNat_inj.mp hFeed
  have hText :
      Utf8.encode (sizeLine ds ext) =
        (ds ++ ext).map (fun c => UInt8.ofNat c.toNat) := by
    have hAscii :
        ∀ c ∈ (sizeLine ds ext).toList, c.toNat < 128 := by
      intro c hc
      rw [sizeLine, String.toList_ofList] at hc
      exact (hCode c hc).1
    rw [Utf8.encode_ascii hAscii, sizeLine,
      String.toList_ofList]
  have hOctet :
      ∀ c ∈ ds ++ ext,
        (UInt8.ofNat c.toNat).toNat = c.toNat := by
    intro c hc
    rw [UInt8.toNat_ofNat', Nat.mod_eq_of_lt]
    have hRange := hCode c hc
    omega
  rw [hText]
  constructor
  · intro hMem
    rcases List.mem_map.mp hMem with ⟨c, hc, hEq⟩
    have hNat := hOctet c hc
    rw [hEq] at hNat
    exact (hCode c hc).2.1 hNat.symm
  · intro hMem
    rcases List.mem_map.mp hMem with ⟨c, hc, hEq⟩
    have hNat := hOctet c hc
    rw [hEq] at hNat
    exact (hCode c hc).2.2 hNat.symm

/- The extension is not read. -/
theorem sizeHex_sizeLine
    (hSpelling : Text.HexSpelling ds n)
    (hExt : Extension ext) :
    sizeHex (sizeLine ds ext) = String.ofList ds := by
  have hCode :
      ∀ c ∈ ds, c ≠ ';' ∧ Text.isWhitespace c = false := by
    intro c hc
    have hRange := code_of_mem_spelling hSpelling hc
    constructor
    · rintro rfl
      have hSemicolon : ';'.toNat = 59 := rfl
      omega
    · simp only [Text.isWhitespace, Bool.or_eq_false_iff,
        Bool.and_eq_false_iff, decide_eq_false_iff_not,
        beq_eq_false_iff_ne]
      omega
  have hTake :
      (ds ++ ext).takeWhile (fun c => decide (c ≠ ';')) =
        ds := by
    rw [List.takeWhile_append_of_pos]
    · rcases hExt.introduced with rfl | ⟨cs, rfl⟩
      · simp
      · simp
    · intro c hc
      simpa using (hCode c hc).1
  rw [sizeHex, sizeLine, String.toList_ofList, hTake]
  apply Text.trim_eq_self
  intro c hc
  rw [String.toList_ofList] at hc
  exact (hCode c hc).2

/- A spelled size that fits in the word is announced. -/
theorem headerLine_sizeLine
    (hSpelling : Text.HexSpelling ds n)
    (hExt : Extension ext)
    (hFits : n < 2 ^ width) :
    HeaderLine width (Utf8.encode (sizeLine ds ext)) n where
  ends := by
    have hNone := (encode_sizeLine hSpelling hExt).1
    have hFind :
        findSubslice [13, 10]
            (Utf8.encode (sizeLine ds ext) ++
              ([13, 10] ++ [])) =
          some (Utf8.encode (sizeLine ds ext)).length :=
      findSubslice_of_not_mem hNone []
    exact hFind
  announces := by
    refine ⟨sizeLine ds ext, Utf8.decode_encode _, ?_⟩
    rw [sizeHex_sizeLine hSpelling hExt, String.toList_ofList]
    exact Text.fromStrRadix_hexSpelling hSpelling hFits

end Http

end UnidppArchive

------------------------------------------------------------
-- Rounds
------------------------------------------------------------

namespace UnidppArchive

namespace Http

variable {width size : Nat}
variable {front xs line rest data trailer out : Bytes}

/- A slice in memory leaves half of the word unused. -/
theorem room_of_slice
    {n : Nat}
    (hFits : n < 2 ^ (width - 1))
    (hSome : 1 ≤ n) :
    2 ^ width = 2 * 2 ^ (width - 1) := by
  cases width with
  | zero =>
      rw [Nat.zero_sub, Nat.pow_zero] at hFits
      omega
  | succ width =>
      rw [Nat.pow_succ', Nat.add_sub_cancel]

theorem lt_word_of_slice
    {n : Nat}
    (hFits : n < 2 ^ (width - 1)) :
    n < 2 ^ width :=
  hFits.trans_le
    (Nat.pow_le_pow_right (by omega) (by omega))

/- What one round does behind a header line. -/
theorem chunkStep_of_line
    (hLine : HeaderLine width line size)
    (hFits :
      (front ++ (line ++ crlf ++ rest)).length <
        2 ^ (width - 1)) :
    chunkStep width (front ++ (line ++ crlf ++ rest))
        front.length =
      if size = 0 then
        .ok none
      else if
          2 ^ width ≤
            (front ++ line ++ crlf).length + size then
        .error .panicked
      else if rest.length < size then
        .error (.refused "incomplete chunk data")
      else if rest.length < size + 2 then
        .error (.refused "incomplete chunk trailer")
      else
        .ok
          (some (rest.take size,
            (front ++ line ++ crlf).length + size + 2)) := by
  have hLength :
      (front ++ (line ++ crlf ++ rest)).length =
        front.length + (line.length + 2) + rest.length := by
    simp only [List.length_append, length_crlf]
    omega
  have hStart :
      (front ++ line ++ crlf).length =
        front.length + (line.length + 2) := by
    simp only [List.length_append, length_crlf]
    omega
  rw [hLength] at hFits
  have hRoom := room_of_slice hFits (by omega)
  unfold chunkStep
  rw [chunkHeader_of_line hLine
    (lt_word_of_slice (by rw [hLength]; exact hFits)), hStart]
  simp only [bind, Except.bind]
  split
  · rfl
  by_cases hWraps :
      2 ^ width ≤ front.length + (line.length + 2) + size
  · rw [Checked.add_of_le hWraps, if_pos hWraps]
  · rw [Checked.add_of_lt (by omega), if_neg hWraps]
    simp only [hLength]
    by_cases hData : rest.length < size
    · rw [if_pos (by omega), if_pos hData]
    · have hSlice :
          (Checked.slice (front ++ (line ++ crlf ++ rest))
            (front.length + (line.length + 2))
            (front.length + (line.length + 2) + size) :
              Checked String Bytes) =
            .ok (rest.take size) := by
        have hSplit :
            front ++ (line ++ crlf ++ rest) =
              (front ++ line ++ crlf) ++ rest := by
          simp
        rw [Checked.slice_of_le (by omega)
          (by rw [hLength]; omega), Nat.add_sub_cancel_left,
          hSplit, ← hStart, List.drop_left]
      rw [if_neg (by omega), if_neg hData, hSlice]
      simp only
      rw [Checked.add_of_lt (by omega)]
      simp only
      by_cases hTrailer : rest.length < size + 2
      · rw [if_pos (by omega), if_pos hTrailer]
      · rw [if_neg (by omega), if_neg hTrailer]

/-
  Whole chunks and their data: behind the data of each
  stand two octets that are not looked at.
-/
inductive WholeChunks
    (width : Nat) :
    Bytes → Bytes → Prop where
  | nil : WholeChunks width [] []
  | cons
      {line data trailer rest out : Bytes}
      (hLine : HeaderLine width line data.length)
      (hData : data ≠ [])
      (hTrailer : trailer.length = 2)
      (hRest : WholeChunks width rest out) :
      WholeChunks width
        (line ++ crlf ++ (data ++ trailer ++ rest))
        (data ++ out)

/- A round over a whole chunk. -/
theorem chunkStep_of_chunk
    (hLine : HeaderLine width line data.length)
    (hData : data ≠ [])
    (hTrailer : trailer.length = 2)
    (hFits :
      (front ++
          (line ++ crlf ++ (data ++ trailer ++ rest))).length <
        2 ^ (width - 1)) :
    chunkStep width
        (front ++ (line ++ crlf ++ (data ++ trailer ++ rest)))
        front.length =
      .ok
        (some (data,
          (front ++
            (line ++ crlf ++ (data ++ trailer))).length)) := by
  have hPos := List.length_pos_of_ne_nil hData
  have hWord := lt_word_of_slice hFits
  rw [chunkStep_of_line hLine hFits, if_neg (by omega)]
  simp only [List.length_append, length_crlf, hTrailer]
    at hWord ⊢
  rw [if_neg (by omega), if_neg (by omega), if_neg (by omega),
    List.append_assoc, List.take_left]
  simp only [Except.ok.injEq, Option.some.injEq,
    Prod.mk.injEq, true_and]
  omega

theorem decodeLoop_none
    {raw : Bytes}
    {pos : Nat}
    (h : chunkStep width raw pos = .ok none)
    (out : Bytes) :
    decodeLoop width raw pos out = .ok out := by
  rw [decodeLoop]
  split
  · rename_i hStep
    rw [h] at hStep
    cases hStep
  · rfl
  · rename_i hStep
    rw [h] at hStep
    cases hStep

theorem decodeLoop_some
    {raw : Bytes}
    {pos next : Nat}
    (h : chunkStep width raw pos = .ok (some (data, next)))
    (out : Bytes) :
    decodeLoop width raw pos out =
      decodeLoop width raw next (out ++ data) := by
  rw [decodeLoop]
  split
  · rename_i hStep
    rw [h] at hStep
    cases hStep
  · rename_i hStep
    rw [h] at hStep
    cases hStep
  · rename_i hStep
    rw [h] at hStep
    cases hStep
    rfl

theorem decodeLoop_error
    {raw : Bytes}
    {pos : Nat}
    {f : Fault String}
    (h : chunkStep width raw pos = .error f)
    (out : Bytes) :
    decodeLoop width raw pos out = .error f := by
  rw [decodeLoop]
  split
  · rename_i hStep
    rw [h] at hStep
    cases hStep
    rfl
  · rename_i hStep
    rw [h] at hStep
    cases hStep
  · rename_i hStep
    rw [h] at hStep
    cases hStep

/- The rounds over whole chunks collect their data. -/
theorem decodeLoop_wholeChunks
    {cs : Bytes}
    (front acc : Bytes)
    (hChunks : WholeChunks width cs out)
    (hFits :
      (front ++ (cs ++ xs)).length < 2 ^ (width - 1)) :
    decodeLoop width (front ++ (cs ++ xs)) front.length acc =
      decodeLoop width (front ++ (cs ++ xs))
        (front ++ cs).length (acc ++ out) := by
  induction hChunks generalizing front acc with
  | nil => simp
  | @cons line data trailer rest out hLine hData hTrailer
      hRest ih =>
      have hSplit :
          front ++
              (line ++ crlf ++ (data ++ trailer ++ rest) ++
                xs) =
            front ++
              (line ++ crlf ++
                (data ++ trailer ++ (rest ++ xs))) := by
        simp
      have hSplit' :
          front ++
              (line ++ crlf ++
                (data ++ trailer ++ (rest ++ xs))) =
            (front ++ (line ++ crlf ++ (data ++ trailer))) ++
              (rest ++ xs) := by
        simp
      rw [hSplit] at hFits ⊢
      rw [decodeLoop_some
        (chunkStep_of_chunk hLine hData hTrailer hFits)]
      rw [hSplit'] at hFits ⊢
      rw [ih _ _ hFits]
      simp

/- A round that goes on has read a whole chunk. -/
theorem exists_chunk_of_step
    {next : Bytes × Nat}
    (h :
      chunkStep width (front ++ xs) front.length =
        .ok (some next)) :
    ∃ line data trailer rest,
      xs = line ++ crlf ++ (data ++ trailer ++ rest) ∧
        HeaderLine width line data.length ∧ data ≠ [] ∧
        trailer.length = 2 ∧
        next =
          (data,
            (front ++
              (line ++ crlf ++ (data ++ trailer))).length) := by
  unfold chunkStep at h
  rcases bind_eq_ok_iff.mp h with ⟨⟨size, start⟩, hHeader, h⟩
  rcases exists_line_of_chunkHeader hHeader with
    ⟨line, rest, rfl, hLine, rfl⟩
  simp only at h
  split at h
  · cases h
  rename_i hSize
  rcases bind_eq_ok_iff.mp h with ⟨stop, hStop, h⟩
  rcases Checked.add_eq_ok_iff.mp hStop with ⟨-, rfl⟩
  split at h
  · cases h
  rename_i hData
  rcases bind_eq_ok_iff.mp h with ⟨data, hSlice, h⟩
  rcases Checked.slice_eq_ok_iff.mp hSlice with ⟨-, rfl⟩
  rcases bind_eq_ok_iff.mp h with ⟨next', hNext, h⟩
  rcases Checked.add_eq_ok_iff.mp hNext with ⟨-, rfl⟩
  split at h
  · cases h
  rename_i hTrailer
  simp only [List.length_append, length_crlf] at hTrailer
  have hSplit :
      front ++ (line ++ crlf ++ rest) =
        (front ++ line ++ crlf) ++ rest := by
    simp
  have hStart :
      front.length + (line.length + 2) =
        (front ++ line ++ crlf).length := by
    simp only [List.length_append, length_crlf]
    omega
  rw [Nat.add_sub_cancel_left, hSplit, hStart,
    List.drop_left] at h
  have hLength : (rest.take size).length = size :=
    List.length_take_of_le (by omega)
  have hTwo : ((rest.drop size).take 2).length = 2 := by
    apply List.length_take_of_le
    rw [List.length_drop]
    omega
  refine ⟨line, rest.take size, (rest.drop size).take 2,
    rest.drop (size + 2), ?_, by rwa [hLength], ?_, hTwo, ?_⟩
  · rw [List.append_assoc (rest.take size), ← List.drop_drop,
      List.take_append_drop, List.take_append_drop]
  · intro hNil
    rw [hNil, List.length_nil] at hLength
    exact hSize hLength.symm
  · rw [Except.ok.injEq, Option.some.injEq] at h
    rw [← h, Prod.mk.injEq]
    refine ⟨rfl, ?_⟩
    simp only [List.length_append] at hLength ⊢
    rw [hLength, hTwo]
    omega

/- A round that ends has read a header of size zero. -/
theorem exists_line_of_last
    (h :
      chunkStep width (front ++ xs) front.length = .ok none) :
    ∃ line rest,
      xs = line ++ crlf ++ rest ∧ HeaderLine width line 0 := by
  unfold chunkStep at h
  rcases bind_eq_ok_iff.mp h with ⟨⟨size, start⟩, hHeader, h⟩
  rcases exists_line_of_chunkHeader hHeader with
    ⟨line, rest, hSplit, hLine, -⟩
  simp only at h
  split at h
  · rename_i hZero
    rw [hZero] at hLine
    exact ⟨line, rest, hSplit, hLine⟩
  · rcases bind_eq_ok_iff.mp h with ⟨stop, -, h⟩
    split at h
    · cases h
    · rcases bind_eq_ok_iff.mp h with ⟨data, -, h⟩
      rcases bind_eq_ok_iff.mp h with ⟨next, -, h⟩
      split at h <;> cases h

/-
  Every text is whole chunks, and something at which the
  rounds stop.
-/
theorem exists_wholeChunks
    (width : Nat)
    (front xs acc : Bytes) :
    ∃ cs out ys,
      xs = cs ++ ys ∧ WholeChunks width cs out ∧
        (∀ next,
          chunkStep width (front ++ xs) (front ++ cs).length ≠
            .ok (some next)) ∧
        decodeLoop width (front ++ xs) front.length acc =
          decodeLoop width (front ++ xs) (front ++ cs).length
            (acc ++ out) := by
  -- by the length of what is left
  generalize hLength : xs.length = n
  induction n using Nat.strong_induction_on
    generalizing front xs acc with
  | _ n ih =>
  by_cases hStep :
      ∃ next,
        chunkStep width (front ++ xs) front.length =
          .ok (some next)
  · rcases hStep with ⟨next, hStep⟩
    rcases exists_chunk_of_step hStep with
      ⟨line, data, trailer, rest, rfl, hLine, hData,
        hTrailer, rfl⟩
    have hRound := decodeLoop_some hStep acc
    have hSplit :
        front ++ (line ++ crlf ++ (data ++ trailer ++ rest)) =
          (front ++ (line ++ crlf ++ (data ++ trailer))) ++
            rest := by
      simp
    rw [hRound, hSplit]
    have hShorter : rest.length < n := by
      rw [← hLength]
      simp only [List.length_append, length_crlf]
      omega
    rcases ih rest.length hShorter
        (front ++ (line ++ crlf ++ (data ++ trailer))) rest
        (acc ++ data) rfl with
      ⟨cs, out, ys, rfl, hChunks, hLast, hRun⟩
    have hPlace :
        front ++ (line ++ crlf ++ (data ++ trailer)) ++ cs =
          front ++
            (line ++ crlf ++ (data ++ trailer ++ cs)) := by
      simp
    rw [hPlace] at hLast hRun
    rw [List.append_assoc acc] at hRun
    exact ⟨line ++ crlf ++ (data ++ trailer ++ cs),
      data ++ out, ys, by simp,
      .cons hLine hData hTrailer hChunks, hLast, hRun⟩
  · push Not at hStep
    refine ⟨[], [], xs, rfl, .nil, ?_, ?_⟩
    · rw [List.append_nil]
      exact hStep
    · rw [List.append_nil, List.append_nil]

end Http

end UnidppArchive
