import UnidppArchive.Foundations.Segments
import UnidppArchive.Http.Chunked

/-
  The decoder of chunked bodies on a growing buffer.

  A body that is refused is decoded again from its start
  when more has been read.  Once the decoder returns, or
  panics, it does the same on every longer buffer.

  Key definitions include:
    * `Http.settledBody`

  Key theorems include:
    * `Http.chunkStep_keeps`
    * `Http.decodeChunkedBody_keeps`
    * `Http.stable_settledBody`
-/

------------------------------------------------------------
-- Rounds on a Longer Buffer
------------------------------------------------------------

namespace UnidppArchive

namespace Http

variable {width pos : Nat}
variable {raw : Bytes}

theorem slice_tail
    {xs : Bytes}
    (hPos : pos ≤ xs.length) :
    (Checked.slice xs pos xs.length : Checked String Bytes) =
      .ok (xs.drop pos) := by
  rw [Checked.slice_of_le hPos (by omega),
    ← List.length_drop, List.take_length]

theorem chunkHeader_keeps
    (hPos : pos ≤ raw.length)
    (ys : Bytes) :
    Checked.Keeps (chunkHeader width raw pos)
      (chunkHeader width (raw ++ ys) pos) := by
  have hPos' : pos ≤ (raw ++ ys).length := by
    rw [List.length_append]
    omega
  unfold chunkHeader
  rw [slice_tail hPos, slice_tail hPos', ok_bind, ok_bind,
    List.drop_append_of_le_length hPos]
  apply Checked.Keeps.bind
  · exact Checked.Keeps.orRefuse
      (fun i hFind => findSubslice_append crlf_ne_nil hFind ys)
  intro i hFind
  apply Checked.Keeps.bind (Checked.Keeps.refl _)
  intro lineEnd hEnd
  apply Checked.Keeps.bind
  · rw [Checked.orRefuse_eq_ok_iff] at hFind
    rcases Checked.add_eq_ok_iff.mp hEnd with ⟨-, rfl⟩
    have hInside := le_of_findSubslice crlf_ne_nil hFind
    rw [List.length_drop] at hInside
    exact Checked.Keeps.slice (by omega) ys
  · intro line _
    exact Checked.Keeps.refl _

/- A round reads only what was there. -/
theorem chunkStep_keeps
    (hPos : pos ≤ raw.length)
    (ys : Bytes) :
    Checked.Keeps (chunkStep width raw pos)
      (chunkStep width (raw ++ ys) pos) := by
  unfold chunkStep
  apply Checked.Keeps.bind (chunkHeader_keeps hPos ys)
  rintro ⟨size, start⟩ -
  simp only
  split
  · exact Checked.Keeps.refl _
  apply Checked.Keeps.bind (Checked.Keeps.refl _)
  intro stop _
  by_cases hData : stop > raw.length
  · rw [if_pos hData]
    exact Checked.Keeps.refused _ _
  rw [if_neg hData,
    if_neg (by rw [List.length_append]; omega)]
  apply Checked.Keeps.bind
  · exact Checked.Keeps.slice (by omega) ys
  intro data _
  apply Checked.Keeps.bind (Checked.Keeps.refl _)
  intro next _
  by_cases hTrailer : raw.length < next
  · rw [if_pos hTrailer]
    exact Checked.Keeps.refused _ _
  · rw [if_neg hTrailer,
      if_neg (by rw [List.length_append]; omega)]
    exact Checked.Keeps.refl _

theorem decodeLoop_keeps
    (hPos : pos ≤ raw.length)
    (ys out : Bytes) :
    Checked.Keeps (decodeLoop width raw pos out)
      (decodeLoop width (raw ++ ys) pos out) := by
  -- by what is left of the shorter buffer
  generalize hLeft : raw.length - pos = n
  induction n using Nat.strong_induction_on
    generalizing pos out with
  | _ n ih =>
  have hKeeps :
      Checked.Keeps (chunkStep width raw pos)
        (chunkStep width (raw ++ ys) pos) :=
    chunkStep_keeps hPos ys
  rcases hKeeps with hSame | ⟨e, hRefused⟩
  · cases hStep : chunkStep width raw pos with
    | error f =>
        rw [hStep] at hSame
        rw [decodeLoop_error hStep, decodeLoop_error hSame]
        exact Checked.Keeps.refl _
    | ok next =>
        rw [hStep] at hSame
        cases next with
        | none =>
            rw [decodeLoop_none hStep, decodeLoop_none hSame]
            exact Checked.Keeps.refl _
        | some next =>
            rcases next with ⟨data, next⟩
            have hProgress := chunkStep_progress hStep
            rw [decodeLoop_some hStep, decodeLoop_some hSame]
            exact ih (raw.length - next) (by omega)
              hProgress.2 _ rfl
  · rw [decodeLoop_error hRefused]
    exact Checked.Keeps.refused e _

/- A longer body is decoded alike, unless it was refused. -/
theorem decodeChunkedBody_keeps
    (width : Nat)
    (raw ys : Bytes) :
    Checked.Keeps (decodeChunkedBody width raw)
      (decodeChunkedBody width (raw ++ ys)) :=
  decodeLoop_keeps (Nat.zero_le _) ys []

/- The body, unless the caller has to read on. -/
def settledBody
    {ε : Type}
    (width : Nat)
    (raw : Bytes) : Option (Checked ε Bytes) :=
  Checked.settled (decodeChunkedBody width raw)

theorem stable_settledBody
    (ε : Type)
    (width : Nat) :
    Stable (settledBody (ε := ε) width) := by
  intro raw body hSettled ys
  exact (decodeChunkedBody_keeps width raw ys).settled hSettled

end Http

end UnidppArchive
