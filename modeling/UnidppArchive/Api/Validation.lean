import UnidppArchive.Reference.Samples

/-
  What the ingest validator accepts (`api.rs`).

  A submission is stated field by field, with the measure of
  a text's length left open: the messages count characters,
  the code counts octets.

  Key definitions include:
    * `Submission`
    * `OctetsExceed`

  Key theorems include:
    * `parseCreateRequest_eq_ok_iff`
    * `validator_follows_messages_iff`
-/

------------------------------------------------------------
-- Submissions
------------------------------------------------------------

namespace UnidppArchive

open Json

/- A text from 1 to 512 in the given measure. -/
def Fits
    (size : String → Nat)
    (s : String) : Prop :=
  1 ≤ size s ∧ size s ≤ 512

/- A member that is absent or `null`. -/
def Omitted
    (v : Value)
    (key : String) : Prop :=
  v.get? key = none ∨ v.get? key = some .null

/- A member that is a string, and the string trimmed. -/
def TrimmedText
    (v : Value)
    (key t : String) : Prop :=
  ∃ s, v.get? key = some (.string s) ∧ t = Text.trim s

/- A member that is a hash in hex, and the hash. -/
def HashMember
    (M : UnidppModel)
    (v : Value)
    (key : String)
    (h : Hash) : Prop :=
  ∃ t, TrimmedText v key t ∧ HashText t ∧
    M.fromHex t = some h

/-
  A value that is a submission of the given request, when
  texts are measured with `size`.
-/
structure Submission
    (C : Crates)
    (size : String → Nat)
    (v : Value)
    (req : CreateRequest) : Prop where
  isObject : ∃ fs, v = .object fs
  passportId : TrimmedText v "passport_id" req.passportId
  passportFits : Fits size req.passportId
  noControl :
    ∀ c ∈ req.passportId.toList, Text.isControl c = false
  stateHash : HashMember C.model v "state_hash" req.stateHash
  logHead : HashMember C.model v "log_head" req.logHead
  submitter :
    (Omitted v "submitter" ∧ req.submitter = none) ∨
      ∃ t, TrimmedText v "submitter" t ∧ Fits size t ∧
        req.submitter = some t
  stateSize :
    (Omitted v "state_size" ∧ req.stateSize = none) ∨
      ∃ n, v.get? "state_size" = some (u64 n) ∧
        req.stateSize = some n

end UnidppArchive

------------------------------------------------------------
-- The Helpers
------------------------------------------------------------

namespace UnidppArchive

open Json

variable {C : Crates}
variable {v : Value}
variable {key : String}

namespace Api

theorem reqStr_eq_ok_iff
    {t : String} :
    reqStr v key = .ok t ↔ TrimmedText v key t ∧ t ≠ "" := by
  unfold reqStr TrimmedText
  rw [okOr_eq_ok_iff]
  cases hMember : v.get? key with
  | none => simp
  | some w =>
      cases w with
      | string s =>
          simp only [Option.bind_some, Value.asStr?,
            Option.map_some, Option.filter_eq_some_iff,
            Option.some.injEq, Value.string.injEq,
            exists_eq_left', decide_eq_true_eq]
          constructor
          · rintro ⟨rfl, hText⟩
            exact ⟨rfl, hText⟩
          · rintro ⟨rfl, hText⟩
            exact ⟨rfl, hText⟩
      | _ => simp [Value.asStr?]

theorem optStr_eq_ok_iff
    {o : Option String} :
    optStr v key = .ok o ↔
      (Omitted v key ∧ o = none) ∨
        ∃ t, TrimmedText v key t ∧ Fits Text.byteLen t ∧
          o = some t := by
  unfold optStr Omitted TrimmedText
  cases hMember : v.get? key with
  | none => simp [eq_comm]
  | some w =>
      cases w with
      | null => simp [eq_comm]
      | string s =>
          simp only [Option.some.injEq, reduceCtorEq,
            or_self, false_and, false_or, Value.string.injEq,
            exists_eq_left', exists_eq_left]
          unfold Fits
          rw [Text.byteLen_pos_iff]
          split
          · rename_i hBlank
            simp [hBlank]
          · rename_i hText
            split
            · rename_i hLong
              simp
              omega
            · rename_i hShort
              simp only [Except.ok.injEq]
              constructor
              · rintro rfl
                exact ⟨⟨hText, by omega⟩, rfl⟩
              · rintro ⟨-, rfl⟩
                rfl
      | _ => simp

theorem optU64_eq_ok_iff
    {o : Option UInt64} :
    optU64 v key = .ok o ↔
      (Omitted v key ∧ o = none) ∨
        ∃ n, v.get? key = some (u64 n) ∧ o = some n := by
  unfold optU64 Omitted u64
  cases hMember : v.get? key with
  | none => simp [eq_comm]
  | some w =>
      cases w with
      | null => simp [eq_comm]
      | number n =>
          cases n with
          | posInt n =>
              simp [Value.asU64?, Except.map, eq_comm]
          | _ => simp [Value.asU64?, okOr, Except.map]
      | _ => simp [Value.asU64?, okOr, Except.map]

theorem reqHash_eq_ok_iff
    (hExact : C.model.HexExact)
    {h : Hash} :
    reqHash C v key = .ok h ↔ HashMember C.model v key h := by
  unfold reqHash HashMember
  simp only [bind_eq_ok_iff, reqStr_eq_ok_iff, okOr_eq_ok_iff]
  constructor
  · rintro ⟨t, ⟨hText, -⟩, hHash⟩
    exact ⟨t, hText, (hExact t).mp ⟨h, hHash⟩, hHash⟩
  · rintro ⟨t, hText, hDigits, hHash⟩
    refine ⟨t, ⟨hText, ?_⟩, hHash⟩
    apply Text.charLen_pos_iff.mp
    have hLength := hDigits.length
    omega

end Api

theorem validatePassportId_eq_ok_iff
    {id : String}
    {u : Unit} :
    validatePassportId id = .ok u ↔
      Fits Text.byteLen id ∧
        ∀ c ∈ id.toList, Text.isControl c = false := by
  unfold validatePassportId Fits
  rw [Text.byteLen_pos_iff]
  split
  · rename_i hSize
    simp only [reduceCtorEq, false_iff, not_and]
    rintro ⟨hText, hShort⟩
    rcases hSize with hEmpty | hLong
    · exact absurd hEmpty hText
    · omega
  · rename_i hSize
    have hFits : id ≠ "" ∧ Text.byteLen id ≤ 512 := by
      simpa [not_or] using hSize
    split
    · rename_i hControl
      have hSome := List.any_eq_true.mp hControl
      simp only [reduceCtorEq, false_iff, not_and,
        not_forall]
      rcases hSome with ⟨c, hMem, hc⟩
      exact fun _ => ⟨c, hMem, by simp [hc]⟩
    · rename_i hControl
      simpa [hFits] using hControl

end UnidppArchive

------------------------------------------------------------
-- The Validator
------------------------------------------------------------

namespace UnidppArchive

open Json

variable {C : Crates}
variable {v : Value}
variable {req : CreateRequest}

/- The validator accepts the submissions, by octets. -/
theorem parseCreateRequest_eq_ok_iff
    (hExact : C.model.HexExact) :
    parseCreateRequest C v = .ok req ↔
      Submission C Text.byteLen v req := by
  unfold parseCreateRequest
  simp only [bind_eq_ok_iff, Api.reqStr_eq_ok_iff,
    validatePassportId_eq_ok_iff, Api.optStr_eq_ok_iff,
    Api.optU64_eq_ok_iff, Api.reqHash_eq_ok_iff hExact]
  constructor
  · rintro ⟨passport, ⟨hPassport, -⟩, u, ⟨hFits, hControl⟩,
      state, hState, head, hHead, submitter, hSubmitter, size,
      hSize, hReq⟩
    cases hReq
    refine ⟨?_, hPassport, hFits, hControl, hState, hHead,
      hSubmitter, hSize⟩
    rcases hPassport with ⟨s, hMember, -⟩
    cases v with
    | object fs => exact ⟨fs, rfl⟩
    | _ => cases hMember
  · intro h
    exact ⟨req.passportId,
      ⟨h.passportId, Text.byteLen_pos_iff.mp h.passportFits.1⟩,
      (), ⟨h.passportFits, h.noControl⟩,
      req.stateHash, h.stateHash, req.logHead, h.logHead,
      req.submitter, h.submitter, req.stateSize, h.stateSize,
      rfl⟩

/- What fits in octets fits in characters. -/
theorem Fits.charLen
    {s : String}
    (h : Fits Text.byteLen s) :
    Fits Text.charLen s :=
  ⟨Text.charLen_pos_iff.mpr (Text.byteLen_pos_iff.mp h.1),
    (Text.charLen_le_byteLen s).trans h.2⟩

theorem Submission.charLen
    (h : Submission C Text.byteLen v req) :
    Submission C Text.charLen v req := by
  refine
    { h with
      passportFits := h.passportFits.charLen
      submitter := ?_ }
  rcases h.submitter with hOmitted | ⟨t, hText, hFits, hReq⟩
  · exact Or.inl hOmitted
  · exact Or.inr ⟨t, hText, hFits.charLen, hReq⟩

/- One of the texts of a request takes over 512 octets. -/
def OctetsExceed
    (req : CreateRequest) : Prop :=
  512 < Text.byteLen req.passportId ∨
    ∃ t, req.submitter = some t ∧ 512 < Text.byteLen t

/- A submission by characters is one by octets, or too long. -/
theorem Submission.byteLen_iff
    (h : Submission C Text.charLen v req) :
    Submission C Text.byteLen v req ↔ ¬ OctetsExceed req := by
  constructor
  · intro hOctets hExceed
    rcases hExceed with hPassport | ⟨t, hReq, hLong⟩
    · exact absurd hOctets.passportFits.2 (by omega)
    · rcases hOctets.submitter with
        ⟨-, hNone⟩ | ⟨t', -, hFits, hSame⟩
      · rw [hNone] at hReq
        cases hReq
      · rw [hSame, Option.some.injEq] at hReq
        subst hReq
        exact absurd hFits.2 (by omega)
  · intro hShort
    have hOctets :
        ∀ t, Fits Text.charLen t →
          ¬ 512 < Text.byteLen t → Fits Text.byteLen t := by
      intro t hFits hLe
      exact ⟨hFits.1.trans (Text.charLen_le_byteLen t),
        by omega⟩
    refine
      { h with
        passportFits := ?_
        submitter := ?_ }
    · apply hOctets _ h.passportFits
      exact fun hLong => hShort (Or.inl hLong)
    · rcases h.submitter with
        hOmitted | ⟨t, hText, hFits, hReq⟩
      · exact Or.inl hOmitted
      · refine Or.inr ⟨t, hText, ?_, hReq⟩
        apply hOctets t hFits
        exact fun hLong => hShort (Or.inr ⟨t, hReq, hLong⟩)

/-
  The validator does what its messages say of a value,
  unless the value is a submission with a text of at most
  512 characters in over 512 octets.
-/
theorem validator_follows_messages_iff
    (hExact : C.model.HexExact)
    (v : Value) :
    (∀ req,
      parseCreateRequest C v = .ok req ↔
        Submission C Text.charLen v req) ↔
      ¬ ∃ req, Submission C Text.charLen v req ∧
        OctetsExceed req := by
  simp only [parseCreateRequest_eq_ok_iff hExact]
  constructor
  · rintro hFollows ⟨req, hSubmission, hExceed⟩
    have hOctets := (hFollows req).mpr hSubmission
    exact (hSubmission.byteLen_iff.mp hOctets) hExceed
  · intro hNone req
    constructor
    · exact Submission.charLen
    · intro hSubmission
      rw [hSubmission.byteLen_iff]
      exact fun hExceed => hNone ⟨req, hSubmission, hExceed⟩

end UnidppArchive

------------------------------------------------------------
-- Samples
------------------------------------------------------------

namespace UnidppArchive

open Json

namespace Reference

/- 257 characters in 514 octets. -/
def accentedId : String :=
  String.ofList (List.replicate 257 'é')

def longRequest : CreateRequest :=
  ⟨accentedId, sampleHash, sampleHash, none, none⟩

/- A submission of a passport id. -/
def submissionJson
    (passportId : String) : Value :=
  object
    [("passport_id", .string passportId),
      ("state_hash", .string (hexEncode sampleHash.bytes)),
      ("log_head", .string (hexEncode sampleHash.bytes))]

theorem hashMember_sample
    {v : Value}
    {key : String}
    (h : v.get? key =
      some (.string (hexEncode sampleHash.bytes))) :
    HashMember crates.model v key sampleHash := by
  have hHash :
      crates.model.fromHex (hexEncode sampleHash.bytes) =
        some sampleHash :=
    hexLaw sampleHash
  have hText : HashText (hexEncode sampleHash.bytes) :=
    (hexExact _).mp ⟨sampleHash, hHash⟩
  refine ⟨_, ⟨_, h, rfl⟩, ?_⟩
  rw [Text.trim_eq_self fun c hc =>
    (hexDigit_of_hexCode (hText.digits c hc)).space]
  exact ⟨hText, hHash⟩

theorem submission_sample
    {id : String}
    (hTrim : Text.trim id = id)
    (hFits : Fits Text.charLen id)
    (hControl :
      ∀ c ∈ id.toList, Text.isControl c = false) :
    Submission crates Text.charLen (submissionJson id)
      ⟨id, sampleHash, sampleHash, none, none⟩ where
  isObject := ⟨_, rfl⟩
  passportId := ⟨id, by simp [submissionJson], hTrim.symm⟩
  passportFits := hFits
  noControl := hControl
  stateHash := hashMember_sample (by simp [submissionJson])
  logHead := hashMember_sample (by simp [submissionJson])
  submitter :=
    Or.inl ⟨Or.inl (by simp [submissionJson]), rfl⟩
  stateSize :=
    Or.inl ⟨Or.inl (by simp [submissionJson]), rfl⟩

end Reference

open Reference in
/- Messages and code agree on an ASCII submission. -/
theorem validator_follows_messages_sample :
    (¬ ∃ req,
        Submission crates Text.charLen
            (submissionJson "urn:unidpp:passport:e8") req ∧
          OctetsExceed req) ∧
      ∀ req,
        parseCreateRequest crates
            (submissionJson "urn:unidpp:passport:e8") =
          .ok req ↔
        Submission crates Text.charLen
          (submissionJson "urn:unidpp:passport:e8") req := by
  have hPassport :
      (submissionJson "urn:unidpp:passport:e8").get?
          "passport_id" =
        some (.string "urn:unidpp:passport:e8") := by
    simp [submissionJson]
  have hOmitted :
      (submissionJson "urn:unidpp:passport:e8").get?
          "submitter" = none := by
    simp [submissionJson]
  have hWithin :
      ¬ ∃ req,
        Submission crates Text.charLen
            (submissionJson "urn:unidpp:passport:e8") req ∧
          OctetsExceed req := by
    rintro ⟨req, hSubmission, hLong | ⟨t, hReq, -⟩⟩
    · rcases hSubmission.passportId with ⟨s, hMember, hTrim⟩
      rw [hPassport, Option.some.injEq, Value.string.injEq]
        at hMember
      rw [hTrim, ← hMember] at hLong
      exact absurd hLong (by decide)
    · rcases hSubmission.submitter with
        ⟨-, hNone⟩ | ⟨t', ⟨s, hMember, -⟩, -⟩
      · rw [hNone] at hReq
        cases hReq
      · rw [hOmitted] at hMember
        cases hMember
  exact ⟨hWithin,
    (validator_follows_messages_iff hexExact _).mpr hWithin⟩

namespace Reference

theorem toList_accentedId :
    accentedId.toList = List.replicate 257 'é' :=
  String.toList_ofList

theorem charLen_accentedId :
    Text.charLen accentedId = 257 := by
  rw [Text.charLen, toList_accentedId, List.length_replicate]

theorem byteLen_accentedId :
    Text.byteLen accentedId = 514 := by
  have hSize :
      ∀ n,
        (Utf8.encodeChars (List.replicate n 'é')).length =
          2 * n := by
    intro n
    induction n with
    | zero => rfl
    | succ n ih =>
        rw [List.replicate_succ, Utf8.encodeChars_cons,
          List.length_append, ih,
          String.length_utf8EncodeChar]
        have hAccent : Char.utf8Size 'é' = 2 := by
          decide
        omega
  rw [Text.byteLen, Utf8.encode, toList_accentedId, hSize]

theorem mem_accentedId
    {c : Char}
    (h : c ∈ accentedId.toList) :
    c = 'é' := by
  rw [toList_accentedId] at h
  exact List.eq_of_mem_replicate h

/- A submission by characters, too long in octets. -/
theorem submission_accentedId :
    Submission crates Text.charLen
        (submissionJson accentedId) longRequest ∧
      OctetsExceed longRequest := by
  refine ⟨submission_sample ?_ ?_ ?_, Or.inl ?_⟩
  · apply Text.trim_eq_self
    intro c hc
    rw [mem_accentedId hc]
    decide
  · rw [Fits, charLen_accentedId]
    omega
  · intro c hc
    rw [mem_accentedId hc]
    decide
  · have hOctets := byteLen_accentedId
    simp only [longRequest]
    omega

end Reference

open Reference in
/- A passport id of 257 characters is refused as too long. -/
theorem validator_refuses_accented :
    ¬ ∀ req,
      parseCreateRequest crates (submissionJson accentedId) =
          .ok req ↔
        Submission crates Text.charLen
          (submissionJson accentedId) req := by
  intro hFollows
  rcases submission_accentedId with ⟨hSubmission, hExceed⟩
  have hAccepted := (hFollows longRequest).mpr hSubmission
  have hOctets :=
    (parseCreateRequest_eq_ok_iff hexExact).mp hAccepted
  exact hSubmission.byteLen_iff.mp hOctets hExceed

end UnidppArchive
