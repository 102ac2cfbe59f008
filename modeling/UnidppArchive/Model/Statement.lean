import UnidppArchive.Foundations.PrefixCode
import UnidppArchive.Model.Document

/-
  The canonical statement as a prefix code.

  Over a writer with fixed-width integers, raw hashes and
  length-prefixed strings, the statement bytes are a code of
  the notarized fields from which all of them can be read.

  Key definitions include:
    * `Encoders`
    * `UnidppModel.WriterLaw`
    * `statementCode`
    * `CoreRead`
    * `OutcomeRead`

  Key theorems include:
    * `canonicalStatement_eq_code`
    * `decodable_statementCode`
    * `statementRead_of_statementBytes`
    * `OutcomeRead.congr`
-/

------------------------------------------------------------
-- The Canonical Writer
------------------------------------------------------------

namespace UnidppArchive

/- `isize::MAX`, the longest octet sequence in memory. -/
def isizeMax : Nat :=
  2 ^ 63 - 1

/- The values of `i64`. -/
@[reducible]
def FitsI64
    (i : Int) : Prop :=
  -2 ^ 63 ≤ i ∧ i < 2 ^ 63

/- What the writer emits for lengths and integers. -/
structure Encoders where
  len : Nat → Bytes
  u32 : UInt32 → Bytes
  u64 : UInt64 → Bytes
  i64 : Int → Bytes

/- Every encoder has a fixed width and loses nothing. -/
structure Encoders.Sound
    (E : Encoders) : Prop where
  lenWidth : ∃ k, ∀ n, (E.len n).length = k
  lenInjective :
    ∀ m n, m ≤ isizeMax → n ≤ isizeMax →
      E.len m = E.len n → m = n
  u32Width : ∃ k, ∀ n, (E.u32 n).length = k
  u32Injective : Function.Injective E.u32
  u64Width : ∃ k, ∀ n, (E.u64 n).length = k
  u64Injective : Function.Injective E.u64
  i64Width : ∃ k, ∀ i, (E.i64 i).length = k
  i64Injective :
    ∀ i j, FitsI64 i → FitsI64 j → E.i64 i = E.i64 j → i = j

/- The code of a string: its length, then its octets. -/
def Encoders.str
    (E : Encoders)
    (s : String) : Bytes :=
  E.len (Utf8.encode s).length ++ Utf8.encode s

/- The writer appends what the encoders emit. -/
structure UnidppModel.Writes
    (M : UnidppModel)
    (E : Encoders) : Prop where
  writeStr : ∀ w s, M.writeStr w s = w ++ E.str s
  writeU32 : ∀ w n, M.writeU32 w n = w ++ E.u32 n
  writeU64 : ∀ w n, M.writeU64 w n = w ++ E.u64 n
  writeI64 : ∀ w i, M.writeI64 w i = w ++ E.i64 i
  writeHash : ∀ w h, M.writeHash w h = w ++ h.bytes
  writeBytesRaw : ∀ w b, M.writeBytesRaw w b = w ++ b

/- The documented layout of `CanonicalWriter`. -/
def UnidppModel.WriterLaw
    (M : UnidppModel) : Prop :=
  ∃ E : Encoders, E.Sound ∧ M.Writes E

end UnidppArchive

------------------------------------------------------------
-- The Statement Code
------------------------------------------------------------

namespace UnidppArchive

open PrefixCode

/- Service, id, sequence, passport, state, head, instant. -/
abbrev CoreFields :=
  String × String × UInt64 × String × Hash × Hash × Int

/- Log, receipt, tree size and root of an anchor. -/
abbrev OutcomeFields :=
  Option (String × UInt64 × UInt64 × Hash)

def coreCode
    (E : Encoders) :
    CoreFields → Bytes :=
  pair E.str (pair E.str (pair E.u64 (pair E.str
    (pair Hash.bytes (pair Hash.bytes E.i64)))))

def outcomeCode
    (E : Encoders) :
    OutcomeFields → Bytes :=
  PrefixCode.option (E.u32 0) (E.u32 1)
    (pair E.str (pair E.u64 (pair E.u64 Hash.bytes)))

def statementCode
    (E : Encoders) :
    CoreFields × OutcomeFields → Bytes :=
  pair (coreCode E) (outcomeCode E)

/- The fields of an outcome that the statement covers. -/
def outcomeFields
    (a : Anchoring) : OutcomeFields :=
  match a.status with
  | .unanchored => none
  | .anchored =>
      some (a.logId.getD "", a.receiptSeq.getD 0,
        a.treeSize.getD 0, a.root.getD Hash.zero)

variable {C : Crates}
variable {E : Encoders}

/- The bytes that are signed are the code of the fields. -/
theorem canonicalStatement_eq_code
    (hWrites : C.model.Writes E)
    (snapshotId : String)
    (seq : UInt64)
    (passportId : String)
    (stateHash logHead : Hash)
    (notarizedAt : Timestamp)
    (a : Anchoring) :
    canonicalStatement C
        (canonicalCore C snapshotId seq passportId stateHash
          logHead notarizedAt) a =
      statementCode E
        ((serviceId, snapshotId, seq, passportId, stateHash,
          logHead, notarizedAt.secs), outcomeFields a) := by
  unfold canonicalStatement canonicalCore
  simp only [hWrites.writeStr, hWrites.writeU32,
    hWrites.writeU64, hWrites.writeI64, hWrites.writeHash,
    hWrites.writeBytesRaw]
  cases hStatus : a.status <;>
    simp [statementCode, coreCode, outcomeCode, outcomeFields,
      pair, PrefixCode.option, hStatus]

/- Lengths and the instant are those of values in memory. -/
def ValidFields
    (f : CoreFields × OutcomeFields) : Prop :=
  (((Utf8.encode f.1.1).length ≤ isizeMax ∧
    (Utf8.encode f.1.2.1).length ≤ isizeMax ∧ True ∧
      (Utf8.encode f.1.2.2.2.1).length ≤ isizeMax ∧ True ∧
        True ∧ FitsI64 f.1.2.2.2.2.2.2)) ∧
    ∀ o, f.2 = some o →
      (Utf8.encode o.1).length ≤ isizeMax ∧ True ∧ True ∧ True

theorem decodable_statementCode
    (hSound : E.Sound) :
    Decodable (statementCode E) ValidFields := by
  have hLen :
      Decodable E.len (· ≤ isizeMax) := by
    rcases hSound.lenWidth with ⟨k, hWidth⟩
    exact decodable_of_width hWidth hSound.lenInjective
  have hStr :
      Decodable E.str
        (fun s => (Utf8.encode s).length ≤ isizeMax) :=
    decodable_of_length hLen Utf8.encode_injective
  have hU64 : Decodable E.u64 (fun _ => True) := by
    rcases hSound.u64Width with ⟨k, hWidth⟩
    exact decodable_of_width hWidth
      (fun _ _ _ _ h => hSound.u64Injective h)
  have hHash : Decodable Hash.bytes (fun _ => True) := by
    refine decodable_of_width Hash.length_eq ?_
    rintro ⟨b, hb⟩ ⟨b', hb'⟩ - - rfl
    rfl
  have hI64 : Decodable E.i64 FitsI64 := by
    rcases hSound.i64Width with ⟨k, hWidth⟩
    exact decodable_of_width hWidth hSound.i64Injective
  have hTags : E.u32 0 ≠ E.u32 1 := by
    intro h
    have hEq := hSound.u32Injective h
    revert hEq
    decide
  have hTagWidth :
      (E.u32 0).length = (E.u32 1).length := by
    rcases hSound.u32Width with ⟨k, hWidth⟩
    rw [hWidth, hWidth]
  exact decodable_pair
    (decodable_pair hStr (decodable_pair hStr
      (decodable_pair hU64 (decodable_pair hStr
        (decodable_pair hHash (decodable_pair hHash hI64))))))
    (decodable_option hTagWidth hTags
      (decodable_pair hStr (decodable_pair hU64
        (decodable_pair hU64 hHash))))

/- A code in memory is a code of values in memory. -/
theorem validFields_of_length
    {f : CoreFields × OutcomeFields}
    (hLength : (statementCode E f).length ≤ isizeMax)
    (hInstant : FitsI64 f.1.2.2.2.2.2.2) :
    ValidFields f := by
  rcases f with ⟨⟨service, id, seq, passport, state, head,
    instant⟩, o⟩
  simp only [statementCode, coreCode, pair, Encoders.str,
    List.length_append] at hLength
  refine ⟨⟨by simp only; omega, by simp only; omega, trivial,
    by simp only; omega, trivial, trivial, hInstant⟩, ?_⟩
  rintro ⟨logId, receiptSeq, treeSize, root⟩ rfl
  simp only [outcomeCode, PrefixCode.option, pair,
    Encoders.str, List.length_append] at hLength
  exact ⟨by simp only; omega, trivial, trivial, trivial⟩

end UnidppArchive

------------------------------------------------------------
-- What a Rebuilt Statement Was Read From
------------------------------------------------------------

namespace UnidppArchive

open Json

/- The document carries these core fields. -/
structure CoreRead
    (C : Crates)
    (doc : Value)
    (snapshotId : String)
    (seq : UInt64)
    (passportId : String)
    (stateHash logHead : Hash)
    (asOf : Timestamp) : Prop where
  snapshotId :
    docField doc ["snapshot_id"] = .ok (.string snapshotId)
  seq : docField doc ["seq"] = .ok (u64 seq)
  passportId :
    informationPackage doc "passport_id" = .ok passportId
  stateHash :
    ∃ t, informationPackage doc "state_hash" = .ok t ∧
      C.model.fromHex t = some stateHash
  logHead :
    ∃ t, informationPackage doc "log_head" = .ok t ∧
      C.model.fromHex t = some logHead
  asOf :
    ∃ t, informationPackage doc "as_of" = .ok t ∧
      Timestamp.parse t = .ok asOf

/- The document carries the anchor fields of an outcome. -/
structure OutcomeRead
    (C : Crates)
    (anchoring : Value)
    (a : Anchoring) : Prop where
  logId : (anchoring.get? "log_id").bind Value.asStr? = a.logId
  receiptSeq :
    ((anchoring.get? "receipt_id").bind Value.asStr?).bind
      Text.parseU64 = a.receiptSeq
  treeSize :
    (anchoring.get? "tree_size").bind Value.asU64? = a.treeSize
  root :
    ((anchoring.get? "root").bind Value.asStr?).bind
      C.model.fromHex = a.root
  complete :
    a.logId.isSome ∧ a.receiptSeq.isSome ∧
      a.treeSize.isSome ∧ a.root.isSome

variable {C : Crates}
variable {doc : Value}

theorem asStr?_eq_some_iff
    {v : Value}
    {s : String} :
    v.asStr? = some s ↔ v = .string s := by
  cases v <;> simp [Value.asStr?]

theorem asU64?_eq_some_iff
    {v : Value}
    {n : UInt64} :
    v.asU64? = some n ↔ v = u64 n := by
  unfold Value.asU64? u64
  split
  · simp
  · rename_i hOther
    constructor
    · intro h
      cases h
    · rintro rfl
      exact (hOther n rfl).elim

theorem mapError_eq_ok_iff
    {α ε ε' : Type}
    {x : Except ε α}
    {f : ε → ε'}
    {a : α} :
    x.mapError f = .ok a ↔ x = .ok a := by
  cases x <;> simp [Except.mapError]

/- Rebuilt core bytes are those of fields in the document. -/
theorem coreRead_of_coreBytes
    {core : Bytes}
    (h : coreBytesFromDocument C doc = .ok core) :
    ∃ snapshotId seq passportId stateHash logHead asOf,
      CoreRead C doc snapshotId seq passportId stateHash
          logHead asOf ∧
        core = canonicalCore C snapshotId seq passportId
          stateHash logHead asOf := by
  unfold coreBytesFromDocument at h
  rcases bind_eq_ok_iff.mp h with ⟨service, -, h⟩
  split at h
  · cases h
  simp only [bind_eq_ok_iff, okOr_eq_ok_iff,
    mapError_eq_ok_iff, asStr?_eq_some_iff,
    asU64?_eq_some_iff, Except.ok.injEq] at h
  rcases h with ⟨_, hId, snapshotId, rfl, _, hSeq, seq, rfl,
    stateText, hState, stateHash, hStateHash, headText, hHead,
    logHead, hLogHead, asOfText, hAsOf, asOf, hInstant,
    passportId, hPassport, rfl⟩
  exact ⟨snapshotId, seq, passportId, stateHash, logHead, asOf,
    ⟨hId, hSeq, hPassport, ⟨stateText, hState, hStateHash⟩,
      ⟨headText, hHead, hLogHead⟩,
      ⟨asOfText, hAsOf, hInstant⟩⟩, rfl⟩

theorem outcomeRead_of_anchoring
    {anchoring : Value}
    {a : Anchoring}
    (h : anchoringFromDocument C anchoring = .ok a) :
    a.status = .anchored ∧ OutcomeRead C anchoring a := by
  simp only [anchoringFromDocument, bind_eq_ok_iff,
    okOr_eq_ok_iff, Except.ok.injEq] at h
  rcases h with ⟨logId, hLogId, receiptSeq, hSeq, treeSize,
    hSize, root, hRoot, rfl⟩
  exact ⟨rfl, hLogId, hSeq, hSize, hRoot, rfl, rfl, rfl, rfl⟩

/- A rebuilt statement and the fields it was rebuilt from. -/
theorem statementRead_of_statementBytes
    {b : Bytes}
    (h : statementBytesFromDocument C doc = .ok b) :
    ∃ snapshotId seq passportId stateHash logHead asOf
        anchoring a,
      CoreRead C doc snapshotId seq passportId stateHash
          logHead asOf ∧
        docField doc ["oais", "provenance", "anchoring"] =
          .ok anchoring ∧
        (anchoring.get? "status").bind Value.asStr? =
          some a.status.asStr ∧
        (a.status = .anchored → OutcomeRead C anchoring a) ∧
        b = canonicalStatement C
          (canonicalCore C snapshotId seq passportId stateHash
            logHead asOf) a := by
  simp only [statementBytesFromDocument, bind_eq_ok_iff,
    okOr_eq_ok_iff] at h
  rcases h with ⟨core, hCore, anchoring, hAnchoring, status,
    hStatus, h⟩
  rcases coreRead_of_coreBytes hCore with
    ⟨snapshotId, seq, passportId, stateHash, logHead, asOf,
      hRead, rfl⟩
  split at h
  · cases h
    refine ⟨snapshotId, seq, passportId, stateHash, logHead,
      asOf, anchoring, Anchoring.unanchoredDefault, hRead,
      hAnchoring, hStatus, ?_, rfl⟩
    intro hAnchored
    cases hAnchored
  · rcases bind_eq_ok_iff.mp h with ⟨a, hClaimed, h⟩
    cases h
    rcases outcomeRead_of_anchoring hClaimed with
      ⟨hAnchored, hOutcome⟩
    refine ⟨snapshotId, seq, passportId, stateHash, logHead,
      asOf, anchoring, a, hRead, hAnchoring, ?_,
      fun _ => hOutcome, rfl⟩
    rw [hStatus, hAnchored]
    rfl
  · cases h

/- Outcomes of the same fields have the same status. -/
theorem status_eq_of_outcomeFields
    {a b : Anchoring}
    (h : outcomeFields a = outcomeFields b) :
    a.status = b.status := by
  cases ha : a.status <;> cases hb : b.status <;>
    simp [outcomeFields, ha, hb] at h ⊢

/- Complete outcomes of the same fields agree on them. -/
theorem OutcomeRead.congr
    {anchoring : Value}
    {a b : Anchoring}
    (hRead : OutcomeRead C anchoring a)
    (hComplete : b.complete = true)
    (hAnchored : b.status = .anchored)
    (h : outcomeFields a = outcomeFields b) :
    OutcomeRead C anchoring b := by
  have hStatus := status_eq_of_outcomeFields h
  rw [hAnchored] at hStatus
  rcases hRead with ⟨hLogId, hSeq, hSize, hRoot, hSome⟩
  simp only [Option.isSome_iff_exists] at hSome
  rcases hSome with ⟨⟨l, hl⟩, ⟨n, hn⟩, ⟨m, hm⟩, ⟨x, hx⟩⟩
  simp only [Anchoring.complete, Bool.and_eq_true,
    Option.isSome_iff_exists] at hComplete
  rcases hComplete with
    ⟨⟨⟨⟨⟨⟨⟨l', hl'⟩, n', hn'⟩, m', hm'⟩, x', hx'⟩, -⟩, -⟩, -⟩
  simp only [outcomeFields, hStatus, hAnchored, hl, hn, hm, hx,
    hl', hn', hm', hx', Option.getD_some, Option.some.injEq,
    Prod.mk.injEq] at h
  rcases h with ⟨rfl, rfl, rfl, rfl⟩
  exact ⟨by rw [hLogId, hl, hl'], by rw [hSeq, hn, hn'],
    by rw [hSize, hm, hm'], by rw [hRoot, hx, hx'],
    by rw [hl', hn', hm', hx']; exact ⟨rfl, rfl, rfl, rfl⟩⟩

end UnidppArchive
