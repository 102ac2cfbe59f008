import UnidppArchive.Reference.Crates

/-
  Sealing as a fixpoint (`model.rs`).

  Sealing sets four values: the signature, the key id, the
  commitment and the digest of the body.  None of them is
  read before it is set, so a sealed record is consistent
  with itself whatever it was sealed from.

  Key definitions include:
    * `SnapshotRecord.withSeal`
    * `SnapshotRecord.SelfConsistent`

  Key theorems include:
    * `SnapshotRecord.sealWith_withSeal`
    * `SnapshotRecord.seal_is_fixpoint`
-/

------------------------------------------------------------
-- The Values That Sealing Sets
------------------------------------------------------------

namespace UnidppArchive

namespace SnapshotRecord

/- The record with other values where sealing sets them. -/
def withSeal
    (r : SnapshotRecord)
    (signature : Bytes)
    (keyId : String)
    (commitment : Option Hash)
    (bodyDigest : Hash) : SnapshotRecord :=
  { r with
    signature := signature
    keyId := keyId
    anchoring := { r.anchoring with commitment := commitment }
    bodyDigest := bodyDigest }

variable {C : Crates}

/- The statement covers none of them. -/
@[simp] theorem statementBytes_withSeal
    (r : SnapshotRecord)
    (signature : Bytes)
    (keyId : String)
    (commitment : Option Hash)
    (bodyDigest : Hash) :
    (r.withSeal signature keyId commitment
        bodyDigest).statementBytes C =
      r.statementBytes C := by
  rfl

/- What a record carried before does not reach its seal. -/
theorem sealWith_withSeal
    (r : SnapshotRecord)
    (notary : C.signatif.KeyPair)
    (signature : Bytes)
    (keyId : String)
    (commitment : Option Hash)
    (bodyDigest : Hash) :
    (r.withSeal signature keyId commitment
        bodyDigest).sealWith C notary =
      r.sealWith C notary := by
  unfold sealWith
  rw [statementBytes_withSeal]
  rfl

/- A sealed record is its origin but for the four values. -/
theorem SealedFrom.eq_withSeal
    {r₀ r : SnapshotRecord}
    {notary : C.signatif.KeyPair}
    (h : SealedFrom r₀ r notary) :
    r =
      r₀.withSeal r.signature r.keyId
        (some (r₀.commitment C)) r.bodyDigest := by
  have hKey : r.keyId = C.signatif.keyId notary := by
    rw [h.fields]
  rw [hKey]
  exact h.fields

end SnapshotRecord

end UnidppArchive

------------------------------------------------------------
-- Self-Consistent Records
------------------------------------------------------------

namespace UnidppArchive

namespace SnapshotRecord

variable {C : Crates}

/-
  What a record says of itself holds of the record as it
  stands: of its statement, its core and its body.
-/
structure SelfConsistent
    (C : Crates)
    (notary : C.signatif.KeyPair)
    (r : SnapshotRecord) : Prop where
  verifies :
    C.signatif.verify
      ⟨C.signatif.suite notary, r.keyId, some r.signature⟩
      notarizationDomain (r.statementBytes C)
      (C.signatif.publicKey notary) = true
  commitment :
    r.anchoring.commitment =
      some (C.model.sha256 (r.coreStatementBytes C))
  bodyDigest :
    r.bodyDigest =
      C.model.sha256 (Utf8.encode (r.renderBody C))

/- The signature was made over the statement it stands by. -/
theorem SealedFrom.verifies
    {r₀ r : SnapshotRecord}
    {notary : C.signatif.KeyPair}
    (hSign : C.signatif.SignLaw)
    (h : SealedFrom r₀ r notary) :
    C.signatif.verify
      ⟨C.signatif.suite notary, r.keyId, some r.signature⟩
      notarizationDomain (r.statementBytes C)
      (C.signatif.publicKey notary) = true := by
  rcases h.signature with ⟨slot, hSlot, hSignature⟩
  rcases hSign.signed hSlot with ⟨sig, rfl⟩
  have hKey : r.keyId = C.signatif.keyId notary := by
    rw [h.fields]
  rw [hKey, hSignature, h.statementBytes]
  exact hSign.verified hSlot

theorem SealedFrom.selfConsistent
    {r₀ r : SnapshotRecord}
    {notary : C.signatif.KeyPair}
    (hSign : C.signatif.SignLaw)
    (h : SealedFrom r₀ r notary) :
    SelfConsistent C notary r where
  verifies := h.verifies hSign
  commitment := by
    have hCommitment :
        C.model.sha256 (r.coreStatementBytes C) =
          r₀.commitment C :=
      h.commitment
    rw [h.anchoring, hCommitment]
    rfl
  bodyDigest := h.bodyDigest

/-
  From any record, sealing leads to one that is consistent
  with itself.  What it carried before makes no difference,
  and sealing once more changes nothing.
-/
theorem seal_is_fixpoint
    {r₀ r : SnapshotRecord}
    {notary : C.signatif.KeyPair}
    (hSign : C.signatif.SignLaw)
    (h : r₀.sealWith C notary = .ok r) :
    SelfConsistent C notary r ∧
      (∀ signature keyId commitment bodyDigest,
        (r₀.withSeal signature keyId commitment
            bodyDigest).sealWith C notary = .ok r) ∧
      r.sealWith C notary = .ok r := by
  have hSealed := sealedFrom_of_sealWith h
  refine ⟨hSealed.selfConsistent hSign, ?_, ?_⟩
  · intro signature keyId commitment bodyDigest
    rw [sealWith_withSeal]
    exact h
  · calc
      r.sealWith C notary =
          (r₀.withSeal r.signature r.keyId
            (some (r₀.commitment C))
            r.bodyDigest).sealWith C notary := by
        rw [← hSealed.eq_withSeal]
      _ = r₀.sealWith C notary := by
        apply sealWith_withSeal
      _ = .ok r := h

/- A record with a stale seal and an anchored outcome. -/
def staleRecord : SnapshotRecord :=
  ((SnapshotRecord.new 3 ⟨1900000000⟩ "urn:unidpp:passport:e8"
        Hash.zero Hash.zero none (some 9)).setAnchoring
      (.anchored ⟨"unit-log", 7, 8, Hash.zero, ⟨1900000000⟩⟩
        .null Hash.zero)).withSeal
    [1, 2, 3] "k-old" none Hash.zero

open Reference in
/- It is sealed as if it had been fresh. -/
theorem seal_is_fixpoint_stale :
    ∃ r,
      staleRecord.sealWith crates notary = .ok r ∧
        r.anchoring.status = .anchored ∧
        SelfConsistent crates notary r ∧
        (staleRecord.withSeal [] "" none Hash.zero).sealWith
          crates notary = .ok r ∧
        r.sealWith crates notary = .ok r := by
  have hSeal :
      ∃ r, staleRecord.sealWith crates notary = .ok r :=
    ⟨_, rfl⟩
  rcases hSeal with ⟨r, hSeal⟩
  rcases seal_is_fixpoint signLaw hSeal with
    ⟨hConsistent, hFresh, hAgain⟩
  have hAnchoring :=
    (sealedFrom_of_sealWith hSeal).anchoring
  refine ⟨r, hSeal, ?_, hConsistent, hFresh _ _ _ _, hAgain⟩
  rw [hAnchoring]
  rfl

end SnapshotRecord

end UnidppArchive
