import UnidppArchive.Model.Fixity
import UnidppArchive.Store.Specification

/-
  Edited journal lines.

  A line that decodes to another record, but keeps the digest
  of the record that it was, stops every open: the body pins
  the record, and the digest pins the body.

  Key theorems include:
    * `digest_of_openAt`
    * `body_digest_pins_record`
-/

------------------------------------------------------------
-- Digests of an Opened Journal
------------------------------------------------------------

namespace UnidppArchive

variable {C : Crates}
variable {io : OpenIo}
variable {paths : StorePaths}
variable {disk disk' : Disk}
variable {store : SnapshotStore}

/- A line that decodes has the digest of its body. -/
theorem digest_of_openAt
    (hJournal : paths.journal = true)
    {b l : Bytes}
    (hDisk : disk.journal = some b)
    (hOpen :
      SnapshotStore.openAt C io paths disk =
        (.ok store, disk'))
    (hMem : l ∈ Lines.lines b)
    {r : SnapshotRecord}
    (hLine : lineVerdict C l = .record r) :
    C.model.sha256 (r.bodyBytes C) = r.bodyDigest := by
  have hReads := (SnapshotStore.openAt_reads hOpen).1
  simp only [JournalReads, hJournal, if_true, hDisk,
    Option.getD_some, Replayed] at hReads
  rcases List.getElem?_of_mem hMem with ⟨i, hi⟩
  rcases ((Replay.replays_iff_placed
      admits_iff_fitsPlace).mp hReads).1 i l hi with
    ⟨q, hRecord, hFits⟩ | ⟨-, hTorn⟩
  · rw [hLine] at hRecord
    cases hRecord
    exact hFits.2
  · rw [hLine] at hTorn
    cases hTorn

/- The decoder yields receipts that a document shows. -/
theorem receipted_of_lineVerdict
    {l : Bytes}
    {r : SnapshotRecord}
    (h : lineVerdict C l = .record r) :
    r.Receipted := by
  rcases fromJournalJson_of_lineVerdict h with ⟨v, hRead⟩
  exact SnapshotRecord.receipted_of_fromJournalJson hRead

/-
  Records with one body agree on every field but its digest.
  Hence no open succeeds on a journal in which a line now
  decodes to a different record with the digest of the old
  one, unless the two bodies collide.
-/
theorem body_digest_pins_record
    (hPretty : Function.Injective C.serde.toStringPretty)
    (hHex : Function.Injective C.model.hex) :
    (∀ q r : SnapshotRecord, q.Receipted → r.Receipted →
      q.renderBody C = r.renderBody C →
        q = { r with bodyDigest := q.bodyDigest }) ∧
      ∀ (b b' l l' : Bytes) (i : Nat)
        (r r' : SnapshotRecord),
        (Lines.lines b)[i]? = some l →
          lineVerdict C l = .record r →
          C.model.sha256 (r.bodyBytes C) = r.bodyDigest →
          Lines.lines b' = (Lines.lines b).set i l' →
          lineVerdict C l' = .record r' →
          r' ≠ r →
          r'.bodyDigest = r.bodyDigest →
          (C.model.sha256 (r'.bodyBytes C) =
              C.model.sha256 (r.bodyBytes C) →
            r'.bodyBytes C = r.bodyBytes C) →
          ∀ io paths disk store disk',
            paths.journal = true →
              disk.journal = some b' →
                SnapshotStore.openAt C io paths disk ≠
                  (.ok store, disk') := by
  constructor
  · intro q r hq hr h
    exact SnapshotRecord.eq_of_renderBody hPretty hHex hq hr h
  · intro b b' l l' i r r' hLine hRecord hDigest hEdited
      hRecord' hOther hKept hFree io paths disk store disk'
      hJournal hDisk hOpen
    have hLt := (List.getElem?_eq_some_iff.mp hLine).1
    have hMem : l' ∈ Lines.lines b' := by
      rw [hEdited]
      exact List.mem_set hLt l'
    have hDigest' :=
      digest_of_openAt hJournal hDisk hOpen hMem hRecord'
    have hBody :=
      hFree (hDigest'.trans (hKept.trans hDigest.symm))
    have hSame :=
      SnapshotRecord.eq_of_renderBody hPretty hHex
        (receipted_of_lineVerdict hRecord')
        (receipted_of_lineVerdict hRecord)
        (Utf8.encode_injective hBody)
    apply hOther
    rw [hSame, hKept]

end UnidppArchive

------------------------------------------------------------
-- An Edited Sample
------------------------------------------------------------

namespace UnidppArchive

open Reference

theorem hex_injective :
    Function.Injective crates.model.hex := by
  intro h h' hText
  have hRead := hexLaw h
  have hRead' := hexLaw h'
  rw [show model.hex h = model.hex h' from hText, hRead']
    at hRead
  exact (Option.some.inj hRead).symm

/- Records of different passports have different bodies. -/
theorem bodyBytes_ne_of_passportId
    {q r : SnapshotRecord}
    (hq : Decodable crates q)
    (hr : Decodable crates r)
    (hPassport : q.passportId ≠ r.passportId) :
    q.bodyBytes crates ≠ r.bodyBytes crates := by
  intro hBody
  have hSame :=
    SnapshotRecord.eq_of_renderBody toStringPretty_injective
      hex_injective (receipted_of_lineVerdict hq.lineVerdict)
      (receipted_of_lineVerdict hr.lineVerdict)
      (Utf8.encode_injective hBody)
  apply hPassport
  rw [hSame]

/- A sample record with another passport is read back. -/
theorem decodable_edited
    {r r' : SnapshotRecord}
    {passportId : String}
    (hRecord :
      ingestRecord crates notary 0 now request unreachable =
        .ok r)
    (hEdited : r' = { r with passportId := passportId }) :
    Decodable crates r' := by
  have hInstant : r'.notarizedAt.Printable := by
    rw [hEdited]
    show r.notarizedAt.Printable
    rw [(fields_ingestRecord hRecord).2.2.1]
    exact ⟨by decide, by decide⟩
  have hSealed := replayable_sample hRecord
  have hReplay : r'.anchoring.Replayable := by
    rw [hEdited]
    exact hSealed
  exact decodable_of_replayable hexLaw hInstant hReplay
    (inverts_serde _)

/-
  The passport of a journaled record is rewritten, as in the
  tests of the store.
-/
theorem body_digest_pins_record_passport :
    ∃ r r' : SnapshotRecord,
      ingestRecord crates notary 0 now request unreachable =
          .ok r ∧
        r' = { r with passportId := "urn:unidpp:passport:evil" } ∧
          r'.renderBody crates ≠ r.renderBody crates ∧
            (crates.model.sha256 (r'.bodyBytes crates) ≠
                crates.model.sha256 (r.bodyBytes crates) →
              ∀ disk store disk',
                disk.journal =
                    some (journalText crates [r']) →
                  SnapshotStore.openAt crates .sound
                      journalOnly disk ≠ (.ok store, disk')) := by
  rcases exists_record 0 request unreachable with
    ⟨r, hRecord⟩
  obtain ⟨r', hEdited⟩ :
      ∃ r', r' =
        { r with passportId := "urn:unidpp:passport:evil" } :=
    ⟨_, rfl⟩
  have hPassport : r.passportId = "urn:unidpp:passport:e8" :=
    (fields_ingestRecord hRecord).2.2.2.1
  have hOther : r' ≠ r := by
    intro hSame
    have hText : r'.passportId = "urn:unidpp:passport:evil" := by
      rw [hEdited]
    rw [hSame, hPassport] at hText
    exact absurd hText (by decide)
  have hLine : lineVerdict crates (journalLine crates r) =
      .record r :=
    (decodable_sample hRecord).lineVerdict
  have hLine' : lineVerdict crates (journalLine crates r') =
      .record r' :=
    (decodable_edited hRecord hEdited).lineVerdict
  refine ⟨r, r', hRecord, hEdited, ?_, ?_⟩
  · intro hBody
    have hSame :=
      (body_digest_pins_record toStringPretty_injective
        hex_injective).1 r' r (receipted_of_lineVerdict hLine')
        (receipted_of_lineVerdict hLine) hBody
    apply hOther
    rw [hSame, hEdited]
  · intro hFree disk store disk' hDisk
    have hLines : Lines.lines (journalText crates [r]) =
        [journalLine crates r] :=
      lines_journalText lawful_serde [r]
    have hLines' : Lines.lines (journalText crates [r']) =
        (Lines.lines (journalText crates [r])).set 0
          (journalLine crates r') := by
      rw [hLines]
      exact lines_journalText lawful_serde [r']
    exact (body_digest_pins_record toStringPretty_injective
      hex_injective).2 (journalText crates [r])
      (journalText crates [r']) (journalLine crates r)
      (journalLine crates r') 0 r r' (by rw [hLines]; rfl)
      hLine (sealedFrom_ingestRecord hRecord).bodyDigest.symm
      hLines' hLine' hOther (by rw [hEdited])
      (fun hSame => (hFree hSame).elim) .sound journalOnly
      disk store disk' rfl hDisk

end UnidppArchive
