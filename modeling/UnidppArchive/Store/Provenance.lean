import UnidppArchive.Store.Healing
import UnidppArchive.Store.Invariant

/-
  Where the records of an opened store come from.

  A replay compares the number of a record with its place
  and the digest with its body.  The identifier, the stored
  commitment and the signature are taken from the line as
  they are; they are those of the create flow when every
  line of the journal is one that the create flow wrote.

  Key definitions include:
    * `Genuine`
    * `EntryOf`
    * `Provenance`

  Key theorems include:
    * `genuine_ingestRecord`
    * `provenance_of_genuine`
    * `provenance_iff`
-/

------------------------------------------------------------
-- Genuine Records
------------------------------------------------------------

namespace UnidppArchive

/-
  The record has the identifier of its number, the digest of
  its core as commitment, and a signature that verifies over
  its statement under the key of the notary.
-/
structure Genuine
    (C : Crates)
    (notary : C.signatif.KeyPair)
    (r : SnapshotRecord) : Prop where
  snapshotId : r.snapshotId = snapshotIdOf r.seq
  commitment :
    r.anchoring.commitment =
      some (C.model.sha256 (r.coreStatementBytes C))
  signature :
    C.signatif.verify
      ⟨C.signatif.suite notary, r.keyId, some r.signature⟩
      notarizationDomain (r.statementBytes C)
      (C.signatif.publicKey notary) = true

/- The path is that of a file in the directory itself. -/
def EntryOf
    (dir path : String) : Prop :=
  ∃ name,
    '/' ∉ name.toList ∧ name ≠ "" ∧ name ≠ "." ∧
      name ≠ ".." ∧ path = joinPath dir name

/-
  Every record is genuine.  Hence the identifiers differ,
  each finds its record, and every archival copy is in the
  snapshot directory.
-/
structure Provenance
    (C : Crates)
    (notary : C.signatif.KeyPair)
    (store : SnapshotStore) : Prop where
  genuine : ∀ r ∈ store.records, Genuine C notary r
  distinct : (store.records.map (·.snapshotId)).Nodup
  found :
    ∀ r ∈ store.records, store.get r.snapshotId = some r
  inside :
    ∀ dir, store.snapshotDir = some dir →
      ∀ r ∈ store.records,
        EntryOf dir (snapshotPath dir r.snapshotId)

variable {C : Crates}
variable {notary : C.signatif.KeyPair}
variable {seq : UInt64}
variable {notarizedAt : Timestamp}
variable {req : CreateRequest}
variable {answer : Except String Json.Value}
variable {r : SnapshotRecord}

/- The create flow seals genuine records. -/
theorem genuine_ingestRecord
    (hSign : C.signatif.SignLaw)
    (h : ingestRecord C notary seq notarizedAt req answer =
      .ok r) :
    Genuine C notary r := by
  have hSealed := sealedFrom_ingestRecord h
  have hFields := fields_ingestRecord h
  constructor
  · rw [hFields.2.1, hFields.1]
  · exact (commitment_ingestRecord h).2
  · rcases hSealed.signature with ⟨slot, hSlot, hSignature⟩
    rw [← hSealed.statementBytes] at hSlot
    rcases hSign.signed hSlot with ⟨sig, rfl⟩
    have hKey : r.keyId = C.signatif.keyId notary := by
      rw [hSealed.fields]
    rw [hKey, hSignature]
    exact hSign.verified hSlot

/- An issued identifier names a file of the directory. -/
theorem entryOf_snapshotIdOf
    (dir : String)
    (seq : UInt64) :
    EntryOf dir (snapshotPath dir (snapshotIdOf seq)) := by
  have hHead :
      (snapshotIdOf seq ++ ".json").toList.head? =
        some 's' := by
    simp [snapshotIdOf]
  refine ⟨snapshotIdOf seq ++ ".json", ?_, ?_, ?_, ?_, rfl⟩
  · intro hMem
    simp only [snapshotIdOf, String.toList_append,
      List.mem_append] at hMem
    rcases hMem with (hFront | hDigit) | hBack
    · exact absurd hFront (by decide)
    · exact absurd (Text.isDigit_of_mem_padZero hDigit)
        (by decide)
    · exact absurd hBack (by decide)
  all_goals
    intro hName
    rw [hName] at hHead
    exact absurd hHead (by decide)

/- An absolute path is not in a relative directory. -/
theorem not_entryOf_absolute
    {dir path : String}
    (hDir : ∃ c, dir.toList.head? = some c ∧ c ≠ '/')
    (hPath : path.toList.head? = some '/') :
    ¬ EntryOf dir path := by
  rcases hDir with ⟨c, hHead, hRelative⟩
  rintro ⟨name, hSlash, -, -, -, rfl⟩
  have hName : name.toList.head? ≠ some '/' := by
    intro hFirst
    exact hSlash (List.mem_of_mem_head? hFirst)
  unfold joinPath at hPath
  rw [if_neg hName] at hPath
  have hFirst : some c = some '/' := by
    split at hPath <;>
      simpa [List.head?_append, hHead] using hPath
  exact hRelative (Option.some.inj hFirst)

end UnidppArchive

------------------------------------------------------------
-- Opened Journals
------------------------------------------------------------

namespace UnidppArchive

variable {C : Crates}
variable {notary : C.signatif.KeyPair}
variable {b : Bytes}
variable {io : OpenIo}
variable {paths : StorePaths}
variable {disk disk' : Disk}
variable {store : SnapshotStore}

/- The records of an opened journal are those it decodes to. -/
theorem mem_records_iff_of_openAt
    (hJournal : paths.journal = true)
    (hDisk : disk.journal = some b)
    (hOpen : SnapshotStore.openAt C io paths disk =
      (.ok store, disk'))
    {r : SnapshotRecord} :
    r ∈ store.records ↔
      ∃ l ∈ Lines.lines b, lineVerdict C l = .record r := by
  have hReads := (SnapshotStore.openAt_reads hOpen).1
  simp only [JournalReads, hJournal, if_true, hDisk,
    Option.getD_some] at hReads
  rw [hReads.eq_readRecords]
  exact mem_readRecords_iff

/- Genuine records of an opened store are in sequence. -/
theorem inSequence_of_openAt
    (hCapacity : store.records.length ≤ maxRecords)
    (hOpen : SnapshotStore.openAt C io paths disk =
      (.ok store, disk'))
    (hGenuine : ∀ r ∈ store.records, Genuine C notary r) :
    InSequence 0 store.records := by
  constructor
  · intro _
    omega
  · intro i r hi
    rcases exists_line_of_openAt hOpen hi with
      ⟨l, -, -, hFits⟩
    rw [Nat.zero_add]
    exact ⟨hFits.1,
      (hGenuine r (List.mem_of_getElem? hi)).snapshotId⟩

/- Genuine records are found, in files of the directory. -/
theorem provenance_of_genuine
    (hCapacity : store.records.length ≤ maxRecords)
    (hOpen : SnapshotStore.openAt C io paths disk =
      (.ok store, disk'))
    (hGenuine : ∀ r ∈ store.records, Genuine C notary r) :
    Provenance C notary store := by
  have hSequence :=
    inSequence_of_openAt hCapacity hOpen hGenuine
  refine ⟨hGenuine, hSequence.nodup_snapshotId, ?_, ?_⟩
  · intro r hr
    exact get_of_mem hSequence hr
  · intro dir _ r hr
    rw [(hGenuine r hr).snapshotId]
    exact entryOf_snapshotIdOf dir r.seq

/-
  An opened store holds genuine records exactly when every
  line of the journal that decodes is a genuine record's;
  the open itself looks at none of it.
-/
theorem provenance_iff
    (hCapacity : (Lines.lines b).length ≤ maxRecords)
    (hJournal : paths.journal = true)
    (hDisk : disk.journal = some b)
    (hOpen : SnapshotStore.openAt C io paths disk =
      (.ok store, disk')) :
    Provenance C notary store ↔
      ∀ l ∈ Lines.lines b, ∀ r,
        lineVerdict C l = .record r →
          Genuine C notary r := by
  have hMem {r : SnapshotRecord} :=
    mem_records_iff_of_openAt (r := r) hJournal hDisk hOpen
  constructor
  · intro h l hl r hLine
    exact h.genuine r (hMem.mpr ⟨l, hl, hLine⟩)
  · intro hLines
    have hReads := (SnapshotStore.openAt_reads hOpen).1
    simp only [JournalReads, hJournal, if_true, hDisk,
      Option.getD_some] at hReads
    have hLength := hReads.length_le
    rw [List.length_nil, Nat.zero_add] at hLength
    apply provenance_of_genuine (by omega) hOpen
    intro r hr
    rcases hMem.mp hr with ⟨l, hl, hLine⟩
    exact hLines l hl r hLine

end UnidppArchive

------------------------------------------------------------
-- Journals of One Record
------------------------------------------------------------

namespace UnidppArchive

variable {C : Crates}
variable {r : SnapshotRecord}

/-
  A journal of one record with the first number and the right
  digest is opened, and the copy of the record is written to
  the path that its identifier names.
-/
theorem openAt_journalText_singleton
    (hSerde : C.serde.Lawful)
    (hAdmits : Admits C [] r)
    (hDecodable : Decodable C r)
    (dir : String) :
    ∃ disk',
      SnapshotStore.openAt C .sound ⟨true, some dir⟩
          ⟨some (journalText C [r]), fun _ => none⟩ =
        (.ok ⟨[r], true, some dir⟩, disk') ∧
        disk'.files (snapshotPath dir r.snapshotId) =
          some (r.bodyBytes C) := by
  have hAccepted :
      Replay.Accepted Replay.Verdict.record (Admits C) []
        [r] [r] :=
    .record rfl hAdmits (.nil _)
  have hReplayed :=
    (replayed_journalText_iff hSerde hAccepted).mpr
      (by simpa using hDecodable)
  have hCompatible : Compatible C dir [r] := by
    simp [Compatible]
  rcases (openAt_journalText_iff (fun _ => none) hReplayed
      hCompatible).mpr (by simp [Intact]) with
    ⟨store, disk', hOpen⟩
  have hRecords := records_of_openAt_journalText hReplayed hOpen
  have hStore := (SnapshotStore.openAt_reads hOpen).2
  rw [hRecords] at hStore
  rw [hStore] at hOpen
  refine ⟨disk', hOpen, ?_⟩
  rcases SnapshotStore.openAt_sound_eq_ok_iff.mp hOpen with
    ⟨-, -, -, hDisk⟩
  rw [hDisk]
  exact filesAgree_writeBodies hCompatible r (by simp)

/- The record under another identifier, with a new digest. -/
def SnapshotRecord.forge
    (C : Crates)
    (r : SnapshotRecord)
    (snapshotId : String) : SnapshotRecord :=
  { r with
    snapshotId := snapshotId
    bodyDigest :=
      C.model.sha256
        (SnapshotRecord.bodyBytes C
          { r with snapshotId := snapshotId }) }

/- Whoever can hash a body can have a record admitted. -/
theorem admits_forge
    (hSeq : r.seq = 0)
    (snapshotId : String) :
    Admits C [] (r.forge C snapshotId) :=
  ⟨hSeq, rfl⟩

theorem decodable_forge
    (hHex : C.model.HexLaw)
    (hInverts : ∀ v, C.serde.Inverts v)
    (hInstant : r.notarizedAt.Printable)
    (hReplay : r.anchoring.Replayable)
    (snapshotId : String) :
    Decodable C (r.forge C snapshotId) :=
  decodable_of_replayable (r := r.forge C snapshotId) hHex
    hInstant hReplay (hInverts _)

end UnidppArchive

------------------------------------------------------------
-- A Genuine and a Forged Journal
------------------------------------------------------------

namespace UnidppArchive

open Reference

/- The journal of one sample record. -/
theorem provenance_iff_sample :
    ∃ r store disk',
      ingestRecord crates notary 0 now request unreachable =
          .ok r ∧
        SnapshotStore.openAt crates .sound journalAndFiles
            ⟨some (journalText crates [r]), fun _ => none⟩ =
          (.ok store, disk') ∧
          store.records = [r] ∧
            Provenance crates notary store := by
  rcases exists_record 0 request unreachable with
    ⟨r, hRecord⟩
  have hDecodable := decodable_sample hRecord
  have hLines :
      Lines.lines (journalText crates [r]) =
        [journalLine crates r] :=
    lines_journalText lawful_serde [r]
  rcases openAt_journalText_singleton lawful_serde
      (admits_ingestRecord hRecord rfl) hDecodable
      "snapshots" with
    ⟨disk', hOpen, -⟩
  refine ⟨r, _, disk', hRecord, hOpen, rfl, ?_⟩
  apply (provenance_iff (by rw [hLines]; simp [maxRecords])
    rfl rfl hOpen).mpr
  intro l hl q hLine
  rw [hLines, List.mem_singleton] at hl
  rw [hl, hDecodable.lineVerdict] at hLine
  cases hLine
  exact genuine_ingestRecord signLaw hRecord

/-
  A line that no notary signed, with the digest of its body
  and an absolute path as identifier, is opened, and the
  archive writes a file outside of its directory.
-/
theorem forged_record_is_admitted :
    ∃ b r disk',
      SnapshotStore.openAt crates .sound journalAndFiles
          ⟨some b, fun _ => none⟩ =
        (.ok ⟨[r], true, some "snapshots"⟩, disk') ∧
        r.snapshotId = "/etc/unidpp" ∧
          r.anchoring.commitment = none ∧
            (∀ suite,
              crates.signatif.verify
                ⟨suite, r.keyId, some r.signature⟩
                notarizationDomain (r.statementBytes crates)
                (crates.signatif.publicKey notary) =
                  false) ∧
              ¬ EntryOf "snapshots"
                (snapshotPath "snapshots" r.snapshotId) ∧
                disk'.files "/etc/unidpp.json" =
                  some (r.bodyBytes crates) := by
  obtain ⟨r, hForged⟩ :
      ∃ r, r =
        (draftRecord 0 now request).forge crates
          "/etc/unidpp" :=
    ⟨_, rfl⟩
  have hAdmits : Admits crates [] r := by
    rw [hForged]
    exact admits_forge rfl "/etc/unidpp"
  have hDecodable : Decodable crates r := by
    rw [hForged]
    exact decodable_forge hexLaw inverts_serde
      ⟨by decide, by decide⟩
      (Anchoring.replayable_unanchored "not attempted yet")
      "/etc/unidpp"
  have hId : r.snapshotId = "/etc/unidpp" := by
    rw [hForged]
    rfl
  have hCommitment : r.anchoring.commitment = none := by
    rw [hForged]
    rfl
  have hSignature : r.signature = [] := by
    rw [hForged]
    rfl
  have hPath :
      snapshotPath "snapshots" "/etc/unidpp" =
        "/etc/unidpp.json" := by
    decide
  rcases openAt_journalText_singleton lawful_serde hAdmits
      hDecodable "snapshots" with
    ⟨disk', hOpen, hFile⟩
  rw [hId, hPath] at hFile
  refine ⟨_, r, disk', hOpen, hId, hCommitment, ?_, ?_, hFile⟩
  · intro suite
    rw [hSignature]
    apply beq_eq_false_iff_ne.mpr
    intro hSame
    exact tag_ne_nil _ _ (Option.some.inj hSame).symm
  · rw [hId, hPath]
    exact not_entryOf_absolute ⟨'s', by decide, by decide⟩
      (by decide)

end UnidppArchive
