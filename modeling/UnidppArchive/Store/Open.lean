import UnidppArchive.Foundations.Lines
import UnidppArchive.Store.Disk

/-
  Opening the store (`store.rs`).

  The journal is replayed with one line of read-ahead, and
  every snapshot file is then compared with the body of its
  record; a missing file is written again.

  Key definitions include:
    * `SnapshotStore`
    * `SnapshotStore.list`
    * `replay`
    * `verifySnapshotFiles`
    * `OpenIo`
    * `SnapshotStore.openAt`
-/

------------------------------------------------------------
-- The Store
------------------------------------------------------------

namespace UnidppArchive

/- The index, and which of the durable parts are in use. -/
structure SnapshotStore where
  records : List SnapshotRecord
  journal : Bool
  snapshotDir : Option String

namespace SnapshotStore

/- The number of snapshots, `records.len() as u64`. -/
def size
    (store : SnapshotStore) : UInt64 :=
  UInt64.ofNat store.records.length

/- The first record of a snapshot id. -/
def get
    (store : SnapshotStore)
    (snapshotId : String) : Option SnapshotRecord :=
  store.records.find? (·.snapshotId == snapshotId)

/-
  The records of a passport, if one is given, and up to an
  instant, if one is given.
-/
def list
    (store : SnapshotStore)
    (passportId : Option String)
    (at? : Option Timestamp) : List SnapshotRecord :=
  (store.records.filter fun r =>
      passportId.all fun p => r.passportId == p).filter fun r =>
    at?.all fun t => decide (r.notarizedAt.secs ≤ t.secs)

/- The next sequence number, and the reading of the clock. -/
def reserve
    (store : SnapshotStore)
    (now : Timestamp) : UInt64 × Timestamp :=
  (store.size, now)

end SnapshotStore

end UnidppArchive

------------------------------------------------------------
-- Replaying the Journal
------------------------------------------------------------

namespace UnidppArchive

variable (C : Crates)

/- The octets of a record's archival copy. -/
def SnapshotRecord.bodyBytes
    (r : SnapshotRecord) : Bytes :=
  Utf8.encode (r.renderBody C)

/- One line of the reader, which refuses invalid UTF-8. -/
def readLine
    (l : Bytes) : Except StoreError String :=
  match Utf8.decode l with
  | some line => .ok line
  | none =>
      .error (.journal
        "journal read error: stream did not contain valid UTF-8")

def parseLine
    (line : String) : Except String SnapshotRecord := do
  let v ← C.serde.fromStr line
  SnapshotRecord.fromJournalJson C v

/- The records after one line of the journal. -/
def replayLine
    (records : List SnapshotRecord)
    (lineNo : Nat)
    (line : String)
    (isLast : Bool) :
    Except StoreError (List SnapshotRecord) :=
  match parseLine C line with
  | .ok record =>
      if record.seq ≠ UInt64.ofNat records.length then
        .error (.journal
          s!"line {lineNo}: seq {Text.u64ToString record.seq} is out of sequence (expected {Nat.repr records.length})")
      else if C.model.sha256 (record.bodyBytes C) ≠
          record.bodyDigest then
        .error (.journal
          s!"line {lineNo}: rendered body digest does not match the journaled digest (renderer drift or a tampered record)")
      else
        .ok (records ++ [record])
  | .error e =>
      -- a torn tail from a crash in the middle of a write
      if isLast ∧ Text.trim line ≠ "" then
        .ok records
      else
        .error (.journal s!"line {lineNo}: {e}")

/- The loop: `pending` is read, the rest is not. -/
def replayFrom
    (records : List SnapshotRecord)
    (lineNo : Nat)
    (pending : String) :
    List Bytes → Except StoreError (List SnapshotRecord)
| [] => replayLine C records (lineNo + 1) pending true
| l :: rest => do
    let next ← readLine l
    let records ←
      replayLine C records (lineNo + 1) pending false
    replayFrom records (lineNo + 1) next rest

/- The records of a journal file. -/
def replay
    (b : Bytes) :
    Except StoreError (List SnapshotRecord) :=
  match Lines.lines b with
  | [] => .ok []
  | l :: rest => do
      let pending ← readLine l
      replayFrom C [] 0 pending rest

end UnidppArchive

------------------------------------------------------------
-- Opening
------------------------------------------------------------

namespace UnidppArchive

/-
  The errors that the operating system reports to an open.
  A snapshot file that cannot be read counts as missing.
-/
structure OpenIo where
  journalDir : Option String
  journalRead : Option String
  journalOpen : Option String
  snapshotDir : Option String
  unreadable : String → Bool
  snapshotWrite : String → WriteResult

/- Nothing fails. -/
def OpenIo.sound : OpenIo where
  journalDir := none
  journalRead := none
  journalOpen := none
  snapshotDir := none
  unreadable := fun _ => false
  snapshotWrite := fun _ => .done

variable (C : Crates)

/- The records of the journal, if it exists. -/
def replayExisting
    (io : OpenIo)
    (disk : Disk) :
    Except StoreError (List SnapshotRecord) :=
  match disk.journal, io.journalRead with
  | none, _ => .ok []
  | some _, some e =>
      .error (.journal s!"cannot read journal: {e}")
  | some b, none => replay C b

/- The records of the journal, and its handle. -/
def openJournal
    (io : OpenIo)
    (disk : Disk) :
    Except StoreError (List SnapshotRecord) × Disk :=
  match io.journalDir with
  | some e =>
      (.error (.journal s!"cannot create journal dir: {e}"),
        disk)
  | none =>
      match replayExisting C io disk, io.journalOpen with
      | .error e, _ => (.error e, disk)
      | .ok _, some e =>
          (.error (.journal s!"cannot open journal: {e}"), disk)
      | .ok records, none =>
          (.ok records,
            { disk with
              journal := some (disk.journal.getD []) })

/- Verify every snapshot file, or write it again. -/
def verifySnapshotFiles
    (io : OpenIo)
    (dir : String) :
    List SnapshotRecord → Disk →
      Except StoreError Unit × Disk
| [], disk => (.ok (), disk)
| record :: records, disk =>
    let path := snapshotPath dir record.snapshotId
    let body := record.bodyBytes C
    let found :=
      if io.unreadable path then none else disk.files path
    match found with
    | some bytes =>
        if bytes ≠ body then
          (.error (.journal
            s!"snapshot file {path} does not match the journaled record (tampered or stale)"), disk)
        else
          verifySnapshotFiles io dir records disk
    | none =>
        let w := io.snapshotWrite path
        let disk := disk.writeFile w path body
        match w.error? with
        | some e =>
            (.error (.journal
              s!"cannot re-materialize snapshot file {path}: {e}"), disk)
        | none => verifySnapshotFiles io dir records disk

/- The snapshot directory, when there is one. -/
def openSnapshots
    (io : OpenIo)
    (snapshotDir : Option String)
    (records : List SnapshotRecord)
    (disk : Disk) : Except StoreError Unit × Disk :=
  match snapshotDir, io.snapshotDir with
  | none, _ => (.ok (), disk)
  | some _, some e =>
      (.error (.journal s!"cannot create snapshot dir: {e}"),
        disk)
  | some dir, none =>
      verifySnapshotFiles C io dir records disk

/- The store of the replayed records. -/
def SnapshotStore.openRecords
    (io : OpenIo)
    (paths : StorePaths)
    (records : List SnapshotRecord)
    (disk : Disk) :
    Except StoreError SnapshotStore × Disk :=
  match openSnapshots C io paths.snapshotDir records disk with
  | (.error e, disk) => (.error e, disk)
  | (.ok (), disk) =>
      (.ok ⟨records, paths.journal, paths.snapshotDir⟩, disk)

/- `SnapshotStore::open`. -/
def SnapshotStore.openAt
    (io : OpenIo)
    (paths : StorePaths)
    (disk : Disk) :
    Except StoreError SnapshotStore × Disk :=
  if paths.journal then
    match openJournal C io disk with
    | (.error e, disk) => (.error e, disk)
    | (.ok records, disk) =>
        SnapshotStore.openRecords C io paths records disk
  else
    SnapshotStore.openRecords C io paths [] disk

end UnidppArchive
