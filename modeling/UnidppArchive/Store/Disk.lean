import UnidppArchive.Model.Record

/-
  The durable state of the archive (`store.rs`).

  A disk holds the journal and the snapshot files.  What the
  operating system makes of a write is the environment's:
  it is done, it is refused, or it is cut short and leaves
  the octets that were already written.

  Key definitions include:
    * `Disk`
    * `WriteResult`
    * `Disk.appendJournal`
    * `Disk.writeFile`
    * `snapshotPath`
-/

------------------------------------------------------------
-- Disks and Paths
------------------------------------------------------------

namespace UnidppArchive

/- Store-level failures. -/
inductive StoreError where
  | journal (message : String)
  | conflict (message : String)
  deriving DecidableEq

/-
  The journal file, and the other files by path.  Paths with
  different texts are different files, and none of them is
  the journal.
-/
structure Disk where
  journal : Option Bytes
  files : String → Option Bytes

/- Whether a journal is kept, and where snapshots are. -/
structure StorePaths where
  journal : Bool
  snapshotDir : Option String
  deriving DecidableEq

/- `Path::join`: an absolute name replaces the directory. -/
def joinPath
    (dir name : String) : String :=
  if name.toList.head? = some '/' then
    name
  else if dir = "" ∨ dir.toList.getLast? = some '/' then
    dir ++ name
  else
    dir ++ "/" ++ name

def snapshotPath
    (dir snapshotId : String) : String :=
  joinPath dir (snapshotId ++ ".json")

/- Snapshots with relative names are in different files. -/
theorem snapshotPath_injective
    {dir id id' : String}
    (hRelative : (id ++ ".json").toList.head? ≠ some '/')
    (hRelative' : (id' ++ ".json").toList.head? ≠ some '/')
    (h : snapshotPath dir id = snapshotPath dir id') :
    id = id' := by
  unfold snapshotPath joinPath at h
  rw [if_neg hRelative, if_neg hRelative'] at h
  have hText := congrArg String.toList h
  split at hText
  · exact String.toList_inj.mp (by simpa using hText)
  · exact String.toList_inj.mp (by simpa using hText)

theorem snapshotIdOf_injective
    {m n : UInt64}
    (h : snapshotIdOf m = snapshotIdOf n) :
    m = n := by
  have hPad :
      Text.padZero 12 m.toNat = Text.padZero 12 n.toNat := by
    have hText := congrArg String.toList h
    exact String.toList_inj.mp
      (by simpa [snapshotIdOf] using hText)
  exact UInt64.toNat_inj.mp (Text.padZero_injective 12 hPad)

/- The identifiers that the archive issues name files. -/
theorem snapshotPath_snapshotIdOf
    {dir : String}
    {m n : UInt64}
    (h : snapshotPath dir (snapshotIdOf m) =
      snapshotPath dir (snapshotIdOf n)) :
    m = n := by
  have hRelative :
      ∀ k : UInt64,
        (snapshotIdOf k ++ ".json").toList.head? ≠
          some '/' := by
    intro k
    simp [snapshotIdOf]
  exact snapshotIdOf_injective
    (snapshotPath_injective (hRelative m) (hRelative n) h)

end UnidppArchive

------------------------------------------------------------
-- Writes
------------------------------------------------------------

namespace UnidppArchive

/- What the operating system makes of a write. -/
inductive WriteResult where
  | done
  | refused (e : String)
  | cut (n : Nat) (e : String)
  deriving DecidableEq

namespace WriteResult

/- The octets that reach the file. -/
def kept
    (w : WriteResult)
    (data : Bytes) : Bytes :=
  match w with
  | .done => data
  | .refused _ => []
  | .cut n _ => data.take n

/- The error that the writer is told. -/
def error? :
    WriteResult → Option String
| .done => none
| .refused e => some e
| .cut _ e => some e

/- What reaches the file is a front of what was written. -/
theorem exists_kept_append
    (w : WriteResult)
    (data : Bytes) :
    ∃ lost, data = w.kept data ++ lost := by
  cases w with
  | done => exact ⟨[], by simp [kept]⟩
  | refused e => exact ⟨data, by simp [kept]⟩
  | cut n e =>
      exact ⟨data.drop n, (List.take_append_drop n data).symm⟩

end WriteResult

namespace Disk

/- A write through the handle that appends to the journal. -/
def appendJournal
    (disk : Disk)
    (w : WriteResult)
    (data : Bytes) : Disk :=
  { disk with
    journal := some (disk.journal.getD [] ++ w.kept data) }

/- `fs::write`: the file is replaced unless it is refused. -/
def writeFile
    (disk : Disk)
    (w : WriteResult)
    (path : String)
    (data : Bytes) : Disk :=
  match w with
  | .refused _ => disk
  | w =>
      { disk with
        files := Function.update disk.files path
          (some (w.kept data)) }

@[simp] theorem journal_writeFile
    (disk : Disk)
    (w : WriteResult)
    (path : String)
    (data : Bytes) :
    (disk.writeFile w path data).journal = disk.journal := by
  cases w <;> rfl

@[simp] theorem files_writeFile_done
    (disk : Disk)
    (path : String)
    (data : Bytes) :
    (disk.writeFile .done path data).files =
      Function.update disk.files path (some data) := by
  rfl

@[simp] theorem files_appendJournal
    (disk : Disk)
    (w : WriteResult)
    (data : Bytes) :
    (disk.appendJournal w data).files = disk.files := by
  rfl

@[simp] theorem journal_appendJournal
    (disk : Disk)
    (w : WriteResult)
    (data : Bytes) :
    (disk.appendJournal w data).journal =
      some (disk.journal.getD [] ++ w.kept data) := by
  rfl

end Disk

end UnidppArchive
