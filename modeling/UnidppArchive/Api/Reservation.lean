import UnidppArchive.Api.Concurrency

/-
  What a handler has reserved and not yet appended.

  One lemma for each part of the state says what a step does
  to it: to the reservations, to the store, and to the
  journal.

  Key definitions include:
    * `Reservation`
    * `Phase.reservation?`
    * `Phase.Failed`

  Key theorems include:
    * `AppSystem.Step.new_reservation`
    * `AppSystem.Step.kept_reservation`
    * `AppSystem.Step.reserve_frame`
    * `AppSystem.Step.store_cases`
    * `AppSystem.Step.journal_cases`
-/

------------------------------------------------------------
-- Reservations
------------------------------------------------------------

namespace UnidppArchive

/-
  A number, the instant at which it was reserved, and what
  the draft is about, with its commitment.
-/
structure Reservation where
  seq : UInt64
  notarizedAt : Timestamp
  passportId : String
  commitment : Hash

variable (C : Crates)

/- The reservation of a draft. -/
def Reservation.of
    (r : SnapshotRecord) : Reservation :=
  ⟨r.seq, r.notarizedAt, r.passportId, r.commitment C⟩

namespace Phase

/- What a handler has reserved and not yet appended. -/
def reservation? :
    Phase → Option Reservation
| .anchoring req seq notarizedAt =>
    some (Reservation.of C (draftRecord seq notarizedAt req))
| .noted r | .checked r | .journaled r | .copied r =>
    some (Reservation.of C r)
| .idle | .waiting _ | .locked _ | .appended _ | .unsealed _
| .appendFailed _ | .responded _ | .dropped => none

/- The handler ended without its snapshot in the store. -/
def Failed :
    Phase → Prop
| .dropped | .unsealed _ | .appendFailed _ => True
| _ => False

end Phase

namespace AppSystem

variable {C : Crates}
variable {Request : Type}
variable {s s' : AppSystem Request}

/- A handler in an append has the reservation of its record. -/
theorem reservation_of_checked
    {u : Request}
    {r : SnapshotRecord}
    (hPhase : s.phase u = .checked r) :
    (s.phase u).reservation? C =
      some (Reservation.of C r) := by
  rw [hPhase]
  rfl

theorem reservation_of_copied
    {u : Request}
    {r : SnapshotRecord}
    (hPhase : s.phase u = .copied r) :
    (s.phase u).reservation? C =
      some (Reservation.of C r) := by
  rw [hPhase]
  rfl

variable [DecidableEq Request]
variable {service : Service C}

/- One handler moves, and the others stay where they are. -/
theorem setPhase_cases
    (s : AppSystem Request)
    (t : Request)
    (p : Phase)
    (u : Request) :
    (u = t ∧ (s.setPhase t p).phase u = p) ∨
      (s.setPhase t p).phase u = s.phase u := by
  by_cases hSame : u = t
  · subst hSame
    exact Or.inl ⟨rfl, phase_setPhase s u p⟩
  · right
    simp [setPhase, Function.update_of_ne hSame]

/-
  What relates every phase to itself, and the phases of the
  handler that moves, relates those of all handlers.
-/
theorem related_of_moved
    {R : Phase → Phase → Prop}
    {t : Request}
    {p : Phase}
    (hSame : ∀ q, R q q)
    (hNext : s'.phase = (s.setPhase t p).phase)
    (hMoves : R (s.phase t) p)
    (u : Request) :
    R (s.phase u) (s'.phase u) := by
  rw [hNext]
  rcases setPhase_cases s t p u with ⟨rfl, hMoved⟩ | hStays
  · rw [hMoved]
    exact hMoves
  · rw [hStays]
    exact hSame _

theorem reservation_setPhase
    {t u : Request}
    {p : Phase}
    {ρ : Reservation}
    (hNew :
      p.reservation? C = some ρ →
        (s.phase t).reservation? C = some ρ)
    (h :
      ((s.setPhase t p).phase u).reservation? C = some ρ) :
    (s.phase u).reservation? C = some ρ := by
  let R (before after : Phase) : Prop :=
    after.reservation? C = some ρ →
      before.reservation? C = some ρ
  have hRelated : R (s.phase u) ((s.setPhase t p).phase u) :=
    related_of_moved (fun _ => id) rfl hNew u
  exact hRelated h

theorem kept_setPhase
    {t u : Request}
    {p : Phase}
    {ρ : Reservation}
    (hMoves :
      (s.phase t).reservation? C = some ρ →
        p.reservation? C = some ρ ∨ p.Failed)
    (hOld : (s.phase u).reservation? C = some ρ) :
    ((s.setPhase t p).phase u).reservation? C = some ρ ∨
      ((s.setPhase t p).phase u).Failed := by
  let R (before after : Phase) : Prop :=
    before.reservation? C = some ρ →
      after.reservation? C = some ρ ∨ after.Failed
  have hRelated : R (s.phase u) ((s.setPhase t p).phase u) :=
    related_of_moved (fun _ => Or.inl) rfl hMoves u
  exact hRelated hOld

/- A sealed record has the reservation of its draft. -/
theorem reservation_ingestRecord
    {seq : UInt64}
    {notarizedAt : Timestamp}
    {req : CreateRequest}
    {answer : Except String Json.Value}
    {r : SnapshotRecord}
    (h :
      ingestRecord C service.notary seq notarizedAt req
        answer = .ok r) :
    Reservation.of C r =
      Reservation.of C (draftRecord seq notarizedAt req) := by
  have hFields := fields_ingestRecord h
  have hCommitment := (sealedFrom_ingestRecord h).commitment
  unfold Reservation.of
  rw [hFields.1, hFields.2.2.1, hFields.2.2.2.1,
    hCommitment]
  rfl

/- A new reservation is of the next number of the store. -/
theorem Step.new_reservation
    (h : Step C service s s')
    {u : Request}
    {ρ : Reservation}
    (hNew : (s'.phase u).reservation? C = some ρ) :
    (s.phase u).reservation? C = some ρ ∨
      ∃ req now,
        s.phase u = .locked req ∧
          s'.phase u = .anchoring req s.store.size now ∧
          ρ =
            Reservation.of C
              (draftRecord s.store.size now req) := by
  cases h with
  | reserve now hPhase hFree =>
      rename_i t req
      rcases setPhase_cases s t
          (.anchoring req (s.store.reserve now).1
            (s.store.reserve now).2) u with
        ⟨rfl, hMoved⟩ | hStays
      · right
        refine ⟨req, now, hPhase, hMoved, ?_⟩
        rw [hMoved] at hNew
        exact (Option.some.inj hNew).symm
      · left
        rw [hStays] at hNew
        exact hNew
  | note transport hPhase hRecord =>
      left
      refine reservation_setPhase ?_ hNew
      intro hNoted
      rw [hPhase, Phase.reservation?,
        ← reservation_ingestRecord hRecord]
      exact hNoted
  | check hPhase hFree hCheck =>
      left
      exact reservation_setPhase
        (by rw [hPhase]; exact id) hNew
  | journal io hPhase hWrite =>
      left
      exact reservation_setPhase
        (by rw [hPhase]; exact id) hNew
  | copy io hPhase hWrite =>
      left
      exact reservation_setPhase
        (by rw [hPhase]; exact id) hNew
  | read hFree => exact Or.inl hNew
  | _ =>
      left
      refine reservation_setPhase ?_ hNew
      intro hNone
      cases hNone

/-
  A reservation stays until its record is in the store, or
  the handler fails.
-/
theorem Step.kept_reservation
    (h : Step C service s s')
    {u : Request}
    {ρ : Reservation}
    (hOld : (s.phase u).reservation? C = some ρ) :
    (s'.phase u).reservation? C = some ρ ∨
      (∃ r,
        s.phase u = .copied r ∧ s'.store = s.store.push r) ∨
        (s'.phase u).Failed := by
  have hSettled (t : Request) (p : Phase)
      (hPhase : s'.phase = (s.setPhase t p).phase)
      (hMoves :
        (s.phase t).reservation? C = some ρ →
          p.reservation? C = some ρ ∨ p.Failed) :
      (s'.phase u).reservation? C = some ρ ∨
        (∃ r,
          s.phase u = .copied r ∧
            s'.store = s.store.push r) ∨
          (s'.phase u).Failed := by
    rw [hPhase]
    rcases kept_setPhase hMoves hOld with hKept | hFailed
    · exact Or.inl hKept
    · exact Or.inr (Or.inr hFailed)
  cases h with
  | read hFree => exact Or.inl hOld
  | push hPhase hCapacity =>
      rename_i t r
      rcases setPhase_cases s t (.appended r) u with
        ⟨rfl, -⟩ | hStays
      · exact Or.inr (Or.inl ⟨r, hPhase, rfl⟩)
      · left
        rw [← hStays] at hOld
        exact hOld
  | note transport hPhase hRecord =>
      refine hSettled _ _ rfl ?_
      rw [hPhase]
      intro hDraft
      left
      rw [← hDraft]
      exact congrArg some (reservation_ingestRecord hRecord)
  | check hPhase hFree hCheck =>
      exact hSettled _ _ rfl (by rw [hPhase]; exact Or.inl)
  | journal io hPhase hWrite =>
      exact hSettled _ _ rfl (by rw [hPhase]; exact Or.inl)
  | copy io hPhase hWrite =>
      exact hSettled _ _ rfl (by rw [hPhase]; exact Or.inl)
  | dropWaiting hPhase
  | dropAnchoring hPhase
  | sealFails transport hPhase hRecord
  | checkFails hPhase hFree hCheck
  | journalFails io hPhase hWrite
  | copyFails io hPhase hWrite =>
      exact hSettled _ _ rfl (fun _ => Or.inr trivial)
  | refuse hPhase hAccept
  | accept hPhase hAccept
  | lock hPhase hFree
  | reserve now hPhase hFree
  | respond hPhase
  | respondUnsealed now hPhase
  | respondFailed now hPhase =>
      -- such a handler has no reservation
      refine hSettled _ _ rfl ?_
      rw [hPhase]
      intro hNone
      cases hNone

/- Nothing else happens in the step of a reservation. -/
theorem Step.reserve_frame
    (h : Step C service s s')
    {u : Request}
    {req req' : CreateRequest}
    {seq : UInt64}
    {now : Timestamp}
    (hLocked : s.phase u = .locked req)
    (hReserved : s'.phase u = .anchoring req' seq now) :
    s'.store = s.store ∧ s'.disk = s.disk := by
  have hOther (t : Request) (p q : Phase)
      (hNext : s'.phase = (s.setPhase t q).phase)
      (hPhase : s.phase t = p)
      (hMoves :
        p = .locked req → q ≠ .anchoring req' seq now) :
      False := by
    rw [hNext] at hReserved
    rcases setPhase_cases s t q u with ⟨rfl, hMoved⟩ | hStays
    · rw [hMoved] at hReserved
      exact hMoves (hPhase.symm.trans hLocked) hReserved
    · rw [hStays, hLocked] at hReserved
      cases hReserved
  cases h with
  | reserve now hPhase hFree => exact ⟨rfl, rfl⟩
  | read hFree => exact ⟨rfl, rfl⟩
  | refuse hPhase _ | accept hPhase _ | dropWaiting hPhase
  | lock hPhase _ | dropAnchoring hPhase
  | sealFails _ hPhase _ | note _ hPhase _
  | checkFails hPhase _ _ | check hPhase _ _
  | journalFails _ hPhase _ | journal _ hPhase _
  | copyFails _ hPhase _ | copy _ hPhase _ | push hPhase _
  | respond hPhase | respondUnsealed _ hPhase
  | respondFailed _ hPhase =>
      exfalso
      refine hOther _ _ _ rfl hPhase ?_
      intro hNone
      cases hNone

/- The store is the same, or a copied record is added. -/
theorem Step.store_cases
    (h : Step C service s s') :
    s'.store = s.store ∨
      ∃ u r,
        s.phase u = .copied r ∧
          s'.store = s.store.push r ∧
          s.store.records.length < maxRecords := by
  cases h with
  | push hPhase hCapacity =>
      exact Or.inr ⟨_, _, hPhase, rfl, hCapacity⟩
  | _ => exact Or.inl rfl

/- The journal is the same, or it is written to. -/
theorem Step.journal_cases
    (h : Step C service s s') :
    s'.disk.journal = s.disk.journal ∨
      ∃ u r w,
        s.phase u = .checked r ∧
          s'.disk.journal =
            some
              (s.disk.journal.getD [] ++
                WriteResult.kept w (journalEntry C r)) := by
  have hWritten (u : Request) (r : SnapshotRecord)
      (io : AppendIo) (result : Except StoreError Unit)
      (disk : Disk)
      (hPhase : s.phase u = .checked r)
      (hWrite :
        s.store.writeJournal C io r s.disk = (result, disk)) :
      disk.journal = s.disk.journal ∨
        ∃ u r w,
          s.phase u = .checked r ∧
            disk.journal =
              some
                (s.disk.journal.getD [] ++
                  WriteResult.kept w (journalEntry C r)) := by
    unfold SnapshotStore.writeJournal at hWrite
    split at hWrite
    · right
      refine ⟨u, r, io.journal, hPhase, ?_⟩
      split at hWrite <;> cases hWrite <;> rfl
    · cases hWrite
      exact Or.inl rfl
  have hCopied (r : SnapshotRecord) (io : AppendIo)
      (result : Except StoreError Unit) (disk : Disk)
      (hWrite :
        s.store.writeSnapshotFile C io r s.disk =
          (result, disk)) :
      disk.journal = s.disk.journal := by
    unfold SnapshotStore.writeSnapshotFile at hWrite
    split at hWrite
    · cases hWrite
      rfl
    · simp only at hWrite
      split at hWrite <;> cases hWrite <;>
        exact Disk.journal_writeFile _ _ _ _
  cases h with
  | journalFails io hPhase hWrite =>
      exact hWritten _ _ io _ _ hPhase hWrite
  | journal io hPhase hWrite =>
      exact hWritten _ _ io _ _ hPhase hWrite
  | copyFails io hPhase hWrite =>
      exact Or.inl (hCopied _ io _ _ hWrite)
  | copy io hPhase hWrite =>
      exact Or.inl (hCopied _ io _ _ hWrite)
  | _ => exact Or.inl rfl

end AppSystem

end UnidppArchive
