import UnidppArchive.Foundations.Machine

/-
  Append-only ledgers.

  A ledger takes entries at its end.  A reader looks for the
  first entry of a name, or selects entries.  Who asks again
  is shown what was shown before, and perhaps more of it; and
  what is published is found, if no two entries have a name
  in common.

  Key definitions include:
    * `Ledger.Act`
    * `Ledger.step`

  Key theorems include:
    * `Ledger.pairwise_run`
    * `Ledger.shown_prefix`
    * `Ledger.found_of_mem`
-/

------------------------------------------------------------
-- Ledgers
------------------------------------------------------------

namespace UnidppArchive

namespace Ledger

variable {ε ν : Type}

/- What is done with a ledger. -/
inductive Act
    (ε ν : Type) where
  | publish (entry : ε)
  | look (name : ν)
  | select (keep : ε → Bool)
  | pass

/- Nothing is published. -/
def Act.Reads :
    Act ε ν → Prop
| .publish _ => False
| _ => True

variable [DecidableEq ν]

/- The entries that are shown, and all of them from then on. -/
def step
    (name : ε → ν)
    (entries : List ε) :
    Act ε ν → List ε × List ε
| .publish entry => ([entry], entries ++ [entry])
| .look n => ((entries.find? (name · == n)).toList, entries)
| .select keep => (entries.filter keep, entries)
| .pass => ([], entries)

end Ledger

end UnidppArchive

------------------------------------------------------------
-- What Is Shown
------------------------------------------------------------

namespace UnidppArchive

namespace Ledger

variable {ε ν : Type} [DecidableEq ν]
variable {name : ε → ν}
variable {entries entries' : List ε}

/- The more there is, the more is shown. -/
theorem shown_prefix
    {act : Act ε ν}
    (hReads : act.Reads)
    (h : entries <+: entries') :
    (step name entries act).1 <+:
      (step name entries' act).1 := by
  rcases h with ⟨more, rfl⟩
  cases act with
  | publish entry => exact hReads.elim
  | look n =>
      simp only [step, List.find?_append]
      cases entries.find? (name · == n) with
      | none => exact List.nil_prefix
      | some e => exact List.prefix_refl _
  | select keep =>
      simp only [step, List.filter_append]
      exact List.prefix_append _ _
  | pass => exact List.prefix_refl _

/- A reader leaves the ledger as it is. -/
theorem entries_of_reads
    {act : Act ε ν}
    (hReads : act.Reads) :
    (step name entries act).2 = entries := by
  cases act with
  | publish entry => exact hReads.elim
  | _ => rfl

/- An entry is found by a name that it has alone. -/
theorem found_of_mem
    {entry : ε}
    (hAlone : ∀ e ∈ entries, name e = name entry → e = entry)
    (h : entry ∈ entries) :
    (step name entries (.look (name entry))).1 = [entry] := by
  have hFound :
      entries.find? (name · == name entry) = some entry := by
    cases hFirst : entries.find? (name · == name entry) with
    | none =>
        have hNot := List.find?_eq_none.mp hFirst entry h
        simp at hNot
    | some e =>
        have hName : name e = name entry := by
          simpa using List.find?_some hFirst
        have hMem : e ∈ entries :=
          List.mem_of_find?_eq_some hFirst
        rw [hAlone e hMem hName]
  rw [step, hFound, Option.toList_some]

end Ledger

end UnidppArchive

------------------------------------------------------------
-- Runs
------------------------------------------------------------

namespace UnidppArchive

namespace Ledger

variable {ε ν : Type} [DecidableEq ν]
variable {name : ε → ν}
variable {entries : List ε}
variable {acts : List (Act ε ν)}

/- Entries stay where they are. -/
theorem prefix_step
    (act : Act ε ν) :
    entries <+: (step name entries act).2 := by
  cases act with
  | publish entry => exact List.prefix_append _ _
  | _ => exact List.prefix_refl _

theorem prefix_run
    (name : ε → ν)
    (entries : List ε)
    (acts : List (Act ε ν)) :
    entries <+: (Machine.run (step name) entries acts).2 := by
  induction acts generalizing entries with
  | nil => exact List.prefix_refl _
  | cons act acts ih =>
      rw [Machine.run_cons]
      exact (prefix_step act).trans (ih _)

/- What is done in a run is done with some of its entries. -/
theorem exists_entries_of_mem_run
    {a : Act ε ν × List ε}
    (h : a ∈ (Machine.run (step name) entries acts).1) :
    ∃ amid,
      entries <+: amid ∧
        a.2 = (step name amid a.1).1 ∧
        (step name amid a.1).2 <+:
          (Machine.run (step name) entries acts).2 := by
  induction acts generalizing entries with
  | nil => cases h
  | cons act acts ih =>
      rw [Machine.run_cons] at h ⊢
      rcases List.mem_cons.mp h with rfl | hLater
      · exact ⟨entries, List.prefix_refl _, rfl,
          prefix_run name _ acts⟩
      · rcases ih hLater with ⟨amid, hBefore, hShown, hAfter⟩
        exact ⟨amid, (prefix_step act).trans hBefore, hShown,
          hAfter⟩

/- What is done later is done with the entries of before. -/
theorem pairwise_run
    (name : ε → ν)
    (entries : List ε)
    (acts : List (Act ε ν)) :
    List.Pairwise
      (fun a b => ∃ before later,
        a.2 = (step name before a.1).1 ∧
          b.2 = (step name later b.1).1 ∧
          (step name before a.1).2 <+: later ∧
          later <+: (Machine.run (step name) entries acts).2)
      (Machine.run (step name) entries acts).1 := by
  induction acts generalizing entries with
  | nil => exact List.Pairwise.nil
  | cons act acts ih =>
      rw [Machine.run_cons]
      refine List.Pairwise.cons ?_ (ih _)
      intro b hb
      rcases exists_entries_of_mem_run hb with
        ⟨later, hBefore, hShown, hAfter⟩
      exact ⟨entries, later, rfl, hShown, hBefore,
        (prefix_step b.1).trans hAfter⟩

end Ledger

end UnidppArchive
