import UnidppArchive.Time.Dates
import UnidppArchive.Time.Grammar

/-
  Canonical texts of instants.

  The places of a canonical text spell a date and a second
  of its day.  What they spell determines them, and texts
  are ordered as the instants are: dates and digits of fixed
  width compare place by place.

  Key definitions include:
    * `Places.Spells`

  Key theorems include:
    * `Places.Spells.bytes_lt_iff`
    * `Timestamp.canonical_instants`
-/

------------------------------------------------------------
-- Order of Texts
------------------------------------------------------------

namespace UnidppArchive

/- Behind fronts of one length the backs decide. -/
theorem append_lt_append_iff
    {α : Type}
    [LT α]
    {front front' back back' : List α}
    (hLength : front.length = front'.length) :
    front ++ back < front' ++ back' ↔
      front < front' ∨ (front = front' ∧ back < back') := by
  induction front generalizing front' with
  | nil =>
      have hNil : front' = [] := by
        simpa using hLength.symm
      subst hNil
      simp
  | cons a front ih =>
      cases front' with
      | nil => simp at hLength
      | cons a' front' =>
          simp only [List.cons_append, List.cons_lt_cons_iff,
            ih (by simpa using hLength), List.cons.injEq]
          tauto

/- A field of digits, and the text behind it. -/
theorem digits_append_lt_iff
    {b b' xs xs' : Bytes}
    {n n' : Int}
    (h : digitsFrom 0 b = some n)
    (h' : digitsFrom 0 b' = some n')
    (hLength : b.length = b'.length) :
    b ++ xs < b' ++ xs' ↔ n < n' ∨ (n = n' ∧ xs < xs') := by
  have hSame : b = b' ↔ n = n' := by
    constructor
    · rintro rfl
      rw [h] at h'
      exact Option.some.inj h'
    · rintro rfl
      exact digitsFrom_inj hLength h h'
  rw [append_lt_append_iff hLength,
    digitsFrom_lt_iff hLength h h', hSame]

end UnidppArchive

------------------------------------------------------------
-- What the Places Spell
------------------------------------------------------------

namespace UnidppArchive

open Gregorian

namespace Places

/- The octets, digits by digits. -/
theorem bytes_eq
    (p : Places) :
    p.bytes =
      [p.y₁, p.y₂, p.y₃, p.y₄] ++ ascii '-' ::
        ([p.m₁, p.m₂] ++ ascii '-' ::
          ([p.d₁, p.d₂] ++ ascii 'T' ::
            ([p.hh₁, p.hh₂] ++ ascii ':' ::
              ([p.mm₁, p.mm₂] ++ ascii ':' ::
                ([p.ss₁, p.ss₂] ++ [ascii 'Z']))))) := by
  rfl

/- The places read as a date and a second of its day. -/
structure Spells
    (p : Places)
    (x : Date)
    (n : Nat) : Prop where
  year : digitsFrom 0 [p.y₁, p.y₂, p.y₃, p.y₄] = some x.year
  month : digitsFrom 0 [p.m₁, p.m₂] = some (x.month : Int)
  day : digitsFrom 0 [p.d₁, p.d₂] = some (x.day : Int)
  hour :
    digitsFrom 0 [p.hh₁, p.hh₂] = some ((n / 3600 : Nat) : Int)
  minute :
    digitsFrom 0 [p.mm₁, p.mm₂] =
      some ((n % 3600 / 60 : Nat) : Int)
  second :
    digitsFrom 0 [p.ss₁, p.ss₂] = some ((n % 60 : Nat) : Int)

/- Hours, minutes and seconds are ordered as their sum. -/
theorem clock_lt_iff
    {n n' : Nat} :
    (n / 3600 < n' / 3600 ∨
        (n / 3600 = n' / 3600 ∧
          (n % 3600 / 60 < n' % 3600 / 60 ∨
            (n % 3600 / 60 = n' % 3600 / 60 ∧
              n % 60 < n' % 60)))) ↔
      n < n' := by
  omega

namespace Spells

variable {p p' : Places}
variable {x x' : Date}
variable {n n' : Nat}

/- Texts are ordered by date, then by second. -/
theorem bytes_lt_iff
    (h : p.Spells x n)
    (h' : p'.Spells x' n') :
    p.bytes < p'.bytes ↔ x < x' ∨ (x = x' ∧ n < n') := by
  rw [bytes_eq, bytes_eq,
    digits_append_lt_iff h.year h'.year rfl,
    List.cons_lt_cons_self,
    digits_append_lt_iff h.month h'.month rfl,
    List.cons_lt_cons_self,
    digits_append_lt_iff h.day h'.day rfl,
    List.cons_lt_cons_self,
    digits_append_lt_iff h.hour h'.hour rfl,
    List.cons_lt_cons_self,
    digits_append_lt_iff h.minute h'.minute rfl,
    List.cons_lt_cons_self,
    digits_append_lt_iff h.second h'.second rfl,
    ← clock_lt_iff (n := n), Date.lt_iff, Date.ext_iff]
  simp only [Int.ofNat_lt, Int.natCast_inj, List.lt_irrefl,
    and_false, or_false]
  tauto

/- The same date and second are spelled alike. -/
theorem bytes_eq_of_same
    (h : p.Spells x n)
    (h' : p'.Spells x n) :
    p.bytes = p'.bytes := by
  apply Std.Trichotomous.trichotomous (r := (· < ·))
  · rw [h.bytes_lt_iff h']
    simp
  · rw [h'.bytes_lt_iff h]
    simp

end Spells

end Places

end UnidppArchive

------------------------------------------------------------
-- Printed and Read Instants
------------------------------------------------------------

namespace UnidppArchive

open Gregorian

namespace Timestamp

/- The date of an instant. -/
def date
    (t : Timestamp) : Date :=
  Date.ofDays (t.secs / 86400)

/- The second of its day. -/
def secondOfDay
    (t : Timestamp) : Nat :=
  (t.secs % 86400).toNat

/- Instants are ordered by date, then by second. -/
theorem lt_iff_date
    {t t' : Timestamp} :
    t.secs < t'.secs ↔
      t.date < t'.date ∨
        (t.date = t'.date ∧ t.secondOfDay < t'.secondOfDay) := by
  unfold date secondOfDay
  rw [Date.ofDays_strictMono.lt_iff_lt,
    Date.ofDays_strictMono.injective.eq_iff]
  omega

/- A printed instant spells itself. -/
theorem exists_spells
    {t : Timestamp}
    (h : t.Printable) :
    ∃ p : Places,
      Utf8.encode t.toString = p.bytes ∧
        p.Spells t.date t.secondOfDay := by
  have hCivil :=
    Date.civilFromDays_eq_ofDays (t.secs / 86400)
  rcases exists_places hCivil
      ((year_iff_printable hCivil).mpr h) with
    ⟨p, hText, hYear, hMonth, hDay, hHour, hMin, hSec⟩
  exact ⟨p, hText,
    ⟨hYear, hMonth, hDay, hHour, hMin, hSec⟩⟩

/- The digits that a date is read from. -/
theorem digits_of_parseDate
    {p : Places}
    {y : Int}
    {m d : Nat}
    (h : parseDate p.bytes = some (y, m, d)) :
    digitsFrom 0 [p.y₁, p.y₂, p.y₃, p.y₄] = some y ∧
      digitsFrom 0 [p.m₁, p.m₂] = some (m : Int) ∧
        digitsFrom 0 [p.d₁, p.d₂] = some (d : Int) := by
  simp [parseDate, Places.bytes, byteAt, digits,
    Option.bind_eq_some_iff] at h
  rcases h with
    ⟨hYear, m', hMonth, d', hDay, hMonthRange, hDayRange,
      rfl, rfl⟩
  rw [Int.toNat_of_nonneg (by omega),
    Int.toNat_of_nonneg (by omega)]
  exact ⟨hYear, hMonth, hDay⟩

/- A text that is read spells the instant that it is read as. -/
theorem spells_of_parseBytes
    {p : Places}
    {t : Timestamp}
    (h : parseBytes p.bytes = some t) :
    p.Spells t.date t.secondOfDay := by
  rcases exists_of_parseBytes h with
    ⟨y, m, d, hour, min, sec, hDate, hHour, hMin, hSec,
      hHourRange, hMinRange, hSecRange, hSecs⟩
  rcases digits_of_parseDate hDate with
    ⟨hYear, hMonth, hDay⟩
  rcases civilDate_iff.mp (parseDate_spec hDate).2 with
    ⟨x, rfl, rfl, rfl⟩
  have hDays : t.secs / 86400 = x.toDays := by
    unfold Date.toDays
    omega
  have hX : t.date = x := by
    rw [date, hDays, Date.ofDays_toDays]
  have hSecond :
      (t.secondOfDay : Int) = hour * 3600 + min * 60 + sec := by
    unfold secondOfDay
    omega
  have hHours :
      hour = ((t.secondOfDay / 3600 : Nat) : Int) := by
    omega
  have hMins :
      min = ((t.secondOfDay % 3600 / 60 : Nat) : Int) := by
    omega
  have hSecs :
      sec = ((t.secondOfDay % 60 : Nat) : Int) := by
    omega
  rw [hX]
  rw [hHours] at hHour
  rw [hMins] at hMin
  rw [hSecs] at hSec
  exact ⟨hYear, hMonth, hDay, hHour, hMin, hSec⟩

end Timestamp

end UnidppArchive

------------------------------------------------------------
-- Canonical Instants
------------------------------------------------------------

namespace UnidppArchive

namespace Timestamp

/- The first and the last instant of the canonical years. -/
theorem toString_first :
    (⟨-62167219200⟩ : Timestamp).toString =
      "0000-01-01T00:00:00Z" := by
  decide

theorem toString_last :
    (⟨253402300799⟩ : Timestamp).toString =
      "9999-12-31T23:59:59Z" := by
  decide

theorem toString_of_parse
    {s : String}
    {t : Timestamp}
    (hForm : CanonicalForm s)
    (h : parse s = .ok t) :
    t.toString = s := by
  have hPrintable := printable_of_canonicalForm hForm h
  rcases exists_places_of_canonicalForm hForm with ⟨p, hText⟩
  rcases exists_spells hPrintable with
    ⟨p', hPrinted, hSpells⟩
  rw [parse_eq_ok_iff, hText] at h
  apply Utf8.encode_injective
  rw [hPrinted, hText]
  exact hSpells.bytes_eq_of_same (spells_of_parseBytes h)

/- Texts are ordered octet by octet, as `str` is. -/
theorem encode_toString_lt_iff
    {t t' : Timestamp}
    (h : t.Printable)
    (h' : t'.Printable) :
    Utf8.encode t.toString < Utf8.encode t'.toString ↔
      t.secs < t'.secs := by
  rcases exists_spells h with ⟨p, hText, hSpells⟩
  rcases exists_spells h' with ⟨p', hText', hSpells'⟩
  rw [hText, hText', hSpells.bytes_lt_iff hSpells',
    lt_iff_date]

/-
  Between `0000-01-01T00:00:00Z` and `9999-12-31T23:59:59Z`
  printing and reading are inverse and keep the order.
-/
theorem canonical_instants :
    ∃ first last : Timestamp,
      parse "0000-01-01T00:00:00Z" = .ok first ∧
      parse "9999-12-31T23:59:59Z" = .ok last ∧
      (∀ t : Timestamp,
        first.secs ≤ t.secs → t.secs ≤ last.secs →
          parse t.toString = .ok t) ∧
      (∀ s t, CanonicalForm s → parse s = .ok t →
        t.toString = s) ∧
      ∀ t₁ t₂ : Timestamp,
        first.secs ≤ t₁.secs → t₁.secs ≤ last.secs →
        first.secs ≤ t₂.secs → t₂.secs ≤ last.secs →
          (t₁.secs < t₂.secs ↔
            Utf8.encode t₁.toString <
              Utf8.encode t₂.toString) := by
  refine ⟨⟨-62167219200⟩, ⟨253402300799⟩, ?_, ?_, ?_,
    fun s t => toString_of_parse, ?_⟩
  · rw [← toString_first]
    exact parse_toString (by decide)
  · rw [← toString_last]
    exact parse_toString (by decide)
  · intro t hLow hHigh
    exact parse_toString ⟨hLow, hHigh⟩
  · intro t₁ t₂ hLow₁ hHigh₁ hLow₂ hHigh₂
    rw [encode_toString_lt_iff ⟨hLow₁, hHigh₁⟩
      ⟨hLow₂, hHigh₂⟩]

end Timestamp

end UnidppArchive
