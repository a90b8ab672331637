import Sheltering.Column
import Sheltering.Proofs.Instant.Bounds

/-!
# Timestamps with a sign

An instant outside the years 0 to 9999 is written all the same, with a sign in front of its year.
Such a timestamp is not read back, and as text it stands before all that have none.

* `Instant.storable_of_read`: only what can be stored is read back.
* `Instant.stored_lt_of_late`: an instant after the year 9999 stands before every instant that can
  be stored.
* `Instant.reaches_iff_le`: a deadline cut to microseconds against a reading that is not.
-/

namespace Sheltering.Instant

open Text

variable {t u deadline : Instant}

theorem storedChars_of_late (h : 253402300800 ≤ t.second) :
    ∃ rest, t.storedChars = '+' :: rest := by
  have high : t.civil.date.year ≤ 9999 ↔ t.second < 253402300800 := year_le_iff
  have hyear : ¬ (0 ≤ t.civil.date.year ∧ t.civil.date.year ≤ 9999) := by omega
  have hpos : ¬ t.civil.date.year < 0 := by omega
  simp only [storedChars, Date.written, writtenYear, if_neg hyear, if_neg hpos, List.cons_append]
  exact ⟨_, rfl⟩

theorem storedChars_of_early (h : t.second < -62167219200) :
    ∃ rest, t.storedChars = '-' :: rest := by
  have low : t.civil.date.year ≤ -1 ↔ t.second < -62167219200 := year_le_iff
  have hyear : ¬ (0 ≤ t.civil.date.year ∧ t.civil.date.year ≤ 9999) := by omega
  have hneg : t.civil.date.year < 0 := by omega
  simp only [storedChars, Date.written, writtenYear, if_neg hyear, if_pos hneg, List.cons_append]
  exact ⟨_, rfl⟩

/-- A timestamp that begins with no digit is not read. -/
theorem ofStored?_eq_none {sign : Char} {rest : List Char} (hsign : digit? sign = none)
    (h : t.storedChars = sign :: rest) : ofStored? t.stored = none := by
  have hyear : number? 4 4 (sign :: rest) = none := by
    simp [number?, spanDigits, hsign]
  rw [ofStored?, stored, String.toList_ofList, h, ofStoredChars?, hyear]
  rfl

/-- Only what can be stored is read back. -/
theorem storable_of_read (hv : t.Valid) (h : Column.instant t.stored = .ok u) : t.Storable := by
  have hread : ofStored? t.stored ≠ none := by
    intro hnone
    rw [Column.instant, hnone] at h
    cases h
  refine storable_iff.mpr ⟨hv, Int.not_lt.mp fun hlow => ?_, Int.not_le.mp fun hhigh => ?_⟩
  · obtain ⟨rest, hrest⟩ := storedChars_of_early hlow
    exact hread (ofStored?_eq_none (by decide) hrest)
  · obtain ⟨rest, hrest⟩ := storedChars_of_late hhigh
    exact hread (ofStored?_eq_none (by decide) hrest)

/-- The sign of a late year stands before every digit. -/
theorem stored_lt_of_late (hd : deadline.Storable) (h : 253402300800 ≤ t.second) :
    t.stored < deadline.stored := by
  obtain ⟨rest, hrest⟩ := storedChars_of_late h
  obtain ⟨hlow, hhigh⟩ := hd.year
  show t.stored.toList < deadline.stored.toList
  rw [stored, stored, String.toList_ofList, String.toList_ofList, hrest, storedChars_eq hd]
  exact cons_lt_padded (by decide) (show _ < 10000 by omega) (by decide) _ _

theorem reaches_iff_le : t.Reaches deadline ↔ deadline.toMicros ≤ t := by
  rw [Reaches, le_def, le_def]
  simp only [toMicros]
  omega

end Sheltering.Instant
