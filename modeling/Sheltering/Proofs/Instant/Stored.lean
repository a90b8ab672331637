import Sheltering.Instant.Written
import Sheltering.Proofs.Instant.Calendar
import Sheltering.Proofs.Text.Digits

/-!
# The order of stored timestamps

Stored timestamps are compared as text. Between the years 0 and 9999 that is the order of the
instants cut to microseconds, leap seconds included.

* `Instant.Valid`: a leap second is the last of its minute, and none is longer than a second.
* `Instant.Storable`: a valid instant whose year has four digits and no sign.
* `Instant.stored_le_stored`: the order of stored timestamps.
* `Instant.Reaches`: a reading of the clock is at a deadline or after it, to the microsecond.
-/

namespace Sheltering

open Text

/-! ## What a clock shows -/

namespace Civil

/-- One reading, cut to microseconds, is before another. -/
def Precedes (a b : Civil) : Prop :=
  a.date.Precedes b.date ∨ (a.date = b.date ∧ (a.hour < b.hour ∨ (a.hour = b.hour ∧
    (a.minute < b.minute ∨ (a.minute = b.minute ∧ (a.second < b.second ∨ (a.second = b.second ∧
      a.nano / 1000 < b.nano / 1000)))))))

end Civil

namespace Instant

/-- The instant is one that UTC knows: a leap second is the last of its minute, and none is longer
than a second. -/
def Valid (t : Instant) : Prop := t.nano < 2000000000 ∧ (1000000000 ≤ t.nano → t.second % 60 = 59)

instance (t : Instant) : Decidable t.Valid := inferInstanceAs (Decidable (_ ∧ _))

/-- The instant is valid and its year is written with four digits and no sign. -/
structure Storable (t : Instant) : Prop where
  valid : t.Valid
  year : 0 ≤ t.civil.date.year ∧ t.civil.date.year ≤ 9999

instance (t : Instant) : Decidable t.Storable :=
  decidable_of_iff (t.Valid ∧ 0 ≤ t.civil.date.year ∧ t.civil.date.year ≤ 9999)
    ⟨fun ⟨hv, hy⟩ => ⟨hv, hy⟩, fun h => ⟨h.valid, h.year⟩⟩

theorem lt_def {a b : Instant} :
    a < b ↔ a.second < b.second ∨ (a.second = b.second ∧ a.nano < b.nano) := Iff.rfl

theorem le_def {a b : Instant} :
    a ≤ b ↔ a.second < b.second ∨ (a.second = b.second ∧ a.nano ≤ b.nano) := Iff.rfl

/-- The time of day, by the second `s` of the day, the number `l` of leap seconds in it, and a
fraction `n`. A leap second has the number 60, so it comes after the second before it. -/
theorem time_precedes {s s' l l' n n' : Nat} (hl : l = 0 ∨ (l = 1 ∧ s % 60 = 59)) (hl' : l' ≤ 1)
    (h : s < s' ∨ (s = s' ∧ (l < l' ∨ (l = l' ∧ n < n')))) :
    s / 3600 < s' / 3600 ∨ (s / 3600 = s' / 3600 ∧ (s / 60 % 60 < s' / 60 % 60 ∨
      (s / 60 % 60 = s' / 60 % 60 ∧ (s % 60 + l < s' % 60 + l' ∨
        (s % 60 + l = s' % 60 + l' ∧ n < n'))))) := by
  rcases h with h | ⟨rfl, h⟩
  · rcases Nat.lt_or_eq_of_le (show s / 60 ≤ s' / 60 by omega) with hm | hm
    · clear hl hl'
      omega
    · rw [hm, show s / 3600 = s' / 3600 by omega]
      exact .inr ⟨rfl, .inr ⟨rfl, by omega⟩⟩
  · exact .inr ⟨rfl, .inr ⟨rfl, by omega⟩⟩

/-- A later microsecond has a later reading. -/
theorem civil_precedes {a b : Instant} (ha : a.Valid) (hb : b.Valid)
    (h : a.toMicros < b.toMicros) : a.civil.Precedes b.civil := by
  rw [lt_def] at h
  simp only [toMicros] at h
  rcases Int.lt_or_le (a.second / 86400) (b.second / 86400) with hd | hd
  · exact .inl (Date.ofDay_precedes hd)
  · refine .inr ⟨congrArg Date.ofDay (show a.second / 86400 = b.second / 86400 by omega), ?_⟩
    refine time_precedes ?_ ?_ ?_
    · obtain ⟨-, ha⟩ := ha
      simp only [isLeap, decide_eq_true_eq]
      split <;> omega
    · split <;> omega
    · obtain ⟨ha, -⟩ := ha
      obtain ⟨hb, -⟩ := hb
      simp only [civil, isLeap, decide_eq_true_eq]
      split <;> split <;> omega

theorem civil_bounds (t : Instant) : t.civil.date.month < 100 ∧ t.civil.date.day < 100 ∧
    t.civil.hour < 100 ∧ t.civil.minute < 100 ∧ t.civil.second < 100 ∧
    t.civil.nano / 1000 < 1000000 := by
  have h := Date.ofDay_bounds (t.second / 86400)
  refine ⟨h.1, h.2, ?_⟩
  simp only [civil]
  split <;> omega

/-! ## Stored timestamps -/

theorem storedChars_eq {t : Instant} (h : t.Storable) :
    t.storedChars = padded 4 t.civil.date.year.toNat ++ '-' :: (padded 2 t.civil.date.month ++
      '-' :: (padded 2 t.civil.date.day ++ 'T' :: (padded 2 t.civil.hour ++
      ':' :: (padded 2 t.civil.minute ++ ':' :: (padded 2 t.civil.second ++
      '.' :: (padded 6 (t.civil.nano / 1000) ++ ['Z'])))))) := by
  simp [storedChars, Date.written, writtenYear, Civil.writtenTime, if_pos h.year]

theorem stored_lt_stored {a b : Instant} (ha : a.Storable) (hb : b.Storable)
    (h : a.toMicros < b.toMicros) : a.stored < b.stored := by
  obtain ⟨hmonth, hday, hhour, hminute, hsecond, hnano⟩ := civil_bounds b
  have hya := ha.year
  have hyb := hb.year
  have hp := civil_precedes ha.valid hb.valid h
  show a.stored.toList < b.stored.toList
  rw [stored, stored, String.toList_ofList, String.toList_ofList, storedChars_eq ha,
    storedChars_eq hb]
  -- The date is compared field by field, and the time where the dates are equal.
  rcases hp with hd | ⟨hd, ht⟩
  · refine padded_cons_lt (by decide) (show _ < 10000 by omega) ?_
    refine hd.imp (fun h => by omega) fun ⟨hy, hd⟩ => ⟨by rw [hy], ?_⟩
    refine padded_cons_lt (by decide) hmonth (hd.imp_right fun ⟨hm, hd⟩ => ⟨hm, ?_⟩)
    exact padded_cons_lt (by decide) hday (.inl hd)
  · rw [hd]
    refine List.append_left_lt (List.cons_lt_cons_iff.mpr (.inr ⟨rfl, ?_⟩))
    refine List.append_left_lt (List.cons_lt_cons_iff.mpr (.inr ⟨rfl, ?_⟩))
    refine List.append_left_lt (List.cons_lt_cons_iff.mpr (.inr ⟨rfl, ?_⟩))
    refine padded_cons_lt (by decide) hhour (ht.imp_right fun ⟨hh, ht⟩ => ⟨hh, ?_⟩)
    refine padded_cons_lt (by decide) hminute (ht.imp_right fun ⟨hm, ht⟩ => ⟨hm, ?_⟩)
    refine padded_cons_lt (by decide) hsecond (ht.imp_right fun ⟨hs, ht⟩ => ⟨hs, ?_⟩)
    exact padded_append_lt (by decide) hnano (.inl ht)

/-- Nothing below a microsecond is stored. -/
theorem stored_eq_stored {a b : Instant} (h : a.toMicros = b.toMicros) : a.stored = b.stored := by
  obtain ⟨hs, hn⟩ := Instant.mk.inj h
  have hl : a.isLeap = b.isLeap := by
    simp only [isLeap, decide_eq_decide]
    omega
  have hm : a.nano % 1000000000 / 1000 = b.nano % 1000000000 / 1000 := by omega
  simp only [stored, storedChars, civil, Civil.writtenTime, hs, hl, hm]

theorem toMicros_trichotomy (a b : Instant) :
    a.toMicros < b.toMicros ∨ a.toMicros = b.toMicros ∨ b.toMicros < a.toMicros := by
  simp only [lt_def, toMicros, Instant.mk.injEq]
  omega

/-- Stored timestamps stand in the order of the instants cut to microseconds. -/
theorem stored_le_stored {a b : Instant} (ha : a.Storable) (hb : b.Storable) :
    a.stored ≤ b.stored ↔ a.toMicros ≤ b.toMicros := by
  rcases toMicros_trichotomy a b with h | h | h
  · have hle : a.toMicros ≤ b.toMicros := by rw [lt_def] at h; rw [le_def]; omega
    exact iff_of_true (String.lt_asymm (stored_lt_stored ha hb h)) hle
  · have hle : a.toMicros ≤ b.toMicros := by rw [le_def, h]; omega
    rw [stored_eq_stored h]
    exact iff_of_true (String.le_refl _) hle
  · have hle : ¬ a.toMicros ≤ b.toMicros := by rw [lt_def] at h; rw [le_def]; omega
    exact iff_of_false (String.not_le.mpr (stored_lt_stored hb ha h)) hle

/-- The instant is at another or after it, to the microsecond. -/
def Reaches (t deadline : Instant) : Prop := deadline.toMicros ≤ t.toMicros

instance (t deadline : Instant) : Decidable (t.Reaches deadline) :=
  inferInstanceAs (Decidable (_ ≤ _))

theorem stored_le_iff_reaches {deadline t : Instant} (hd : deadline.Storable) (ht : t.Storable) :
    deadline.stored ≤ t.stored ↔ t.Reaches deadline :=
  stored_le_stored hd ht

/-- A clock that does not go back has reached what it reached before. -/
theorem Reaches.later {t t' deadline : Instant} (h : t.Reaches deadline) (ht : t ≤ t') :
    t'.Reaches deadline := by
  rw [Reaches, le_def] at h ⊢
  rw [le_def] at ht
  simp only [toMicros] at h ⊢
  omega

theorem le_refl (t : Instant) : t ≤ t := .inr ⟨rfl, Nat.le_refl _⟩

theorem le_trans {a b c : Instant} (hab : a ≤ b) (hbc : b ≤ c) : a ≤ c := by
  rw [le_def] at hab hbc ⊢
  omega

theorem le_total (a b : Instant) : a ≤ b ∨ b ≤ a := by
  rw [le_def, le_def]
  omega

theorem lt_of_not_le {a b : Instant} (h : ¬ a ≤ b) : b < a := by
  rw [le_def] at h
  rw [lt_def]
  omega

theorem le_antisymm {a b : Instant} (hab : a ≤ b) (hba : b ≤ a) : a = b := by
  obtain ⟨second, nano⟩ := a
  obtain ⟨second', nano'⟩ := b
  simp only [le_def, mk.injEq] at *
  omega

end Instant

end Sheltering
