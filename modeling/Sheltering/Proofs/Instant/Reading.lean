import Sheltering.Instant.Reader
import Sheltering.Proofs.Instant.Stored

/-!
# Stored timestamps are read back

* `Instant.Storable.inCalendar`: what can be stored lies within the calendar.
* `Instant.toInstant_civil`: what calendars and clocks show at an instant leads back to it.
* `Instant.ofStored?_stored`: a stored timestamp is read as its instant, cut to microseconds.
-/

namespace Sheltering

open Text

namespace Instant

variable {t : Instant}

/-! ## Calendars and clocks -/

theorem Storable.inCalendar (h : t.Storable) : t.InCalendar := by
  obtain ⟨-, hyear⟩ := h
  obtain ⟨year, hl, hu, e⟩ := Date.exists_ofDay_eq (t.second / 86400)
  have hmarch : year = t.civil.date.year ∨ year + 1 = t.civil.date.year := by
    rw [civil, e, Date.ofMarch]
    dsimp only
    split
    · exact .inl rfl
    · exact .inr rfl
  have hlow := Date.yearStart_mono (show -1 ≤ year by omega)
  have hhigh := Date.yearStart_mono (show year + 1 ≤ 10000 by omega)
  have hfirst : Date.yearStart (-1) = -366 := rfl
  have hlast : Date.yearStart 10000 = 3652425 := rfl
  rw [Date.epoch] at hl hu
  exact ⟨show (-8334601228800 : Int) ≤ _ by omega, show _ ≤ (8210266876799 : Int) by omega⟩

theorem valid_civil (t : Instant) : t.civil.Valid := by
  refine ⟨Date.valid_ofDay _, ?_⟩
  simp only [civil]
  split <;> omega

/-- What calendars and clocks show at an instant leads back to it. -/
theorem toInstant_civil (h : t.Valid) : t.civil.toInstant = t := by
  obtain ⟨second, nano⟩ := t
  obtain ⟨hnano : nano < 2000000000, hleap : 1000000000 ≤ nano → second % 60 = 59⟩ := h
  simp only [Civil.toInstant, civil, Date.toDay_ofDay, isLeap, decide_eq_true_eq, mk.injEq]
  constructor
  · split <;> omega
  · split <;> split <;> omega

/-- At an instant cut to microseconds clocks show the same but for the fraction. -/
theorem civil_toMicros (t : Instant) :
    t.toMicros.civil = { t.civil with nano := t.civil.nano / 1000 * 1000 } := by
  have hleap : t.toMicros.isLeap = t.isLeap := by
    rw [isLeap, isLeap, decide_eq_decide]
    simp only [toMicros]
    omega
  simp only [civil, hleap]
  simp only [toMicros, Civil.mk.injEq, true_and]
  omega

theorem Storable.toMicros (h : t.Storable) : t.toMicros.Storable := by
  obtain ⟨⟨hnano, hleap⟩, hyear⟩ := h
  refine ⟨⟨?_, fun hl => hleap ?_⟩, ?_⟩
  · simp only [Instant.toMicros]
    omega
  · simp only [Instant.toMicros] at hl
    omega
  · rw [civil_toMicros]
    exact hyear

@[simp] theorem toMicros_toMicros (t : Instant) : t.toMicros.toMicros = t.toMicros := by
  simp only [toMicros, mk.injEq, true_and]
  omega

/-! ## Fields -/

/-- A padded number is read whole, whatever follows. -/
theorem number?_padded {w n : Nat} (hw : 0 < w) (hn : n < Nat.pow 10 w) (text : List Char) :
    number? w w (padded w n ++ text) = some (n, text) := by
  have hspan := spanDigits_padded hw hn 0 text
  rw [Nat.add_zero, spanDigits, List.append_nil] at hspan
  rw [number?, hspan]
  dsimp only
  rw [length_digitsOf, if_neg (Nat.lt_irrefl w), ofDigits_digitsOf hn]

theorem mark?_cons (c : Char) (text : List Char) : mark? c (c :: text) = some text := if_pos rfl

theorem timeMark?_cons (text : List Char) : timeMark? ('T' :: text) = some text := rfl

theorem offset?_utc (separator : List Char → Option (List Char)) :
    offset? separator ['Z'] = some (0, []) := rfl

/-- A fraction of six digits is one of microseconds. -/
theorem fraction?_padded {n : Nat} (hn : n < 1000000) :
    fraction? ('.' :: (padded 6 n ++ ['Z'])) = some (n * 1000, ['Z']) := by
  have hspan := spanDigits_padded (by decide : 0 < 6) (show n < Nat.pow 10 6 from hn) 3 ['Z']
  have hz : spanDigits 3 ['Z'] = ([], ['Z']) := by decide
  rw [hz, List.append_nil] at hspan
  have hne : (digitsOf 6 n).isEmpty = false := by
    rw [List.isEmpty_eq_false_iff, ← List.length_pos_iff, length_digitsOf]
    decide
  rw [fraction?, hspan]
  dsimp only
  rw [hne, length_digitsOf, ofDigits_digitsOf hn]
  rfl

/-! ## Timestamps -/

/-- A stored timestamp is read as its instant, cut to microseconds. -/
theorem ofStored?_stored (h : t.Storable) : ofStored? t.stored = some t.toMicros := by
  obtain ⟨hmonth, hday, hhour, hminute, hsecond, hnano⟩ := civil_bounds t
  obtain ⟨hlow, hhigh⟩ := h.year
  have hcivil : ofCivil? t.toMicros.civil 0 = some t.toMicros := by
    have hc := h.toMicros.inCalendar
    rw [ofCivil?, if_pos (valid_civil _), toInstant_civil h.toMicros.valid]
    simp only [Int.sub_zero, if_pos (And.intro hc hc)]
  rw [civil_toMicros] at hcivil
  have hyear : ((t.civil.date.year.toNat : Nat) : Int) = t.civil.date.year :=
    Int.toNat_of_nonneg hlow
  rw [ofStored?, stored, String.toList_ofList, storedChars_eq h, ofStoredChars?]
  simp only [number?_padded (by decide : 0 < 4) (show t.civil.date.year.toNat < 10000 by omega),
    number?_padded (by decide : 0 < 2) hmonth, number?_padded (by decide : 0 < 2) hday,
    number?_padded (by decide : 0 < 2) hhour, number?_padded (by decide : 0 < 2) hminute,
    number?_padded (by decide : 0 < 2) hsecond, fraction?_padded hnano, mark?_cons,
    timeMark?_cons, offset?_utc, Option.bind_eq_bind, Option.bind_some, hyear]
  exact hcivil

end Instant

end Sheltering
