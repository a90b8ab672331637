import Sheltering.Proofs.Instant.Reading

/-!
# Years and moved instants

* `Date.year_le_iff`: the year of a day, read off the number of the day.
* `Instant.storable_iff`: the seconds in which an instant can be stored.
* `Instant.Valid.add`: a moved instant is one that UTC knows.
* `Instant.add_ofSeconds`: an instant moved by whole seconds.
* `Instant.add_cases`: the ways in which a leap second counts; `Instant.add_mono`: a longer span ends
  no earlier.
-/

namespace Sheltering

/-- A day lies in a year or an earlier one when it comes before the next January. -/
theorem Date.year_le_iff {day year : Int} :
    (ofDay day).year ≤ year ↔ day + epoch < yearStart year + 306 := by
  obtain ⟨y, hl, hu, e⟩ := exists_ofDay_eq day
  have place : (ofDay day).year = if day + epoch < yearStart y + 306 then y else y + 1 := by
    have hd := dayOfYear_le hu
    rw [e, ofMarch]
    split <;> split <;> dsimp only <;> omega
  rcases Int.lt_trichotomy year y with h | rfl | h
  · have later := yearStart_mono (show year + 1 ≤ y from h)
    have long : yearStart year + 365 ≤ yearStart (year + 1) := by unfold yearStart; omega
    rw [place]
    split <;> omega
  · rw [place]
    split <;> omega
  · have later := yearStart_mono (show y + 1 ≤ year from h)
    rw [place]
    split <;> omega

namespace Span

/-- A span has no whole second when it is shorter than one, in either direction. -/
theorem seconds_eq_zero_iff (d : Span) :
    d.seconds = 0 ↔ -1000000000 < d.nanos ∧ d.nanos < 1000000000 := by
  have hsign : Int.sign 1000000000 = 1 := rfl
  rw [seconds, Int.tdiv_eq_ediv, hsign]
  split <;> omega

theorem seconds_add_subsecond (d : Span) : 1000000000 * d.seconds + d.subsecond = d.nanos :=
  Int.mul_tdiv_add_tmod d.nanos 1000000000

end Span

namespace Instant

variable {t u : Instant} {d d' : Span} {n : Int}

theorem year_le_iff {year : Int} : t.civil.date.year ≤ year ↔
    t.second < (Date.yearStart year + 306 - Date.epoch) * 86400 := by
  have h : (Date.ofDay (t.second / 86400)).year ≤ year ↔ _ := Date.year_le_iff
  rw [civil, h]
  omega

/-- What can be stored lies between the start of the year 0 and the end of the year 9999. -/
theorem storable_iff :
    t.Storable ↔ t.Valid ∧ -62167219200 ≤ t.second ∧ t.second < 253402300800 := by
  have low : t.civil.date.year ≤ -1 ↔ t.second < -62167219200 := year_le_iff
  have high : t.civil.date.year ≤ 9999 ↔ t.second < 253402300800 := year_le_iff
  constructor
  · rintro ⟨valid, year⟩
    exact ⟨valid, by omega, by omega⟩
  · rintro ⟨valid, second⟩
    exact ⟨valid, by omega, by omega⟩

theorem valid_ofNanos (n : Int) : (ofNanos n).Valid := by
  have h : (n % 1000000000).toNat < 1000000000 := by omega
  exact ⟨Nat.lt_trans h (by decide), fun hle => absurd h (Nat.not_lt.mpr hle)⟩

/-- A moved instant is one that UTC knows. -/
theorem Valid.add (h : t.Valid) : (t.add d).Valid := by
  unfold Instant.add
  dsimp only
  split
  · rename_i stays
    obtain ⟨leap, -, hn⟩ := stays
    have hleap := h.2 (of_decide_eq_true leap)
    exact ⟨by dsimp only; omega, fun _ => hleap⟩
  · exact valid_ofNanos _

theorem Valid.add? (h : t.Valid) (hd : t.add? d = some u) : u.Valid := by
  rw [Instant.add?] at hd
  split at hd
  · cases hd
    exact h.add
  · cases hd

/-- A whole number of seconds ends a leap second. -/
theorem add_ofSeconds (h : t.Valid) (hn : 1 ≤ n) :
    t.add (.ofSeconds n) = ⟨t.second + n, t.nano % 1000000000⟩ := by
  obtain ⟨hnano, -⟩ := h
  have seconds : (Span.ofSeconds n).seconds = n := Int.mul_tdiv_cancel n (by decide)
  rw [Instant.add, if_neg (by omega)]
  simp only [Span.ofSeconds, ofNanos, isLeap, decide_eq_true_eq, mk.injEq]
  split <;> omega

/-! ## Leap seconds -/

/-- A span begins and ends in one leap second. -/
def Lingers (t : Instant) (d : Span) : Prop :=
  1000000000 ≤ t.nano ∧ -1000000000 < d.nanos ∧ d.nanos < 1000000000 ∧
    t.nano + d.nanos < 2000000000

/-- A span ends in the leap second in which it begins, or goes on and skips it, or there is none to
skip. -/
theorem add_cases (t : Instant) (d : Span) :
    (t.Lingers d ∧ t.add d = ⟨t.second, (t.nano + d.nanos).toNat⟩) ∨
    (¬ t.Lingers d ∧ (1000000000 ≤ t.nano ∧ 0 ≤ d.nanos) ∧
      t.add d = ofNanos (t.second * 1000000000 + t.nano - 1000000000 + d.nanos)) ∨
    (¬ t.Lingers d ∧ ¬ (1000000000 ≤ t.nano ∧ 0 ≤ d.nanos) ∧
      t.add d = ofNanos (t.second * 1000000000 + t.nano + d.nanos)) := by
  have hs := d.seconds_eq_zero_iff
  have hd := d.seconds_add_subsecond
  have hadd : t.add d = _ := add.eq_1 t d
  simp only [isLeap, decide_eq_true_eq] at hadd
  by_cases h : t.Lingers d
  · have hl := h
    unfold Lingers at hl
    rw [if_pos (by omega)] at hadd
    refine .inl ⟨h, ?_⟩
    rw [hadd, show d.subsecond = d.nanos by omega]
  · have hl := h
    unfold Lingers at hl
    rw [if_neg (by omega)] at hadd
    by_cases hskip : 1000000000 ≤ t.nano ∧ 0 ≤ d.nanos
    · rw [if_pos hskip] at hadd
      exact .inr (.inl ⟨h, hskip, hadd⟩)
    · rw [if_neg hskip, Int.sub_zero] at hadd
      exact .inr (.inr ⟨h, hskip, hadd⟩)

/-- A longer span ends no earlier, also where one of the two leaves a leap second. -/
theorem add_mono (ht : t.Valid) (h : d.nanos ≤ d'.nanos) : t.add d ≤ t.add d' := by
  have hnano := ht.1
  rcases add_cases t d with ⟨h₁, e₁⟩ | ⟨h₁, hskip₁, e₁⟩ | ⟨h₁, hskip₁, e₁⟩ <;>
  rcases add_cases t d' with ⟨h₂, e₂⟩ | ⟨h₂, hskip₂, e₂⟩ | ⟨h₂, hskip₂, e₂⟩ <;>
  · unfold Lingers at h₁ h₂
    rw [e₁, e₂, le_def]
    dsimp only [ofNanos]
    omega

/-- No time passes. -/
theorem add_zero (ht : t.Valid) : t.add ⟨0⟩ = t := by
  obtain ⟨second, nano⟩ := t
  obtain ⟨hnano : nano < 2000000000, -⟩ := ht
  rcases add_cases ⟨second, nano⟩ ⟨0⟩ with ⟨-, e⟩ | ⟨h, hskip, -⟩ | ⟨-, hskip, e⟩
  · simpa using e
  · simp only [Lingers] at h hskip
    omega
  · simp only at hskip
    rw [e]
    simp only [ofNanos, mk.injEq]
    omega

theorem add?_zero (h : t.Valid) (hc : t.InCalendar) : t.add? ⟨0⟩ = some t := by
  rw [add?, add_zero h]
  exact if_pos hc

end Instant

end Sheltering
