import Sheltering.Instant.Calendar

/-!
# The calendar is in order

* `Date.yearStart`: the number of the day on which a year that begins in March starts.
* `Date.exists_ofDay_eq`: the date of a day, by its year and its place in it.
* `Date.ofDay_precedes`: a later day has a later date.
* `Date.toDay_ofDay`, `Date.valid_ofDay`: the date of a day exists, and leads back to the day.
-/

namespace Sheltering.Date

/-! ## Years -/

/-- The number of days before a year, from 0000-03-01 on. A year begins in March. -/
def yearStart (year : Int) : Int := 365 * year + year / 4 - year / 100 + year / 400

theorem yearStart_mono {a b : Int} (h : a ≤ b) : yearStart a ≤ yearStart b := by
  unfold yearStart; omega

/-- A day of an era by century `c`, span `s` of four years, year `y` and day `d`. Only the last year
of a span has 366 days, and the last span of a century but the last is a day short. -/
structure IsParts (c s y d : Int) : Prop where
  century : 0 ≤ c ∧ c ≤ 3
  span : 0 ≤ s ∧ s ≤ 24
  year : 0 ≤ y ∧ y ≤ 3
  day : 0 ≤ d ∧ d ≤ 365
  leap : d ≤ 364 ∨ (y = 3 ∧ (s ≤ 23 ∨ c = 3))

theorem exists_parts {n : Int} (h : 0 ≤ n ∧ n < 146097) :
    ∃ c s y d, IsParts c s y d ∧ n = 36524 * c + 1461 * s + 365 * y + d := by
  obtain ⟨c, r, hc, hr, hrc, rfl⟩ : ∃ c r, (0 ≤ c ∧ c ≤ 3) ∧ (0 ≤ r ∧ r ≤ 36524) ∧
      (r < 36524 ∨ c = 3) ∧ n = 36524 * c + r :=
    ⟨min (n / 36524) 3, n - 36524 * min (n / 36524) 3, by omega, by omega, by omega, by omega⟩
  clear h
  obtain ⟨s, q, hs, hq, rfl⟩ : ∃ s q, (0 ≤ s ∧ s ≤ 24) ∧ (0 ≤ q ∧ q ≤ 1460) ∧ r = 1461 * s + q :=
    ⟨r / 1461, r % 1461, by omega, by omega, by omega⟩
  obtain ⟨y, d, hy, hd, hl, rfl⟩ : ∃ y d, (0 ≤ y ∧ y ≤ 3) ∧ (0 ≤ d ∧ d ≤ 365) ∧
      (d ≤ 364 ∨ y = 3) ∧ q = 365 * y + d :=
    ⟨min (q / 365) 3, q - 365 * min (q / 365) 3, by omega, by omega, by omega, by omega⟩
  exact ⟨c, s, y, d, ⟨hc, hs, hy, hd, by omega⟩, by omega⟩

section

variable {c s y d n : Int}

/-- The quotient that gives the year of an era. -/
theorem IsParts.yearOfEra (h : IsParts c s y d) (hn : n = 36524 * c + 1461 * s + 365 * y + d) :
    (n - n / 1460 + n / 36524 - n / 146096) / 365 = 100 * c + 4 * s + y := by
  obtain ⟨hc, hs, hy, hd, hl⟩ := h
  have h₁ : n / 146096 = if n = 146096 then 1 else 0 := by split <;> omega
  have h₂ : n / 36524 = c + if n = 146096 then 1 else 0 := by split <;> omega
  have h₃ : n / 1460 = 25 * c + s + (24 * c + s + 365 * y + d) / 1460 := by omega
  have h₄ : (24 * c + s + 365 * y + d) / 1460 =
      if 24 * c + s + 365 * y + d < 1460 then 0 else 1 := by split <;> omega
  rw [h₁, h₂, h₃, h₄]
  split <;> split <;> omega

theorem IsParts.yearStart_le (h : IsParts c s y d)
    (hn : n = 36524 * c + 1461 * s + 365 * y + d) : yearStart (100 * c + 4 * s + y) ≤ n := by
  obtain ⟨hc, hs, hy, hd, -⟩ := h
  unfold yearStart
  omega

theorem IsParts.lt_yearStart (h : IsParts c s y d)
    (hn : n = 36524 * c + 1461 * s + 365 * y + d) : n < yearStart (100 * c + 4 * s + y + 1) := by
  obtain ⟨hc, hs, hy, hd, hl⟩ := h
  have h₄ : (100 * c + 4 * s + y + 1) / 4 = 25 * c + s + (y + 1) / 4 := by omega
  have h₁₀₀ : (100 * c + 4 * s + y + 1) / 100 = c + (4 * s + y + 1) / 100 := by omega
  have h₄₀₀ : (100 * c + 4 * s + y + 1) / 400 = (100 * c + 4 * s + y + 1) / 100 / 4 := by omega
  rw [yearStart, h₄, h₄₀₀, h₁₀₀]
  omega

end

/-- The year of an era has the day between its start and the start of the next. -/
theorem yearOfEra_spec {n y : Int} (h : 0 ≤ n ∧ n < 146097)
    (hy : (n - n / 1460 + n / 36524 - n / 146096) / 365 = y) :
    (0 ≤ y ∧ y ≤ 399) ∧ yearStart y ≤ n ∧ n < yearStart (y + 1) := by
  obtain ⟨c, s, y', d, hp, hn⟩ := exists_parts h
  rw [hp.yearOfEra hn] at hy
  subst hy
  refine ⟨?_, hp.yearStart_le hn, hp.lt_yearStart hn⟩
  obtain ⟨hc, hs, hy, -, -⟩ := hp
  omega

theorem yearStart_add_era (era y : Int) :
    yearStart (era * 400 + y) = 146097 * era + yearStart y := by
  unfold yearStart; omega

/-! ## Dates -/

/-- The date of a day of a year that begins in March. -/
def ofMarch (year dayOfYear : Int) : Date :=
  let month := (5 * dayOfYear + 2) / 153
  let day := dayOfYear - (153 * month + 2) / 5 + 1
  if month < 10 then ⟨year, (month + 3).toNat, day.toNat⟩
  else ⟨year + 1, (month - 9).toNat, day.toNat⟩

/-- The date of a day is that of its place in the year in which it lies. -/
theorem exists_ofDay_eq (day : Int) : ∃ year, yearStart year ≤ day + epoch ∧
    day + epoch < yearStart (year + 1) ∧
    ofDay day = ofMarch year (day + epoch - yearStart year) := by
  unfold ofDay
  generalize day + epoch = n
  obtain ⟨y, hy⟩ : ∃ y, (n % 146097 - n % 146097 / 1460 + n % 146097 / 36524 -
    n % 146097 / 146096) / 365 = y := ⟨_, rfl⟩
  obtain ⟨hy', hl, hu⟩ := yearOfEra_spec (by omega) hy
  have hs := yearStart_add_era (n / 146097) y
  have hs' := yearStart_add_era (n / 146097) (y + 1)
  rw [← Int.add_assoc] at hs'
  refine ⟨n / 146097 * 400 + y, by omega, by omega, ?_⟩
  have hd : n % 146097 - (365 * y + y / 4 - y / 100) = n - yearStart (n / 146097 * 400 + y) := by
    have : yearStart y = 365 * y + y / 4 - y / 100 := by unfold yearStart; omega
    omega
  simp only [hy, hd, ofMarch]

/-- One date is before another. -/
def Precedes (a b : Date) : Prop :=
  a.year < b.year ∨
    (a.year = b.year ∧ (a.month < b.month ∨ (a.month = b.month ∧ a.day < b.day)))

/-- A year that begins in March has at most 366 days. -/
theorem dayOfYear_le {year n : Int} (h : n < yearStart (year + 1)) : n - yearStart year ≤ 365 := by
  unfold yearStart at *; omega

theorem ofMarch_precedes {year₁ year₂ day₁ day₂ : Int} (h₁ : 0 ≤ day₁ ∧ day₁ ≤ 365)
    (h₂ : 0 ≤ day₂ ∧ day₂ ≤ 365) (h : year₁ < year₂ ∨ (year₁ = year₂ ∧ day₁ < day₂)) :
    (ofMarch year₁ day₁).Precedes (ofMarch year₂ day₂) := by
  unfold ofMarch Precedes
  dsimp only
  split <;> split <;> dsimp only <;> omega

/-- A later day has a later date. -/
theorem ofDay_precedes {m n : Int} (h : m < n) : (ofDay m).Precedes (ofDay n) := by
  obtain ⟨y₁, hl₁, hu₁, e₁⟩ := exists_ofDay_eq m
  obtain ⟨y₂, hl₂, hu₂, e₂⟩ := exists_ofDay_eq n
  have hd₁ := dayOfYear_le hu₁
  have hd₂ := dayOfYear_le hu₂
  rw [e₁, e₂]
  refine ofMarch_precedes (by omega) (by omega) ?_
  rcases Int.lt_trichotomy y₁ y₂ with hy | rfl | hy
  · exact .inl hy
  · exact .inr ⟨rfl, by omega⟩
  · have := yearStart_mono (show y₂ + 1 ≤ y₁ from hy)
    omega

/-- Months and days have at most two digits. -/
theorem ofDay_bounds (n : Int) : (ofDay n).month < 100 ∧ (ofDay n).day < 100 := by
  obtain ⟨y, hl, hu, e⟩ := exists_ofDay_eq n
  have hd := dayOfYear_le hu
  rw [e]
  unfold ofMarch
  dsimp only
  split <;> dsimp only <;> omega

/-! ## Days -/

variable {year dayOfYear : Int} {month day : Nat}

/-- A day of a year that begins in March lies in a month, counted from March on, with `day` days of
it before. -/
structure IsMonth (dayOfYear : Int) (month day : Nat) : Prop where
  month_lt : month < 12
  day_eq : dayOfYear = (153 * (month : Int) + 2) / 5 + day
  month_eq : (5 * dayOfYear + 2) / 153 = month

theorem exists_isMonth (h : 0 ≤ dayOfYear ∧ dayOfYear ≤ 365) :
    ∃ month day, IsMonth dayOfYear month day := by
  refine ⟨((5 * dayOfYear + 2) / 153).toNat,
    (dayOfYear - (153 * ((5 * dayOfYear + 2) / 153) + 2) / 5).toNat, ?_, ?_, ?_⟩ <;> omega

theorem IsMonth.ofMarch_eq (h : IsMonth dayOfYear month day) : ofMarch year dayOfYear =
    if month < 10 then ⟨year, month + 3, day + 1⟩ else ⟨year + 1, month - 9, day + 1⟩ := by
  obtain ⟨hm, hd, he⟩ := h
  have hday : dayOfYear - (153 * (month : Int) + 2) / 5 + 1 = (day + 1 : Nat) := by omega
  rw [ofMarch, he, hday, Int.toNat_natCast]
  split
  · rename_i hlt
    rw [if_pos (by omega), show (month : Int) + 3 = (month + 3 : Nat) by omega, Int.toNat_natCast]
  · rename_i hge
    rw [if_neg (by omega), show (month : Int) - 9 = (month - 9 : Nat) by omega, Int.toNat_natCast]

/-- A year by its era and its place in it. -/
theorem yearStart_eq (year : Int) : yearStart year = year / 400 * 146097 +
    (year % 400 * 365 + year % 400 / 4 - year % 400 / 100) := by
  unfold yearStart
  omega

/-- A date by its place in a year that begins in March leads back to the day. -/
theorem toDay_ofMarch (h : 0 ≤ dayOfYear ∧ dayOfYear ≤ 365) :
    (ofMarch year dayOfYear).toDay = yearStart year + dayOfYear - epoch := by
  obtain ⟨month, day, hmonth⟩ := exists_isMonth h
  have hm := hmonth.month_lt
  have hd := hmonth.day_eq
  rw [yearStart_eq, hmonth.ofMarch_eq, toDay]
  -- January and February belong to the year that began in March before them.
  split
  · rename_i hlt
    rw [if_neg (by dsimp only; omega)]
    dsimp only
    rw [show ((month + 3 : Nat) + 9 : Int) % 12 = month by omega]
    omega
  · rename_i hge
    rw [if_pos (by dsimp only; omega)]
    dsimp only
    rw [show ((month - 9 : Nat) + 9 : Int) % 12 = month by omega, Int.add_sub_cancel]
    omega

/-- The date of a day leads back to the day. -/
theorem toDay_ofDay (day : Int) : (ofDay day).toDay = day := by
  obtain ⟨year, hl, hu, e⟩ := exists_ofDay_eq day
  have hd := dayOfYear_le hu
  rw [e, toDay_ofMarch ⟨by omega, hd⟩]
  omega

/-- The year that begins in March ends with a 29 February if there is one. -/
theorem yearStart_succ (year : Int) :
    yearStart (year + 1) = yearStart year + 337 + daysInMonth (year + 1) 2 := by
  have hleap : isLeapYear (year + 1) = true ↔
      (year + 1) % 4 = 0 ∧ ((year + 1) % 100 ≠ 0 ∨ (year + 1) % 400 = 0) := by
    simp [isLeapYear]
  rw [daysInMonth, if_pos rfl]
  unfold yearStart
  split
  · rename_i h
    rw [hleap] at h
    omega
  · rename_i h
    rw [hleap] at h
    omega

theorem valid_ofMarch (h : 0 ≤ dayOfYear) (hu : dayOfYear < yearStart (year + 1) - yearStart year) :
    (ofMarch year dayOfYear).Valid := by
  have hle := dayOfYear_le (show dayOfYear + yearStart year < yearStart (year + 1) by omega)
  obtain ⟨month, day, hm, hd, he⟩ := exists_isMonth (show 0 ≤ dayOfYear ∧ dayOfYear ≤ 365 by omega)
  rw [yearStart_succ] at hu
  rw [IsMonth.ofMarch_eq ⟨hm, hd, he⟩, Valid]
  split
  · rename_i hlt
    refine ⟨by dsimp only; omega, by dsimp only; omega, by dsimp only; omega, ?_⟩
    rw [daysInMonth, if_neg (by dsimp only; omega)]
    dsimp only
    split <;> omega
  · rename_i hge
    refine ⟨by dsimp only; omega, by dsimp only; omega, by dsimp only; omega, ?_⟩
    obtain rfl | rfl : month = 10 ∨ month = 11 := by omega
    · show day + 1 ≤ 31
      omega
    · show day + 1 ≤ daysInMonth (year + 1) 2
      omega

theorem valid_ofDay (day : Int) : (ofDay day).Valid := by
  obtain ⟨year, hl, hu, e⟩ := exists_ofDay_eq day
  rw [e]
  exact valid_ofMarch (by omega) (by omega)

end Sheltering.Date
