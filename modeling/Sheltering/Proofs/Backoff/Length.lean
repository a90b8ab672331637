import Sheltering.Proofs.Backoff

/-!
# Longer windows

A window whose end is not in the calendar ends with the calendar. That is right for an end after the
calendar, but it is the same for an end before it, which only a length far below zero leads to.

* `Backoff.lookup_remember`: a lookup after a failure.
* `Backoff.expiry_of_lt_first`: a window that would end before the calendar stays open to its end.
* `Backoff.Outlasts`: one length keeps an id suppressed wherever another does.
* `Backoff.outlasts_iff`: a longer one does, unless the shorter one leads to before the calendar; nor
  does a negative one suppress anything otherwise.
-/

namespace Sheltering

namespace Backoff

open Instant (first last)

variable {b : Backoff} {id : String} {t now : Instant} {d d' : Span}

/-- A lookup after a failure compares the reading of the clock with the end of its window. -/
theorem lookup_remember : ((b.remember id d t).lookup id now).1 = decide (now < expiry t d) := by
  rw [lookup_eq]
  simp [open_remember]

/-- A window that would end before the calendar begins stays open until the calendar ends. -/
theorem expiry_of_lt_first (h : t.add d < first) : expiry t d = last := by
  have hout : ¬ (t.add d).InCalendar := by
    rw [Instant.lt_def] at h
    simp only [first] at h
    simp only [Instant.InCalendar, first]
    omega
  rw [expiry, Instant.add?, if_neg hout]
  rfl

/-- Where no end lies before the calendar, a longer window is open wherever a shorter one is. -/
theorem lt_expiry_of_le (hv : t.Valid) (ht : t ≤ last) (hd : d.nanos ≤ d'.nanos)
    (hfirst : first ≤ t.add d) (h : now < expiry t d) : now < expiry t d' := by
  have hmono := Instant.add_mono hv hd
  rw [lt_expiry_iff_of_first_le ht hfirst, Instant.lt_min_iff] at h
  rw [lt_expiry_iff_of_first_le ht (Instant.le_trans hfirst hmono), Instant.lt_min_iff]
  exact ⟨Instant.lt_of_lt_of_le h.1 hmono, h.2⟩

/-- Where its end does not lie before the calendar, a negative length opens no window. -/
theorem not_lt_expiry_of_neg (hv : t.Valid) (ht : t ≤ last) (hd : d.nanos < 0)
    (hfirst : first ≤ t.add d) (hnow : t ≤ now) : ¬ now < expiry t d := by
  have hmono : t.add d ≤ t := by
    have h : t.add d ≤ t.add ⟨0⟩ := Instant.add_mono hv (Int.le_of_lt hd)
    rwa [Instant.add_zero hv] at h
  rw [lt_expiry_iff_of_first_le ht hfirst, Instant.lt_min_iff]
  intro h
  exact Instant.not_lt.mpr hnow (Instant.lt_of_lt_of_le h.1 hmono)

/-! ## What a longer length does -/

/-- After a failure at an instant, an id that is suppressed for one length is so for another, at any
later reading of the clock. -/
def Outlasts (b : Backoff) (id : String) (t : Instant) (d' d : Span) : Prop :=
  ∀ now, now.Valid → now.Readable → t ≤ now →
    ((b.remember id d t).lookup id now).1 = true → ((b.remember id d' t).lookup id now).1 = true

/-- After a failure at an instant, an id is never suppressed. -/
def Spares (b : Backoff) (id : String) (t : Instant) (d : Span) : Prop :=
  ∀ now, now.Valid → now.Readable → t ≤ now → ((b.remember id d t).lookup id now).1 = false

/-- When the shorter window would end before the calendar and the longer one ends in it, there is a
reading of the clock between the two ends. -/
theorem not_outlasts (hv : t.Valid) (hr : t.Readable) (hbefore : t.add d < first)
    (hfirst : first ≤ t.add d') (hlast : t.add d' < last) (ht : t < last) :
    ¬ b.Outlasts id t d' d := by
  intro h
  -- The later of the failure itself and the end of the longer window.
  obtain ⟨now, hnow⟩ : ∃ now : Instant, now.Valid ∧ now.Readable ∧ t ≤ now ∧ t.add d' ≤ now ∧
      now < last := by
    rcases Instant.le_total t (t.add d') with hle | hle
    · exact ⟨_, hv.add, ⟨hfirst, Instant.le_of_lt hlast⟩, hle, Instant.le_refl _, hlast⟩
    · exact ⟨t, hv, hr, Instant.le_refl _, hle, ht⟩
  obtain ⟨hvalid, hreadable, hlater, hend, hopen⟩ := hnow
  have hlong := h now hvalid hreadable hlater
  rw [lookup_remember, lookup_remember, decide_eq_true_iff, decide_eq_true_iff,
    expiry_of_lt_first hbefore, lt_expiry_iff_of_first_le hr.2 hfirst, Instant.lt_min_iff] at hlong
  exact Instant.not_lt.mpr hend (hlong hopen).1

/-- A longer window closes no earlier, but for one case: the shorter one would end before the calendar
begins, and the longer one ends in it. Likewise a negative length never suppresses an id, but for the
case that it leads to before the calendar. -/
theorem outlasts_iff (b : Backoff) (id : String) (hv : t.Valid) (hr : t.Readable) :
    (∀ d d' : Span, d.nanos ≤ d'.nanos → (b.Outlasts id t d' d ↔
      ¬ (t.add d < first ∧ first ≤ t.add d' ∧ t.add d' < last ∧ t < last))) ∧
    ∀ d : Span, d.nanos < 0 → (b.Spares id t d ↔ ¬ (t.add d < first ∧ t < last)) := by
  refine ⟨fun d d' hd => ⟨?_, ?_⟩, fun d hd => ⟨?_, ?_⟩⟩
  · rintro h ⟨hbefore, hfirst, hlast, ht⟩
    exact not_outlasts hv hr hbefore hfirst hlast ht h
  · intro hexcept now _ _ hnow h
    rw [lookup_remember, decide_eq_true_iff] at h ⊢
    by_cases hbefore : t.add d < first
    · rw [expiry_of_lt_first hbefore] at h
      by_cases hbefore' : t.add d' < first
      · rwa [expiry_of_lt_first hbefore']
      · rw [lt_expiry_iff_of_first_le hr.2 (Instant.not_lt.mp hbefore'), Instant.lt_min_iff]
        have ht := Instant.lt_of_le_of_lt hnow h
        have hlast : last ≤ t.add d' := Instant.not_lt.mp fun hlt =>
          hexcept ⟨hbefore, Instant.not_lt.mp hbefore', hlt, ht⟩
        exact ⟨Instant.lt_of_lt_of_le h hlast, h⟩
    · exact lt_expiry_of_le hv hr.2 hd (Instant.not_lt.mp hbefore) h
  · rintro h ⟨hbefore, ht⟩
    have hnone := h t hv hr (Instant.le_refl t)
    rw [lookup_remember, decide_eq_false_iff_not, expiry_of_lt_first hbefore] at hnone
    exact hnone ht
  · intro hexcept now _ _ hnow
    rw [lookup_remember, decide_eq_false_iff_not]
    by_cases hbefore : t.add d < first
    · rw [expiry_of_lt_first hbefore]
      intro hlt
      exact hexcept ⟨hbefore, Instant.lt_of_le_of_lt hnow hlt⟩
    · exact not_lt_expiry_of_neg hv hr.2 hd (Instant.not_lt.mp hbefore) hnow

/-! ## The longest length below zero -/

namespace Bygone

/-- The first second of 2024. -/
def start : Instant := ⟨1704067200, 0⟩

/-- The longest length below zero that is known. -/
def bygone : Span := ⟨-Span.longest.nanos⟩

/-- A hundred years later. -/
def later : Instant := ⟨4859827200, 0⟩

end Bygone

open Bygone in
/-- Two lengths of some seconds are as they should be, and a length below zero that stays within the
calendar suppresses nothing. -/
theorem outlasts_iff_seconds : empty.Outlasts "c1" start (.ofSeconds 5) (.ofSeconds 2) ∧
    empty.Spares "c1" start (.ofSeconds (-5)) := by
  obtain ⟨hlonger, hnegative⟩ := outlasts_iff (t := start) empty "c1" (by decide) (by decide)
  exact ⟨(hlonger _ _ (by decide)).mpr (by decide), (hnegative _ (by decide)).mpr (by decide)⟩

open Bygone in
/-- The longest length below zero suppresses an id for more than a hundred years, and one second does
not: a longer window closes earlier. -/
theorem bygone_suppresses :
    bygone.nanos < 0 ∧ ((empty.remember "c1" bygone start).lookup "c1" start).1 = true ∧
      ((empty.remember "c1" bygone start).lookup "c1" later).1 = true ∧
      ((empty.remember "c1" (.ofSeconds 1) start).lookup "c1" later).1 = false := by
  decide

end Backoff

end Sheltering
