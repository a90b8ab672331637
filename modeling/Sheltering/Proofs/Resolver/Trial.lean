import Sheltering.Proofs.Resolver.Recall
import Sheltering.Resolver.Attempt

/-!
# Trials

Whether an attempt is skipped because of a failure can be told from the attempts before it.

* `Trial`: an attempt as it went.
* `Trial.Suppressed`: what the trials of the past say of an id.
* `Trial.Disciplined`: an attempt is skipped exactly when the past says so, and then asks nobody.
* `Trial.Remembered`: the windows of a memory are those that the past says; `Remembered.skipped`,
  `Remembered.unfailed`, `Remembered.failed`: they are so after one more trial.
-/

namespace Sheltering

open Dialogue (Held)
open Recall (Later)

/-- An attempt as it went: its proposition, its beats, and its end. -/
structure Trial where
  proposition : Proposition
  beats : List (Beat Query Recall)
  ending : Reply Outcome

namespace Trial

/-- The end of an attempt that was skipped because of a failure. -/
abbrev suppression : Reply Outcome := .answer (.skipped .recentlyFailed)

/-- What the clock showed when the attempt looked up its window. -/
def start? (trial : Trial) : Option Instant := trial.beats.head?.map (·.after.now)

/-- The attempt failed at an instant, and the strategy answered with a retry timeout. -/
def FailedAt (trial : Trial) (now : Instant) (ttl : Span) : Prop :=
  (∃ fault, trial.ending = .answer (.failed fault)) ∧
    ∃ earlier m m', m'.now = now ∧ trial.beats = earlier ++
      [⟨⟨.retryTimeout, .answer ttl⟩, m⟩, ⟨⟨.remember trial.proposition.id ttl, .answer ()⟩, m'⟩]

/-- Of the trials of the past, the latest first, the latest at an id that was not skipped because of
a failure itself. -/
def latest? (past : List Trial) (id : String) : Option Trial :=
  past.find? fun trial => trial.proposition.id = id ∧ trial.ending ≠ suppression

/-- The past suppresses attempts at an id: the latest failed, and its retry timeout is not over. -/
def Suppressed (past : List Trial) (id : String) (t : Instant) : Prop :=
  ∃ trial now ttl, latest? past id = some trial ∧ trial.FailedAt now ttl ∧
    t < min (now.add ttl) Instant.last

/-- An attempt as the trials of the past demand. -/
structure Disciplined (r : Resolver) (past : List Trial) (trial : Trial) : Prop where
  goes : (Resolver.attempt r trial.proposition).Held (trial.beats.map (·.exchange)) trial.ending
  /-- It is skipped because of a failure exactly when the past suppresses it. -/
  skipped : ∃ now, trial.start? = some now ∧
    (trial.ending = suppression ↔ Suppressed past trial.proposition.id now)
  /-- Then it asks nobody but the memory. -/
  silent : trial.ending = suppression →
    trial.beats.map (·.exchange.question) = [.isSuppressed trial.proposition.id]
  /-- A failure has an instant and a retry timeout. -/
  failed : ∀ fault, trial.ending = .answer (.failed fault) → ∃ now ttl, trial.FailedAt now ttl

/-- Each trial is disciplined, given those before it and a past. -/
def AllDisciplined (r : Resolver) (past : List Trial) : List Trial → Prop
  | [] => True
  | trial :: trials => trial.Disciplined r past ∧ AllDisciplined r (trial :: past) trials

/-- The windows that are open, now or later, are those that the past says. -/
def Remembered (past : List Trial) (m : Recall) : Prop :=
  ∀ id t, m.now ≤ t → (m.backoff.Open id t ↔ Suppressed past id t)

variable {r : Resolver} {past : List Trial} {trial : Trial} {trials more : List Trial}
  {m m' : Recall} {id : String} {now now' t : Instant} {ttl ttl' : Span}

theorem FailedAt.unique (h : trial.FailedAt now ttl) (h' : trial.FailedAt now' ttl') :
    now = now' ∧ ttl = ttl' := by
  obtain ⟨-, earlier, m, m₁, rfl, h⟩ := h
  obtain ⟨-, earlier', m', m₁', rfl, h'⟩ := h'
  obtain ⟨-, hlast⟩ := List.append_inj' (h.symm.trans h') rfl
  simp only [List.cons.injEq, Beat.mk.injEq] at hlast
  obtain ⟨⟨hask, -⟩, ⟨-, rfl⟩, -⟩ := hlast
  cases hask
  exact ⟨rfl, rfl⟩

/-! ## What one more trial changes -/

theorem latest?_cons : latest? (trial :: past) id =
    if trial.proposition.id = id ∧ trial.ending ≠ suppression then some trial
    else latest? past id := by
  rw [latest?, List.find?_cons]
  by_cases h : trial.proposition.id = id ∧ trial.ending ≠ suppression
  · rw [if_pos h, decide_eq_true h]
  · rw [if_neg h, decide_eq_false h]
    rfl

/-- A trial that was skipped because of a failure, or was at another id, changes nothing. -/
theorem suppressed_cons_of_not (h : ¬ (trial.proposition.id = id ∧ trial.ending ≠ suppression)) :
    Suppressed (trial :: past) id t ↔ Suppressed past id t := by
  rw [Suppressed, latest?_cons, if_neg h, Suppressed]

theorem suppressed_cons_self (hs : trial.ending ≠ suppression) :
    Suppressed (trial :: past) trial.proposition.id t ↔
      ∃ now ttl, trial.FailedAt now ttl ∧ t < min (now.add ttl) Instant.last := by
  rw [Suppressed, latest?_cons, if_pos ⟨rfl, hs⟩]
  constructor
  · rintro ⟨trial', now, ttl, he, hf, ht⟩
    cases he
    exact ⟨now, ttl, hf, ht⟩
  · rintro ⟨now, ttl, hf, ht⟩
    exact ⟨trial, now, ttl, rfl, hf, ht⟩

theorem not_suppressed_nil : ¬ Suppressed [] id t := by
  rintro ⟨trial, now, ttl, he, -⟩
  cases he

/-- A window that is open was open before. -/
theorem Suppressed.earlier (hle : now ≤ t) (h : Suppressed past id t) :
    Suppressed past id now := by
  obtain ⟨trial, now', ttl, hl, hf, hlt⟩ := h
  exact ⟨trial, now', ttl, hl, hf, Instant.lt_of_le_of_lt hle hlt⟩

/-- Time alone changes nothing. -/
theorem Remembered.later (h : Remembered past m) (hm : Later m m') : Remembered past m' :=
  fun id t ht => (hm.windows id t ht).trans (h id t (Instant.le_trans hm.le ht))

/-- A trial that was skipped because of a failure opens no window. -/
theorem Remembered.skipped (h : Remembered past m) (he : trial.ending = suppression) :
    Remembered (trial :: past) m :=
  fun id t ht => (h id t ht).trans (suppressed_cons_of_not fun hne => hne.2 he).symm

/-- A trial that began without a window and did not fail leaves none. -/
theorem Remembered.unfailed (h : Remembered past m)
    (hs : ¬ Suppressed past trial.proposition.id m.now) (hne : trial.ending ≠ suppression)
    (hf : ∀ fault, trial.ending ≠ .answer (.failed fault)) : Remembered (trial :: past) m := by
  intro id t ht
  by_cases hid : trial.proposition.id = id
  · subst hid
    rw [h _ t ht, suppressed_cons_self hne]
    exact iff_of_false (hs ∘ Suppressed.earlier ht) fun ⟨_, _, ⟨⟨fault, he⟩, _⟩, _⟩ => hf fault he
  · rw [h id t ht, suppressed_cons_of_not fun hp => hid hp.1]

/-- A failure that is remembered opens the window of its id, and no other. -/
theorem Remembered.failed (h : Remembered past m)
    (hm : Recall.conduct (.remember trial.proposition.id ttl) m (.answer ()) m')
    (hd : 0 ≤ ttl.nanos) (hf : trial.FailedAt m'.now ttl) : Remembered (trial :: past) m' := by
  have hne : trial.ending ≠ suppression := by
    obtain ⟨⟨fault, he⟩, -⟩ := hf
    rw [he]
    exact nofun
  intro id t ht
  rw [Recall.open_of_remember hm hd]
  split
  · rename_i hid
    rw [hid, suppressed_cons_self hne]
    constructor
    · exact fun hlt => ⟨_, ttl, hf, hlt⟩
    · rintro ⟨now, ttl', hf', hlt⟩
      obtain ⟨rfl, rfl⟩ := hf.unique hf'
      exact hlt
  · rename_i hid
    rw [suppressed_cons_of_not fun hp => hid hp.1.symm]
    exact h id t (Instant.le_trans hm.1 ht)

theorem allDisciplined_append (h : AllDisciplined r past trials)
    (h' : AllDisciplined r (trials.reverse ++ past) more) :
    AllDisciplined r past (trials ++ more) := by
  induction trials generalizing past with
  | nil => exact h'
  | cons trial trials ih =>
    refine ⟨h.1, ih h.2 ?_⟩
    rw [List.reverse_cons, List.append_assoc] at h'
    exact h'

end Trial

end Sheltering
