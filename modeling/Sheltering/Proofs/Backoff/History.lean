import Mathlib.Data.Finset.Card
import Sheltering.Proofs.Backoff

/-!
# The past of a memory of failures

What a memory of failures answers follows from the failures that it was given. It drops closed
windows at a lookup and at a sweep, and that can be seen only in how many it keeps.

* `Backoff.Event`: a call to a memory, and what the clock showed; `Backoff.after`: the memory after
  a past.
* `Backoff.hoard`: the memory that drops nothing; `Backoff.Suppressed`: what the past says of an id.
* `Backoff.open_after`: the windows that are open are the same with and without the dropping.
* `Backoff.purges_unseen`: so lookups answer as the past says, a sweep leaves the open windows, and
  what is kept lies between the open windows and all ids that have failed.
-/

namespace Sheltering.Backoff

/-- A call to a memory of failures. -/
inductive Call where
  | remember (id : String) (ttl : Span)
  | lookup (id : String)
  | sweep
deriving DecidableEq, Repr

/-- A call, and what the clock showed. -/
structure Event where
  now : Instant
  call : Call
deriving DecidableEq, Repr

/-- A failure, and how long its id is to be left alone. -/
structure Failure where
  id : String
  time : Instant
  ttl : Span
deriving DecidableEq, Repr

namespace Event

/-- The failure that a call gives to the memory. -/
def failure? (e : Event) : Option Failure :=
  match e.call with
  | .remember id ttl => some ⟨id, e.now, ttl⟩
  | _ => none

/-- The memory after a call. -/
def apply (e : Event) (b : Backoff) : Backoff :=
  match e.call with
  | .remember id ttl => b.remember id ttl e.now
  | .lookup id => (b.lookup id e.now).2
  | .sweep => (b.sweep e.now).2

end Event

/-- The memory after the calls of a past, the latest first. -/
def after : List Event → Backoff
  | [] => empty
  | e :: past => e.apply (after past)

/-- The failures of a past, the latest first. -/
def failures (past : List Event) : List Failure := past.filterMap Event.failure?

/-- The memory of some failures that drops nothing. -/
def hoard : List Failure → Backoff
  | [] => empty
  | f :: fs => (hoard fs).remember f.id f.ttl f.time

/-- The id has failed, and the time of its latest failure is not over. -/
def Suppressed (fs : List Failure) (id : String) (t : Instant) : Prop :=
  ∃ f ∈ fs.find? (·.id = id), t < min (f.time.add f.ttl) Instant.last

instance (fs : List Failure) (id : String) (t : Instant) : Decidable (Suppressed fs id t) :=
  inferInstanceAs <| Decidable <|
    ∃ f ∈ fs.find? (·.id = id), t < min (f.time.add f.ttl) Instant.last

/-- The clock showed an instant of the calendar, and the time to wait is not negative. -/
def Failure.Fair (f : Failure) : Prop := f.time.Readable ∧ 0 ≤ f.ttl.nanos

instance (f : Failure) : Decidable f.Fair := inferInstanceAs (Decidable (_ ∧ _))

/-- In a past up to a reading of the clock the clock never went back, and all failures are fair. -/
def Chronological : List Event → Instant → Prop
  | [], _ => True
  | e :: past, now => e.now ≤ now ∧ (∀ f ∈ e.failure?, f.Fair) ∧ Chronological past e.now

variable {b : Backoff} {fs : List Failure} {past past' : List Event} {e : Event} {id : String}
  {now t : Instant}

/-! ## Open windows -/

theorem suppressed_cons {f : Failure} : Suppressed (f :: fs) id t ↔
    if id = f.id then t < min (f.time.add f.ttl) Instant.last else Suppressed fs id t := by
  unfold Suppressed
  rw [List.find?_cons]
  by_cases h : id = f.id
  · simp [h]
  · simp [h, Ne.symm h]

/-- A memory that drops nothing has the windows that the failures say. -/
theorem open_hoard (h : ∀ f ∈ fs, f.Fair) : (hoard fs).Open id t ↔ Suppressed fs id t := by
  induction fs with
  | nil => exact iff_of_false not_open_empty (by simp [Suppressed])
  | cons f fs ih =>
    obtain ⟨hf, hfs⟩ := List.forall_mem_cons.mp h
    rw [hoard, open_remember, suppressed_cons, lt_expiry_iff hf.1 hf.2, ih hfs]

theorem failures_cons : failures (e :: past) = e.failure?.toList ++ failures past := by
  rw [failures, List.filterMap_cons]
  cases e.failure? <;> rfl

/-- What is dropped was closed, and stays so as the clock does not go back. -/
theorem open_after (h : Chronological past now) (ht : now ≤ t) :
    (after past).Open id t ↔ (hoard (failures past)).Open id t := by
  induction past generalizing now with
  | nil => rfl
  | cons e past ih =>
    obtain ⟨hle, -, hpast⟩ := h
    have ht := Instant.le_trans hle ht
    obtain ⟨reading, call⟩ := e
    cases call with
    | remember id' ttl =>
      show ((after past).remember id' ttl reading).Open id t ↔
        ((hoard (failures past)).remember id' ttl reading).Open id t
      rw [open_remember, open_remember, ih hpast ht]
    | lookup id' =>
      show ((after past).lookup id' reading).2.Open id t ↔ _
      rw [open_lookup ht]
      exact ih hpast ht
    | sweep =>
      show ((after past).sweep reading).2.Open id t ↔ _
      rw [open_sweep ht]
      exact ih hpast ht

theorem Chronological.fair (h : Chronological past now) : ∀ f ∈ failures past, f.Fair := by
  induction past generalizing now with
  | nil => simp [failures]
  | cons e past ih =>
    rw [failures_cons]
    refine List.forall_mem_append.mpr ⟨fun f hf => ?_, ih h.2.2⟩
    exact h.2.1 f (Option.mem_toList.mp hf)

/-- The windows that are open are those that the past says. -/
theorem open_after_iff (h : Chronological past now) :
    (after past).Open id now ↔ Suppressed (failures past) id now := by
  rw [open_after h (Instant.le_refl now), open_hoard h.fair]

/-! ## Windows that are kept -/

/-- The ids that have a window, open or not. -/
def ids (b : Backoff) : Finset String := (b.windows.map (·.1)).toFinset

theorem card_ids (b : Backoff) : b.ids.card = b.size := by
  have h : (b.windows.map (·.1)).Nodup := List.pairwise_map.mpr b.distinct
  rw [ids, List.toFinset_card_of_nodup h, List.length_map, size]

theorem mem_ids : id ∈ b.ids ↔ ∃ expiry, b.get? id = some expiry := by
  rw [← Option.isSome_iff_exists, ← Option.ne_none_iff_isSome, get?, Ne, List.lookup_eq_none_iff]
  simp [ids]

/-- A sweep keeps the windows that are open, and no others. -/
theorem mem_ids_sweep : id ∈ (b.sweep now).2.ids ↔ b.Open id now := by
  rw [mem_ids]
  refine exists_congr fun expiry => ?_
  rw [get?_sweep, Option.filter_eq_some_iff, decide_eq_true_iff]

theorem ids_sweep_subset : (b.sweep now).2.ids ⊆ b.ids := by
  intro id h
  obtain ⟨expiry, hget, -⟩ := mem_ids_sweep.mp h
  exact mem_ids.mpr ⟨expiry, hget⟩

/-- A sweep counts the windows that it drops. -/
theorem sweep_eq_card : (b.sweep now).1 = (b.ids \ (b.sweep now).2.ids).card := by
  rw [Finset.card_sdiff_of_subset ids_sweep_subset, card_ids, card_ids]
  rfl

/-- The ids that have failed. -/
def failedIds (fs : List Failure) : Finset String := (fs.map (·.id)).toFinset

/-- The ids whose windows are open, as the failures say. -/
def suppressedIds (fs : List Failure) (t : Instant) : Finset String :=
  (failedIds fs).filter fun id => Suppressed fs id t

theorem mem_suppressedIds : id ∈ suppressedIds fs t ↔ Suppressed fs id t := by
  rw [suppressedIds, Finset.mem_filter, and_iff_right_iff_imp]
  rintro ⟨f, hf, -⟩
  have hid : f.id = id := by simpa using List.find?_some hf
  exact hid ▸ List.mem_toFinset.mpr (List.mem_map_of_mem (List.mem_of_find?_eq_some hf))

/-- Only what has failed has a window. -/
theorem ids_after_subset (past : List Event) : (after past).ids ⊆ failedIds (failures past) := by
  induction past with
  | nil => simp [after, ids, empty]
  | cons e past ih =>
    obtain ⟨reading, call⟩ := e
    intro id h
    obtain ⟨expiry, hget⟩ := mem_ids.mp h
    cases call with
    | remember id' ttl =>
      change ((after past).insert id' _).get? id = _ at hget
      rw [get?_insert] at hget
      show id ∈ failedIds (⟨id', reading, ttl⟩ :: failures past)
      by_cases hid : id = id'
      · simp [failedIds, hid]
      · rw [if_neg hid] at hget
        have := ih (mem_ids.mpr ⟨expiry, hget⟩)
        simp only [failedIds, List.map_cons, List.toFinset_cons, Finset.mem_insert]
        exact .inr this
    | lookup id' =>
      change ((after past).lookup id' reading).2.get? id = _ at hget
      rw [get?_lookup] at hget
      refine ih (mem_ids.mpr ⟨expiry, ?_⟩)
      split at hget
      · exact (Option.filter_eq_some_iff.mp hget).1
      · exact hget
    | sweep =>
      change ((after past).sweep reading).2.get? id = _ at hget
      rw [get?_sweep] at hget
      exact ih (mem_ids.mpr ⟨expiry, (Option.filter_eq_some_iff.mp hget).1⟩)

/-! ## What can be seen -/

/-- All that a memory shows at a reading of the clock follows from its past. -/
structure Faithful (past : List Event) (now : Instant) : Prop where
  /-- A lookup answers what the failures say. -/
  lookup : ∀ id, ((after past).lookup id now).1 = true ↔ Suppressed (failures past) id now
  /-- So does one in a memory that drops nothing. -/
  hoard : ∀ id, ((after past).lookup id now).1 = ((hoard (failures past)).lookup id now).1
  /-- A sweep leaves the windows that are open. -/
  swept : ((after past).sweep now).2.ids = suppressedIds (failures past) now
  /-- It counts the windows that it drops. -/
  dropped : ((after past).sweep now).1 =
    ((after past).ids \ ((after past).sweep now).2.ids).card
  /-- All open windows are kept. -/
  enough : (suppressedIds (failures past) now).card ≤ (after past).size
  /-- Each id that has failed has at most one. -/
  atMost : (after past).size ≤ (failedIds (failures past)).card

theorem faithful (h : Chronological past now) : Faithful past now where
  lookup id := by rw [lookup_eq, decide_eq_true_iff, open_after_iff h]
  hoard id := by simp only [lookup_eq, open_after h (Instant.le_refl now)]
  swept := by
    ext id
    rw [mem_ids_sweep, mem_suppressedIds, open_after_iff h]
  dropped := sweep_eq_card
  enough := by
    rw [← card_ids]
    refine Finset.card_le_card fun id hid => ?_
    obtain ⟨expiry, hget, -⟩ := (open_after_iff h).mpr (mem_suppressedIds.mp hid)
    exact mem_ids.mpr ⟨expiry, hget⟩
  atMost := card_ids (after past) ▸ Finset.card_le_card (ids_after_subset past)

/-- What a memory shows follows from its past. Another past with the same failures, whatever was
looked up or swept in it and when, leads to the same answers to lookups. -/
theorem purges_unseen (h : Chronological past now) :
    Faithful past now ∧ ∀ past', Chronological past' now → failures past' = failures past →
      ∀ id, ((after past').lookup id now).1 = ((after past).lookup id now).1 := by
  refine ⟨faithful h, fun past' h' hf id => ?_⟩
  rw [Bool.eq_iff_iff, (faithful h').lookup, (faithful h).lookup, hf]

/-! ## A window that is dropped -/

namespace Dropped

/-- The clock, some seconds after it was started. -/
def clock (seconds : Int) : Instant := ⟨1700000000 + seconds, 0⟩

/-- Two ids fail. The window of the first has closed when it is looked up, and is dropped. -/
def history : List Event :=
  [⟨clock 3, .lookup "brief"⟩, ⟨clock 1, .remember "long" (.ofSeconds 60)⟩,
    ⟨clock 0, .remember "brief" (.ofSeconds 1)⟩]

/-- The same failures, and no lookup. -/
def untouched : List Event := history.tail

theorem chronological : Chronological history (clock 10) :=
  ⟨by decide, by decide, by decide, by decide, by decide, by decide, trivial⟩

end Dropped

open Dropped in
/-- The memory has dropped a window, which no lookup can tell. -/
theorem purges_unseen_dropped :
    (after history).size = 1 ∧ (after untouched).size = 2 ∧ Faithful history (clock 10) ∧
      ∀ id, ((after untouched).lookup id (clock 10)).1 = ((after history).lookup id (clock 10)).1 := by
  obtain ⟨hfaithful, hsame⟩ := purges_unseen chronological
  refine ⟨by decide, by decide, hfaithful, hsame untouched ?_ rfl⟩
  exact ⟨by decide, chronological.2.2.2⟩

end Sheltering.Backoff
