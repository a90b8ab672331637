import Mathlib.Data.List.Nodup
import Sheltering.Fault
import Sheltering.Proofs.Instant.Stored

/-!
# The latest of some items

A listing sorts items by their time, latest first, cuts off what is too much, and reads the rest.

* `latest`: the items in that order.
* `pairwise_latest`: the items stand in the order of their times.
* `pairwise_latest_stable`: of one time the item that was put in later comes first.
* `rel_of_take_of_drop`: what is cut off stands after what is left.
* `mapM_take_latest`: rows that can be read one by one can be listed.
-/

namespace Sheltering

variable {α β γ : Type}

/-- Sorts items by their time, latest first; of one time the one put in last is the first. -/
def latest (time : α → Instant) (items : List α) : List α :=
  items.reverse.mergeSort fun a b => time b ≤ time a

variable {time : α → Instant} {items : List α}

theorem latest_trans (a b c : α) (hab : decide (time b ≤ time a) = true)
    (hbc : decide (time c ≤ time b) = true) : decide (time c ≤ time a) = true :=
  decide_eq_true (Instant.le_trans (of_decide_eq_true hbc) (of_decide_eq_true hab))

theorem latest_total (a b : α) :
    (decide (time b ≤ time a) || decide (time a ≤ time b)) = true := by
  simpa using Instant.le_total (time b) (time a)

theorem latest_perm : (latest time items).Perm items :=
  (List.mergeSort_perm _ _).trans (List.reverse_perm items)

theorem pairwise_latest : (latest time items).Pairwise fun a b => time b ≤ time a :=
  (List.pairwise_mergeSort latest_trans latest_total _).imp of_decide_eq_true

/-! ## Items of one time -/

/-- Of two items of a list one stands before the other. -/
theorem pair_sublist_or {l : List α} {a b : α} (ha : a ∈ l) (hb : b ∈ l) (h : a ≠ b) :
    [a, b].Sublist l ∨ [b, a].Sublist l := by
  induction l with
  | nil => cases ha
  | cons c l ih =>
    rcases List.mem_cons.mp ha with rfl | hal
    · have hbl := (List.mem_cons.mp hb).resolve_left (Ne.symm h)
      exact .inl ((List.singleton_sublist.mpr hbl).cons_cons a)
    rcases List.mem_cons.mp hb with rfl | hbl
    · exact .inr ((List.singleton_sublist.mpr hal).cons_cons b)
    · exact (ih hal hbl).imp (·.cons c) (·.cons c)

/-- In a list without repetitions no two items stand before each other. -/
theorem not_pair_sublist {l : List α} {a b : α} (hl : l.Nodup) (h : [a, b].Sublist l) :
    ¬ [b, a].Sublist l := by
  induction l with
  | nil => cases h
  | cons c l ih =>
    obtain ⟨hc, hl⟩ := List.nodup_cons.mp hl
    intro h'
    cases h with
    | cons _ h =>
      cases h' with
      | cons _ h' => exact ih hl h h'
      | cons_cons _ h' => exact hc (h.subset (by simp))
    | cons_cons _ h =>
      cases h' with
      | cons _ h' => exact hc (h'.subset (by simp))
      | cons_cons _ h' => exact hc (h.subset (by simp))

/-- Of one time the item that was put in later comes first. -/
theorem pairwise_latest_stable (h : items.Nodup) : (latest time items).Pairwise fun a b =>
    time b < time a ∨ (time b = time a ∧ [b, a].Sublist items) := by
  have hnodup : (latest time items).Nodup := latest_perm.nodup_iff.mpr h
  refine List.pairwise_iff_forall_sublist.mpr fun {a b} hab => ?_
  have hle : time b ≤ time a := List.pairwise_iff_forall_sublist.mp pairwise_latest hab
  by_cases hge : time a ≤ time b
  · refine .inr ⟨Instant.le_antisymm hle hge, ?_⟩
    have ha : a ∈ items := latest_perm.mem_iff.mp (hab.subset (by simp))
    have hb : b ∈ items := latest_perm.mem_iff.mp (hab.subset (by simp))
    have hne : b ≠ a := by
      rintro rfl
      exact not_pair_sublist hnodup hab hab
    refine (pair_sublist_or hb ha hne).resolve_right fun hlater => ?_
    -- The sort keeps the order in which items of one time are given, latest put in first.
    have hreverse : [b, a].Sublist items.reverse := List.sublist_reverse_iff.mpr hlater
    have hsorted : [b, a].Sublist (latest time items) := List.pair_sublist_mergeSort latest_trans
      latest_total (decide_eq_true hge) hreverse
    exact not_pair_sublist hnodup hab hsorted
  · exact .inl (Instant.lt_of_not_le hge)

/-! ## What is cut off -/

/-- What is cut off stands after what is left. -/
theorem rel_of_take_of_drop {R : α → α → Prop} {l : List α} (h : l.Pairwise R) (n : Nat) {a b : α}
    (ha : a ∈ l.take n) (hb : b ∈ l.drop n) : R a b := by
  rw [← List.take_append_drop n l] at h
  exact (List.pairwise_append.mp h).2.2 a ha b hb

theorem mapM_eq_ok {read : α → Except Fault β} {value : α → β} {l : List α}
    (h : ∀ a ∈ l, read a = .ok (value a)) : l.mapM read = .ok (l.map value) := by
  induction l with
  | nil => rfl
  | cons a l ih =>
    obtain ⟨ha, hl⟩ := List.forall_mem_cons.mp h
    rw [List.mapM_cons, ha, ih hl]
    rfl

/-- If the row of each item can be read, the first of the latest items can be listed. -/
theorem mapM_take_latest {row : α → γ} {read : γ → Except Fault β} {value : α → β}
    (h : ∀ a ∈ items, read (row a) = .ok (value a)) (limit : Nat) :
    (((latest time items).map row).take limit).mapM read =
      .ok (((latest time items).take limit).map value) := by
  rw [← List.map_take, List.mapM_map]
  exact mapM_eq_ok fun a ha => h a (latest_perm.mem_iff.mp (List.mem_of_mem_take ha))

end Sheltering
