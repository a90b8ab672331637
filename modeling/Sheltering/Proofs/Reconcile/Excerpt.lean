import Mathlib.Data.List.Nodup
import Sheltering.Proofs.Reconcile.FeedOrder

/-!
# Reconciling part of the feeds

* `mem_reconcile_of_nodup`: what is kept where each id is opened once.
* `reconcile_idempotent`: what is kept is kept when it is reconciled again.
* `reconcile_congr`: only what is said of the ids that are opened matters.
* `Feeds.Chronicle`: feeds in which each id is opened once, and not closed in an earlier block.
* `Feeds.since`: the events since a block. `reconcile_since`: they say what is open of what was
  opened since then.
-/

namespace Sheltering

/-! ## Ids that are opened once -/

namespace LedgerPosition

theorem not_precedes_self (a : LedgerPosition) : ¬ a.Precedes a := by
  simp [Precedes]

end LedgerPosition

namespace Feeds

variable {feeds : Feeds}

/-- Events of ids that are opened once agree. -/
theorem agree_of_nodup (h : (feeds.opened.map (·.id)).Nodup) : feeds.Agree := by
  have heq : ∀ p ∈ feeds.opened, ∀ q ∈ feeds.opened, p.id = q.id → p = q :=
    fun p hp q hq hid => List.inj_on_of_nodup_map h hp hq hid
  constructor
  · intro p hp q hq hid
    rw [heq p hp q hq hid]
  · intro p hp q hq hid _
    exact heq p hp q hq hid

end Feeds

variable {feeds others : Feeds} {node : String}

/-- Where each id is opened once, all propositions of open ids are kept. -/
theorem mem_reconcile_of_nodup (h : (feeds.opened.map (·.id)).Nodup) {p : Proposition} :
    p ∈ reconcile feeds node ↔ p ∈ feeds.opened ∧ feeds.IsOpen node p.id := by
  rw [(Feeds.agree_of_nodup h).mem_reconcile]
  constructor
  · rintro ⟨hp, hopen, -⟩
    exact ⟨hp, hopen⟩
  · rintro ⟨hp, hopen⟩
    refine ⟨hp, hopen, fun q hq hid => ?_⟩
    obtain rfl : q = p := List.inj_on_of_nodup_map h hq hp hid
    exact q.position.not_precedes_self

/-! ## Reconciling again -/

/-- What is kept is kept when it is reconciled again. -/
theorem reconcile_idempotent
    (h : ∀ p ∈ feeds.opened, ∀ q ∈ feeds.opened, p.id = q.id → p.slots = q.slots)
    (node : String) :
    reconcile { feeds with opened := reconcile feeds node } node = reconcile feeds node := by
  have hids := nodup_ids_reconcile feeds node
  -- The rule for an id that is kept reads the slots of the event that is kept, which are those of
  -- all its events.
  have hopen : ∀ p ∈ reconcile feeds node,
      ({ feeds with opened := reconcile feeds node } : Feeds).IsOpen node p.id := by
    intro p hp
    have hrule := (Feeds.isOpen_iff_of_mem h (mem_opened_of_mem_reconcile hp)).mp
      (isOpen_of_mem_reconcile hp)
    exact (Feeds.isOpen_iff_of_mem (Feeds.agree_of_nodup hids).slots hp).mpr hrule
  apply Proposition.eq_of_mem_iff (pairwise_reconcile _ _) (pairwise_reconcile _ _)
  intro p
  rw [mem_reconcile_of_nodup hids]
  exact and_iff_left_of_imp (hopen p)

open Repeated in
/-- The first proposition was opened twice. One of its events is kept, and it has slots enough. -/
theorem reconcile_idempotent_repeated :
    (∀ p ∈ given.opened, ∀ q ∈ given.opened, p.id = q.id → p.slots = q.slots) ∧
    reconcile { given with opened := reconcile given "0xA" } "0xA" = reconcile given "0xA" ∧
    (reconcile given "0xA").map (·.id) = ["a", "b"] := by
  have h : ∀ p ∈ given.opened, ∀ q ∈ given.opened, p.id = q.id → p.slots = q.slots := by decide
  refine ⟨h, reconcile_idempotent h "0xA", ?_⟩
  rw [reconcile_of_pairwise (by decide)]
  decide +kernel

/-! ## Since a block -/

open Reconcile in
/-- Only what is said of the ids that are opened matters. -/
theorem reconcile_congr (hopened : others.opened = feeds.opened)
    (habout : ∀ p ∈ feeds.opened, others.about p.id = feeds.about p.id) :
    reconcile others node = reconcile feeds node := by
  have hopen : ∀ p ∈ feeds.opened, Reconcile.isOpen others (freeSlots others node) p.id =
      Reconcile.isOpen feeds (freeSlots feeds node) p.id := by
    intro p hp
    rw [Bool.eq_iff_iff, isOpen_iff, isOpen_iff, ← Feeds.isOpen_about, habout p hp,
      Feeds.isOpen_about]
  rw [reconcile_eq, reconcile_eq, listed, listed, hopened, List.filter_congr hopen]

namespace Feeds

/-- Each id is opened once, and not resolved or timed out in an earlier block. -/
structure Chronicle (feeds : Feeds) : Prop where
  once : (feeds.opened.map (·.id)).Nodup
  resolved : ∀ p ∈ feeds.opened, ∀ e ∈ feeds.resolved, e.id = p.id → p.position.block ≤ e.block
  timedOut : ∀ p ∈ feeds.opened, ∀ e ∈ feeds.timedOut, e.id = p.id → p.position.block ≤ e.block

/-- The events since a block. -/
def since (feeds : Feeds) (block : UInt64) : Feeds where
  opened := feeds.opened.filter (block ≤ ·.position.block)
  resolved := feeds.resolved.filter (block ≤ ·.block)
  timedOut := feeds.timedOut.filter (block ≤ ·.block)

variable {block : UInt64}

/-- A filter that lets all members of a part pass leaves that part. -/
theorem filter_filter_of_imp {α : Type} {xs : List α} {part keep : α → Bool}
    (h : ∀ x ∈ xs, part x = true → keep x = true) :
    (xs.filter keep).filter part = xs.filter part := by
  rw [List.filter_filter]
  apply List.filter_congr
  intro x hx
  cases hpart : part x
  · rfl
  · simp [h x hx hpart]

/-- Since the block of its opening, all is said of an id that is ever said of it. -/
theorem Chronicle.about_since (h : feeds.Chronicle) {p : Proposition} (hp : p ∈ feeds.opened)
    (hblock : block ≤ p.position.block) : (feeds.since block).about p.id = feeds.about p.id := by
  unfold about since
  congr 1
  · apply filter_filter_of_imp
    intro q hq hid
    obtain rfl : q = p := List.inj_on_of_nodup_map h.once hq hp (beq_iff_eq.mp hid)
    simpa using hblock
  · apply filter_filter_of_imp
    intro e he hid
    have := h.resolved p hp e he (beq_iff_eq.mp hid)
    simpa using UInt64.le_trans hblock this
  · apply filter_filter_of_imp
    intro e he hid
    have := h.timedOut p hp e he (beq_iff_eq.mp hid)
    simpa using UInt64.le_trans hblock this

end Feeds

/-- The events since a block are enough to know what is open of what was opened since then. What is
said besides of other propositions, such as those that were opened before, has no effect. -/
theorem reconcile_since (h : feeds.Chronicle) (node : String) (block : UInt64) :
    reconcile (feeds.since block) node =
      (reconcile feeds node).filter (block ≤ ·.position.block) ∧
    ∀ others : Feeds, others.opened = (feeds.since block).opened →
      (∀ p ∈ others.opened, others.about p.id = (feeds.since block).about p.id) →
      reconcile others node = reconcile (feeds.since block) node := by
  refine ⟨?_, fun others hopened habout => reconcile_congr hopened (hopened ▸ habout)⟩
  have honce : ((feeds.since block).opened.map (·.id)).Nodup :=
    h.once.sublist (List.filter_sublist.map _)
  have hopen : ∀ p ∈ feeds.opened, block ≤ p.position.block →
      ((feeds.since block).IsOpen node p.id ↔ feeds.IsOpen node p.id) := by
    intro p hp hblock
    rw [← Feeds.isOpen_about, h.about_since hp hblock, Feeds.isOpen_about]
  apply Proposition.eq_of_mem_iff (pairwise_reconcile _ _) ((pairwise_reconcile _ _).filter _)
  intro p
  rw [mem_reconcile_of_nodup honce, List.mem_filter, mem_reconcile_of_nodup h.once,
    Feeds.since, List.mem_filter, decide_eq_true_iff]
  constructor
  · rintro ⟨⟨hp, hblock⟩, ho⟩
    exact ⟨⟨hp, (hopen p hp hblock).mp ho⟩, hblock⟩
  · rintro ⟨⟨hp, ho⟩, hblock⟩
    exact ⟨⟨hp, hblock⟩, (hopen p hp hblock).mpr ho⟩

namespace Chronicled

/-- Two propositions are opened before the third block and two since then. Of either pair one is
resolved and one is timed out since then. -/
def history : Feeds where
  opened := [⟨"a", "0xB", "x", 1, ⟨1, 0⟩⟩, ⟨"b", "0xB", "y", 1, ⟨2, 0⟩⟩,
    ⟨"c", "0xB", "x", 2, ⟨3, 0⟩⟩, ⟨"d", "0xB", "y", 1, ⟨4, 0⟩⟩]
  resolved := [⟨"a", "0xC", 2⟩, ⟨"c", "0xC", 3⟩, ⟨"a", "0xD", 4⟩]
  timedOut := [⟨"b", 4⟩, ⟨"d", 5⟩]

/-- What was opened since the third block, with all resolutions and timeouts. -/
def leftovers : Feeds := { history with opened := (history.since 3).opened }

end Chronicled

open Chronicled in
/-- Of the four propositions the third is open, whether or not the window shows what became of the
first two. -/
theorem reconcile_since_third :
    history.Chronicle ∧
    reconcile (history.since 3) "0xA" =
      (reconcile history "0xA").filter (3 ≤ ·.position.block) ∧
    reconcile leftovers "0xA" = reconcile (history.since 3) "0xA" ∧
    (reconcile history "0xA").map (·.id) = ["c"] := by
  have h : history.Chronicle := ⟨by decide, by decide, by decide⟩
  obtain ⟨hwindow, hothers⟩ := reconcile_since h "0xA" 3
  refine ⟨h, hwindow, hothers leftovers rfl (by decide), ?_⟩
  rw [reconcile_of_pairwise (by decide)]
  decide +kernel

end Sheltering
