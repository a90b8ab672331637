import Sheltering.Proofs.Reconcile

/-!
# Reconciliation does not depend on the order of the feeds

The ledger may hand out its events in any order. Where the events that open an id agree with each
other, that order makes no difference to what is open.

* `Feeds.Agree`: the events of one id have the same slots, and those at one position are one event.
* `Feeds.Shuffled`: the same events in another order.
* `Feeds.Agree.isOpen_iff`: the rule for an id, without regard to which of its events is the last.
* `Feeds.Agree.mem_reconcile`: what is kept, without regard to which event comes first.
* `reconcile_shuffled`: shuffled feeds have the same result.
-/

namespace Sheltering

open Std

/-! ## One order for each set of propositions -/

namespace LedgerPosition

theorem precedes_trichotomy (a b : LedgerPosition) : a.Precedes b ∨ a = b ∨ b.Precedes a := by
  cases h : a.compare b with
  | lt => exact .inl (compare_eq_lt.mp h)
  | eq => exact .inr (.inl (compare_eq_eq.mp h))
  | gt =>
    have hlt : b.compare a = .lt := OrientedCmp.lt_of_gt h
    exact .inr (.inr (compare_eq_lt.mp hlt))

/-- Where neither position is before the other, there is one position. -/
theorem eq_of_not_precedes {a b : LedgerPosition} (hab : ¬ a.Precedes b) (hba : ¬ b.Precedes a) :
    a = b :=
  ((precedes_trichotomy a b).resolve_left hab).resolve_right hba

end LedgerPosition

namespace Proposition

theorem Precedes.asymm {a b : Proposition} (hab : a.Precedes b) : ¬ b.Precedes a := by
  intro hba
  have hgt : b.compare a = .gt := OrientedCmp.gt_of_lt (compare_eq_lt.mpr hab)
  rw [compare_eq_lt.mpr hba] at hgt
  cases hgt

theorem nodup_of_pairwise_precedes {ps : List Proposition} (h : ps.Pairwise Precedes) :
    ps.Nodup := by
  refine h.imp fun {a b} hab hne => ?_
  subst hne
  exact hab.asymm hab

/-- Propositions can be listed in order in one way only. -/
theorem eq_of_mem_iff {ps ps' : List Proposition} (h : ps.Pairwise Precedes)
    (h' : ps'.Pairwise Precedes) (hm : ∀ p, p ∈ ps ↔ p ∈ ps') : ps = ps' := by
  have hperm : ps.Perm ps' := (List.perm_ext_iff_of_nodup (nodup_of_pairwise_precedes h)
    (nodup_of_pairwise_precedes h')).mpr hm
  exact hperm.eq_of_pairwise (fun a b _ _ hab hba => absurd hba hab.asymm) h h'

end Proposition

/-! ## Feeds whose events agree -/

namespace Feeds

/-- The events that open an id agree: they have the same slots, and those at one position are one
event. -/
structure Agree (feeds : Feeds) : Prop where
  slots : ∀ p ∈ feeds.opened, ∀ q ∈ feeds.opened, p.id = q.id → p.slots = q.slots
  event : ∀ p ∈ feeds.opened, ∀ q ∈ feeds.opened, p.id = q.id → p.position = q.position → p = q

/-- The feeds hold the same events, each as often, in another order. -/
structure Shuffled (feeds feeds' : Feeds) : Prop where
  opened : feeds.opened.Perm feeds'.opened
  resolved : feeds.resolved.Perm feeds'.resolved
  timedOut : feeds.timedOut.Perm feeds'.timedOut

variable {feeds feeds' : Feeds} {node : String}

/-- The rule for an id, with any of its events in the place of the last. -/
theorem isOpen_iff_of_slots {id : String}
    (h : ∀ p ∈ feeds.opened, ∀ q ∈ feeds.opened, p.id = q.id → p.slots = q.slots) :
    feeds.IsOpen node id ↔
      (∃ p ∈ feeds.opened, p.id = id ∧ feeds.resolved.countP (·.id == id) < p.slots.toNat) ∧
      (∀ e ∈ feeds.timedOut, e.id ≠ id) ∧
      ∀ e ∈ feeds.resolved, e.id = id → sameAddress e.resolver node = false := by
  have hlast : ∀ {p}, (feeds.opened.filter (·.id == id)).getLast? = some p →
      p ∈ feeds.opened ∧ p.id = id := by
    intro p hp
    obtain ⟨hmem, hid⟩ := List.mem_filter.mp (List.mem_of_getLast? hp)
    exact ⟨hmem, beq_iff_eq.mp hid⟩
  constructor
  · rintro ⟨⟨p, hp, hlt⟩, htimed, hhere⟩
    obtain ⟨hmem, hid⟩ := hlast hp
    exact ⟨⟨p, hmem, hid, hlt⟩, htimed, hhere⟩
  · rintro ⟨⟨p, hmem, hid, hlt⟩, htimed, hhere⟩
    have hp : p ∈ feeds.opened.filter (·.id == id) :=
      List.mem_filter.mpr ⟨hmem, beq_iff_eq.mpr hid⟩
    have hq := List.getLast?_eq_some_getLast (List.ne_nil_of_mem hp)
    obtain ⟨hqmem, hqid⟩ := hlast hq
    refine ⟨⟨_, hq, ?_⟩, htimed, hhere⟩
    rwa [h _ hqmem p hmem (hqid.trans hid.symm)]

/-- The rule for an id, by any of its events. -/
theorem isOpen_iff_of_mem
    (h : ∀ p ∈ feeds.opened, ∀ q ∈ feeds.opened, p.id = q.id → p.slots = q.slots)
    {p : Proposition} (hp : p ∈ feeds.opened) :
    feeds.IsOpen node p.id ↔ feeds.resolved.countP (·.id == p.id) < p.slots.toNat ∧
      (∀ e ∈ feeds.timedOut, e.id ≠ p.id) ∧
      ∀ e ∈ feeds.resolved, e.id = p.id → sameAddress e.resolver node = false := by
  rw [isOpen_iff_of_slots h]
  refine and_congr_left fun _ => ⟨?_, fun hlt => ⟨p, hp, rfl, hlt⟩⟩
  rintro ⟨q, hq, hid, hlt⟩
  rwa [h p hp q hq hid.symm]

namespace Agree

/-- How often an event comes, and where, does not matter. -/
theorem of_mem_iff (h : feeds.Agree) (hm : ∀ p, p ∈ feeds'.opened ↔ p ∈ feeds.opened) :
    feeds'.Agree where
  slots p hp q hq := h.slots p ((hm p).mp hp) q ((hm q).mp hq)
  event p hp q hq := h.event p ((hm p).mp hp) q ((hm q).mp hq)

theorem shuffled (h : feeds.Agree) (hs : feeds.Shuffled feeds') : feeds'.Agree :=
  h.of_mem_iff fun _ => hs.opened.mem_iff.symm

/-- Shuffled feeds have the same ids open. -/
theorem isOpen_iff (h : feeds.Agree) (hs : feeds.Shuffled feeds') {id : String} :
    feeds'.IsOpen node id ↔ feeds.IsOpen node id := by
  rw [isOpen_iff_of_slots h.slots, isOpen_iff_of_slots (h.shuffled hs).slots,
    hs.resolved.countP_eq]
  simp only [hs.opened.mem_iff, hs.resolved.mem_iff, hs.timedOut.mem_iff]

/-- The propositions that are kept are the events of open ids before which no event of their id
stands. -/
theorem mem_reconcile (h : feeds.Agree) {p : Proposition} : p ∈ reconcile feeds node ↔
    p ∈ feeds.opened ∧ feeds.IsOpen node p.id ∧
      ∀ q ∈ feeds.opened, q.id = p.id → ¬ q.position.Precedes p.position := by
  constructor
  · intro hp
    exact ⟨mem_opened_of_mem_reconcile hp, isOpen_of_mem_reconcile hp,
      fun q hq hid => not_precedes_of_mem_reconcile hp hq hid⟩
  · rintro ⟨hp, hopen, hleast⟩
    obtain ⟨q, hq, hid⟩ := List.mem_map.mp (mem_ids_reconcile.mpr hopen)
    have hmem := mem_opened_of_mem_reconcile hq
    -- Neither `p` nor the event that is kept for its id is before the other.
    have hposition := LedgerPosition.eq_of_not_precedes (hleast q hmem hid)
      (not_precedes_of_mem_reconcile hq hp hid.symm)
    rwa [← h.event q hmem p hp hid hposition]

end Agree

end Feeds

/-- Shuffled feeds have the same propositions open, in the same order. -/
theorem reconcile_shuffled {feeds feeds' : Feeds} (h : feeds.Agree)
    (hs : feeds.Shuffled feeds') (node : String) :
    reconcile feeds' node = reconcile feeds node := by
  refine Proposition.eq_of_mem_iff (pairwise_reconcile _ _) (pairwise_reconcile _ _) fun p => ?_
  rw [h.mem_reconcile, (h.shuffled hs).mem_reconcile, h.isOpen_iff hs]
  simp only [hs.opened.mem_iff]

/-! ## A feed that repeats itself -/

namespace Repeated

/-- The first proposition is opened twice, at two positions, and the second is opened at the same
position as the later of them. -/
def given : Feeds where
  opened := [⟨"a", "0xB", "x", 2, ⟨1, 0⟩⟩, ⟨"c", "0xB", "z", 1, ⟨2, 0⟩⟩,
    ⟨"a", "0xC", "x", 2, ⟨4, 0⟩⟩, ⟨"b", "0xB", "y", 1, ⟨4, 0⟩⟩]
  resolved := [⟨"a", "0xD", 5⟩, ⟨"c", "0xA", 6⟩]
  timedOut := [⟨"d", 1⟩, ⟨"e", 1⟩]

/-- The same feeds backwards. -/
def backwards : Feeds where
  opened := given.opened.reverse
  resolved := given.resolved.reverse
  timedOut := given.timedOut.reverse

theorem shuffled_backwards : given.Shuffled backwards :=
  ⟨(List.reverse_perm _).symm, (List.reverse_perm _).symm, (List.reverse_perm _).symm⟩

end Repeated

open Repeated in
/-- Of the four events two are kept, whichever way the feeds are read. -/
theorem reconcile_backwards : given.Agree ∧ given.Shuffled backwards ∧
    reconcile backwards "0xA" = reconcile given "0xA" ∧
    reconcile given "0xA" =
      [⟨"a", "0xB", "x", 2, ⟨1, 0⟩⟩, ⟨"b", "0xB", "y", 1, ⟨4, 0⟩⟩] := by
  have hagree : given.Agree := ⟨by decide, by decide⟩
  refine ⟨hagree, shuffled_backwards, reconcile_shuffled hagree shuffled_backwards "0xA", ?_⟩
  rw [reconcile_of_pairwise (by decide)]
  decide +kernel

end Sheltering
