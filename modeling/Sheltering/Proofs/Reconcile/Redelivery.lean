import Sheltering.Proofs.Reconcile.FeedOrder

/-!
# Events that are delivered again

The ledger may hand out an event more than once. For an event that opens a proposition, or that
times it out, this makes no difference. One that resolves it is counted each time.

* `Redelivers`: a list with one more copy of an element that it has.
* `Feeds.SameEvents`: the feeds hold the same events, however often.
* `Feeds.Agree.reconcile_of_sameEvents`: what is kept of feeds in which no resolution is missing.
* `reconcile_redelivered`: what is kept after a redelivery in any of the feeds.
* `Twice.slot_lost`: a resolution that is delivered twice takes two slots.
-/

namespace Sheltering

/-- `xs'` is `xs` with one more copy of its element `x`, at any place. -/
def Redelivers {α : Type} (x : α) (xs xs' : List α) : Prop :=
  x ∈ xs ∧ ∃ before after, xs = before ++ after ∧ xs' = before ++ x :: after

namespace Redelivers

variable {α : Type} {x : α} {xs xs' : List α}

theorem mem_iff (h : Redelivers x xs xs') (y : α) : y ∈ xs' ↔ y ∈ xs := by
  obtain ⟨hx, before, after, rfl, rfl⟩ := h
  rw [List.perm_middle.mem_iff, List.mem_cons]
  exact or_iff_right_of_imp fun hy => hy ▸ hx

theorem countP_eq (h : Redelivers x xs xs') (test : α → Bool) :
    xs'.countP test = xs.countP test + if test x then 1 else 0 := by
  obtain ⟨-, before, after, rfl, rfl⟩ := h
  rw [List.perm_middle.countP_eq, List.countP_cons]

end Redelivers

namespace Feeds

variable {feeds feeds' : Feeds} {node : String}

/-- The feeds hold the same events, however often. -/
structure SameEvents (feeds feeds' : Feeds) : Prop where
  opened : ∀ p, p ∈ feeds'.opened ↔ p ∈ feeds.opened
  resolved : ∀ e, e ∈ feeds'.resolved ↔ e ∈ feeds.resolved
  timedOut : ∀ e, e ∈ feeds'.timedOut ↔ e ∈ feeds.timedOut

namespace Agree

/-- A proposition that is kept has more slots than its id has resolutions. -/
theorem countP_lt_of_mem_reconcile (h : feeds.Agree) {p : Proposition}
    (hp : p ∈ reconcile feeds node) :
    feeds.resolved.countP (·.id == p.id) < p.slots.toNat :=
  ((isOpen_iff_of_mem h.slots (mem_opened_of_mem_reconcile hp)).mp
    (isOpen_of_mem_reconcile hp)).1

/-- If no resolution is missing, what is kept of the same events are the propositions with more
slots than resolutions. -/
theorem reconcile_of_sameEvents (h : feeds.Agree) (hs : feeds.SameEvents feeds')
    (hcount : ∀ id, feeds.resolved.countP (·.id == id) ≤ feeds'.resolved.countP (·.id == id))
    (node : String) : reconcile feeds' node = (reconcile feeds node).filter fun p =>
      feeds'.resolved.countP (·.id == p.id) < p.slots.toNat := by
  have hagree := h.of_mem_iff hs.opened
  have hopen : ∀ p ∈ feeds.opened, feeds'.IsOpen node p.id ↔
      feeds.IsOpen node p.id ∧ feeds'.resolved.countP (·.id == p.id) < p.slots.toNat := by
    intro p hp
    rw [isOpen_iff_of_mem h.slots hp,
      isOpen_iff_of_mem hagree.slots ((hs.opened p).mpr hp)]
    simp only [hs.resolved, hs.timedOut]
    constructor
    · rintro ⟨hlt, hclosed⟩
      exact ⟨⟨Nat.lt_of_le_of_lt (hcount p.id) hlt, hclosed⟩, hlt⟩
    · rintro ⟨⟨-, hclosed⟩, hlt⟩
      exact ⟨hlt, hclosed⟩
  refine Proposition.eq_of_mem_iff (pairwise_reconcile _ _) ((pairwise_reconcile _ _).filter _)
    fun p => ?_
  rw [hagree.mem_reconcile, List.mem_filter, h.mem_reconcile, decide_eq_true_iff]
  simp only [hs.opened]
  constructor
  · rintro ⟨hp, ho, hleast⟩
    obtain ⟨ho, hlt⟩ := (hopen p hp).mp ho
    exact ⟨⟨hp, ho, hleast⟩, hlt⟩
  · rintro ⟨⟨hp, ho, hleast⟩, hlt⟩
    exact ⟨hp, (hopen p hp).mpr ⟨ho, hlt⟩, hleast⟩

/-- With the same resolutions as often, the same propositions are kept. -/
theorem reconcile_eq_of_sameEvents (h : feeds.Agree) (hs : feeds.SameEvents feeds')
    (hresolved : feeds'.resolved = feeds.resolved) (node : String) :
    reconcile feeds' node = reconcile feeds node := by
  rw [h.reconcile_of_sameEvents hs (fun id => hresolved ▸ Nat.le_refl _), hresolved]
  exact List.filter_eq_self.mpr fun p hp => decide_eq_true (h.countP_lt_of_mem_reconcile hp)

end Agree

end Feeds

/-- An event that opens a proposition or times it out may be delivered again. A resolution that is
delivered again takes one more slot: the proposition of its id is dropped if that was the last. -/
theorem reconcile_redelivered {feeds : Feeds} (h : feeds.Agree) (node : String) :
    (∀ p opened, Redelivers p feeds.opened opened →
      reconcile { feeds with opened } node = reconcile feeds node) ∧
    (∀ e timedOut, Redelivers e feeds.timedOut timedOut →
      reconcile { feeds with timedOut } node = reconcile feeds node) ∧
    ∀ e resolved, Redelivers e feeds.resolved resolved →
      reconcile { feeds with resolved } node = (reconcile feeds node).filter fun p =>
        p.id ≠ e.id ∨ feeds.resolved.countP (·.id == p.id) + 1 < p.slots.toNat := by
  refine ⟨fun p opened hr => ?_, fun e timedOut hr => ?_, fun e resolved hr => ?_⟩
  · have hs : feeds.SameEvents { feeds with opened } :=
      ⟨hr.mem_iff, fun _ => .rfl, fun _ => .rfl⟩
    exact h.reconcile_eq_of_sameEvents hs rfl node
  · have hs : feeds.SameEvents { feeds with timedOut } :=
      ⟨fun _ => .rfl, fun _ => .rfl, hr.mem_iff⟩
    exact h.reconcile_eq_of_sameEvents hs rfl node
  · have hs : feeds.SameEvents { feeds with resolved } :=
      ⟨fun _ => .rfl, hr.mem_iff, fun _ => .rfl⟩
    have hcount : ∀ id, resolved.countP (·.id == id) =
        feeds.resolved.countP (·.id == id) + if e.id == id then 1 else 0 := fun id =>
      hr.countP_eq (·.id == id)
    rw [h.reconcile_of_sameEvents hs fun id => (hcount id).symm ▸ Nat.le_add_right _ _]
    refine List.filter_congr fun p hp => decide_eq_decide.mpr ?_
    have hlt := h.countP_lt_of_mem_reconcile hp
    by_cases hid : p.id = e.id
    · rw [hcount, if_pos (beq_iff_eq.mpr hid.symm)]
      exact (or_iff_right fun hne => hne hid).symm
    · rw [hcount, if_neg fun he => hid (beq_iff_eq.mp he).symm]
      exact iff_of_true hlt (.inl hid)

open Repeated in
/-- The two slots of the first proposition are both taken when its only resolution is delivered
again. Its first opening and the first timeout may be delivered again. -/
theorem reconcile_again :
    given.Agree ∧
    reconcile { given with opened := given.opened ++ given.opened.take 1 } "0xA" =
      reconcile given "0xA" ∧
    reconcile { given with timedOut := given.timedOut ++ given.timedOut.take 1 } "0xA" =
      reconcile given "0xA" ∧
    reconcile { given with resolved := given.resolved ++ given.resolved.take 1 } "0xA" =
      [⟨"b", "0xB", "y", 1, ⟨4, 0⟩⟩] := by
  have hagree : given.Agree := ⟨by decide, by decide⟩
  obtain ⟨hopened, htimedOut, hresolved⟩ := reconcile_redelivered hagree "0xA"
  refine ⟨hagree, hopened _ _ ⟨List.mem_cons_self, given.opened, [], by simp, rfl⟩,
    htimedOut _ _ ⟨List.mem_cons_self, given.timedOut, [], by simp, rfl⟩, ?_⟩
  refine (hresolved _ _ ⟨List.mem_cons_self, given.resolved, [], by simp, rfl⟩).trans ?_
  rw [reconcile_of_pairwise (by decide)]
  decide +kernel

/-! ## A resolution that is delivered twice -/

namespace Twice

/-- A challenge with two slots, and a number of copies of the event that another node took one. -/
def feeds (copies : Nat) : Feeds where
  opened := [⟨"a", "0xB", "x", 2, ⟨1, 0⟩⟩]
  resolved := List.replicate copies ⟨"a", "0xC", 2⟩
  timedOut := []

/-- The challenge is open, and it is not when the one event is delivered twice. -/
theorem slot_lost :
    (feeds 1).Agree ∧ (feeds 2).opened = (feeds 1).opened ∧
    Redelivers ⟨"a", "0xC", 2⟩ (feeds 1).resolved (feeds 2).resolved ∧
    (feeds 2).timedOut = (feeds 1).timedOut ∧
    reconcile (feeds 1) "0xA" = (feeds 1).opened ∧ reconcile (feeds 2) "0xA" = [] := by
  refine ⟨⟨by decide, by decide⟩, rfl, ⟨by decide, [], (feeds 1).resolved, rfl, rfl⟩, rfl, ?_, ?_⟩
  · rw [reconcile_of_pairwise (by decide)]
    decide +kernel
  · rw [reconcile_of_pairwise (by decide)]
    decide +kernel

end Twice

end Sheltering
