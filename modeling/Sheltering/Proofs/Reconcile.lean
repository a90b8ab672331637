import Sheltering.Proofs.Text.Bytes
import Sheltering.Reconcile

/-!
# What reconciliation keeps

* `Feeds.IsOpen`: the rule for one id, which reads only the events of that id.
* `Proposition.Precedes`: the order of the result: block, log index, then the bytes of the id.
* `toNat_freeSlots`: the slots that are free, which are never fewer than none.
* `EarliestOfId`: the event that stands for an id.
* `reconcile_exact`: reconciliation keeps the ids of the rule, each once, by its earliest event, in
  ascending order.
-/

namespace Sheltering

open Std

/-! ## The order of propositions -/

namespace LedgerPosition

/-- One position is before another. -/
def Precedes (a b : LedgerPosition) : Prop :=
  a.block < b.block ∨ (a.block = b.block ∧ a.logIndex < b.logIndex)

instance : TransCmp compare :=
  inferInstanceAs (TransCmp (compareLex (compareOn LedgerPosition.block)
    (compareOn LedgerPosition.logIndex)))

instance : Ord LedgerPosition := ⟨compare⟩

instance : TransOrd LedgerPosition := inferInstanceAs (TransCmp compare)

instance : LawfulEqOrd LedgerPosition where
  eq_of_compare {a b} h := by
    obtain ⟨hb, hl⟩ := Ordering.then_eq_eq.mp h
    have hb : a.block = b.block := LawfulEqCmp.eq_of_compare hb
    have hl : a.logIndex = b.logIndex := LawfulEqCmp.eq_of_compare hl
    cases a; cases b
    simp_all

theorem compare_eq_lt {a b : LedgerPosition} : a.compare b = .lt ↔ a.Precedes b := by
  rw [compare, Ordering.then_eq_lt, Std.compare_eq_lt, Std.compare_eq_lt, Std.compare_eq_iff_eq]
  rfl

theorem compare_eq_eq {a b : LedgerPosition} : a.compare b = .eq ↔ a = b :=
  Std.compare_eq_iff_eq (a := a) (b := b)

end LedgerPosition

namespace Proposition

/-- One proposition is listed before another. -/
def Precedes (a b : Proposition) : Prop :=
  a.position.Precedes b.position ∨ (a.position = b.position ∧ Text.bytes a.id < Text.bytes b.id)

instance : TransCmp compare :=
  inferInstanceAs (TransCmp (compareLex (compareOn Proposition.position)
    (compareOn Proposition.id)))

theorem compare_eq_lt {a b : Proposition} : a.compare b = .lt ↔ a.Precedes b := by
  rw [compare, Ordering.then_eq_lt, LedgerPosition.compare_eq_lt, LedgerPosition.compare_eq_eq,
    Text.compare_eq_lt]
  rfl

end Proposition

/-! ## The slots of an id -/

/-- The rule for one id: some event opened it, nothing timed it out, the node did not resolve it,
and fewer events resolved it than the last event that opened it has slots. -/
structure Feeds.IsOpen (feeds : Feeds) (node id : String) : Prop where
  slots : ∃ p, (feeds.opened.filter (·.id == id)).getLast? = some p ∧
    feeds.resolved.countP (·.id == id) < p.slots.toNat
  notTimedOut : ∀ e ∈ feeds.timedOut, e.id ≠ id
  notResolvedHere : ∀ e ∈ feeds.resolved, e.id = id → sameAddress e.resolver node = false

namespace Reconcile

variable {feeds : Feeds} {node id : String}

/-- What is already known of an id's slots holds until an event opens it. -/
theorem getElem?_foldl_insert {opened : List Proposition} {slots : TreeMap String UInt32} :
    (opened.foldl (fun slots p => slots.insert p.id p.slots) slots)[id]? =
      ((opened.filter (·.id == id)).getLast?.map (·.slots)).or slots[id]? := by
  induction opened generalizing slots with
  | nil => rfl
  | cons p opened ih =>
    rw [List.foldl_cons, ih, TreeMap.getElem?_insert, List.filter_cons]
    by_cases hp : p.id = id
    · rw [if_pos (Std.compare_eq_iff_eq.mpr hp), if_pos (beq_iff_eq.mpr hp), List.getLast?_cons]
      cases (opened.filter (·.id == id)).getLast? <;> rfl
    · rw [if_neg (mt Std.compare_eq_iff_eq.mp hp), if_neg (mt beq_iff_eq.mp hp)]

/-- The slots of an id are those of the last event that opened it. -/
theorem getElem?_openedSlots {opened : List Proposition} :
    (openedSlots opened)[id]? = (opened.filter (·.id == id)).getLast?.map (·.slots) := by
  rw [openedSlots, getElem?_foldl_insert, TreeMap.getElem?_emptyc, Option.or_none]

/-- The events of other ids take no slot of an id. -/
theorem getElem?_freeSlots : (freeSlots feeds node)[id]? =
    (openedSlots feeds.opened)[id]?.map fun slots =>
      (feeds.resolved.filter (·.id == id)).foldl (takeSlot node) slots := by
  rw [freeSlots]
  generalize openedSlots feeds.opened = slots
  induction feeds.resolved generalizing slots with
  | nil => exact Option.map_id'.symm
  | cons e es ih =>
    rw [List.foldl_cons, ih, TreeMap.getElem?_modify, List.filter_cons]
    by_cases he : e.id = id
    · rw [if_pos (Std.compare_eq_iff_eq.mpr he), if_pos (beq_iff_eq.mpr he), he, Option.map_map]
      rfl
    · rw [if_neg (mt Std.compare_eq_iff_eq.mp he), if_neg (mt beq_iff_eq.mp he)]

theorem toNat_takeSlot {slots : UInt32} {e : ResolvedEvent} : (takeSlot node slots e).toNat =
    if sameAddress e.resolver node then 0 else slots.toNat - 1 := by
  rw [takeSlot]
  split
  · rfl
  · split
    · rename_i hs
      rw [hs]
      rfl
    · rename_i hs
      have hpos : (1 : UInt32).toNat ≤ slots.toNat :=
        Nat.pos_of_ne_zero fun h => hs (UInt32.toNat_inj.mp h)
      rw [UInt32.toNat_sub_of_le _ _ (UInt32.le_iff_toNat_le.mpr hpos)]
      rfl

/-- The slots that are left are none if the node took one, and else as many as there are more than
resolutions. They are never fewer than none. -/
theorem toNat_foldl_takeSlot {es : List ResolvedEvent} {slots : UInt32} :
    (es.foldl (takeSlot node) slots).toNat =
      if es.any (sameAddress ·.resolver node) then 0 else slots.toNat - es.length := by
  induction es generalizing slots with
  | nil => rfl
  | cons e es ih =>
    rw [List.foldl_cons, ih, toNat_takeSlot, List.any_cons, List.length_cons]
    cases sameAddress e.resolver node with
    | true => simp
    | false =>
      rw [Bool.false_or, if_neg Bool.false_ne_true, Nat.sub_sub, Nat.add_comm]

/-- The slots of an id that are free, exactly. -/
theorem toNat_freeSlots {slots : UInt32} : (freeSlots feeds node)[id]? = some slots ↔
    ∃ p, (feeds.opened.filter (·.id == id)).getLast? = some p ∧ slots.toNat =
      if (feeds.resolved.filter (·.id == id)).any (sameAddress ·.resolver node) then 0
      else p.slots.toNat - feeds.resolved.countP (·.id == id) := by
  rw [getElem?_freeSlots, getElem?_openedSlots, Option.map_map, Option.map_eq_some_iff,
    List.countP_eq_length_filter]
  refine exists_congr fun p => and_congr_right fun _ => ?_
  rw [← toNat_foldl_takeSlot, UInt32.toNat_inj]
  exact eq_comm

/-- No resolution of the id is by the node. -/
theorem any_sameAddress_eq_false :
    (feeds.resolved.filter (·.id == id)).any (sameAddress ·.resolver node) = false ↔
      ∀ e ∈ feeds.resolved, e.id = id → sameAddress e.resolver node = false := by
  simp

theorem isOpen_iff : isOpen feeds (freeSlots feeds node) id = true ↔ feeds.IsOpen node id := by
  have ht : hasTimedOut feeds id = false ↔ ∀ e ∈ feeds.timedOut, e.id ≠ id := by
    simp [hasTimedOut]
  have hpos : (freeSlots feeds node)[id]?.any (0 < ·) = true ↔
      (∃ p, (feeds.opened.filter (·.id == id)).getLast? = some p ∧
        feeds.resolved.countP (·.id == id) < p.slots.toNat) ∧
      ∀ e ∈ feeds.resolved, e.id = id → sameAddress e.resolver node = false := by
    rw [getElem?_freeSlots, getElem?_openedSlots, ← any_sameAddress_eq_false,
      List.countP_eq_length_filter]
    cases (feeds.opened.filter (·.id == id)).getLast? with
    | none => simp
    | some p =>
      rw [Option.map_some, Option.map_some, Option.any_some, decide_eq_true_iff,
        UInt32.lt_iff_toNat_lt, toNat_foldl_takeSlot]
      cases (feeds.resolved.filter (·.id == id)).any (sameAddress ·.resolver node) with
      | true => exact ⟨fun h => absurd h (Nat.lt_irrefl 0), fun h => nomatch h.2⟩
      | false =>
        refine ⟨fun h => ⟨⟨p, rfl, Nat.lt_of_sub_pos h⟩, rfl⟩, fun ⟨⟨q, hq, hlt⟩, _⟩ => ?_⟩
        cases hq
        exact Nat.sub_pos_of_lt hlt
  rw [isOpen, Bool.and_eq_true, Bool.not_eq_true', ht, hpos]
  exact ⟨fun ⟨h₁, h₂, h₃⟩ => ⟨h₂, h₁, h₃⟩, fun ⟨h₁, h₂, h₃⟩ => ⟨h₂, h₁, h₃⟩⟩

/-! ## The first of each id -/

variable {seen : List String} {l : List Proposition}

theorem firstOfEachId_sublist (seen : List String) (l : List Proposition) :
    (firstOfEachId seen l).Sublist l := by
  induction l generalizing seen with
  | nil => exact List.Sublist.refl _
  | cons p l ih =>
    rw [firstOfEachId]
    split
    · exact (ih _).cons _
    · exact (ih _).cons_cons _

theorem mem_map_firstOfEachId :
    id ∈ (firstOfEachId seen l).map (·.id) ↔ id ∈ l.map (·.id) ∧ id ∉ seen := by
  induction l generalizing seen with
  | nil => simp [firstOfEachId]
  | cons p l ih =>
    rw [firstOfEachId]
    split
    · rename_i hp
      rw [ih, List.map_cons, List.mem_cons]
      refine and_congr_left fun hs => ⟨.inr, fun h => h.resolve_left ?_⟩
      rintro rfl
      exact hs (by simpa using hp)
    · rename_i hp
      simp only [List.map_cons, List.mem_cons, ih, not_or]
      have hp : p.id ∉ seen := by simpa using hp
      by_cases e : id = p.id
      · simp [e, hp]
      · simp [e]

theorem nodup_firstOfEachId (seen : List String) (l : List Proposition) :
    ((firstOfEachId seen l).map (·.id)).Nodup := by
  induction l generalizing seen with
  | nil => exact List.nodup_nil
  | cons p l ih =>
    rw [firstOfEachId]
    split
    · exact ih _
    · rw [List.map_cons, List.nodup_cons]
      exact ⟨fun h => (mem_map_firstOfEachId.mp h).2 List.mem_cons_self, ih _⟩

/-- What is kept is the first of its id. -/
theorem exists_append_of_mem_firstOfEachId {p : Proposition} (h : p ∈ firstOfEachId seen l) :
    ∃ before after, l = before ++ p :: after ∧ ∀ q ∈ before, q.id ≠ p.id := by
  induction l generalizing seen with
  | nil => cases h
  | cons q l ih =>
    rw [firstOfEachId] at h
    split at h
    · rename_i hq
      obtain ⟨before, after, rfl, hb⟩ := ih h
      have hp := (mem_map_firstOfEachId.mp (List.mem_map_of_mem h)).2
      refine ⟨q :: before, after, rfl, List.forall_mem_cons.mpr ⟨fun e => hp ?_, hb⟩⟩
      exact e ▸ by simpa using hq
    · rcases List.mem_cons.mp h with rfl | h
      · exact ⟨[], l, rfl, by simp⟩
      · obtain ⟨before, after, rfl, hb⟩ := ih h
        have hp := (mem_map_firstOfEachId.mp (List.mem_map_of_mem h)).2
        refine ⟨q :: before, after, rfl, List.forall_mem_cons.mpr ⟨fun e => hp ?_, hb⟩⟩
        simp [e]

/-! ## The order of the result -/

/-- A stable sort keeps the order of elements that may stand in either order. -/
theorem filter_mergeSort {α : Type} {le : α → α → Bool}
    (trans : ∀ a b c, le a b = true → le b c = true → le a c = true)
    (total : ∀ a b, (le a b || le b a) = true) {same : α → Bool}
    (h : ∀ a b, same a = true → same b = true → le a b = true) (l : List α) :
    (l.mergeSort le).filter same = l.filter same := by
  have hp : (l.filter same).Pairwise fun a b => le a b = true :=
    List.pairwise_filter.mpr (List.pairwise_of_forall fun a b ha hb => h a b ha hb)
  have hs := (List.sublist_mergeSort trans total hp List.filter_sublist).filter same
  rw [List.filter_filter] at hs
  simp only [Bool.and_self] at hs
  exact (hs.eq_of_length ((List.mergeSort_perm l le).filter same).length_eq.symm).symm

theorem isLE_trans (a b c : Proposition) (hab : (a.compare b).isLE = true)
    (hbc : (b.compare c).isLE = true) : (a.compare c).isLE = true :=
  TransCmp.isLE_trans hab hbc

theorem isLE_total (a b : Proposition) : ((a.compare b).isLE || (b.compare a).isLE) = true := by
  have h : a.compare b = (b.compare a).swap := OrientedCmp.eq_swap
  rw [h]
  cases b.compare a <;> rfl

/-- The open propositions in order, before all but the first of each id are dropped. -/
def listed (feeds : Feeds) (node : String) : List Proposition :=
  (feeds.opened.filter fun p => isOpen feeds (freeSlots feeds node) p.id).mergeSort fun a b =>
    (a.compare b).isLE

theorem reconcile_eq : reconcile feeds node = firstOfEachId [] (listed feeds node) := rfl

theorem mem_listed {p : Proposition} :
    p ∈ listed feeds node ↔ p ∈ feeds.opened ∧ feeds.IsOpen node p.id := by
  rw [listed, List.mem_mergeSort, List.mem_filter, isOpen_iff]

theorem pairwise_listed :
    (listed feeds node).Pairwise fun a b => (a.compare b).isLE = true :=
  List.pairwise_mergeSort isLE_trans isLE_total _

end Reconcile

open Reconcile

variable {feeds : Feeds} {node : String} {p : Proposition}

/-! ## The result -/

theorem mem_ids_reconcile {id : String} :
    id ∈ (reconcile feeds node).map (·.id) ↔ feeds.IsOpen node id := by
  rw [reconcile_eq, mem_map_firstOfEachId, List.mem_map]
  constructor
  · rintro ⟨⟨p, hp, rfl⟩, -⟩
    exact (mem_listed.mp hp).2
  · intro h
    obtain ⟨last, hl, -⟩ := h.slots
    obtain ⟨hm, he⟩ := List.mem_filter.mp (List.mem_of_getLast? hl)
    have he : last.id = id := by simpa using he
    subst he
    exact ⟨⟨last, mem_listed.mpr ⟨hm, h⟩, rfl⟩, List.not_mem_nil⟩

/-- Where the propositions were opened in ledger order, they are not sorted. -/
theorem reconcile_of_pairwise (h : feeds.opened.Pairwise fun a b => (a.compare b).isLE) :
    reconcile feeds node = firstOfEachId []
      (feeds.opened.filter fun p => Reconcile.isOpen feeds (freeSlots feeds node) p.id) :=
  congrArg _ (List.mergeSort_of_pairwise (h.filter _))

theorem isOpen_of_mem_reconcile (h : p ∈ reconcile feeds node) : feeds.IsOpen node p.id :=
  mem_ids_reconcile.mp (List.mem_map_of_mem h)

theorem nodup_ids_reconcile (feeds : Feeds) (node : String) :
    ((reconcile feeds node).map (·.id)).Nodup :=
  nodup_firstOfEachId _ _

/-- No two propositions of the result stand in either order, since their ids differ. -/
theorem pairwise_reconcile (feeds : Feeds) (node : String) :
    (reconcile feeds node).Pairwise Proposition.Precedes := by
  have hle := pairwise_listed.sublist (firstOfEachId_sublist [] (listed feeds node))
  have hne := List.pairwise_map.mp (nodup_ids_reconcile feeds node)
  refine (hle.and hne).imp fun {a b} ⟨hab, hid⟩ => Proposition.compare_eq_lt.mp ?_
  cases hc : a.compare b with
  | lt => rfl
  | eq =>
    have := Std.compare_eq_iff_eq.mp (Ordering.then_eq_eq.mp hc).2
    exact absurd this hid
  | gt => simp [hc] at hab

/-- `p` is the earliest event of its id: an event of the id that stands before it in the feed has a
later position, and one that stands after it has no earlier position. -/
def EarliestOfId (opened : List Proposition) (p : Proposition) : Prop :=
  ∃ before after, opened = before ++ p :: after ∧
    (∀ q ∈ before, q.id = p.id → p.position.Precedes q.position) ∧
    ∀ q ∈ after, q.id = p.id → ¬ q.position.Precedes p.position

/-- No event of the id has an earlier position than the one that is kept. -/
theorem not_precedes_of_mem_reconcile (h : p ∈ reconcile feeds node) {q : Proposition}
    (hq : q ∈ feeds.opened) (hid : q.id = p.id) : ¬ q.position.Precedes p.position := by
  obtain ⟨before, after, hl, hb⟩ := exists_append_of_mem_firstOfEachId (l := listed feeds node) h
  have hq : q ∈ listed feeds node :=
    mem_listed.mpr ⟨hq, hid ▸ isOpen_of_mem_reconcile h⟩
  have hs : (listed feeds node).Pairwise fun a b => (a.compare b).isLE = true := pairwise_listed
  rw [hl] at hq hs
  have hle : (p.compare q).isLE = true := by
    rcases List.mem_append.mp hq with hq | hq
    · exact absurd hid (hb q hq)
    · rcases List.mem_cons.mp hq with rfl | hq
      · rw [show q.compare q = .eq from ReflCmp.compare_self]
        rfl
      · exact (List.pairwise_cons.mp (List.pairwise_append.mp hs).2.1).1 q hq
  intro hpre
  have hlt := Proposition.compare_eq_lt.mpr (.inl hpre)
  have hgt : q.compare p = .lt → p.compare q = .gt := OrientedCmp.gt_of_lt
  simp [hgt hlt] at hle

theorem earliestOfId_of_mem_reconcile (h : p ∈ reconcile feeds node) :
    EarliestOfId feeds.opened p := by
  let same (q : Proposition) : Bool := q.id == p.id && q.position == p.position
  have hsame : ∀ q, same q = true ↔ q.id = p.id ∧ q.position = p.position := by
    intro q
    simp [same]
  -- The events at the position of `p` keep their order, so `p` is the first of them in the feed too.
  have hfilter : (listed feeds node).filter same = feeds.opened.filter same := by
    rw [listed, filter_mergeSort isLE_trans isLE_total, List.filter_filter]
    · refine List.filter_congr fun q _ => ?_
      cases hq : same q
      · rfl
      · rw [((hsame q).mp hq).1, isOpen_iff.mpr (isOpen_of_mem_reconcile h)]
        rfl
    · intro a b ha hb
      obtain ⟨hai, hap⟩ := (hsame a).mp ha
      obtain ⟨hbi, hbp⟩ := (hsame b).mp hb
      have hid : compare p.id p.id = .eq := ReflCmp.compare_self
      have hposition : p.position.compare p.position = .eq := ReflCmp.compare_self
      rw [Proposition.compare, hai, hbi, hap, hbp, hid, hposition]
      rfl
  obtain ⟨before, after, hl, hb⟩ := exists_append_of_mem_firstOfEachId (l := listed feeds node) h
  have hfind : feeds.opened.find? same = some p := by
    rw [← List.head?_filter, ← hfilter, List.head?_filter, List.find?_eq_some_iff_append]
    refine ⟨(hsame p).mpr ⟨rfl, rfl⟩, before, after, hl, fun q hq => ?_⟩
    simp [same, hb q hq]
  obtain ⟨-, before, after, ho, hb⟩ := List.find?_eq_some_iff_append.mp hfind
  refine ⟨before, after, ho, fun q hq hid => ?_, fun q hq hid => ?_⟩
  · have hnot := not_precedes_of_mem_reconcile h (q := q) (by simp [ho, hq]) hid
    have hne : q.position ≠ p.position := fun e => by simpa [same, hid, e] using hb q hq
    cases hc : p.position.compare q.position with
    | lt => exact LedgerPosition.compare_eq_lt.mp hc
    | eq => exact absurd (LedgerPosition.compare_eq_eq.mp hc).symm hne
    | gt =>
      have hlt : q.position.compare p.position = .lt := OrientedCmp.lt_of_gt hc
      exact absurd (LedgerPosition.compare_eq_lt.mp hlt) hnot
  · exact not_precedes_of_mem_reconcile h (by simp [ho, hq]) hid

theorem mem_opened_of_mem_reconcile (h : p ∈ reconcile feeds node) : p ∈ feeds.opened := by
  obtain ⟨before, after, ho, -, -⟩ := earliestOfId_of_mem_reconcile h
  rw [ho]
  exact List.mem_append_right _ List.mem_cons_self

/-- The events of one id. -/
def Feeds.about (feeds : Feeds) (id : String) : Feeds where
  opened := feeds.opened.filter (·.id == id)
  resolved := feeds.resolved.filter (·.id == id)
  timedOut := feeds.timedOut.filter (·.id == id)

/-- The rule for an id reads no event of another id. -/
theorem Feeds.isOpen_about {id : String} :
    (feeds.about id).IsOpen node id ↔ feeds.IsOpen node id := by
  have hopened : (feeds.about id).opened.filter (·.id == id) =
      feeds.opened.filter (·.id == id) := by
    simp only [Feeds.about, List.filter_filter, Bool.and_self]
  have hcount : (feeds.about id).resolved.countP (·.id == id) =
      feeds.resolved.countP (·.id == id) := by
    simp only [Feeds.about, List.countP_filter, Bool.and_self]
  constructor
  · rintro ⟨hslots, ht, hr⟩
    rw [hopened, hcount] at hslots
    refine ⟨hslots, fun e he hid => ?_, fun e he hid => ?_⟩
    · exact ht e (List.mem_filter.mpr ⟨he, beq_iff_eq.mpr hid⟩) hid
    · exact hr e (List.mem_filter.mpr ⟨he, beq_iff_eq.mpr hid⟩) hid
  · rintro ⟨hslots, ht, hr⟩
    rw [← hopened, ← hcount] at hslots
    refine ⟨hslots, fun e he hid => ?_, fun e he hid => ?_⟩
    · exact ht e (List.mem_filter.mp he).1 hid
    · exact hr e (List.mem_filter.mp he).1 hid

/-- The exact meaning of reconciliation: which ids are kept, that each stands once, which event
stands for it, in which order, that the events of other ids have no say in it, and how many slots
are left, which is never fewer than none. -/
theorem reconcile_exact (feeds : Feeds) (node : String) :
    (∀ id, id ∈ (reconcile feeds node).map (·.id) ↔ feeds.IsOpen node id) ∧
    ((reconcile feeds node).map (·.id)).Nodup ∧
    (∀ p ∈ reconcile feeds node, EarliestOfId feeds.opened p) ∧
    (reconcile feeds node).Pairwise Proposition.Precedes ∧
    (∀ id (others : Feeds), others.about id = feeds.about id →
      (id ∈ (reconcile others node).map (·.id) ↔ id ∈ (reconcile feeds node).map (·.id))) ∧
    ∀ id slots, (freeSlots feeds node)[id]? = some slots ↔
      ∃ p, (feeds.opened.filter (·.id == id)).getLast? = some p ∧ slots.toNat =
        if (feeds.resolved.filter (·.id == id)).any (sameAddress ·.resolver node) then 0
        else p.slots.toNat - feeds.resolved.countP (·.id == id) := by
  refine ⟨fun id => mem_ids_reconcile, nodup_ids_reconcile _ _,
    fun p => earliestOfId_of_mem_reconcile, pairwise_reconcile _ _, fun id others h => ?_,
    fun id slots => toNat_freeSlots⟩
  rw [mem_ids_reconcile, mem_ids_reconcile, ← Feeds.isOpen_about, h, Feeds.isOpen_about]

end Sheltering
