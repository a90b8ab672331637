import Sheltering.Proofs.Dialogue.Conduct
import Sheltering.Proofs.Instant.Reading
import Sheltering.Proofs.Lease.Table
import Sheltering.Proofs.Text.Bytes
import Sheltering.Proofs.Uuid

/-!
# What a table of leases means

* `Lease.Recorded`: the instants of a lease are such as a row can hold.
* `LeaseRow.read_ofLease`: the row of such a lease is read as that lease.
* `LeaseTable.Holds`: a table holds the leases of a map from work types, and nothing else.
* `LeaseTable.Holds.get?_eq`, `LeaseTable.Holds.list_eq`: what is read from such a table.
* `LeaseTable.Holds.acquire`, `LeaseTable.Holds.close`: what the statements do to the map.
-/

namespace Sheltering

/-! ## Instants -/

namespace Instant

/-- The instant is one that a row can hold: nothing of it is lost. -/
structure IsStamp (t : Instant) : Prop where
  storable : t.Storable
  micros : t.toMicros = t

instance (t : Instant) : Decidable t.IsStamp :=
  decidable_of_iff (t.Storable ∧ t.toMicros = t) ⟨fun ⟨hs, hm⟩ => ⟨hs, hm⟩, fun h => ⟨h.1, h.2⟩⟩

variable {t : Instant}

theorem Storable.isStamp (h : t.Storable) : t.toMicros.IsStamp :=
  ⟨h.toMicros, toMicros_toMicros t⟩

theorem stored_toMicros (t : Instant) : t.toMicros.stored = t.stored :=
  stored_eq_stored (toMicros_toMicros t)

theorem IsStamp.read (h : t.IsStamp) : Column.instant t.stored = .ok t := by
  have hread := ofStored?_stored h.storable
  rw [h.micros] at hread
  rw [Column.instant, hread]

end Instant

/-! ## Rows -/

/-- The instants of the lease are such as a row can hold. -/
structure Lease.Recorded (l : Lease) : Prop where
  start : l.start.IsStamp
  finish : ∀ t, l.finish = some t → t.IsStamp
  deadline : l.deadline.IsStamp

namespace LeaseRow

@[simp] theorem isRunning_ofLease {l : Lease} :
    (ofLease l).isRunning = true ↔ l.status = .running := by
  have hname : ∀ s : LeaseStatus, s.name = LeaseStatus.running.name ↔ s = .running := by
    intro s
    cases s <;> decide
  rw [isRunning, beq_iff_eq]
  exact hname l.status

theorem ofName?_name (s : LeaseStatus) : LeaseStatus.ofName? s.name = some s := by
  cases s <;> decide +kernel

/-- The row of a lease whose instants it can hold is read as that lease. -/
theorem read_ofLease {l : Lease} (h : l.Recorded) : (ofLease l).read = .ok l := by
  obtain ⟨id, workType, status, start, finish, deadline⟩ := l
  obtain ⟨hstart, hfinish, hdeadline⟩ := h
  have hread : (finish.map Instant.stored).mapM Column.instant = .ok finish := by
    cases finish with
    | none => rfl
    | some t =>
      rw [Option.map_some, Option.mapM_some, (hfinish t rfl).read]
      rfl
  have hid : Column.uuid id.text = .ok id := by rw [Column.uuid, Uuid.ofText?_text]
  simp only [ofLease, read, ofName?_name, hid, hstart.read, hread, hdeadline.read]
  rfl

end LeaseRow

/-! ## Tables -/

namespace LeaseTable

/-- The table holds the leases of a map from work types, each as the only row of its work type, and
no other row. -/
structure Holds (t : LeaseTable) (entry : String → Option Lease) : Prop where
  single : t.Single
  row : ∀ w, t.row? w = (entry w).map LeaseRow.ofLease
  recorded : ∀ {w l}, entry w = some l → l.Recorded

/-- The leases of a map from work types, each once, in the order of the bytes of the work types. -/
structure IsListing (entry : String → Option Lease) (ls : List Lease) : Prop where
  sorted : ls.Pairwise fun a b => Text.bytes a.workType < Text.bytes b.workType
  mem : ∀ l, l ∈ ls ↔ entry l.workType = some l

namespace Holds

variable {t : LeaseTable} {entry : String → Option Lease} {w : String} {l : Lease} {r : LeaseRow}

theorem row_of_entry (h : t.Holds entry) (hl : entry w = some l) :
    t.row? w = some (.ofLease l) := by
  rw [h.row, hl]
  rfl

theorem workType_eq (h : t.Holds entry) (hl : entry w = some l) : l.workType = w :=
  workType_of_row? (h.row_of_entry hl)

/-- Every row is that of a lease. -/
theorem exists_of_mem (h : t.Holds entry) (hr : r ∈ t.rows) :
    ∃ l, entry r.workType = some l ∧ r = .ofLease l := by
  have hrow := (row?_eq_some_iff h.single).mpr ⟨hr, rfl⟩
  rw [h.row, Option.map_eq_some_iff] at hrow
  obtain ⟨l, hl, rfl⟩ := hrow
  exact ⟨l, hl, rfl⟩

theorem mem_of_entry (h : t.Holds entry) (hl : entry w = some l) : .ofLease l ∈ t.rows :=
  mem_of_row? (h.row_of_entry hl)

/-- The lease of a work type is the one that the map gives it. -/
theorem get?_eq (h : t.Holds entry) (w : String) : t.get? w = .ok (entry w) := by
  have hrow : t.rows.find? (·.workType == w) = (entry w).map LeaseRow.ofLease := h.row w
  rw [get?, hrow]
  cases hl : entry w with
  | none => rfl
  | some l =>
    rw [Option.map_some, Option.mapM_some, LeaseRow.read_ofLease (h.recorded hl)]
    rfl

/-- Rows of leases are read one by one. -/
theorem mapM_read (h : t.Holds entry) {rows : List LeaseRow} (hrows : ∀ r ∈ rows, r ∈ t.rows) :
    rows.mapM LeaseRow.read = .ok (rows.filterMap fun r => entry r.workType) := by
  induction rows with
  | nil => rfl
  | cons r rows ih =>
    obtain ⟨hr, hrest⟩ := List.forall_mem_cons.mp hrows
    obtain ⟨l, hl, rfl⟩ := h.exists_of_mem hr
    rw [List.mapM_cons, LeaseRow.read_ofLease (h.recorded hl), ih hrest, List.filterMap_cons, hl]
    rfl

/-- All leases are those of the map, in the order of their work types. -/
theorem list_eq (h : t.Holds entry) : ∃ ls, t.list = .ok ls ∧ IsListing entry ls := by
  have hmem : ∀ r, r ∈ t.rows.mergeSort (fun a b => a.workType ≤ b.workType) → r ∈ t.rows :=
    fun r => List.mem_mergeSort.mp
  refine ⟨_, h.mapM_read hmem, ?_, fun l => ?_⟩
  · rw [List.pairwise_filterMap]
    let le : LeaseRow → LeaseRow → Bool := fun a b => a.workType ≤ b.workType
    have htrans : ∀ a b c, le a b = true → le b c = true → le a c = true := fun a b c hab hbc =>
      decide_eq_true (String.le_trans (of_decide_eq_true hab) (of_decide_eq_true hbc))
    have htotal : ∀ a b, (le a b || le b a) = true := fun a b => by
      simpa [le] using String.le_total a.workType b.workType
    have hle := List.pairwise_mergeSort htrans htotal t.rows
    -- No two rows have one work type, so the order of the sorted rows is a strict one.
    have hperm := (List.mergeSort_perm t.rows fun a b => a.workType ≤ b.workType).map (·.workType)
    have hnodup : (t.rows.map (·.workType)).Nodup := h.single
    have hne := List.pairwise_map.mp (hperm.nodup_iff.mpr hnodup)
    refine (hle.and hne).imp fun {a b} ⟨hab, hne⟩ l hl l' hl' => ?_
    rw [h.workType_eq hl, h.workType_eq hl']
    refine Text.bytes_lt_iff.mpr (String.not_le.mp fun hba => hne ?_)
    exact String.le_antisymm (of_decide_eq_true hab) hba
  · rw [List.mem_filterMap]
    constructor
    · rintro ⟨r, -, hl⟩
      rwa [h.workType_eq hl]
    · intro hl
      exact ⟨.ofLease l, List.mem_mergeSort.mpr (h.mem_of_entry hl), hl⟩

/-! ## Statements -/

/-- A lease that is taken becomes the one of its work type. -/
theorem acquire (h : t.Holds entry) {now : Instant} {t' : LeaseTable} (hl : l.Recorded)
    (ha : (t.expire l.workType now).2.acquire (.ofLease l) = .ok (true, t')) :
    t'.Holds (moved entry l.workType (some l)) := by
  have hsingle : (t.expire l.workType now).2.Single := by
    rw [Single, expire, map_workType_update (by intro r; rfl)]
    exact h.single
  obtain ⟨hf, -⟩ | ⟨-, hacquired⟩ := acquire_cases ha
  · cases hf
  refine ⟨hsingle.acquire ha, fun w => ?_, fun {w l'} hl' => ?_⟩
  · by_cases hw : w = l.workType
    · subst hw
      rw [moved_self]
      exact hacquired.self
    · rw [moved_ne _ _ hw, hacquired.other w hw, expire, row?_update (by intro r; rfl), ← h.row]
      cases hrow : t.row? w with
      | none => rfl
      | some r =>
        have hr := workType_of_row? hrow
        rw [Option.map_some, if_neg (by simp [hr, hw])]
  · by_cases hw : w = l.workType
    · subst hw
      rw [moved_self] at hl'
      exact Option.some.inj hl' ▸ hl
    · rw [moved_ne _ _ hw] at hl'
      exact h.recorded hl'

/-- The lease with an identifier ends, and no other changes. -/
theorem close (h : t.Holds entry) (id : Uuid) (success : Bool) {now : Instant}
    (hnow : now.Storable) : (t.close id success now).2.Holds fun w => (entry w).map fun l =>
      if l.id = id then { l with status := .finished success, finish := some now.toMicros }
      else l := by
  refine ⟨?_, fun w => ?_, fun {w l} hl => ?_⟩
  · rw [Single, LeaseTable.close, map_workType_update (by intro r; rfl)]
    exact h.single
  · rw [LeaseTable.close, row?_update (by intro r; rfl), h.row, Option.map_map, Option.map_map]
    refine congrArg (Option.map · _) (funext fun l => ?_)
    rw [Function.comp, Function.comp]
    by_cases hid : l.id = id
    · rw [if_pos hid, if_pos (by simp [LeaseRow.ofLease, hid])]
      simp [LeaseRow.ofLease, Instant.stored_toMicros]
    · have htext : ¬ ((LeaseRow.ofLease l).id == id.text) = true :=
        fun he => hid (Uuid.text_inj.mp (beq_iff_eq.mp he))
      rw [if_neg hid, if_neg htext]
  · obtain ⟨l, hentry, rfl⟩ := Option.map_eq_some_iff.mp hl
    have hrecorded := h.recorded hentry
    split
    · refine ⟨hrecorded.start, ?_, hrecorded.deadline⟩
      rintro t ht
      exact Option.some.inj ht ▸ hnow.isStamp
    · exact hrecorded

end Holds

end LeaseTable

end Sheltering
