import Sheltering.Schema

/-!
# The record of migrations

* `Migration.Rising`: versions are positive and rise.
* `Migration.Rising.pending_eq`: such migrations are applied as they are listed.
* `Migration.LeavesRecord`: a script leaves the record as it is.
* `Schema.apply_inv`: what a transaction does that succeeds. `Schema.apply_record`: what it does to
  the record.
* `Schema.Reached`: the first of the migrations are recorded, and no others.
* `Schema.Reached.pending_eq`: then those that are pending are the others.
* `Schema.Reached.apply_next`, `Schema.Reached.apply_earlier`: the next migration can be applied, and
  none of the earlier ones.
-/

namespace Sheltering

variable {D : Type}

/-- The versions of migrations are positive and rise. -/
structure Migration.Rising (ms : List (Migration D)) : Prop where
  positive : ∀ m ∈ ms, 0 < m.version
  rising : ms.Pairwise fun a b => a.version < b.version

theorem Migration.Rising.lt_of_mem {ms : List (Migration D)} (h : Migration.Rising ms) {k : Nat}
    {m m' : Migration D} (hm : m ∈ ms.take k) (hm' : m' ∈ ms.drop k) : m.version < m'.version := by
  have hsplit := h.rising
  rw [← List.take_append_drop k ms, List.pairwise_append] at hsplit
  exact hsplit.2.2 m hm m' hm'

/-- Migrations whose versions rise are applied as they are listed. -/
theorem Migration.Rising.pending_eq {ms : List (Migration D)} (h : Migration.Rising ms)
    (current : Int) : Migration.pending current ms = ms.filter fun m => current < m.version := by
  have hlater := h.rising.sublist (List.filter_sublist (p := fun m => current < m.version))
  exact List.mergeSort_of_pairwise (hlater.imp fun hlt => decide_eq_true (Int.le_of_lt hlt))

/-- A script that does not fail leaves the record as it is. It may read it. -/
def Migration.LeavesRecord (m : Migration D) : Prop :=
  ∀ s s' versions, s.record = some versions → m.script s = some s' → s'.record = some versions

theorem Migration.leavesRecord_ofContent (version : Int) (change : D → Option D) :
    (ofContent version change).LeavesRecord := by
  intro s s' versions hrecord h
  obtain ⟨content, -, rfl⟩ := Option.map_eq_some_iff.mp h
  exact hrecord

namespace Schema

/-- How a database answers the steps of runs, in whatever order they come. -/
def conduct : (q : SchemaStep D) → Schema D → Reply (Question.Answer q) → Schema D → Prop :=
  fun q s r s' => (r, s') = surroundings q s

/-- The first `k` of some migrations are recorded, and `c` says what their scripts have made of the
content. -/
structure Reached (ms : List (Migration D)) (c : Nat → D) (k : Nat) (s : Schema D) : Prop where
  le : k ≤ ms.length
  record : s.record.getD [] = (ms.take k).map (·.version)
  content : s.content = c k

variable {s s' : Schema D} {ms : List (Migration D)} {m : Migration D} {c : Nat → D} {j k : Nat}

/-- A transaction that succeeds puts a new version on record. -/
theorem apply_inv (h : s.apply m = some s') : ∃ s₁ versions, m.script s = some s₁ ∧
    s₁.record = some versions ∧ m.version ∉ versions ∧
      s' = { s₁ with record := some (versions ++ [m.version]) } := by
  simp only [apply, Option.bind_eq_bind, Option.bind_eq_some_iff] at h
  obtain ⟨s₁, hscript, versions, hrecord, h⟩ := h
  split at h
  · cases h
  · rename_i hnew
    exact ⟨s₁, versions, hscript, hrecord, fun hmem => hnew (List.contains_iff_mem.mpr hmem),
      (Option.some.inj h).symm⟩

/-- A transaction succeeds whose script leaves the record as it is, if its version is new. -/
theorem apply_eq {s₁ : Schema D} {versions : List Int} (hscript : m.script s = some s₁)
    (hrecord : s₁.record = some versions) (hnew : m.version ∉ versions) :
    s.apply m = some { s₁ with record := some (versions ++ [m.version]) } := by
  simp [apply, hscript, hrecord, hnew]

/-- A transaction whose script leaves the record as it is extends it by a new version. -/
theorem apply_record {versions : List Int} (hleaves : m.LeavesRecord)
    (hr : s.record = some versions) (h : s.apply m = some s') :
    m.version ∉ versions ∧ s'.record = some (versions ++ [m.version]) := by
  obtain ⟨s₁, versions', hscript, hrecord, hnew, rfl⟩ := apply_inv h
  obtain rfl := Option.some.inj (hrecord.symm.trans (hleaves s s₁ versions hr hscript))
  exact ⟨hnew, rfl⟩

theorem conduct_apply_inv {r : Reply (Question.Answer (SchemaStep.apply m))}
    (h : conduct (.apply m) s r s') : s.apply m = some s' ∧ r = .answer (.ok ()) ∨
      s.apply m = none ∧ s' = s ∧ r = (SchemaStep.apply m).refused := by
  unfold conduct at h
  rw [surroundings] at h
  split at h
  · rename_i s₁ ha
    obtain ⟨rfl, rfl⟩ := Prod.mk.inj h
    exact .inl ⟨ha, rfl⟩
  · rename_i ha
    obtain ⟨rfl, rfl⟩ := Prod.mk.inj h
    exact .inr ⟨ha, rfl, rfl⟩

/-- The newest version is one of the record or zero, and none of the record is newer. -/
theorem current_spec (s : Schema D) :
    (s.current = 0 ∨ s.current ∈ s.record.getD []) ∧ ∀ v ∈ s.record.getD [], v ≤ s.current := by
  rw [current]
  split
  · rename_i v vs h
    have hmax : (v :: vs).max? = some (vs.foldl max v) := List.max?_cons'
    rw [List.max?_eq_some_iff] at hmax
    rw [h]
    exact ⟨.inr hmax.1, hmax.2⟩
  · rename_i h
    refine ⟨.inl rfl, fun v hv => ?_⟩
    rcases hr : s.record with _ | (_ | ⟨v', vs⟩)
    · rw [hr] at hv
      cases hv
    · rw [hr] at hv
      cases hv
    · exact absurd hr (h v' vs)

namespace Reached

theorem nodup (h : s.Reached ms c k) (hms : Migration.Rising ms) : (s.record.getD []).Nodup := by
  rw [h.record, List.nodup_iff_pairwise_ne, List.pairwise_map]
  exact ((hms.rising.sublist (List.take_sublist k ms))).imp fun hlt => Int.ne_of_lt hlt

/-- What is pending is what is not recorded. -/
theorem pending_eq (h : s.Reached ms c k) (hms : Migration.Rising ms) :
    Migration.pending s.current ms = ms.drop k := by
  obtain ⟨hmem, hmax⟩ := current_spec s
  rw [h.record] at hmem hmax
  have hold : (ms.take k).filter (fun m => s.current < m.version) = [] := by
    rw [List.filter_eq_nil_iff]
    intro m hm
    rw [decide_eq_true_iff]
    have := hmax m.version (List.mem_map_of_mem hm)
    omega
  have hnew : (ms.drop k).filter (fun m => s.current < m.version) = ms.drop k := by
    rw [List.filter_eq_self]
    intro m hm
    rw [decide_eq_true_iff]
    obtain h0 | hv := hmem
    · rw [h0]
      exact hms.positive m (List.mem_of_mem_drop hm)
    · obtain ⟨m', hm', he⟩ := List.mem_map.mp hv
      rw [← he]
      exact hms.lt_of_mem hm' hm
  rw [hms.pending_eq]
  conv => lhs; rw [← List.take_append_drop k ms]
  rw [List.filter_append, hold, hnew, List.nil_append]

theorem ensure (h : s.Reached ms c k) : s.ensure.Reached ms c k :=
  ⟨h.le, h.record, h.content⟩

/-- The next migration is applied, and recorded. -/
theorem apply_next (h : s.Reached ms c k) (hms : Migration.Rising ms) (hr : s.record.isSome = true)
    (hk : k < ms.length)
    (hscript : ms[k].script ⟨some ((ms.take k).map (·.version)), c k⟩ =
      some ⟨some ((ms.take k).map (·.version)), c (k + 1)⟩) :
    ∃ s', s.apply ms[k] = some s' ∧ s'.record.isSome = true ∧ s'.Reached ms c (k + 1) := by
  obtain ⟨versions, hv⟩ := Option.isSome_iff_exists.mp hr
  have hrecord := h.record
  rw [hv, Option.getD_some] at hrecord
  have hnew : ms[k].version ∉ versions := by
    rw [hrecord]
    intro hmem
    obtain ⟨m, hm, he⟩ := List.mem_map.mp hmem
    have hlt := hms.lt_of_mem hm (List.mem_drop_iff_getElem.mpr ⟨0, by omega, rfl⟩)
    exact Int.ne_of_lt hlt he
  rw [← h.content, ← hrecord, ← hv] at hscript
  refine ⟨_, apply_eq hscript hv hnew, rfl, hk, ?_, rfl⟩
  rw [Option.getD_some, hrecord, List.take_add_one, List.map_append]
  simp [hk]

/-- An earlier migration cannot be applied again. -/
theorem apply_earlier (h : s.Reached ms c k) (hj : j < k) (hjm : j < ms.length)
    (hleaves : ms[j].LeavesRecord) : s.apply ms[j] = none := by
  have hmem : ms[j].version ∈ s.record.getD [] := by
    rw [h.record]
    refine List.mem_map_of_mem ?_
    rw [List.mem_take_iff_getElem]
    exact ⟨j, by omega, rfl⟩
  rw [Option.eq_none_iff_forall_ne_some]
  intro s' ha
  cases hr : s.record with
  | none =>
    rw [hr] at hmem
    cases hmem
  | some versions =>
    rw [hr] at hmem
    exact (apply_record hleaves hr ha).1 hmem

end Reached

end Schema

end Sheltering
