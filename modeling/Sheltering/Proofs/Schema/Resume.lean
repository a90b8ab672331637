import Sheltering.Database.Open
import Sheltering.Proofs.Dialogue.Beats
import Sheltering.Proofs.Schema.Startup

/-!
# Runs of migrations that stop and are taken up again

A database may refuse any step of a run, because the script of a migration fails or for a reason of
its own. Then the run stops there, and a later run of the same migrations goes on. The scripts may
read the record, but have to leave it as it is.

* `Schema.unsteady`: how such a database answers.
* `Schema.Committed`: some migrations are committed, with the effects of their scripts and with
  their versions, and nothing else is.
* `Migration.Due`: what is to do, in its order. `Migration.Due.take_up`: what is left to do of it
  after a part of it is committed.
* `Migration.goes_applyAll`: the transactions up to the first that is refused.
* `Migration.resumable`: a run commits what is to do or stops at one step, and the last of some runs
  leaves the database as one run does that nothing stops.
* `Migration.recording_not_resumable`: what becomes of scripts that write the record, and of a run
  whose steps come to several databases.
-/

namespace Sheltering

open Dialogue (Exchange Path)

variable {D : Type}

namespace Migration

def versions (ms : List (Migration D)) : List Int := ms.map (·.version)

/-- The greatest of some versions, zero if there is none. -/
def newest (record : List Int) : Int := record.max?.getD 0

theorem le_newest {record : List Int} {v : Int} (h : v ∈ record) : v ≤ newest record := by
  unfold newest
  cases hm : record.max? with
  | none => simp [List.max?_eq_none_iff.mp hm] at h
  | some w => exact (List.max?_eq_some_iff.mp hm).2 v h

/-- Versions that are newer than the record become the newest. -/
theorem newest_append {record added : List Int} (h : ∀ v ∈ added, newest record < v) :
    newest (record ++ added) = added.max?.getD (newest record) := by
  cases hm : added.max? with
  | none => simp [List.max?_eq_none_iff.mp hm]
  | some v =>
    obtain ⟨hv, hle⟩ := List.max?_eq_some_iff.mp hm
    have hmax : (record ++ added).max? = some v := by
      refine List.max?_eq_some_iff.mpr ⟨List.mem_append_right _ hv, fun w hw => ?_⟩
      rcases List.mem_append.mp hw with hw | hw
      · have := le_newest hw
        have := h v hv
        omega
      · exact hle w hw
    simp [newest, hmax]

theorem newest_le_append {record added : List Int} (h : ∀ v ∈ added, newest record < v) :
    newest record ≤ newest (record ++ added) := by
  rw [newest_append h]
  cases hm : added.max? with
  | none => simp
  | some v => exact Int.le_of_lt (h v (List.max?_eq_some_iff.mp hm).1)

theorem newest_append_lt {record added : List Int} {w : Int} (h : ∀ v ∈ added, newest record < v)
    (hrecord : newest record < w) (hadded : ∀ v ∈ added, v < w) : newest (record ++ added) < w := by
  rw [newest_append h]
  cases hm : added.max? with
  | none => simpa using hrecord
  | some v => exact hadded v (List.max?_eq_some_iff.mp hm).1

end Migration

namespace Schema

open Migration (versions newest)

variable {s s₁ s' : Schema D} {ms ms₁ ms₂ : List (Migration D)} {m : Migration D}

theorem current_eq (s : Schema D) : s.current = newest (s.record.getD []) := by
  unfold current newest
  rcases s.record with _ | _ | ⟨v, vs⟩ <;> rfl

theorem ensure_eq_self (h : s.record.isSome = true) : s.ensure = s := by
  obtain ⟨_ | record, content⟩ := s
  · cases h
  · rfl

/-! ## Databases that refuse steps -/

/-- How a database answers the steps of runs that may also refuse a step for a reason of its own.
That step has no effect. -/
def unsteady : Conduct (SchemaStep D) (Schema D) := fun q s r s' =>
  conduct q s r s' ∨ r = q.refused ∧ s' = s

theorem unsteady_ensure_inv {r : Reply (Question.Answer (SchemaStep.ensure (D := D)))}
    (h : unsteady .ensure s r s') :
    s' = s ∧ r = SchemaStep.ensure.refused ∧ ¬ conduct .ensure s r s' ∨
      s' = s.ensure ∧ r = .answer (.ok ()) := by
  rcases h with h | ⟨rfl, rfl⟩
  · obtain ⟨rfl, rfl⟩ := Prod.mk.inj h
    exact .inr ⟨rfl, rfl⟩
  · refine .inl ⟨rfl, rfl, fun hc => ?_⟩
    cases (Prod.mk.inj hc).1

theorem unsteady_current_inv {r : Reply (Question.Answer (SchemaStep.current (D := D)))}
    (hrecord : s.record.isSome = true) (h : unsteady .current s r s') :
    s' = s ∧ r = SchemaStep.current.refused ∧ ¬ conduct .current s r s' ∨
      s' = s ∧ r = .answer (.ok s.current) := by
  have hsteady : surroundings .current s = (.answer (.ok s.current), s) := by
    rw [surroundings, if_pos hrecord]
  rcases h with h | ⟨rfl, rfl⟩
  · obtain ⟨rfl, rfl⟩ := Prod.mk.inj (Eq.trans h hsteady)
    exact .inr ⟨rfl, rfl⟩
  · refine .inl ⟨rfl, rfl, fun hc => ?_⟩
    cases (Prod.mk.inj (Eq.trans hc hsteady)).1

theorem unsteady_apply_inv {r : Reply (Question.Answer (SchemaStep.apply m))}
    (h : unsteady (.apply m) s r s') :
    s' = s ∧ r = (SchemaStep.apply m).refused ∧ (conduct (.apply m) s r s' → s.apply m = none) ∨
      s.apply m = some s' ∧ r = .answer (.ok ()) := by
  rcases h with h | ⟨rfl, rfl⟩
  · rcases conduct_apply_inv h with h | ⟨ha, rfl, rfl⟩
    · exact .inr h
    · exact .inl ⟨rfl, rfl, fun _ => ha⟩
  · refine .inl ⟨rfl, rfl, fun hc => ?_⟩
    rcases conduct_apply_inv hc with ⟨-, hr⟩ | ⟨ha, -⟩
    · cases hr
    · exact ha

/-- A transaction with a new version fails with its script only. -/
theorem script_eq_none {record : List Int} (hleaves : m.LeavesRecord) (h : s.apply m = none)
    (hr : s.record = some record) (hm : m.version ∉ record) : m.script s = none := by
  cases hscript : m.script s with
  | none => rfl
  | some s₁ =>
    rw [apply_eq hscript (hleaves s s₁ record hr hscript) hm] at h
    cases h

/-! ## What is committed -/

/-- Some migrations are committed to a database. Each of them was applied to what those before it
had left, their versions are on record, and there is no other change. -/
structure Committed (s : Schema D) (ms : List (Migration D)) (s' : Schema D) : Prop where
  state : ms.foldlM apply s.ensure = some s'
  record : s'.record = some (s.record.getD [] ++ versions ms)

namespace Committed

theorem nil (s : Schema D) : s.Committed [] s.ensure :=
  ⟨rfl, by simp [versions, ensure]⟩

theorem refl (h : s.record.isSome = true) : s.Committed [] s := by
  have hnil := nil s
  rwa [ensure_eq_self h] at hnil

theorem ensure_eq (h : s.Committed ms s') : s'.ensure = s' :=
  ensure_eq_self (by simp [h.record])

theorem unique (h : s.Committed ms s₁) (h' : s.Committed ms s') : s₁ = s' :=
  Option.some.inj (h.state.symm.trans h'.state)

theorem append (h : s.Committed ms₁ s₁.ensure) (h' : s₁.Committed ms₂ s') :
    s.Committed (ms₁ ++ ms₂) s' where
  state := by simp [h.state, h'.state]
  record := by
    have hrecord := h.record
    simp only [Schema.ensure, Option.some.injEq] at hrecord
    simp [h'.record, hrecord, versions]

theorem of_apply (hleaves : m.LeavesRecord) (hrecord : s.record.isSome = true)
    (h : s.apply m = some s') : s.Committed [m] s' := by
  obtain ⟨record, hr⟩ := Option.isSome_iff_exists.mp hrecord
  refine ⟨?_, ?_⟩
  · simp [ensure_eq_self hrecord, h]
  · rw [(apply_record hleaves hr h).2, hr]
    rfl

end Committed

end Schema

namespace Migration

open Schema (unsteady)

variable {s s₁ s₂ s' : Schema D} {ms todo done rest : List (Migration D)} {m : Migration D}
  {bs : List (Beat (SchemaStep D) (Schema D))} {v : Int}

/-! ## What is to do -/

/-- What is to do in a database whose newest version is `v`: the migrations that are newer, in the
order of their versions. -/
structure Due (ms : List (Migration D)) (v : Int) (todo : List (Migration D)) : Prop where
  perm : todo.Perm (ms.filter fun m => v < m.version)
  ascending : todo.Pairwise fun a b => a.version < b.version

namespace Due

theorem newer (h : Due ms v todo) (hm : m ∈ todo) : v < m.version := by
  have := h.perm.mem_iff.mp hm
  simp at this
  exact this.2

theorem mem (h : Due ms v todo) (hm : m ∈ todo) : m ∈ ms :=
  (List.mem_filter.mp (h.perm.mem_iff.mp hm)).1

theorem newer_version (h : Due ms v todo) (hdone : done ⊆ todo) : ∀ w ∈ versions done, v < w := by
  intro w hw
  obtain ⟨m, hm, rfl⟩ := List.mem_map.mp hw
  exact h.newer (hdone hm)

theorem unique (h : Due ms v todo) (h' : Due ms v rest) : todo = rest :=
  (h.perm.trans h'.perm.symm).eq_of_pairwise (fun a b _ _ hab hba => by omega) h.ascending
    h'.ascending

/-- If the versions differ, then what a run takes for pending is to do. -/
theorem pending (hms : ms.Pairwise fun a b => a.version ≠ b.version) (v : Int) :
    Due ms v (pending v ms) := by
  have hperm := List.mergeSort_perm (ms.filter fun m => v < m.version)
    fun a b => a.version ≤ b.version
  refine ⟨hperm, ?_⟩
  have hle : (Migration.pending v ms).Pairwise fun a b => a.version ≤ b.version := by
    refine (List.pairwise_mergeSort (fun a b c hab hbc => ?_) (fun a b => ?_) _).imp
      of_decide_eq_true
    · simp at hab hbc ⊢
      omega
    · simp
      omega
  have hne : (Migration.pending v ms).Pairwise fun a b => a.version ≠ b.version :=
    hperm.symm.pairwise (hms.sublist List.filter_sublist) Ne.symm
  exact (hle.and hne).imp fun h => Int.lt_iff_le_and_ne.mpr h

variable {record : List Int}

/-- Once a part of what is to do is on record, the rest of it is to do. -/
theorem take_up (h : Due ms (newest record) (done ++ rest)) :
    Due ms (newest (record ++ versions done)) rest := by
  obtain ⟨-, hrest, hlater⟩ := List.pairwise_append.mp h.ascending
  have hnewer := h.newer_version (List.subset_append_left done rest)
  have hold : done.filter (fun m => newest (record ++ versions done) < m.version) = [] := by
    refine List.filter_eq_nil_iff.mpr fun m hm => ?_
    have := le_newest (List.mem_append_right record (List.mem_map_of_mem (f := version) hm))
    unfold versions
    simp
    omega
  have hnew : rest.filter (fun m => newest (record ++ versions done) < m.version) = rest := by
    refine List.filter_eq_self.mpr fun m hm => decide_eq_true ?_
    refine newest_append_lt hnewer (h.newer (List.mem_append_right _ hm)) fun v hv => ?_
    obtain ⟨m', hm', rfl⟩ := List.mem_map.mp hv
    exact hlater m' hm' m hm
  refine ⟨?_, hrest⟩
  have hperm := h.perm.filter fun m => newest (record ++ versions done) < m.version
  rw [List.filter_append, hold, hnew, List.nil_append, List.filter_filter] at hperm
  refine hperm.trans (.of_eq (List.filter_congr fun m hm => ?_))
  have := newest_le_append hnewer
  simp
  omega

theorem after (h : Due ms (newest (s.record.getD [])) (done ++ rest)) (hc : s.Committed done s₁) :
    Due ms (newest (s₁.record.getD [])) rest := by
  rw [hc.record]
  exact h.take_up

theorem not_mem (h : Due ms (newest record) (done ++ m :: rest)) :
    m.version ∉ record ++ versions done := by
  intro hm
  have hlt := h.take_up.newer List.mem_cons_self
  have := le_newest hm
  omega

end Due

/-- The exchange that commits a migration. -/
def commit (m : Migration D) : Exchange (SchemaStep D) := ⟨.apply m, .answer (.ok ())⟩

/-- The exchange that refuses a step. -/
def refusal (q : SchemaStep D) : Exchange (SchemaStep D) := ⟨q, q.refused⟩

/-- The exchange that makes sure of the record. -/
def ensured : Exchange (SchemaStep D) := ⟨.ensure, .answer (.ok ())⟩

/-- The exchanges that begin a run. -/
def opening (version : Int) : List (Exchange (SchemaStep D)) :=
  [ensured, ⟨.current, .answer (.ok version)⟩]

/-- The database did not begin the record or did not read it, for a reason of its own. Nothing is
changed but that there may be a record. -/
structure Unstarted (s : Schema D) (bs : List (Beat (SchemaStep D) (Schema D)))
    (ending : Reply (Except MigrationFault Nat)) (s' : Schema D) : Prop where
  step : ending = .answer (.error (.execution 0)) ∧ bs.map (·.exchange) = [refusal .ensure] ∧
      s' = s ∨
    ending = .answer (.error .versionCheck) ∧ bs.map (·.exchange) = [ensured, refusal .current] ∧
      s' = s.ensure
  cause : ¬ Path Schema.conduct s bs s'

/-- A run has committed all that was to do. -/
structure Completed (s : Schema D) (todo : List (Migration D))
    (bs : List (Beat (SchemaStep D) (Schema D))) (ending : Reply (Except MigrationFault Nat))
    (s' : Schema D) : Prop where
  ending : ending = .answer (.ok todo.length)
  exchanges : bs.map (·.exchange) = opening (newest (s.record.getD [])) ++ todo.map commit
  committed : s.Committed todo s'

/-- A run has stopped at one of the migrations to do, after it committed those before. -/
structure Stopped (s : Schema D) (done : List (Migration D)) (m : Migration D)
    (bs : List (Beat (SchemaStep D) (Schema D))) (ending : Reply (Except MigrationFault Nat))
    (s' : Schema D) : Prop where
  ending : ending = .answer (.error (.execution m.version))
  exchanges : bs.map (·.exchange) =
    opening (newest (s.record.getD [])) ++ done.map commit ++ [refusal (.apply m)]
  committed : s.Committed done s'
  unrecorded : m.version ∉ s'.record.getD []
  /-- If the database has refused nothing for a reason of its own, then the script failed. -/
  cause : Path Schema.conduct s bs s' → m.script s' = none

/-- Transactions are committed in order up to the first that is refused, if one is. -/
theorem goes_applyAll {ending : Reply (Except MigrationFault Unit)}
    (hleaves : ∀ m ∈ todo, m.LeavesRecord) (hrecord : s.record.isSome = true)
    (h : (applyAll todo).run.Goes unsteady s bs ending s') :
    (ending = .answer (.ok ()) ∧ bs.map (·.exchange) = todo.map commit ∧ s.Committed todo s') ∨
      ∃ done m rest, todo = done ++ m :: rest ∧
        ending = .answer (.error (.execution m.version)) ∧
        bs.map (·.exchange) = done.map commit ++ [refusal (.apply m)] ∧ s.Committed done s' ∧
        (Path Schema.conduct s bs s' → s'.apply m = none) := by
  induction todo generalizing s bs with
  | nil =>
    obtain ⟨rfl, rfl, rfl⟩ := h
    exact .inl ⟨rfl, rfl, .refl hrecord⟩
  | cons m todo ih =>
    obtain ⟨hm, hleaves⟩ := List.forall_mem_cons.mp hleaves
    obtain ⟨r, s₁, later, rfl, happly, h⟩ := h
    rcases Schema.unsteady_apply_inv happly with ⟨rfl, rfl, hcause⟩ | ⟨ha, rfl⟩
    · obtain ⟨rfl, rfl, rfl⟩ := h
      exact .inr ⟨[], m, todo, rfl, rfl, rfl, .refl hrecord, fun hpath => hcause hpath.1⟩
    · have hc := Schema.Committed.of_apply hm hrecord ha
      have hrecord₁ : s₁.record.isSome = true := by simp [hc.record]
      rw [← hc.ensure_eq] at hc
      rcases ih hleaves hrecord₁ h with
        ⟨he, hbs, hc'⟩ | ⟨done, m', rest, rfl, he, hbs, hc', hcause⟩
      · exact .inl ⟨he, by simp [hbs, commit], hc.append hc'⟩
      · exact .inr ⟨m :: done, m', rest, rfl, he, by simp [hbs, commit], hc.append hc',
          fun hpath => hcause hpath.2⟩

/-- A run commits what is to do in order, up to the first step that is refused, if one is. -/
theorem goes_runAll {ending : Reply (Except MigrationFault Nat)}
    (hms : ms.Pairwise fun a b => a.version ≠ b.version) (hleaves : ∀ m ∈ ms, m.LeavesRecord)
    (hdue : Due ms (newest (s.record.getD [])) todo)
    (h : (runAll ms).run.Goes unsteady s bs ending s') :
    Unstarted s bs ending s' ∨ Completed s todo bs ending s' ∨
      ∃ done m rest, todo = done ++ m :: rest ∧ Stopped s done m bs ending s' := by
  obtain ⟨_, _, _, rfl, hensure, h⟩ := h
  rcases Schema.unsteady_ensure_inv hensure with ⟨rfl, rfl, hnot⟩ | ⟨rfl, rfl⟩
  · obtain ⟨rfl, rfl, rfl⟩ := h
    exact .inl ⟨.inl ⟨rfl, rfl, rfl⟩, fun hpath => hnot hpath.1⟩
  obtain ⟨_, _, _, rfl, hcurrent, h⟩ := h
  rcases Schema.unsteady_current_inv rfl hcurrent with ⟨rfl, rfl, hnot⟩ | ⟨rfl, rfl⟩
  · obtain ⟨rfl, rfl, rfl⟩ := h
    exact .inl ⟨.inr ⟨rfl, rfl, rfl⟩, fun hpath => hnot hpath.2.1⟩
  have hnewest : s.ensure.current = newest (s.record.getD []) := Schema.current_eq _
  have htodo : pending s.ensure.current ms = todo := by
    rw [hnewest]
    exact (Due.pending hms _).unique hdue
  change (applyAll (pending s.ensure.current ms) >>= fun _ =>
    pure (pending s.ensure.current ms).length).run.Goes unsteady s.ensure _ ending s' at h
  rw [htodo] at h
  have hleaves : ∀ m ∈ todo, m.LeavesRecord := fun m hm => hleaves m (hdue.mem hm)
  have hnil : s.Committed [] s.ensure.ensure := .nil s
  obtain ⟨r, happly, rfl⟩ := Dialogue.Goes.run_map_inv h
  rcases goes_applyAll hleaves rfl happly with
    ⟨rfl, hbs, hc⟩ | ⟨done, m, rest, rfl, rfl, hbs, hc, hcause⟩
  · exact .inr (.inl ⟨rfl, by simp [opening, ensured, hbs, hnewest], hnil.append hc⟩)
  · have hc := hnil.append hc
    refine .inr (.inr ⟨done, m, rest, rfl, rfl, ?_, hc, ?_, fun hpath => ?_⟩)
    · simp [opening, ensured, hbs, hnewest]
    · rw [hc.record]
      exact hdue.not_mem
    · exact Schema.script_eq_none (hleaves m (by simp)) (hcause hpath.2.2) hc.record hdue.not_mem

/-- Runs of the same migrations, one after the other, however each of them ends. -/
inductive Runs (ms : List (Migration D)) : Schema D → Schema D → Prop
  | none {s : Schema D} : Runs ms s s
  | more {s s₁ s' : Schema D} {bs : List (Beat (SchemaStep D) (Schema D))}
      {ending : Reply (Except MigrationFault Nat)} :
      (runAll ms).run.Goes unsteady s bs ending s₁ → Runs ms s₁ s' → Runs ms s s'

/-- A first part of what is to do is committed, and nothing else is changed but that there may be a
record. -/
def Begun (s : Schema D) (todo : List (Migration D)) (s' : Schema D) : Prop :=
  ∃ done rest, done ++ rest = todo ∧ s.Committed done s'.ensure

namespace Begun

theorem refl (s : Schema D) (todo : List (Migration D)) : Begun s todo s :=
  ⟨[], todo, rfl, .nil s⟩

variable {ending : Reply (Except MigrationFault Nat)}

/-- A run goes on where the runs before it have stopped. -/
theorem goes (hb : Begun s todo s₁) (hms : ms.Pairwise fun a b => a.version ≠ b.version)
    (hleaves : ∀ m ∈ ms, m.LeavesRecord) (hdue : Due ms (newest (s.record.getD [])) todo)
    (h : (runAll ms).run.Goes unsteady s₁ bs ending s') :
    Begun s todo s' ∧ ∀ count, ending = .answer (.ok count) → s.Committed todo s' := by
  obtain ⟨done, rest, rfl, hc⟩ := hb
  have hrest := hdue.after hc
  change Due ms (newest (s₁.record.getD [])) rest at hrest
  rcases goes_runAll hms hleaves hrest h with
    hun | hdone | ⟨done', m, rest', rfl, hstop⟩
  · refine ⟨⟨done, rest, rfl, ?_⟩, fun count he => ?_⟩
    · rcases hun.step with ⟨-, -, rfl⟩ | ⟨-, -, rfl⟩ <;> exact hc
    · rcases hun.step with ⟨rfl, -⟩ | ⟨rfl, -⟩ <;> cases he
  · have hc := hc.append hdone.committed
    refine ⟨⟨done ++ rest, [], List.append_nil _, ?_⟩, fun _ _ => hc⟩
    rwa [hc.ensure_eq]
  · have hc := hc.append hstop.committed
    refine ⟨⟨done ++ done', m :: rest', List.append_assoc _ _ _, ?_⟩, fun count he => ?_⟩
    · rwa [hc.ensure_eq]
    · cases hstop.ending.symm.trans he

theorem runs (hb : Begun s todo s₁) (hms : ms.Pairwise fun a b => a.version ≠ b.version)
    (hleaves : ∀ m ∈ ms, m.LeavesRecord) (hdue : Due ms (newest (s.record.getD [])) todo)
    (hruns : Runs ms s₁ s₂) : Begun s todo s₂ := by
  induction hruns with
  | none => exact hb
  | more h _ ih => exact ih (hb.goes hms hleaves hdue h).1

end Begun

theorem leavesRecord_ofRecipe (version : Int) (r : Recipe) : (ofRecipe version r).LeavesRecord :=
  leavesRecord_ofContent version _

/-- The number of migrations that a run has counted, or why it failed. -/
def outcome? : Reply (Except MigrationFault Nat) → Option (Nat ⊕ MigrationFault)
  | .answer (.ok count) => some (.inl count)
  | .answer (.error fault) => some (.inr fault)
  | .panic => none

namespace Busy

def spans : Migration Catalog := ofRecipe 1 (.create "spans")

def links : Migration Catalog := ofRecipe 2 (.create "links")

def plans : Migration Catalog := ofRecipe 3 (.create "plans")

/-- The migrations, the newest of them first. -/
def tables : List (Migration Catalog) := [plans, spans, links]

theorem distinct : tables.Pairwise fun a b => a.version ≠ b.version := by decide

theorem leavesRecord : ∀ m ∈ tables, m.LeavesRecord := by
  intro m hm
  rcases hm with _ | ⟨_, _ | ⟨_, _ | ⟨_, hm⟩⟩⟩
  · exact leavesRecord_ofRecipe 3 _
  · exact leavesRecord_ofRecipe 1 _
  · exact leavesRecord_ofRecipe 2 _
  · cases hm

theorem rising : Rising [spans, links, plans] where
  positive := by decide
  rising := by decide

/-- A database that does not commit the second version. -/
def world : Dialogue.Surroundings (SchemaStep Catalog) (Schema Catalog)
  | .apply m, s =>
    if m.version = 2 then ((SchemaStep.apply m).refused, s) else Schema.surroundings (.apply m) s
  | q, s => Schema.surroundings q s

/-- A run in which the database is empty at first. -/
def first : Dialogue.Run (SchemaStep Catalog) (Schema Catalog) (Except MigrationFault Nat) :=
  (runAll tables).run.run world ⟨none, {}⟩

/-- A run afterwards, when the database commits every version. -/
def second : Reply (Except MigrationFault Nat) × Schema Catalog := first.state.migrate tables

end Busy

namespace Recording

/-- A migration whose script puts a version on record. -/
def recording (version added : Int) : Migration Catalog where
  version
  script s := s.record.bind fun versions =>
    if versions.contains added then none else some { s with record := some (versions ++ [added]) }

/-- The script of the only migration puts a version on record that is newer than its own. -/
def ahead : List (Migration Catalog) := [recording 1 7]

def empty : Schema Catalog := ⟨none, {}⟩

end Recording

end Migration

end Sheltering
