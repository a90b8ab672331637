import Sheltering.Proofs.Dialogue.Assembly
import Sheltering.Proofs.Schema.Record
import Sheltering.Schema.Tables

/-!
# Processes that migrate one database

Several processes run the same migrations on one database, and their steps come in any order. A
process may act on a version that is outdated by then. Its transaction is refused, and it gives up.

* `Migration.Stage`, `Migration.Stage.Step`: where a run is, and what it does next.
* `Migration.Staged`: where all of them are. One of them has committed the last of what is committed,
  and goes on with the next.
* `Migration.commits_once`: every migration is committed at most once, a process is refused only what
  was committed meanwhile, and they do not all fail.
* `Migration.outdated_version_refused`: one of two processes is refused.
-/

namespace Sheltering

open Dialogue (Exchange ask call done)

namespace Migration

variable {D : Type} {ms : List (Migration D)} {c : Nat → D} {s s' : Schema D} {k k' k₀ n : Nat}

/-- The version that an exchange has put on record. -/
def committed? : Exchange (SchemaStep D) → Option Int
  | ⟨.apply m, .answer (.ok ())⟩ => some m.version
  | _ => none

/-! ## One run -/

/-- A run of migrations whose versions rise. -/
theorem runAll_eq (hms : Rising ms) : runAll ms = (do
    let _ : Unit ← ExceptT.mk (call SchemaStep.ensure)
    let current : Int ← ExceptT.mk (call SchemaStep.current)
    applyAll (ms.filter fun m => current < m.version)
    pure (ms.filter fun m => current < m.version).length) := by
  simp only [← hms.pending_eq]
  rfl

/-- Where a run is. -/
inductive Stage where
  | opening
  /-- There is a record. -/
  | reading
  /-- The migrations from the `j`th on are to be applied. -/
  | applying (j count : Nat)
  /-- The migration of this version was refused. -/
  | refused (version : Int)

/-- The scripts leave the record as it is. Each of them makes of what the earlier ones have made
what the next one finds. -/
structure Applies (ms : List (Migration D)) (c : Nat → D) : Prop where
  leavesRecord : ∀ m ∈ ms, m.LeavesRecord
  script : ∀ j (h : j < ms.length), ms[j].script ⟨some ((ms.take j).map (·.version)), c j⟩ =
    some ⟨some ((ms.take j).map (·.version)), c (j + 1)⟩

namespace Stage

variable {x x' : Stage}

/-- What is left of a run. -/
def rest (ms : List (Migration D)) : Stage → Steps D Nat
  | opening => runAll ms
  | reading => do
    let current : Int ← ExceptT.mk (call SchemaStep.current)
    applyAll (pending current ms)
    pure (pending current ms).length
  | applying j count => do
    applyAll (ms.drop j)
    pure count
  | refused version => throw (.execution version)

/-- What is left of a run after the migration it has come to. -/
def go (ms : List (Migration D)) (j count : Nat) :
    Reply (Except MigrationFault Unit) → Dialogue (SchemaStep D) (Except MigrationFault Nat)
  | .answer (.ok ()) => ((applying (j + 1) count).rest ms).run
  | .answer (.error fault) => done (.error fault)
  | .panic => .panic

theorem rest_applying {j count : Nat} (hj : j < ms.length) :
    ((applying j count).rest ms).run = ask (SchemaStep.apply ms[j]) (go ms j count) := by
  change (applyAll (ms.drop j) >>= fun _ => pure count).run = _
  rw [List.drop_eq_getElem_cons hj, applyAll]
  refine congrArg (ask _) (funext fun r => ?_)
  rcases r with (fault | _) | _ <;> rfl

theorem rest_applied {j count : Nat} (hj : ms.length ≤ j) :
    ((applying j count).rest ms).run = done (.ok count) := by
  change (applyAll (ms.drop j) >>= fun _ => pure count).run = _
  rw [List.drop_eq_nil_of_le hj]
  rfl

/-- What a run does next when the first `k` migrations are committed, and how many are then. It
commits the next one, but is refused an earlier one. -/
inductive Step (ms : List (Migration D)) :
    Nat → Stage → Exchange (SchemaStep D) → Nat → Stage → Prop
  | ensure {k : Nat} : Step ms k opening ⟨.ensure, .answer (.ok ())⟩ k reading
  | read {k count : Nat} {current : Int} :
      Step ms k reading ⟨.current, .answer (.ok current)⟩ k (applying k count)
  | commit {k count : Nat} (hk : k < ms.length) :
      Step ms k (applying k count) ⟨.apply ms[k], .answer (.ok ())⟩ (k + 1) (applying (k + 1) count)
  | refuse {k j count : Nat} (hj : j < k) (hjm : j < ms.length) :
      Step ms k (applying j count) ⟨.apply ms[j], (SchemaStep.apply ms[j]).refused⟩ k
        (refused ms[j].version)

/-- A run is where it can be when it found at least the first `k₀` migrations committed and the
first `k` are: it is not ahead, and it was refused one that is. -/
def Sound (ms : List (Migration D)) (k₀ k : Nat) : Stage → Prop
  | opening => True
  | reading => True
  | applying j _ => k₀ ≤ j ∧ j ≤ k
  | refused v => ∃ m ∈ (ms.take k).drop k₀, v = m.version

/-- At most so many steps are left. -/
def left (ms : List (Migration D)) : Stage → Nat
  | opening => ms.length + 2
  | reading => ms.length + 1
  | applying j _ => ms.length - j
  | refused _ => 0

/-- A run that goes on takes one of the steps. -/
theorem exists_step (hms : Rising ms) (hc : Applies ms c) (hs : s.Reached ms c k)
    (hrecord : x ≠ opening → s.record.isSome = true) (hx : x.Sound ms k₀ k)
    {q : SchemaStep D} {next : Reply (Answer q) → Dialogue (SchemaStep D) (Except MigrationFault Nat)}
    {r : Reply (Answer q)} (hask : ask q next = (x.rest ms).run) (hq : Schema.conduct q s r s') :
    ∃ k' x', Step ms k x ⟨q, r⟩ k' x' ∧ next r = (x'.rest ms).run ∧ s'.Reached ms c k' ∧
      s'.record.isSome = true := by
  cases x with
  | opening =>
    cases hask
    obtain ⟨rfl, rfl⟩ := Prod.mk.inj hq
    exact ⟨k, reading, .ensure, rfl, hs.ensure, rfl⟩
  | reading =>
    cases hask
    have hr := hrecord nofun
    unfold Schema.conduct Schema.surroundings at hq
    dsimp only at hq
    rw [if_pos hr] at hq
    obtain ⟨rfl, rfl⟩ := Prod.mk.inj hq
    refine ⟨k, applying k (pending s'.current ms).length, .read, ?_, hs, hr⟩
    change (applyAll (pending s'.current ms) >>= fun _ => pure _).run =
      (applyAll (ms.drop k) >>= fun _ => pure _).run
    rw [hs.pending_eq hms]
  | applying j count =>
    by_cases hj : j < ms.length
    · rw [rest_applying hj] at hask
      cases hask
      -- What is recorded may have grown since the version was read.
      obtain hlt | rfl := Nat.lt_or_eq_of_le hx.2
      · have hnone := hs.apply_earlier hlt hj (hc.leavesRecord _ (List.getElem_mem hj))
        obtain ⟨ha, rfl⟩ | ⟨-, rfl, rfl⟩ := Schema.conduct_apply_inv hq
        · rw [hnone] at ha
          cases ha
        · exact ⟨k, refused ms[j].version, .refuse hlt hj, rfl, hs, hrecord nofun⟩
      · obtain ⟨s₁, ha₁, hr, hs₁⟩ := hs.apply_next hms (hrecord nofun) hj (hc.script j hj)
        obtain ⟨ha, rfl⟩ | ⟨ha, -⟩ := Schema.conduct_apply_inv hq
        · obtain rfl := Option.some.inj (ha.symm.trans ha₁)
          exact ⟨j + 1, applying (j + 1) count, .commit hj, rfl, hs₁, hr⟩
        · rw [ha] at ha₁
          cases ha₁
    · rw [rest_applied (Nat.le_of_not_lt hj)] at hask
      cases hask
  | refused version => cases hask

theorem Sound.mono (h : x.Sound ms k₀ k) (hk : k ≤ k') : x.Sound ms k₀ k' := by
  cases x with
  | opening => trivial
  | reading => trivial
  | applying j count => exact ⟨h.1, Nat.le_trans h.2 hk⟩
  | refused v =>
    obtain ⟨m, hm, rfl⟩ := h
    exact ⟨m, ((List.take_sublist_take_left hk).drop k₀).subset hm, rfl⟩

namespace Step

variable {e : Exchange (SchemaStep D)}

theorem le (h : Step ms k x e k' x') : k ≤ k' := by
  cases h with
  | commit => exact Nat.le_succ k
  | _ => exact Nat.le_refl k

/-- What is recorded grows by what is committed. -/
theorem versions_eq (h : Step ms k x e k' x') : (ms.take k').map (·.version) =
    (ms.take k).map (·.version) ++ (committed? e).toList := by
  cases h with
  | commit hk =>
    rw [List.take_add_one, List.getElem?_eq_getElem hk, List.map_append]
    rfl
  | _ => exact (List.append_nil _).symm

theorem sound (h : Step ms k x e k' x') (hk : k₀ ≤ k) (hx : x.Sound ms k₀ k) :
    x'.Sound ms k₀ k' := by
  cases h with
  | ensure => trivial
  | read => exact ⟨hk, Nat.le_refl k⟩
  | commit hkm => exact ⟨Nat.le_succ_of_le hk, Nat.le_refl (k + 1)⟩
  | @refuse j _ hj hjm =>
    have hj₀ : j - k₀ + k₀ = j := Nat.sub_add_cancel hx.1
    refine ⟨ms[j], List.mem_drop_iff_getElem.mpr ⟨j - k₀, ?_, ?_⟩, rfl⟩
    · rw [hj₀, List.length_take]
      exact Nat.lt_min.mpr ⟨hj, hjm⟩
    · simp only [List.getElem_take, Nat.add_comm k₀, hj₀]

theorem left_lt (h : Step ms k x e k' x') : x'.left ms < x.left ms := by
  cases h with
  | ensure => exact Nat.lt_succ_self _
  | read => exact Nat.lt_succ_of_le (Nat.sub_le _ _)
  | commit hk => exact Nat.sub_lt_sub_left hk (Nat.lt_succ_self _)
  | refuse hj hjm => exact Nat.sub_pos_of_lt hjm

/-- Whoever is about to apply the next migration is the only one that changes what is committed, and
goes on with the one after it. -/
theorem leads (h : Step ms k x e k' x') :
    k' = k ∧ (∀ count, x ≠ applying k count) ∨ ∃ count, x' = applying k' count := by
  cases h with
  | ensure => exact .inl ⟨rfl, nofun⟩
  | read => exact .inl ⟨rfl, nofun⟩
  | commit => exact .inr ⟨_, rfl⟩
  | refuse hj =>
    refine .inl ⟨rfl, fun count hx => ?_⟩
    obtain ⟨rfl, -⟩ := Stage.applying.inj hx
    exact Nat.lt_irrefl _ hj

end Step

end Stage

/-! ## All of them -/

section Together

/-- Processes that run the same migrations. -/
def together (ms : List (Migration D)) (n : Nat) (s : Schema D) :
    Assembly (SchemaStep D) (Schema D) (Except MigrationFault Nat) :=
  ⟨List.replicate n (runAll ms).run, s⟩

variable {a : Assembly (SchemaStep D) (Schema D) (Except MigrationFault Nat)}
  {moments : List (Moment (SchemaStep D) (Schema D) (Except MigrationFault Nat))}
  {m : Moment (SchemaStep D) (Schema D) (Except MigrationFault Nat)} {f : Nat → Stage}

/-- The runs are where the map says, and the first `k` migrations are committed, of which the first
`k₀` were at the start. -/
structure Staged (ms : List (Migration D)) (c : Nat → D) (n k₀ : Nat)
    (a : Assembly (SchemaStep D) (Schema D) (Except MigrationFault Nat)) (f : Nat → Stage)
    (k : Nat) : Prop where
  length : a.speakers.length = n
  stand : a.Stand (fun _ x d => d = (x.rest ms).run) f
  reached : a.state.Reached ms c k
  le : k₀ ≤ k
  recorded : ∀ i, f i ≠ .opening → a.state.record.isSome = true
  sound : ∀ i, (f i).Sound ms k₀ k
  /-- Whoever has committed the last migration goes on with the next. -/
  leader : k = k₀ ∨ ∃ i < n, ∃ count, f i = .applying k count

theorem staged_together (hs : s.Reached ms c k₀) :
    Staged ms c n k₀ (together ms n s) (fun _ => .opening) k₀ where
  length := List.length_replicate
  stand := fun _ _ hd => (List.mem_replicate.mp (List.mem_of_getElem? hd)).2
  reached := hs
  le := Nat.le_refl k₀
  recorded := fun _ h => absurd rfl h
  sound := fun _ => trivial
  leader := .inl rfl

theorem Staged.step (h : Staged ms c n k₀ m.before f k) (hms : Rising ms) (hc : Applies ms c)
    (hm : m.Lawful Schema.conduct) : ∃ f' k', Staged ms c n k₀ m.after f' k' ∧
      (∀ i, (f' i).left ms + (if m.who = i then 1 else 0) ≤ (f i).left ms) ∧
      (ms.take k').map (·.version) =
        (ms.take k).map (·.version) ++ (committed? m.exchange).toList := by
  obtain ⟨next, hask, hafter, hq, hstand⟩ := hm.stand h.stand
  obtain ⟨k', x', hstep, hrest, hreached, hrecord⟩ :=
    Stage.exists_step hms hc h.reached (h.recorded m.who) (h.sound m.who) hask hq
  have hk := hstep.le
  have hlen := hm.length_eq.trans h.length
  have hwho : m.who < n := by
    obtain ⟨hlt, -⟩ := List.getElem?_eq_some_iff.mp hafter
    exact hlen ▸ hlt
  refine ⟨moved f m.who x', k', ⟨hlen, hstand x' hrest, hreached, Nat.le_trans h.le hk,
    fun _ _ => hrecord, fun i => ?_, ?_⟩, fun i => ?_, hstep.versions_eq⟩
  · by_cases hi : i = m.who
    · rw [hi, moved_self]
      exact hstep.sound h.le (h.sound m.who)
    · rw [moved_ne f x' hi]
      exact (h.sound i).mono hk
  -- The last one to commit stays where it is until it commits again or another one does.
  · obtain ⟨rfl, hnot⟩ | hx' := hstep.leads
    · obtain h0 | ⟨i, hi, count, hfi⟩ := h.leader
      · exact .inl h0
      · have hne : i ≠ m.who := by
          rintro rfl
          exact hnot count hfi
        refine .inr ⟨i, hi, count, ?_⟩
        rw [moved_ne f x' hne]
        exact hfi
    · refine .inr ⟨m.who, hwho, ?_⟩
      rw [moved_self]
      exact hx'
  · by_cases hi : m.who = i
    · rw [if_pos hi, ← hi, moved_self]
      exact hstep.left_lt
    · rw [if_neg hi, moved_ne f x' (Ne.symm hi)]
      exact Nat.le_refl _

/-- The versions that are committed in some moments. -/
def commits (moments : List (Moment (SchemaStep D) (Schema D) (Except MigrationFault Nat))) :
    List Int :=
  moments.filterMap fun m => committed? m.exchange

/-- However the runs go on, they are somewhere, they have taken no more steps than they had left,
and what is recorded has grown by what they committed. -/
theorem Staged.run (h : Staged ms c n k₀ a f k) (hms : Rising ms) (hc : Applies ms c)
    (run : IsRun Schema.conduct a moments) : ∃ f' k', Staged ms c n k₀ (a.last moments) f' k' ∧
      (∀ i, (f' i).left ms + moments.countP (·.who = i) ≤ (f i).left ms) ∧
      (ms.take k').map (·.version) = (ms.take k).map (·.version) ++ commits moments := by
  induction moments generalizing a f k with
  | nil => exact ⟨f, k, h, fun i => Nat.le_refl _, (List.append_nil _).symm⟩
  | cons m moments ih =>
    obtain ⟨rfl, hm, run⟩ := run
    obtain ⟨f₁, k₁, h₁, hleft₁, hversions₁⟩ := h.step hms hc hm
    obtain ⟨f₂, k₂, h₂, hleft₂, hversions₂⟩ := ih h₁ run
    refine ⟨f₂, k₂, h₂, fun i => ?_, ?_⟩
    · have hfirst := hleft₁ i
      have hrest := hleft₂ i
      rw [List.countP_cons]
      simp only [decide_eq_true_eq]
      omega
    · rw [hversions₂, hversions₁, List.append_assoc, commits, commits, List.filterMap_cons]
      cases committed? m.exchange <;> rfl

/-- A dialogue that has not ended. -/
def GoesOn {α : Type} : Dialogue (SchemaStep D) α → Prop
  | .ask _ _ => True
  | _ => False

namespace Stage

variable {x : Stage}

/-- A run goes on, or has applied the last migration, or was refused one. -/
theorem goesOn_or_ended (ms : List (Migration D)) (x : Stage) : GoesOn (x.rest ms).run ∨
    (∃ j count, x = applying j count ∧ ms.length ≤ j) ∨ ∃ v, x = refused v := by
  cases x with
  | opening => exact .inl trivial
  | reading => exact .inl trivial
  | applying j count =>
    by_cases hj : j < ms.length
    · rw [rest_applying hj]
      exact .inl trivial
    · exact .inr (.inl ⟨j, count, rfl, Nat.le_of_not_lt hj⟩)
  | refused v => exact .inr (.inr ⟨v, rfl⟩)

theorem applied_inv {count : Nat} (h : done (.ok count) = (x.rest ms).run) :
    ∃ j, x = applying j count ∧ ms.length ≤ j := by
  obtain hgo | ⟨j, count', rfl, hj⟩ | ⟨v, rfl⟩ := x.goesOn_or_ended ms
  · rw [← h] at hgo
    exact hgo.elim
  · rw [rest_applied hj] at h
    cases h
    exact ⟨j, rfl, hj⟩
  · cases h

end Stage

theorem Staged.commits_eq (h : Staged ms c n k₀ a f k)
    (hversions : (ms.take k).map (·.version) = (ms.take k₀).map (·.version) ++ commits moments) :
    commits moments = ((ms.take k).drop k₀).map (·.version) := by
  have hsplit := List.take_append_drop k₀ (ms.take k)
  rw [List.take_take, Nat.min_eq_left h.le] at hsplit
  rw [← hsplit, List.map_append] at hversions
  exact (List.append_cancel_left hversions).symm

/-! ## How they end -/

namespace Staged

/-- Every run is at some stage. -/
theorem exists_rest (h : Staged ms c n k₀ a f k)
    {d : Dialogue (SchemaStep D) (Except MigrationFault Nat)} (hd : d ∈ a.speakers) :
    ∃ i, d = ((f i).rest ms).run := by
  obtain ⟨i, hi⟩ := List.getElem?_of_mem hd
  exact ⟨i, h.stand i d hi⟩

theorem ended (h : Staged ms c n k₀ a f k)
    {d : Dialogue (SchemaStep D) (Except MigrationFault Nat)} (hd : d ∈ a.speakers) :
    GoesOn d ∨ (∃ count, d = done (.ok count)) ∨
      ∃ v ∈ ((ms.take k).drop k₀).map (·.version), d = done (.error (.execution v)) := by
  obtain ⟨i, rfl⟩ := h.exists_rest hd
  obtain hgo | ⟨j, count, hx, hj⟩ | ⟨v, hx⟩ := (f i).goesOn_or_ended ms
  · exact .inl hgo
  · rw [hx, Stage.rest_applied hj]
    exact .inr (.inl ⟨count, rfl⟩)
  · have hv := h.sound i
    rw [hx] at hv ⊢
    obtain ⟨m, hm, rfl⟩ := hv
    exact .inr (.inr ⟨m.version, List.mem_map_of_mem hm, rfl⟩)

/-- When a run ends well, everything is applied. -/
theorem eq_length (h : Staged ms c n k₀ a f k) {count : Nat}
    (hd : done (.ok count) ∈ a.speakers) : k = ms.length := by
  obtain ⟨i, hi⟩ := h.exists_rest hd
  obtain ⟨j, hx, hj⟩ := Stage.applied_inv hi
  have hsound := h.sound i
  rw [hx] at hsound
  exact Nat.le_antisymm h.reached.le (Nat.le_trans hj hsound.2)

/-- One of them was refused nothing. -/
theorem exists_not_refused (h : Staged ms c n k₀ a f k) (hne : a.speakers ≠ []) :
    ∃ i < a.speakers.length, ∀ v, f i ≠ .refused v := by
  obtain rfl | ⟨i, hi, count, hx⟩ := h.leader
  · refine ⟨0, List.length_pos_iff.mpr hne, fun v hx => ?_⟩
    have hv := h.sound 0
    rw [hx] at hv
    obtain ⟨m, hm, -⟩ := hv
    rw [List.drop_eq_nil_of_le (List.length_take_le _ _)] at hm
    cases hm
  · refine ⟨i, h.length ▸ hi, fun v hv => ?_⟩
    rw [hx] at hv
    cases hv

/-- When all have ended, one has ended well. -/
theorem exists_ok (h : Staged ms c n k₀ a f k) (hall : ∀ d ∈ a.speakers, ¬ GoesOn d)
    (hne : a.speakers ≠ []) : ∃ count, done (.ok count) ∈ a.speakers := by
  obtain ⟨i, hi, hfirst⟩ := h.exists_not_refused hne
  have hd := List.getElem_mem hi
  have hrest := h.stand i _ (List.getElem?_eq_getElem hi)
  rw [hrest] at hd
  obtain hgo | ⟨j, count, hx, hj⟩ | ⟨v, hx⟩ := (f i).goesOn_or_ended ms
  · exact absurd hgo (hall _ hd)
  · rw [hx, Stage.rest_applied hj] at hd
    exact ⟨count, hd⟩
  · exact absurd hx (hfirst v)

end Staged

/-- What becomes of processes that migrate a database together. -/
structure CommitsOnce (ms : List (Migration D)) (c : Nat → D) (s : Schema D)
    (moments : List (Moment (SchemaStep D) (Schema D) (Except MigrationFault Nat)))
    (a : Assembly (SchemaStep D) (Schema D) (Except MigrationFault Nat)) : Prop where
  /-- The first of the migrations are applied, and no others. -/
  reached : ∃ k, a.state.Reached ms c k
  /-- Nothing is on record but what was and what was committed. -/
  record : a.state.record.getD [] = s.record.getD [] ++ commits moments
  once : (a.state.record.getD []).Nodup
  /-- Every process comes to its end. -/
  steps : ∀ i, moments.countP (·.who = i) ≤ ms.length + 2
  /-- A process is refused only what was committed meanwhile. -/
  ends : ∀ d ∈ a.speakers, GoesOn d ∨ (∃ count, d = done (.ok count)) ∨
    ∃ v ∈ commits moments, d = done (.error (.execution v))
  /-- When one ends well, everything is applied. -/
  complete : (∃ count, done (.ok count) ∈ a.speakers) → a.state.Reached ms c ms.length
  /-- They do not all fail. -/
  finish : (∀ d ∈ a.speakers, ¬ GoesOn d) → a.speakers ≠ [] → ∃ count, done (.ok count) ∈ a.speakers

/-- In whatever order their steps come, processes that migrate a database together commit every
migration at most once. -/
theorem commits_once (hms : Rising ms) (hc : Applies ms c) (hs : s.Reached ms c k₀)
    (run : IsRun Schema.conduct (together ms n s) moments) :
    CommitsOnce ms c s moments ((together ms n s).last moments) := by
  obtain ⟨f, k, h, hleft, hversions⟩ := (staged_together hs).run hms hc run
  refine ⟨⟨k, h.reached⟩, ?_, h.reached.nodup hms,
    fun i => Nat.le_trans (Nat.le_add_left _ _) (hleft i), fun d hd => ?_, ?_, h.exists_ok⟩
  · rw [h.reached.record, hs.record, hversions]
  · rw [h.commits_eq hversions]
    exact h.ended hd
  · rintro ⟨count, hd⟩
    obtain rfl := h.eq_length hd
    exact h.reached

end Together

/-! ## The tables of a node -/

/-- What the first of the built-in migrations make of an empty database. -/
def builtContent (k : Nat) : Catalog :=
  (builtIn.take k).foldl
    (fun content m => ((m.script ⟨none, content⟩).map (·.content)).getD content) {}

theorem rising_builtIn : Rising builtIn where
  positive := by decide
  rising := by decide

theorem leavesRecord_ofTable (version : Int) (t : TableShape) (indexed : String) :
    (ofTable version t indexed).LeavesRecord :=
  leavesRecord_ofContent version _

theorem applies_builtIn : Applies builtIn builtContent where
  leavesRecord m hm := by
    rcases hm with _ | ⟨_, _ | ⟨_, _ | ⟨_, hm⟩⟩⟩
    · exact leavesRecord_ofTable 1 _ _
    · exact leavesRecord_ofTable 2 _ _
    · exact leavesRecord_ofTable 3 _ _
    · cases hm
  script := by decide +kernel

/-- Processes of a node that open one database, which is empty or partly migrated, together commit
every migration at most once. -/
theorem builtIn_commits_once {s : Schema Catalog} {k₀ n : Nat}
    {moments : List (Moment (SchemaStep Catalog) (Schema Catalog) (Except MigrationFault Nat))}
    (hs : s.Reached builtIn builtContent k₀)
    (run : IsRun Schema.conduct (together builtIn n s) moments) :
    CommitsOnce builtIn builtContent s moments ((together builtIn n s).last moments) :=
  commits_once rising_builtIn applies_builtIn hs run

/-- How a run has ended: the number of migrations, or why it failed. -/
def ended? : Dialogue (SchemaStep D) (Except MigrationFault Nat) → Option (Nat ⊕ MigrationFault)
  | .done (.ok count) => some (.inl count)
  | .done (.error fault) => some (.inr fault)
  | _ => none

namespace TwoProcesses

/-- Two processes make sure of the record and read the version of an empty database. The first then
applies the first migration, then the second tries to, and the first goes on. -/
def moments : List (Moment (SchemaStep Catalog) (Schema Catalog) (Except MigrationFault Nat)) :=
  play Schema.surroundings [0, 1, 0, 1, 0, 1, 0, 0] (together builtIn 2 ⟨none, {}⟩)

theorem isRun : IsRun Schema.conduct (together builtIn 2 ⟨none, {}⟩) moments :=
  isRun_play fun _ _ _ => rfl

theorem reached_empty : (⟨none, {}⟩ : Schema Catalog).Reached builtIn builtContent 0 :=
  ⟨Nat.zero_le _, rfl, rfl⟩

theorem ended_moments : ((together builtIn 2 ⟨none, {}⟩).last moments).speakers.map ended? =
    [some (.inl 3), some (.inr (.execution 1))] := by
  rw [moments, together, runAll_eq rising_builtIn]
  decide +kernel

theorem commits_moments : commits moments = [1, 2, 3] := by
  rw [moments, together, runAll_eq rising_builtIn]
  decide +kernel

end TwoProcesses

open TwoProcesses in
/-- The second of two processes is refused the first migration, and fails. -/
theorem outdated_version_refused :
    IsRun Schema.conduct (together builtIn 2 ⟨none, {}⟩) moments ∧
      ((together builtIn 2 ⟨none, {}⟩).last moments).speakers.map ended? =
        [some (.inl 3), some (.inr (.execution 1))] :=
  ⟨isRun, ended_moments⟩

open TwoProcesses in
/-- Two processes open an empty database, and each version is committed once. -/
theorem builtIn_commits_once_two_processes : commits moments = [1, 2, 3] ∧
    CommitsOnce builtIn builtContent ⟨none, {}⟩ moments
      ((together builtIn 2 ⟨none, {}⟩).last moments) :=
  ⟨commits_moments, builtIn_commits_once reached_empty isRun⟩

end Migration

end Sheltering
