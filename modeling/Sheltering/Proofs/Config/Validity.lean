import Mathlib.Data.List.TakeWhile
import Sheltering.Config.Validate

/-!
# What makes a configuration valid

* `Config.conditions`: the conditions on a configuration in their order, each with the fault that it
  does not hold.
* `Checks`: a result that tells the first condition that does not hold.
* `Config.checks_validate`: `Config.validate` checks these conditions.
-/

namespace Sheltering

/-! ## Names and blanks -/

namespace Text

variable {text : List Char}

theorem trimStart_eq_nil : trimStart text = [] ↔ ∀ c ∈ text, isBlank c = true :=
  List.dropWhile_eq_nil_iff

theorem trimEnd_eq_nil : trimEnd text = [] ↔ ∀ c ∈ text, isBlank c = true := by
  simp [trimEnd, trimStart_eq_nil]

/-- Nothing is left of a text when all of it is blank. -/
theorem trim_eq_nil : trim text = [] ↔ ∀ c ∈ text, isBlank c = true := by
  rw [trim, trimEnd_eq_nil]
  induction text with
  | nil => rfl
  | cons c text ih =>
    by_cases h : isBlank c = true
    · simpa [trimStart, h] using ih
    · simp [trimStart, h]

end Text

theorem Config.hasInk_iff {s : String} :
    hasInk s = true ↔ ∃ c ∈ s.toList, Text.isBlank c = false := by
  simp [hasInk, Text.trim_eq_nil]

theorem isSome_lookup_iff {α : Type} {names : List (String × α)} {s : String} :
    (names.lookup s).isSome = true ↔ s ∈ names.map Prod.fst := by
  simp only [List.lookup_isSome_iff, List.mem_map, beq_iff_eq]
  exact exists_congr fun p => and_congr_right fun _ => eq_comm

/-! ## Conditions in order -/

/-- A result that tells the first condition that does not hold. -/
inductive Checks : Except ConfigFault Unit → List (Prop × ConfigFault) → Prop
  | pass : Checks (.ok ()) []
  | holds {p : Prop} {fault : ConfigFault} {result : Except ConfigFault Unit}
      {conditions : List (Prop × ConfigFault)} (h : p) (rest : Checks result conditions) :
      Checks result ((p, fault) :: conditions)
  | fails {p : Prop} {fault : ConfigFault} {conditions : List (Prop × ConfigFault)} (h : ¬ p) :
      Checks (.error fault) ((p, fault) :: conditions)

namespace Checks

variable {p q : Prop} {fault : ConfigFault} {result rest : Except ConfigFault Unit}
  {conditions : List (Prop × ConfigFault)}

theorem require [Decidable q] (h : q ↔ p) (checks : Checks rest conditions) :
    Checks (do Config.require q fault; rest) ((p, fault) :: conditions) := by
  by_cases hq : q
  · rw [Config.require, if_pos hq]
    exact .holds (h.mp hq) checks
  · rw [Config.require, if_neg hq]
    exact .fails (mt h.mpr hq)

theorem last [Decidable q] (h : q ↔ p) : Checks (Config.require q fault) [(p, fault)] := by
  have checks : Checks (do Config.require q fault; pure ()) [(p, fault)] := require h .pass
  rwa [bind_pure_unit] at checks

/-- All conditions hold when the result is fine. -/
theorem eq_ok_iff (h : Checks result conditions) :
    result = .ok () ↔ ∀ x ∈ conditions, x.1 := by
  induction h with
  | pass => simp
  | holds h _ ih => rw [ih, List.forall_mem_cons, and_iff_right h]
  | fails h => simp [h]

/-- A fault is that of the first condition that does not hold. -/
theorem eq_error_iff (h : Checks result conditions) : result = .error fault ↔
    ∃ earlier p later, conditions = earlier ++ (p, fault) :: later ∧
      (∀ x ∈ earlier, x.1) ∧ ¬ p := by
  induction h with
  | pass => simp
  | @holds p other _ conditions h _ ih =>
    rw [ih]
    constructor
    · rintro ⟨earlier, q, later, rfl, hearlier, hq⟩
      exact ⟨(p, other) :: earlier, q, later, rfl, List.forall_mem_cons.mpr ⟨h, hearlier⟩, hq⟩
    · rintro ⟨earlier, q, later, hsplit, hearlier, hq⟩
      cases earlier with
      | nil =>
        cases hsplit
        exact absurd h hq
      | cons x earlier =>
        cases hsplit
        exact ⟨earlier, q, later, rfl, (List.forall_mem_cons.mp hearlier).2, hq⟩
  | @fails p other conditions h =>
    constructor
    · intro he
      obtain rfl := Except.error.inj he
      exact ⟨[], p, conditions, rfl, nofun, h⟩
    · rintro ⟨earlier, q, later, hsplit, hearlier, -⟩
      cases earlier with
      | nil =>
        cases hsplit
        rfl
      | cons x earlier =>
        cases hsplit
        exact absurd (hearlier _ List.mem_cons_self) h

end Checks

namespace Config

/-- The conditions on a configuration in their order, each with the fault that it does not hold. -/
def conditions (c : Config) : List (Prop × ConfigFault) :=
  [(c.database.path ≠ "", .emptyDatabasePath),
    (1 ≤ c.database.maxConnections.toNat, .maxConnections c.database.maxConnections),
    (c.logging.level ∈ ["trace", "debug", "info", "warn", "error"], .logLevel c.logging.level),
    (c.logging.format ∈ ["json", "pretty"], .logFormat c.logging.format),
    (c.logging.rotation ∈ ["daily", "hourly", "never"], .logRotation c.logging.rotation),
    (c.worker.interval.toNat ≤ 315360000,
      .timeoutTooLarge "worker.interval_secs" c.worker.interval 315360000),
    (c.worker.leaseTimeout.toNat ≤ 315360000,
      .timeoutTooLarge "worker.lease_timeout_secs" c.worker.leaseTimeout 315360000),
    (c.resolution.retryTimeout.toNat ≤ 315360000,
      .timeoutTooLarge "resolution.retry_timeout_secs" c.resolution.retryTimeout 315360000),
    (c.resolution.downloadTimeout.toNat ≤ 315360000000,
      .timeoutTooLarge "resolution.download_timeout_ms" c.resolution.downloadTimeout 315360000000),
    (1 ≤ c.worker.interval.toNat, .interval c.worker.interval),
    (c.worker.interval.toNat < c.worker.leaseTimeout.toNat,
      .leaseTimeout c.worker.leaseTimeout c.worker.interval),
    (∃ x ∈ c.worker.workType.toList, Text.isBlank x = false, .emptyWorkType),
    (1 ≤ c.resolution.downloadTimeout.toNat, .downloadTimeout c.resolution.downloadTimeout),
    (c.node.address = "" ∨ ['0', 'x'] <+: c.node.address.toList, .nodeAddress c.node.address)]

theorem one_le_toNat {n : UInt64} : n ≠ 0 ↔ 1 ≤ n.toNat := by
  rw [Nat.one_le_iff_ne_zero, ne_eq, ne_eq, ← UInt64.toNat_inj]
  rfl

theorem one_le_toNat_word32 {n : UInt32} : n ≠ 0 ↔ 1 ≤ n.toNat := by
  rw [Nat.one_le_iff_ne_zero, ne_eq, ne_eq, ← UInt32.toNat_inj]
  rfl

/-- The result of a validation tells the first condition that does not hold. -/
theorem checks_validate (c : Config) : Checks c.validate c.conditions := by
  refine .require .rfl ?_
  refine .require one_le_toNat_word32 ?_
  refine .require isSome_lookup_iff ?_
  refine .require isSome_lookup_iff ?_
  refine .require isSome_lookup_iff ?_
  refine .require UInt64.le_iff_toNat_le ?_
  refine .require UInt64.le_iff_toNat_le ?_
  refine .require UInt64.le_iff_toNat_le ?_
  refine .require UInt64.le_iff_toNat_le ?_
  refine .require one_le_toNat ?_
  refine .require UInt64.lt_iff_toNat_lt ?_
  refine .require hasInk_iff ?_
  refine .require one_le_toNat ?_
  refine .last (or_congr .rfl ?_)
  rw [List.prefix_iff_eq_take]
  exact eq_comm

end Config

end Sheltering
