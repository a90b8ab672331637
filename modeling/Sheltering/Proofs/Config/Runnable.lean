import Sheltering.Database.Open
import Sheltering.Proofs.Config.Validity
import Sheltering.Proofs.Instant.Bounds
import Sheltering.Tick

/-!
# A valid configuration is used as it is

* `Config.Runnable`: the worker, the strategy, the resolvers, the level, format and rotation of the
  log and the size of the pool are as they are configured, and leases end in time.
* `Config.valid_runnable`: `Config.validate` tells the first condition that does not hold, and a
  configuration for which all hold is runnable.
-/

namespace Sheltering

/-! ## Deadlines -/

namespace Instant

variable {now : Instant} {n : Int}

/-- A time that a clock which shows the year 9989 or an earlier one reaches within ten years can be
stored. -/
theorem storable_add (valid : now.Valid) (first : 0 ≤ now.civil.date.year)
    (last : now.civil.date.year ≤ 9989) (hn : 1 ≤ n) (most : n ≤ 315360000) :
    (now.add (.ofSeconds n)).Storable := by
  have early : ¬ now.second < -62167219200 := fun h =>
    absurd (show now.civil.date.year ≤ -1 from year_le_iff.mpr h) (by omega)
  have late : now.second < 253086768000 := year_le_iff.mp last
  have moved : (now.add (.ofSeconds n)).second = now.second + n := by
    rw [add_ofSeconds valid hn]
  exact storable_iff.mpr ⟨valid.add, by omega, by omega⟩

theorem add?_of_storable {d : Span} (h : (now.add d).Storable) : now.add? d = some (now.add d) :=
  if_pos h.inCalendar

/-- A second later is later, also to the microsecond. -/
theorem not_reaches_of_second_lt {a b : Instant} (h : a.second < b.second) :
    a < b ∧ ¬ a.Reaches b := by
  refine ⟨.inl h, fun reached => ?_⟩
  rw [Reaches, le_def] at reached
  simp only [toMicros] at reached
  omega

end Instant

/-- The name of a level is read as the level. -/
theorem LogLevel.ofName?_name (level : LogLevel) : ofName? level.name = some level := by
  cases level <;> decide

namespace Config

/-- The worker, the strategy, the resolvers, the level, format and rotation of the log and the size
of the pool are made from the configuration, with the configured values, and leases end in time. The
address of the database and the directory of the log are left out: what comes of these depends on
the disk. -/
structure Runnable (c : Config) : Prop where
  worker : ∀ challengeSetup transferSetup : ResolverSetup,
    Worker.ofSettings challengeSetup transferSetup c.worker = .ok
      { workType := c.worker.workType, mode := c.worker.mode
        leaseTimeout := .ofSeconds c.worker.leaseTimeout.toNat, challengeSetup, transferSetup }
  strategy : Strategy.ofSettings c.resolution = .ok
    { participation := c.resolution.strategy
      retryTimeout := .ofSeconds c.resolution.retryTimeout.toNat }
  resolver : ∀ r : Resolver, r.withSettings c.resolution = .ok
    ({ r with downloadTimeout := c.resolution.downloadTimeout },
      { participation := c.resolution.strategy
        retryTimeout := .ofSeconds c.resolution.retryTimeout.toNat })
  level : ∃ level, LogLevel.ofName? (LogSetup.ofSettings c.logging).level = some level ∧
    level.name = c.logging.level
  format : (LogSetup.ofSettings c.logging).format.name = c.logging.format
  rotation : (LogSetup.ofSettings c.logging).rotation.name = c.logging.rotation
  pool : c.database.pool.minConnections ≤ c.database.pool.maxConnections ∧
    c.database.pool.maxConnections = c.database.maxConnections
  /-- A lease that is taken while the clock shows a year from 0 to 9989 has a deadline, which can be
  stored, is later than the time, and later than the next tick, also to the microsecond. -/
  deadline : ∀ now : Instant, now.Valid → 0 ≤ now.civil.date.year → now.civil.date.year ≤ 9989 →
    ∃ deadline, now.add? (.ofSeconds c.worker.leaseTimeout.toNat) = some deadline ∧
      deadline.Storable ∧ now < deadline ∧ ¬ now.Reaches deadline ∧
      ∃ tick, now.add? (.ofSeconds c.worker.interval.toNat) = some tick ∧ tick < deadline ∧
        ¬ tick.Reaches deadline

theorem spanOfSeconds?_eq {n : UInt64} (h : n.toNat ≤ 315360000) :
    spanOfSeconds? n = some (.ofSeconds n.toNat) :=
  if_pos (UInt64.le_iff_toNat_le.mpr h)

theorem Runnable.of_conditions {c : Config} (h : ∀ x ∈ c.conditions, x.1) : c.Runnable := by
  simp only [conditions, List.forall_mem_cons] at h
  obtain ⟨-, connections, level, format, rotation, -, lease, retry, -, interval, longer, -⟩ := h
  have strategy : Strategy.ofSettings c.resolution = .ok
      { participation := c.resolution.strategy
        retryTimeout := .ofSeconds c.resolution.retryTimeout.toNat } := by
    rw [Strategy.ofSettings, spanOfSeconds?_eq retry]
  refine ⟨fun _ _ => ?_, strategy, fun r => ?_, ?_, ?_, ?_, ?_, ?_⟩
  · rw [Worker.ofSettings, spanOfSeconds?_eq lease]
  · rw [Resolver.withSettings, strategy]
    rfl
  · simp only [List.mem_cons, List.not_mem_nil, or_false] at level
    rcases level with h | h | h | h | h <;> rw [LogSetup.ofSettings, h]
    · exact ⟨.trace, LogLevel.ofName?_name .trace, rfl⟩
    · exact ⟨.debug, LogLevel.ofName?_name .debug, rfl⟩
    · exact ⟨.info, LogLevel.ofName?_name .info, rfl⟩
    · exact ⟨.warn, LogLevel.ofName?_name .warn, rfl⟩
    · exact ⟨.error, LogLevel.ofName?_name .error, rfl⟩
  · simp only [List.mem_cons, List.not_mem_nil, or_false] at format
    rcases format with h | h <;> rw [LogSetup.ofSettings, h] <;> rfl
  · simp only [List.mem_cons, List.not_mem_nil, or_false] at rotation
    rcases rotation with h | h | h <;> rw [LogSetup.ofSettings, h] <;> rfl
  · exact ⟨UInt32.le_iff_toNat_le.mpr connections, rfl⟩
  · intro now valid first last
    have stored : (now.add (.ofSeconds c.worker.leaseTimeout.toNat)).Storable :=
      Instant.storable_add valid first last (by omega) (by omega)
    have next : (now.add (.ofSeconds c.worker.interval.toNat)).Storable :=
      Instant.storable_add valid first last (by omega) (by omega)
    have later := Instant.add_ofSeconds valid (n := c.worker.leaseTimeout.toNat) (by omega)
    have sooner := Instant.add_ofSeconds valid (n := c.worker.interval.toNat) (by omega)
    obtain ⟨after, ahead⟩ := Instant.not_reaches_of_second_lt (a := now)
      (b := now.add (.ofSeconds c.worker.leaseTimeout.toNat)) (by rw [later]; dsimp only; omega)
    have order := Instant.not_reaches_of_second_lt
      (a := now.add (.ofSeconds c.worker.interval.toNat))
      (b := now.add (.ofSeconds c.worker.leaseTimeout.toNat))
      (by rw [later, sooner]; dsimp only; omega)
    exact ⟨_, Instant.add?_of_storable stored, stored, after, ahead, _,
      Instant.add?_of_storable next, order⟩

/-- A validation tells the first condition that does not hold, and what is made from a configuration
for which all hold has the configured values. -/
theorem valid_runnable (c : Config) :
    (c.validate = .ok () ↔ ∀ x ∈ c.conditions, x.1) ∧
    (∀ fault, c.validate = .error fault ↔ ∃ earlier condition later,
      c.conditions = earlier ++ (condition, fault) :: later ∧ (∀ x ∈ earlier, x.1) ∧ ¬ condition) ∧
    (c.validate = .ok () → c.Runnable) := by
  have checks := c.checks_validate
  exact ⟨checks.eq_ok_iff, fun _ => checks.eq_error_iff,
    fun h => .of_conditions (checks.eq_ok_iff.mp h)⟩

/-- A configuration with every number at a bound. -/
def extreme : Config where
  node := { address := "0x" }
  database := { path := "x", maxConnections := 1 }
  logging := { level := "trace", format := "pretty", rotation := "never" }
  worker := { interval := 315359999, leaseTimeout := 315360000, workType := " x", mode := .all }
  resolution :=
    { strategy := .resolveNone, retryTimeout := 315360000, downloadTimeout := 315360000000 }

theorem extreme_runnable : extreme.validate = .ok () ∧ extreme.Runnable :=
  ⟨by decide, (valid_runnable extreme).2.2 (by decide)⟩

end Config

end Sheltering
