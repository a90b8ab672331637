import Sheltering.Instant
import Sheltering.Json.Record

/-!
# Configuration

A `Config` has five sections. Every section and every field has a value that stands for it when it
is missing.

* `Config.toJson`, `Config.ofWritten?`: a configuration as a value, and read from a record.
* `spanOfSeconds?`: a number of seconds as a span, up to `maxSeconds`.
-/

namespace Sheltering

/-- The longest time that a field in seconds may name, ten years. -/
def maxSeconds : UInt64 := 315360000

/-- A number of seconds as a span, if it is no longer than `maxSeconds`. -/
def spanOfSeconds? (n : UInt64) : Option Span :=
  if n ≤ maxSeconds then some (Span.ofSeconds n.toNat) else none

/-- How many propositions a tick resolves. -/
inductive Mode where
  /-- Stop after the first that is resolved. -/
  | one
  /-- Attempt all. -/
  | all
deriving DecidableEq, Repr

namespace Mode

/-- The name of a mode. -/
def name : Mode → String
  | one => "one"
  | all => "all"

/-- The modes by name. -/
def names : List (String × Mode) := [("one", one), ("all", all)]

end Mode

/-- In which propositions a node takes part. -/
inductive Participation where
  | resolveAll
  | resolveNone
deriving DecidableEq, Repr

namespace Participation

/-- The name of a participation. -/
def name : Participation → String
  | resolveAll => "resolve_all"
  | resolveNone => "resolve_none"

/-- The participations by name. -/
def names : List (String × Participation) :=
  [("resolve_all", resolveAll), ("resolve_none", resolveNone)]

end Participation

/-- The node a process works for. -/
structure NodeSettings where
  address : String := ""
deriving DecidableEq, Repr, Inhabited

/-- The database. -/
structure DatabaseSettings where
  path : String := ".atlas/atlas.db"
  maxConnections : UInt32 := 5
deriving DecidableEq, Repr, Inhabited

/-- The program's own log. -/
structure LoggingSettings where
  level : String := "info"
  format : String := "json"
  directory : Option String := none
  rotation : String := "daily"
deriving DecidableEq, Repr, Inhabited

/-- The periodic worker. -/
structure WorkerSettings where
  /-- Seconds between ticks. -/
  interval : UInt64 := 5
  /-- Seconds after which a lease counts as abandoned. -/
  leaseTimeout : UInt64 := 600
  /-- The key of the lease. -/
  workType : String := "AtlasChallengeResolution"
  mode : Mode := .one
deriving DecidableEq, Repr

/-- The policy of resolutions. -/
structure ResolutionSettings where
  strategy : Participation := .resolveAll
  /-- Seconds for which a failed proposition is left alone. -/
  retryTimeout : UInt64 := 86400
  /-- Milliseconds that one download may take. -/
  downloadTimeout : UInt64 := 10000
deriving DecidableEq, Repr

/-- A whole configuration. -/
structure Config where
  node : NodeSettings := {}
  database : DatabaseSettings := {}
  logging : LoggingSettings := {}
  worker : WorkerSettings := {}
  resolution : ResolutionSettings := {}
deriving DecidableEq, Repr

/-! ## As values -/

namespace NodeSettings

/-- The section as a value. -/
def toJson (s : NodeSettings) : Json := .object [("address", .str s.address)]

/-- Reads the section. -/
def ofWritten? (w : Written) : Option NodeSettings := do
  let f ← Fields.of? ["address"] w
  let address ← f.withDefault? "address" "" Written.text?
  pure { address }

end NodeSettings

namespace DatabaseSettings

/-- The section as a value. -/
def toJson (s : DatabaseSettings) : Json :=
  .object [("path", .str s.path), ("max_connections", .nat s.maxConnections.toNat)]

/-- Reads the section. -/
def ofWritten? (w : Written) : Option DatabaseSettings := do
  let std : DatabaseSettings := {}
  let f ← Fields.of? ["path", "max_connections"] w
  let path ← f.withDefault? "path" std.path Written.text?
  let maxConnections ← f.withDefault? "max_connections" std.maxConnections Written.word32?
  pure { path, maxConnections }

/-- The address of the database for its driver. -/
def url (s : DatabaseSettings) : String := "sqlite:" ++ s.path

end DatabaseSettings

namespace LoggingSettings

/-- The section as a value. -/
def toJson (s : LoggingSettings) : Json :=
  .object [("level", .str s.level), ("format", .str s.format), ("log_dir", .strOrNull s.directory),
    ("rotation", .str s.rotation)]

/-- Reads the section. -/
def ofWritten? (w : Written) : Option LoggingSettings := do
  let std : LoggingSettings := {}
  let f ← Fields.of? ["level", "format", "log_dir", "rotation"] w
  let level ← f.withDefault? "level" std.level Written.text?
  let format ← f.withDefault? "format" std.format Written.text?
  let directory ← f.withDefault? "log_dir" none (Written.orNull? Written.text?)
  let rotation ← f.withDefault? "rotation" std.rotation Written.text?
  pure { level, format, directory, rotation }

end LoggingSettings

namespace WorkerSettings

/-- The section as a value. -/
def toJson (s : WorkerSettings) : Json :=
  .object [("interval_secs", .nat s.interval.toNat),
    ("lease_timeout_secs", .nat s.leaseTimeout.toNat), ("work_type", .str s.workType),
    ("mode", .str s.mode.name)]

/-- Reads the section. -/
def ofWritten? (w : Written) : Option WorkerSettings := do
  let std : WorkerSettings := {}
  let f ← Fields.of? ["interval_secs", "lease_timeout_secs", "work_type", "mode"] w
  let interval ← f.withDefault? "interval_secs" std.interval Written.word64?
  let leaseTimeout ← f.withDefault? "lease_timeout_secs" std.leaseTimeout Written.word64?
  let workType ← f.withDefault? "work_type" std.workType Written.text?
  let mode ← f.withDefault? "mode" std.mode (Written.variant? Mode.names)
  pure { interval, leaseTimeout, workType, mode }

end WorkerSettings

namespace ResolutionSettings

/-- The section as a value. -/
def toJson (s : ResolutionSettings) : Json :=
  .object [("strategy", .str s.strategy.name), ("retry_timeout_secs", .nat s.retryTimeout.toNat),
    ("download_timeout_ms", .nat s.downloadTimeout.toNat)]

/-- Reads the section. -/
def ofWritten? (w : Written) : Option ResolutionSettings := do
  let std : ResolutionSettings := {}
  let f ← Fields.of? ["strategy", "retry_timeout_secs", "download_timeout_ms"] w
  let strategy ← f.withDefault? "strategy" std.strategy (Written.variant? Participation.names)
  let retryTimeout ← f.withDefault? "retry_timeout_secs" std.retryTimeout Written.word64?
  let downloadTimeout ← f.withDefault? "download_timeout_ms" std.downloadTimeout Written.word64?
  pure { strategy, retryTimeout, downloadTimeout }

end ResolutionSettings

namespace Config

/-- The configuration as a value. -/
def toJson (c : Config) : Json :=
  .object [("node", c.node.toJson), ("database", c.database.toJson),
    ("logging", c.logging.toJson), ("worker", c.worker.toJson),
    ("resolution", c.resolution.toJson)]

/-- Reads a configuration. -/
def ofWritten? (w : Written) : Option Config := do
  let f ← Fields.of? ["node", "database", "logging", "worker", "resolution"] w
  let node ← f.withDefault? "node" {} NodeSettings.ofWritten?
  let database ← f.withDefault? "database" {} DatabaseSettings.ofWritten?
  let logging ← f.withDefault? "logging" {} LoggingSettings.ofWritten?
  let worker ← f.withDefault? "worker" {} WorkerSettings.ofWritten?
  let resolution ← f.withDefault? "resolution" {} ResolutionSettings.ofWritten?
  pure { node, database, logging, worker, resolution }

end Config

end Sheltering
