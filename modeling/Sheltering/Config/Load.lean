import Sheltering.Config.Validate
import Sheltering.Setting.Document
import Sheltering.Setting.Variable

/-!
# Loading a configuration

A configuration is made of layers: the defaults, a main file, a local file, and the environment. A
value of a higher layer replaces that of a lower one; then the whole is read and validated.

* `Config.ofSettings?`: reads the merged table. Keys that no section knows are ignored.
* `Config.load`: all layers.
* `Config.loadFile`: the defaults and one file.
-/

namespace Sheltering

/-! ## As settings -/

namespace Config

/-- A natural number as a setting. -/
def natSetting (n : Nat) : Setting := .int n

/-- A configuration as a table that gives every value. -/
def toSettings (c : Config) : Settings :=
  [("node", .table [("address", .text c.node.address)]),
    ("database", .table
      [("path", .text c.database.path),
        ("max_connections", natSetting c.database.maxConnections.toNat)]),
    ("logging", .table
      [("level", .text c.logging.level), ("format", .text c.logging.format),
        ("log_dir", (c.logging.directory.map Setting.text).getD .null),
        ("rotation", .text c.logging.rotation)]),
    ("worker", .table
      [("interval_secs", natSetting c.worker.interval.toNat),
        ("lease_timeout_secs", natSetting c.worker.leaseTimeout.toNat),
        ("work_type", .text c.worker.workType), ("mode", .text c.worker.mode.name)]),
    ("resolution", .table
      [("strategy", .text c.resolution.strategy.name),
        ("retry_timeout_secs", natSetting c.resolution.retryTimeout.toNat),
        ("download_timeout_ms", natSetting c.resolution.downloadTimeout.toNat)])]

end Config

/-- Reads the section of a node. -/
def NodeSettings.ofSetting? (s : Setting) : Option NodeSettings := do
  let table ← s.section? ["address"]
  let address ← table.withDefault? "address" "" Setting.text?
  pure { address }

/-- Reads the section of the database. -/
def DatabaseSettings.ofSetting? (s : Setting) : Option DatabaseSettings := do
  let std : DatabaseSettings := {}
  let table ← s.section? ["path", "max_connections"]
  let path ← table.withDefault? "path" std.path Setting.text?
  let maxConnections ← table.withDefault? "max_connections" std.maxConnections Setting.word32?
  pure { path, maxConnections }

/-- Reads the section of the log. -/
def LoggingSettings.ofSetting? (s : Setting) : Option LoggingSettings := do
  let std : LoggingSettings := {}
  let table ← s.section? ["level", "format", "log_dir", "rotation"]
  let level ← table.withDefault? "level" std.level Setting.text?
  let format ← table.withDefault? "format" std.format Setting.text?
  let directory ← table.withDefault? "log_dir" none Setting.textOrNull?
  let rotation ← table.withDefault? "rotation" std.rotation Setting.text?
  pure { level, format, directory, rotation }

/-- Reads the section of the worker. -/
def WorkerSettings.ofSetting? (s : Setting) : Option WorkerSettings := do
  let std : WorkerSettings := {}
  let table ← s.section? ["interval_secs", "lease_timeout_secs", "work_type", "mode"]
  let interval ← table.withDefault? "interval_secs" std.interval Setting.word64?
  let leaseTimeout ← table.withDefault? "lease_timeout_secs" std.leaseTimeout Setting.word64?
  let workType ← table.withDefault? "work_type" std.workType Setting.text?
  let mode ← table.withDefault? "mode" std.mode (Setting.variant? Mode.names)
  pure { interval, leaseTimeout, workType, mode }

/-- Reads the section of resolutions. -/
def ResolutionSettings.ofSetting? (s : Setting) : Option ResolutionSettings := do
  let std : ResolutionSettings := {}
  let table ← s.section? ["strategy", "retry_timeout_secs", "download_timeout_ms"]
  let strategy ← table.withDefault? "strategy" std.strategy
    (Setting.variant? Participation.names)
  let retryTimeout ← table.withDefault? "retry_timeout_secs" std.retryTimeout Setting.word64?
  let downloadTimeout ← table.withDefault? "download_timeout_ms" std.downloadTimeout
    Setting.word64?
  pure { strategy, retryTimeout, downloadTimeout }

/-- What stops a configuration from being loaded. -/
inductive LoadFault where
  /-- A layer cannot be read, or the merged table has a value of the wrong type. The text says what
  was attempted. -/
  | unreadable (attempt : String)
  | invalid (fault : ConfigFault)
  /-- A quoted text of a variable is cut within a character, at which the program stops. -/
  | brokenVariable
deriving DecidableEq, Repr

namespace LoadFault

/-- The text of a fault. -/
def message : LoadFault → String
  | unreadable attempt => attempt
  | invalid fault => fault.message
  | brokenVariable => "a quoted text is cut within a character"

end LoadFault

/-- The files and variables with settings. A file may be missing. -/
structure ConfigSources where
  main : Option String := none
  overrides : Option String := none
  environment : List (String × String) := []

namespace Config

/-- Reads a configuration from a table. -/
def ofSettings? (s : Settings) : Option Config := do
  let node ← s.withDefault? "node" {} NodeSettings.ofSetting?
  let database ← s.withDefault? "database" {} DatabaseSettings.ofSetting?
  let logging ← s.withDefault? "logging" {} LoggingSettings.ofSetting?
  let worker ← s.withDefault? "worker" {} WorkerSettings.ofSetting?
  let resolution ← s.withDefault? "resolution" {} ResolutionSettings.ofSetting?
  pure { node, database, logging, worker, resolution }

/-- The table of a file; a missing one gives no settings. -/
def fileLayer? : Option String → Option Settings
  | none => some []
  | some text => Settings.ofYaml? text

/-- Merges layers over the defaults, from the lowest to the highest. -/
def mergeLayers (layers : List Settings) : Settings :=
  layers.foldl Settings.merge (toSettings {})

/-- Reads and validates the configuration of some layers. -/
def ofLayers (attempt : String) (layers : Option (List Settings)) : Except LoadFault Config :=
  match layers.bind fun layers => ofSettings? (mergeLayers layers) with
  | none => .error (.unreadable attempt)
  | some c =>
    match c.validate with
    | .ok () => .ok c
    | .error fault => .error (.invalid fault)

/-- Loads a configuration from all its sources. -/
def load (sources : ConfigSources) : Except LoadFault Config :=
  match Settings.ofVariables? sources.environment with
  | none => .error .brokenVariable
  | some environment =>
    ofLayers "Failed to extract configuration from figment" do
      let main ← fileLayer? sources.main
      let overrides ← fileLayer? sources.overrides
      pure [main, overrides, environment]

/-- Loads a configuration from one file, whose path is shown if it cannot be read. -/
def loadFile (path : String) (text : Option String) : Except LoadFault Config :=
  ofLayers ("Failed to load config from " ++ path) do
    let main ← fileLayer? text
    pure [main]

end Config

end Sheltering
