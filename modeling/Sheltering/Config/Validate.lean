import Sheltering.Logging
import Sheltering.Text.Blank

/-!
# Valid configurations

* `ConfigFault`: what is wrong with a configuration.
* `Config.validate`: the first thing that is wrong, in a fixed order.
-/

namespace Sheltering

/-- What is wrong with a configuration. -/
inductive ConfigFault where
  | emptyDatabasePath
  | maxConnections (n : UInt32)
  | logLevel (level : String)
  | logFormat (format : String)
  | logRotation (rotation : String)
  | timeoutTooLarge (field : String) (value most : UInt64)
  | interval (n : UInt64)
  /-- The lease is not longer than the interval. -/
  | leaseTimeout (lease interval : UInt64)
  | emptyWorkType
  | downloadTimeout (n : UInt64)
  | nodeAddress (address : String)
deriving DecidableEq, Repr

namespace ConfigFault

/-- The text of a fault. -/
def message : ConfigFault → String
  | emptyDatabasePath => "Database path cannot be empty"
  | maxConnections n => s!"Invalid max_connections: {n}. Must be at least 1"
  | logLevel level =>
    s!"Invalid log level: {level}. Must be one of: trace, debug, info, warn, error"
  | logFormat format => s!"Invalid log format: {format}. Must be one of: json, pretty"
  | logRotation rotation =>
    s!"Invalid log rotation: {rotation}. Must be one of: daily, hourly, never"
  | timeoutTooLarge field value most => s!"{field} is too large: {value}. Must be at most {most}"
  | interval n => s!"Invalid worker interval_secs: {n}. Must be at least 1"
  | leaseTimeout lease tick =>
    s!"Invalid lease_timeout_secs: {lease}. Must be longer than the worker interval ({tick}s)"
  | emptyWorkType => "Worker work_type cannot be empty"
  | downloadTimeout n => s!"Invalid download_timeout_ms: {n}. Must be at least 1"
  | nodeAddress address =>
    "Configuration validation failed: node address '" ++ address ++ "' must be 0x-prefixed"

end ConfigFault

namespace Config

/-- A condition, or the fault that it does not hold. -/
def require (condition : Prop) [Decidable condition] (fault : ConfigFault) :
    Except ConfigFault Unit :=
  if condition then .ok () else .error fault

/-- A field within its bound. -/
def requireAtMost (field : String) (value most : UInt64) : Except ConfigFault Unit :=
  require (value ≤ most) (.timeoutTooLarge field value most)

/-- The longest time that a field in milliseconds may name. -/
def maxMillis : UInt64 := maxSeconds * 1000

/-- The text has a character that is not blank. -/
def hasInk (s : String) : Bool := !(Text.trim s.toList).isEmpty

/-- The first thing that is wrong with a configuration. -/
def validate (c : Config) : Except ConfigFault Unit := do
  require (c.database.path ≠ "") .emptyDatabasePath
  require (c.database.maxConnections ≠ 0) (.maxConnections c.database.maxConnections)
  require (LogLevel.names.lookup c.logging.level).isSome (.logLevel c.logging.level)
  require (LogFormat.names.lookup c.logging.format).isSome (.logFormat c.logging.format)
  require (LogRotation.names.lookup c.logging.rotation).isSome (.logRotation c.logging.rotation)
  requireAtMost "worker.interval_secs" c.worker.interval maxSeconds
  requireAtMost "worker.lease_timeout_secs" c.worker.leaseTimeout maxSeconds
  requireAtMost "resolution.retry_timeout_secs" c.resolution.retryTimeout maxSeconds
  requireAtMost "resolution.download_timeout_ms" c.resolution.downloadTimeout maxMillis
  require (c.worker.interval ≠ 0) (.interval c.worker.interval)
  require (c.worker.interval < c.worker.leaseTimeout)
    (.leaseTimeout c.worker.leaseTimeout c.worker.interval)
  require (hasInk c.worker.workType) .emptyWorkType
  require (c.resolution.downloadTimeout ≠ 0) (.downloadTimeout c.resolution.downloadTimeout)
  require (c.node.address = "" ∨ c.node.address.toList.take 2 = ['0', 'x'])
    (.nodeAddress c.node.address)

end Config

end Sheltering
