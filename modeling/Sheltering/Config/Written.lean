import Sheltering.Config
import Sheltering.Yaml.Style

/-!
# Written configurations

`Config.toYaml`: a configuration as a YAML document, with a mapping for each section.
-/

namespace Sheltering

/-- A value of a written configuration. -/
inductive WrittenField where
  | text (s : String)
  | nat (n : Nat)
  | null

namespace WrittenField

/-- The lines of a value after its key. A block whose text ends with a break of any kind has ended
its last line. -/
def lines : WrittenField → String
  | text s =>
    let written := Yaml.writeText 4 s
    if Yaml.Style.ofText s = .literal ∧ s.toList.getLast?.any Yaml.isBreak then written
    else written ++ "\n"
  | nat n => toString n ++ "\n"
  | null => "null\n"

end WrittenField

/-- A section with its fields. -/
def writtenSection (name : String) (fields : List (String × WrittenField)) : String :=
  fields.foldl (fun text (key, value) => text ++ "  " ++ key ++ ": " ++ value.lines) (name ++ ":\n")

/-- The document of a configuration. -/
def Config.toYaml (c : Config) : String :=
  writtenSection "node" [("address", .text c.node.address)] ++
  writtenSection "database"
    [("path", .text c.database.path), ("max_connections", .nat c.database.maxConnections.toNat)] ++
  writtenSection "logging"
    [("level", .text c.logging.level), ("format", .text c.logging.format),
      ("log_dir", (c.logging.directory.map WrittenField.text).getD .null),
      ("rotation", .text c.logging.rotation)] ++
  writtenSection "worker"
    [("interval_secs", .nat c.worker.interval.toNat),
      ("lease_timeout_secs", .nat c.worker.leaseTimeout.toNat),
      ("work_type", .text c.worker.workType), ("mode", .text c.worker.mode.name)] ++
  writtenSection "resolution"
    [("strategy", .text c.resolution.strategy.name),
      ("retry_timeout_secs", .nat c.resolution.retryTimeout.toNat),
      ("download_timeout_ms", .nat c.resolution.downloadTimeout.toNat)]

end Sheltering
