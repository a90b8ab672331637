import Sheltering.Config
import Sheltering.Instant.Written
import Sheltering.Text.Case

/-!
# The program's log

* `LogSetup`: how the log is written. It is made from the settings of a configuration; a format or
  rotation that has no meaning counts as the usual one.
* `LogLevel.ofName?`: the level of a name in any case.
-/

namespace Sheltering

/-- The weight from which on lines are written. -/
inductive LogLevel where
  | trace
  | debug
  | info
  | warn
  | error
deriving DecidableEq, Repr

namespace LogLevel

/-- The name of a level. -/
def name : LogLevel → String
  | trace => "trace"
  | debug => "debug"
  | info => "info"
  | warn => "warn"
  | error => "error"

/-- The levels by name. -/
def names : List (String × LogLevel) :=
  [("trace", trace), ("debug", debug), ("info", info), ("warn", warn), ("error", error)]

/-- The level of a name in any case. -/
def ofName? (s : String) : Option LogLevel := names.lookup (Text.lowerWord s)

/-- The text that refuses a name. -/
def refusal (s : String) : String := "Invalid log level: " ++ s

end LogLevel

/-- How lines are laid out. -/
inductive LogFormat where
  | json
  | pretty
deriving DecidableEq, Repr

namespace LogFormat

/-- The name of a format. -/
def name : LogFormat → String
  | json => "json"
  | pretty => "pretty"

/-- The formats by name. -/
def names : List (String × LogFormat) := [("json", json), ("pretty", pretty)]

end LogFormat

/-- When a new file is begun. -/
inductive LogRotation where
  | daily
  | hourly
  | never
deriving DecidableEq, Repr

namespace LogRotation

/-- The name of a rotation. -/
def name : LogRotation → String
  | daily => "daily"
  | hourly => "hourly"
  | never => "never"

/-- The rotations by name. -/
def names : List (String × LogRotation) :=
  [("daily", daily), ("hourly", hourly), ("never", never)]

end LogRotation

/-- How the log is written. -/
structure LogSetup where
  level : String := "info"
  format : LogFormat := .json
  directory : Option String := none
  toStdout : Bool := true
  rotation : LogRotation := .daily
deriving DecidableEq, Repr

namespace LogSetup

/-- The setup that the settings ask for. -/
def ofSettings (s : LoggingSettings) : LogSetup where
  level := s.level
  format := (LogFormat.names.lookup s.format).getD .json
  directory := s.directory
  rotation := (LogRotation.names.lookup s.rotation).getD .daily

/-- The setup as a value. -/
def toJson (s : LogSetup) : Json :=
  .object [("level", .str s.level), ("format", .str s.format.name),
    ("log_dir", .strOrNull s.directory), ("enable_stdout", .bool s.toStdout),
    ("rotation", .str s.rotation.name)]

/-- Reads a setup. -/
def ofWritten? (w : Written) : Option LogSetup := do
  let std : LogSetup := {}
  let f ← Fields.of? ["level", "format", "log_dir", "enable_stdout", "rotation"] w
  let level ← f.withDefault? "level" std.level Written.text?
  let format ← f.withDefault? "format" std.format (Written.variant? LogFormat.names)
  let directory ← f.optional? "log_dir" Written.text?
  let toStdout ← f.withDefault? "enable_stdout" std.toStdout Written.flag?
  let rotation ← f.withDefault? "rotation" std.rotation (Written.variant? LogRotation.names)
  pure { level, format, directory, toStdout, rotation }

/-- The name of the log's file that is begun at an instant. -/
def fileName (s : LogSetup) (start : Instant) : String :=
  let date := String.ofList start.civil.date.written
  let hour := String.ofList (Text.padded 2 start.civil.hour)
  match s.rotation with
  | .daily => "atlas.log." ++ date
  | .hourly => "atlas.log." ++ date ++ "-" ++ hour
  | .never => "atlas.log"

end LogSetup

end Sheltering
