import Sheltering.Command
import Sheltering.Config.Load
import Sheltering.Database.Open
import Sheltering.Listing

/-!
# The program

The program reads its words, then its configuration, begins its log, and carries out one command on
the database.

* `Command.carryOut`: what a command shows.
* `Program.run`: a run of the program in a directory.
-/

namespace Sheltering

/-- Why a command has nothing to show. -/
inductive CommandFault where
  | noDatabase
  | noLease
  | noLeases
  | noLogs
  | noBundles
deriving DecidableEq, Repr

namespace CommandFault

/-- The text of a fault. -/
def message : CommandFault → String
  | noDatabase => "Failed to open resolver database"
  | noLease => "Failed to load lease"
  | noLeases => "Failed to list leases"
  | noLogs => "Failed to load worker logs"
  | noBundles => "Failed to load sheltered bundles"

end CommandFault

namespace Command

/-- A value, or a fault in the place of what went wrong with it. -/
def orFault {ε α : Type} (fault : CommandFault) (result : Except ε α) : Except CommandFault α :=
  result.mapError fun _ => fault

/-- What a command shows of a database. -/
def ofDatabase (d : Database) : Command → Except CommandFault Listing
  | .lease (some workType) => do
    let lease ← orFault .noLease (d.leases.get? workType)
    pure (.leases lease.toList)
  | .lease none => do pure (.leases (← orFault .noLeases d.leases.list))
  | .logs limit => do pure (.journal (← orFault .noLogs (d.journal.recent limit.toNat)))
  | .sheltered limit => do pure (.sheltered (← orFault .noBundles (d.shelter.recent limit.toNat)))
  | .config => .error .noDatabase

/-- Carries out a command, and gives the disk afterwards. The configuration is shown without a look
at the database. -/
def carryOut (c : Config) (disk : Disk) (command : Command) :
    Except CommandFault Listing × Disk :=
  match command with
  | .config => (.ok (.config c), disk)
  | command =>
    let (opened, disk) := Database.openAt disk c.database.url c.database.pool
    ((do ofDatabase (← orFault .noDatabase opened) command), disk)

end Command

/-- Where the program runs. -/
structure Workplace where
  disk : Disk := {}
  environment : List (String × String) := []
  now : Instant

/-- How a run ends. -/
inductive Ending where
  | usage (fault : UsageFault)
  | failed (json : Bool) (message : String)
  /-- A variable cannot be read, or the log's file cannot be made. -/
  | crashed
  | shown (json : Bool) (listing : Listing)

namespace Ending

/-- The exit code. -/
def code : Ending → Nat
  | usage fault => fault.exitCode
  | failed .. => 1
  | crashed => 101
  | shown .. => 0

/-- A failure as a value. -/
def failure (message : String) : Json :=
  .object [("success", .bool false), ("error", .str message)]

/-- What is said of the program when it is asked for its version. -/
def versionText : String := "atlas-resolver 0.1.0\n"

/-- The text that goes to the standard output. -/
def output : Ending → String
  | usage .versionAsked => versionText
  | shown true listing => listing.toJson.renderPretty ++ "\n"
  | shown false listing => listing.human ++ "\n"
  | _ => ""

end Ending

namespace Program

/-- The directory with the configuration. -/
def directory : String := ".atlas"

/-- The sources of the configuration. -/
def sources (w : Workplace) : ConfigSources where
  main := w.disk.text? [directory, "config.yaml"]
  overrides := w.disk.text? [directory, "local.yaml"]
  environment := w.environment

/-- Begins the log, if it goes to a file. -/
def beginLog (disk : Disk) (s : LogSetup) (now : Instant) : Option Disk :=
  match s.directory with
  | none => some disk
  | some path => do
    let path := components path
    let disk ← disk.makeDirectories [] path
    let file := straight path ++ [s.fileName now]
    if disk.isDirectory file then none
    else if (disk.at? file).isSome then some disk
    else some (disk.put file (.file (.text "")))

/-- Runs the program with some words, and gives the disk afterwards. -/
def run (words : List String) (w : Workplace) : Ending × Disk :=
  match Invocation.ofWords words with
  | .error fault => (.usage fault, w.disk)
  | .ok invocation =>
    match Config.load (sources w) with
    | .error .brokenVariable => (.crashed, w.disk)
    | .error fault => (.failed invocation.json fault.message, w.disk)
    | .ok c =>
      match beginLog w.disk (.ofSettings c.logging) w.now with
      | none => (.crashed, w.disk)
      | some disk =>
        match invocation.command.carryOut c disk with
        | (.ok listing, disk) => (.shown invocation.json listing, disk)
        | (.error fault, disk) => (.failed invocation.json fault.message, disk)

end Program

end Sheltering
