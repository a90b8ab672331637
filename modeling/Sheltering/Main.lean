import Sheltering.Program

/-!
# The command line

The program looks at what is in the working directory and prints what a run shows. It writes no
file.
-/

open Sheltering

namespace Sheltering.Program

/-- What stands at a path, if anything does. -/
def entryAt (path : String) : IO (Option DiskEntry) := do
  let here ← IO.currentDir
  if ← (here / path).isDir then pure (some .directory)
  else
    try
      let bytes ← IO.FS.readBinFile path
      pure (some (.file (.text ((String.fromUTF8? bytes).getD "\ufffd"))))
    catch _ => pure none

/-- The directories on the way to a path, and the path. -/
def ways (path : String) : List (List String) :=
  let steps := straight (components path)
  (List.range steps.length).map fun n => steps.take (n + 1)

/-- The names of the variables that set a value. -/
def variableNames : List String :=
  (Config.toSettings {}).flatMap fun (name, value) =>
    let start := Variable.start ++ name.toUpper
    start :: (((value.section? []).getD []).map fun (key, _) => start ++ "__" ++ key.toUpper)

/-- The variables that are set. -/
def givenVariables : IO (List (String × String)) := do
  let given ← variableNames.mapM fun name => do
    pure ((← IO.getEnv name).map (name, ·))
  pure (given.filterMap id)

/-- What matters of the working directory. The time counts for the name of the log's file only,
which is not written. -/
def workplace : IO Workplace := do
  let environment ← givenVariables
  let lookAt (paths : List (List String)) : IO Disk := do
    let found ← paths.mapM fun path => do
      pure ((← entryAt (String.intercalate "/" path)).map (path, ·))
    pure ⟨found.filterMap id⟩
  let files := [[directory], [directory, "config.yaml"], [directory, "local.yaml"]]
  let w : Workplace := { disk := ← lookAt files, environment, now := Instant.ofMillis 0 }
  match Config.load (sources w) with
  | .error _ => pure w
  | .ok c =>
    let logs := (c.logging.directory.map ways).getD []
    pure { w with disk := ← lookAt (files ++ ways c.database.path ++ logs) }

/-- The line that explains how the program is called. -/
def usageLine : String :=
  "Usage: atlas-resolver [--json] <lease [--work-type NAME] | logs [--limit N] | " ++
    "sheltered [--limit N] | config>"

/-- Prints how a run ends. -/
def report (e : Ending) : IO Unit := do
  IO.print e.output
  match e with
  | .usage .versionAsked => pure ()
  | .usage .helpAsked => IO.println usageLine
  | .usage _ => IO.eprintln usageLine
  | .failed true message => IO.eprintln (Ending.failure message).renderPretty
  | .failed false message => IO.eprintln ("Error: " ++ message)
  | .crashed => IO.eprintln "the program stopped"
  | .shown .. => pure ()

end Sheltering.Program

/-- Runs the program. -/
def main (words : List String) : IO UInt32 := do
  let (e, _) := Program.run words (← Program.workplace)
  Program.report e
  pure (UInt32.ofNat e.code)
