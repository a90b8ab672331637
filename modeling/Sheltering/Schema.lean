import Sheltering.Dialogue

/-!
# Schema migrations

A database records the versions of the migrations that were applied to it. A run applies the
migrations that are newer than the newest recorded one, in the order of their versions, each in a
transaction of its own. The record is a table with a row for each version and no triggers. When a
migration was applied, and what it is said to do, matters to no run.

* `Migration`: a version and a script, which may fail and then has no effect.
* `Migration.ofContent`: a migration whose script leaves the record as it is.
* `Schema.ensure`, `Schema.current`, `Schema.apply`: the atomic steps on a database.
* `Migration.runAll`: a run, as a dialogue of these steps.
* `Schema.surroundings`, `Schema.frozen`, `Schema.apart`: how a database answers the steps, one that
  cannot be written, and one that each step finds anew.
-/

namespace Sheltering

/-- A database of type `D` with the record of its migrations. -/
structure Schema (D : Type) where
  /-- The recorded versions, once there is a record. -/
  record : Option (List Int)
  content : D
deriving DecidableEq, Repr

/-- A change to a database of type `D`. The record is a part of the database, so a script may read
and change that too. -/
structure Migration (D : Type) where
  version : Int
  /-- The effect of the script, if it does not fail. -/
  script : Schema D → Option (Schema D)

/-- Why a run of migrations fails. -/
inductive MigrationFault where
  /-- A migration cannot be applied. Version zero stands for the record, which cannot be begun. -/
  | execution (version : Int)
  /-- The newest version cannot be read. -/
  | versionCheck
deriving DecidableEq, Repr

namespace Schema

variable {D : Type}

/-- Begins the record, if there is none. -/
def ensure (s : Schema D) : Schema D := { s with record := some (s.record.getD []) }

/-- The newest recorded version, zero if there is none. -/
def current (s : Schema D) : Int :=
  match s.record with
  | some (v :: vs) => vs.foldl max v
  | _ => 0

/-- A transaction: the script, then the record of its version. Nothing has an effect unless both
succeed; a version is recorded once. -/
def apply (s : Schema D) (m : Migration D) : Option (Schema D) := do
  let s ← m.script s
  let versions ← s.record
  if versions.contains m.version then none
  else some { s with record := some (versions ++ [m.version]) }

end Schema

/-- An atomic step of a run. -/
inductive SchemaStep (D : Type) where
  | ensure
  | current
  | apply (m : Migration D)

namespace SchemaStep

variable {D : Type}

/-- What a step gives that is not refused. -/
def Value : SchemaStep D → Type
  | ensure => Unit
  | current => Int
  | apply _ => Unit

/-- The fault of a step that is refused. -/
def fault : SchemaStep D → MigrationFault
  | ensure => .execution 0
  | current => .versionCheck
  | apply m => .execution m.version

instance : Question (SchemaStep D) := ⟨fun q => Except MigrationFault q.Value⟩

/-- A step is refused. -/
def refused (q : SchemaStep D) : Reply (Answer q) := .answer (.error q.fault)

end SchemaStep

namespace Migration

variable {D : Type}

open Dialogue (call)

/-- A migration that changes the content of a database and leaves the record as it is. -/
def ofContent (version : Int) (change : D → Option D) : Migration D where
  version
  script s := (change s.content).map fun content => { s with content }

/-- The migrations newer than a version, oldest first. -/
def pending (current : Int) (migrations : List (Migration D)) : List (Migration D) :=
  (migrations.filter fun m => current < m.version).mergeSort fun a b => a.version ≤ b.version

/-- The steps of a run; a fault ends what follows it. -/
abbrev Steps (D α : Type) : Type := ExceptT MigrationFault (Dialogue (SchemaStep D)) α

/-- Applies migrations in order up to the first that fails. -/
def applyAll : List (Migration D) → Steps D Unit
  | [] => pure ()
  | m :: rest => do
    let _ : Unit ← ExceptT.mk (call (SchemaStep.apply m))
    applyAll rest

/-- Applies the migrations that are newer than the newest recorded one, and counts them. -/
def runAll (migrations : List (Migration D)) : Steps D Nat := do
  let _ : Unit ← ExceptT.mk (call SchemaStep.ensure)
  let current : Int ← ExceptT.mk (call SchemaStep.current)
  let pending := pending current migrations
  applyAll pending
  pure pending.length

end Migration

namespace Schema

variable {D : Type}

/-- How a database answers the steps of a run. -/
def surroundings : Dialogue.Surroundings (SchemaStep D) (Schema D)
  | .ensure, s => (.answer (.ok ()), s.ensure)
  | .current, s =>
    (if s.record.isSome then .answer (.ok s.current) else SchemaStep.current.refused, s)
  | .apply m, s =>
    match s.apply m with
    | some s => (.answer (.ok ()), s)
    | none => ((SchemaStep.apply m).refused, s)

/-- How a database answers that cannot be written: only what changes nothing succeeds. -/
def frozen : Dialogue.Surroundings (SchemaStep D) (Schema D)
  | .ensure, s => (if s.record.isSome then .answer (.ok ()) else SchemaStep.ensure.refused, s)
  | .current, s => surroundings .current s
  | .apply m, s => ((SchemaStep.apply m).refused, s)

/-- How steps are answered of which each finds a database of its own, in the given state. -/
def apart (own : Schema D) : Dialogue.Surroundings (SchemaStep D) Unit
  | q, () => ((surroundings q own).1, ())

/-- A run that nobody interrupts. -/
def migrate (s : Schema D) (migrations : List (Migration D)) :
    Reply (Except MigrationFault Nat) × Schema D :=
  let run := (Migration.runAll migrations).run.run surroundings s
  (run.ending, run.state)

end Schema

end Sheltering
