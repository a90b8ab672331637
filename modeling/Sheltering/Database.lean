import Sheltering.Journal
import Sheltering.Lease.Table
import Sheltering.Schema.Tables
import Sheltering.Shelter

/-!
# The database

A `Database` holds the tables of leases, of the journal and of sheltered bundles, under a schema.

`Database.migrated`: the database with every table it needs.
-/

namespace Sheltering

/-- The tables of a database and their schema. -/
structure Database where
  schema : Schema Catalog := { record := none, content := {} }
  leases : LeaseTable := {}
  journal : JournalTable := {}
  shelter : ShelterTable := {}

namespace Database

/-- What has come of a run of the migrations. No step of it panics. -/
def migrationResult : Reply (Except MigrationFault Nat) → Except MigrationFault Nat
  | .answer result => result
  | .panic => .error .versionCheck

/-- Applies the migrations that the database lacks, which it refuses if it cannot be written. -/
def migrated (d : Database) (writable : Bool := true) : Except MigrationFault Database :=
  let world := if writable then Schema.surroundings else Schema.frozen
  let run := (Migration.runAll Migration.builtIn).run.run world d.schema
  (migrationResult run.ending).map fun _ => { d with schema := run.state }

end Database

end Sheltering
