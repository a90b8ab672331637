import Sheltering.Schema
import Sheltering.Text.Case

/-!
# Tables

The content of a database, as far as migrations change it: its tables and their columns.

* `Catalog.create?`, `Catalog.ensure`, `Catalog.index?`: what a script does to the tables.
* `Migration.builtIn`: the migrations of the tables of leases, of the journal and of sheltered
  bundles.
-/

namespace Sheltering

/-- A table. -/
structure TableShape where
  name : String
  columns : List String
deriving DecidableEq, Repr

/-- The tables of a database. -/
structure Catalog where
  tables : List TableShape := []
deriving DecidableEq, Repr

namespace Catalog

/-- The table of a name; case does not matter. -/
def find? (c : Catalog) (name : String) : Option TableShape :=
  c.tables.find? fun t => Text.asciiLowerText t.name == Text.asciiLowerText name

/-- Creates a table with a new name. -/
def create? (c : Catalog) (t : TableShape) : Option Catalog :=
  if (c.find? t.name).isSome then none else some ⟨c.tables ++ [t]⟩

/-- Creates a table, unless there is one of its name. -/
def ensure (c : Catalog) (t : TableShape) : Catalog := (c.create? t).getD c

/-- Creates an index on a column, which must exist. -/
def index? (c : Catalog) (table column : String) : Option Catalog := do
  let t ← c.find? table
  if t.columns.contains column then some c else none

end Catalog

namespace Migration

/-- The name of the table that records migrations. -/
def recordTable : String := "schema_migrations"

/-- The migration that makes sure of a table and of an index on one of its columns. -/
def ofTable (version : Int) (t : TableShape) (indexed : String) : Migration Catalog :=
  ofContent version fun c => (c.ensure t).index? t.name indexed

/-- The table of leases. -/
def leases : Migration Catalog :=
  ofTable 1
    ⟨"worker_tasks", ["work_type", "id", "status", "start_time", "end_time", "task_timeout"]⟩ "id"

/-- The table of the journal. -/
def journal : Migration Catalog :=
  ofTable 2
    ⟨"worker_logs", ["id", "timestamp", "worker", "level", "message", "details", "error"]⟩
    "timestamp"

/-- The table of sheltered bundles. -/
def sheltered : Migration Catalog :=
  ofTable 3 ⟨"sheltered_bundles", ["bundle_id", "sheltered_at"]⟩ "sheltered_at"

/-- The migrations that every database gets. -/
def builtIn : List (Migration Catalog) := [leases, journal, sheltered]

/-- What a migration made up for a rehearsal does. -/
inductive Recipe where
  /-- Creates a table. -/
  | create (table : String)
  /-- Creates a table, then fails. -/
  | createThenFail (table : String)
  | nothing
  | fail
deriving DecidableEq, Repr

/-- The migration of a recipe. The name of the record's table is taken. -/
def ofRecipe (version : Int) (r : Recipe) : Migration Catalog :=
  ofContent version fun c =>
    match r with
    | .create table =>
      if Text.asciiLowerText table = recordTable then none
      else c.create? ⟨table, []⟩
    | .createThenFail _ => none
    | .nothing => some c
    | .fail => none

end Migration

/-- The names of a database's tables in order, that of the record included. -/
def Schema.tableNames (s : Schema Catalog) : List String :=
  let record := if s.record.isSome then [Migration.recordTable] else []
  (record ++ s.content.tables.map (·.name)).mergeSort fun a b => a ≤ b

end Sheltering
