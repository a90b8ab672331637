import Sheltering.Config
import Sheltering.Database.Address
import Sheltering.Database.Disk

/-!
# Opening a database

`Database.openAt`: makes the directory of a database, reads its address, opens its file and applies
the migrations that it lacks. A missing or empty file becomes a database.
-/

namespace Sheltering

/-- How many connections a process keeps, and for how long it waits for them. -/
structure PoolSettings where
  maxConnections : UInt32 := 5
  minConnections : UInt32 := 1
  /-- How long a task waits for a connection. -/
  acquireTimeout : Span := Span.ofSeconds 3
  /-- How long a writer waits for another process. -/
  busyTimeout : Span := Span.ofSeconds 30
deriving Repr

/-- The connections that a configuration asks for. -/
def DatabaseSettings.pool (s : DatabaseSettings) : PoolSettings :=
  { maxConnections := s.maxConnections }

/-- Why a database does not open. -/
inductive OpenFault where
  /-- Its directory cannot be made. -/
  | directory
  | invalidAddress (url : String)
  /-- The pool may have no connection at all. -/
  | emptyPool
  /-- No connection can be made. -/
  | connection
  | migration (fault : MigrationFault)
deriving DecidableEq, Repr

namespace OpenFault

/-- The text for an address that is not valid. -/
def addressMessage (url : String) : String := "Connection error: Invalid database URL: " ++ url

end OpenFault

namespace DatabaseAddress

/-! ## What an address means -/

/-- The ways of access to files that are known. -/
def accesses : List String := ["unix", "unix-dotfile", "unix-excl", "unix-none", "memdb"]

/-- The database is in memory. -/
def inMemory (a : DatabaseAddress) : Bool := a.memory || a.path == ":memory:"

/-- The database goes away with its connections. -/
def isTransient (a : DatabaseAddress) : Bool :=
  a.inMemory || a.path == "" || a.access == some "memdb"

/-- The address names a database in memory that a whole process can share. -/
def namesMemory (a : DatabaseAddress) : Bool :=
  match a.path.toList with
  | c :: _ :: _ => c = '/' || c = '\\'
  | _ => false

/-- All connections of a process to a transient database see the same one. Its path counts as a
name only in an address with parameters of access. -/
def isShared (a : DatabaseAddress) : Bool :=
  if a.inMemory then
    a.sharedCache && (a.unnamed || ((a.immutable || a.access.isSome) && a.path ≠ ""))
  else a.access == some "memdb" && (a.namesMemory || (a.sharedCache && a.path ≠ ""))

/-- Nothing can be written at this address. -/
def isFrozen (a : DatabaseAddress) : Bool :=
  a.readOnly || (a.immutable && !a.inMemory && a.path ≠ "")

/-! ## Files -/

/-- What the name of a database gets for the file that holds its changes while they are made. -/
def journalEnding : String := "-journal"

/-- What it gets for the file that keeps others away, where a file does that. -/
def lockEnding : String := ".lock"

/-- What it gets for the file that is needed before any change, if one is. The file of changes is
needed to begin a log beside the database, which some ways of access do without. -/
def earlyEnding (a : DatabaseAddress) : String :=
  if a.immutable || a.access == some "unix-none" then ""
  else if a.access == some "unix-dotfile" then lockEnding
  else journalEnding

/-- The most bytes of a path. -/
def maxPathBytes : Nat := 512

/-- The path of a place is not too long for any file beside it. -/
def isReachable (place : List String) : Bool :=
  place.foldr (fun step n => 1 + step.utf8ByteSize + n) journalEnding.utf8ByteSize ≤ maxPathBytes

/-- The name of a place with an ending. -/
def nameWith (ending : String) (place : List String) : String := place.getLast?.getD "" ++ ending

/-- Another process seems to use the database at a place. -/
def isLocked (a : DatabaseAddress) (disk : Disk) (place : List String) : Bool :=
  a.earlyEnding == lockEnding && (disk.at? (place.dropLast ++ [nameWith lockEnding place])).isSome

/-- The most bytes of a file that counts as empty. -/
def maxEmptyBytes : Nat := 1

/-- The database at a place, before migrations. A file that is only read must be a database, unless
no log is begun. -/
def connect (a : DatabaseAddress) (disk : Disk) (place : List String) :
    Except OpenFault Database :=
  if !isReachable place || !isName (nameWith a.earlyEnding place) || a.isLocked disk place then
    .error .connection
  else
    match disk.at? place with
    | some (.file (.database d)) => .ok d
    | some (.file (.text s)) =>
      if maxEmptyBytes < s.utf8ByteSize || (a.readOnly && a.earlyEnding == journalEnding) then
        .error .connection
      else .ok {}
    | some .directory => .error .connection
    | none =>
      if disk.isDirectory place.dropLast ∧ !a.readOnly then .ok {} else .error .connection

end DatabaseAddress

namespace Disk

/-- Makes the directory of a database, unless something stands there. -/
def prepare (disk : Disk) (path : String) : Option Disk :=
  if path = ":memory:" ∨ path = "" then some disk
  else
    let parent := (components path).dropLast
    if disk.exists? parent then some disk else disk.makeDirectories [] parent

end Disk

namespace Database

/-- Opens and migrates a database that goes away with its connections. Where each connection has a
database of its own, a step of a run may come to another connection than the one before it, and does
not see what that has done. -/
def openTransient (a : DatabaseAddress) (pool : PoolSettings) : Except OpenFault Database :=
  let d : Database := {}
  let migrated :=
    if 1 < pool.maxConnections ∧ !a.isShared then
      let run := (Migration.runAll Migration.builtIn).run.run (Schema.apart d.schema) ()
      (migrationResult run.ending).map fun _ => d
    else d.migrated !a.isFrozen
  migrated.mapError .migration

/-- Opens and migrates the database in a file, and gives the disk afterwards. -/
def openFile (a : DatabaseAddress) (disk : Disk) : Except OpenFault Database × Disk :=
  let place := straight (components a.path)
  let writable := !a.isFrozen && isName (DatabaseAddress.nameWith DatabaseAddress.journalEnding place)
  match a.connect disk place with
  | .error fault => (.error fault, disk)
  | .ok d =>
    match d.migrated writable with
    | .ok d => (.ok d, disk.put place (.file (.database d)))
    | .error fault =>
      let disk := if (disk.at? place).isSome then disk else disk.put place (.file (.text ""))
      (.error (.migration fault), disk)

/-- Opens and migrates the database at an address, and gives the disk afterwards. -/
def openAt (disk : Disk) (url : String) (pool : PoolSettings) :
    Except OpenFault Database × Disk :=
  match disk.prepare (DatabaseAddress.writtenPath url) with
  | none => (.error .directory, disk)
  | some disk =>
    match DatabaseAddress.ofUrl? url with
    | none => (.error (.invalidAddress url), disk)
    | some a =>
      if pool.maxConnections = 0 then (.error .emptyPool, disk)
      else if !a.access.all DatabaseAddress.accesses.contains ∨ a.path.toList.contains '\x00' then
        (.error .connection, disk)
      else if a.isTransient then (openTransient a pool, disk)
      else openFile a disk

end Database

end Sheltering
