import Sheltering.Column
import Sheltering.Instant.Written
import Sheltering.Json.Record
import Sheltering.Text.Case

/-!
# The journal of a worker

The journal records what each tick of the worker did. Its rows hold text; a row is given a meaning
only when it is read.

* `JournalEntry`: an entry. A `JournalNote` is an entry before it has an identifier and a time.
* `JournalTable.store`: adds an entry with a new identifier.
* `JournalTable.recent`: the latest entries, the one stored last first among those of one time.
* `JournalTable.insert`: a row put in by hand, if it breaks no constraint.
-/

namespace Sheltering

/-- The weight of an entry. -/
inductive JournalLevel where
  | info
  | error
deriving DecidableEq, Repr

namespace JournalLevel

/-- The name of a level. -/
def name : JournalLevel → String
  | info => "info"
  | error => "error"

/-- The levels by name. -/
def names : List (String × JournalLevel) := [("info", info), ("error", error)]

/-- The level of a name in any case. -/
def ofName? (s : String) : Option JournalLevel := names.lookup (Text.lowerWord s)

end JournalLevel

/-- What a worker has to tell. -/
structure JournalNote where
  worker : String
  level : JournalLevel
  message : String
  details : Option Json
  /-- The text of what went wrong. -/
  error : Option String
deriving Repr

namespace JournalNote

/-- A note that all is well. -/
def info (worker message : String) (details : Option Json) : JournalNote :=
  ⟨worker, .info, message, details, none⟩

/-- A note that something went wrong. -/
def failure (worker message error : String) (details : Option Json) : JournalNote :=
  ⟨worker, .error, message, details, some error⟩

end JournalNote

/-- An entry of the journal. -/
structure JournalEntry extends JournalNote where
  id : Uuid
  time : Instant
deriving Repr

namespace JournalEntry

/-- The entry as a value. -/
def toJson (e : JournalEntry) : Json :=
  .object [("id", .str e.id.text), ("timestamp", .str e.time.shortest), ("worker", .str e.worker),
    ("level", .str e.level.name), ("message", .str e.message),
    ("details", e.details.getD .null), ("error", .strOrNull e.error)]

/-- Reads an entry; it is a container itself, so its details nest one less deep. -/
def ofWritten? (w : Written) : Option JournalEntry := do
  let f ← Fields.of? ["id", "timestamp", "worker", "level", "message", "details", "error"] w
  let id ← f.required? "id" Written.uuid?
  let time ← f.required? "timestamp" Written.instant?
  let worker ← f.required? "worker" Written.text?
  let level ← f.required? "level" (Written.variant? JournalLevel.names)
  let message ← f.required? "message" Written.text?
  let details ← f.optional? "details" (Written.toJson? (Written.depthLimit - 1))
  let error ← f.optional? "error" Written.text?
  pure { id, time, worker, level, message, details, error }

end JournalEntry

/-- A row of the journal. -/
structure JournalRow where
  id : String
  time : String
  worker : String
  level : String
  message : String
  /-- The text of the details. -/
  details : Option String
  error : Option String
deriving DecidableEq, Repr

namespace JournalRow

/-- The row of an entry. -/
def ofEntry (e : JournalEntry) : JournalRow where
  id := e.id.text
  time := e.time.stored
  worker := e.worker
  level := e.level.name
  message := e.message
  details := e.details.map Json.render
  error := e.error

/-- The value of a text of details. -/
def readDetails (text : String) : Except Fault Json :=
  match Json.ofText? text with
  | some v => .ok v
  | none => .error (.serialization "invalid details")

/-- The entry that a row means. -/
def read (r : JournalRow) : Except Fault JournalEntry := do
  let level ←
    match JournalLevel.ofName? r.level with
    | some level => .ok level
    | none => .error (.serialization ("unknown log level: " ++ r.level))
  let details ← r.details.mapM readDetails
  let id ← Column.uuid r.id
  let time ← Column.instant r.time
  pure { id, time, worker := r.worker, level, message := r.message, details, error := r.error }

end JournalRow

/-- The journal's table; later rows were stored later. -/
structure JournalTable where
  rows : List JournalRow := []
deriving DecidableEq, Repr, Inhabited

namespace JournalTable

/-- Adds a row with a new identifier. -/
def add (t : JournalTable) (row : JournalRow) : Except Fault JournalTable :=
  if t.rows.any (·.id == row.id) then .error (.database "the identifier is taken")
  else .ok ⟨t.rows ++ [row]⟩

/-- Stores an entry. -/
def store (t : JournalTable) (e : JournalEntry) : Except Fault JournalTable :=
  t.add (JournalRow.ofEntry e)

/-- The rows, latest first, as text says; of one time the one stored last. -/
def latestFirst (t : JournalTable) : List JournalRow :=
  t.rows.reverse.mergeSort fun a b => b.time ≤ a.time

/-- The latest entries, at most `limit`. -/
def recent (t : JournalTable) (limit : Nat) : Except Fault (List JournalEntry) :=
  (t.latestFirst.take limit).mapM JournalRow.read

/-- Puts a row in by hand. Only details and error may be empty, and the identifier is new. -/
def insert (t : JournalTable) (id time worker level message details error : Option String) :
    Except Fault JournalTable :=
  match id, time, worker, level, message with
  | some id, some time, some worker, some level, some message =>
    t.add ⟨id, time, worker, level, message, details, error⟩
  | _, _, _, _, _ => .error (.database "a column is empty")

end JournalTable

end Sheltering
