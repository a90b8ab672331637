import Sheltering.Config.Written
import Sheltering.Journal
import Sheltering.Lease
import Sheltering.Bundle
import Sheltering.Text.Column

/-!
# Listings

A `Listing` is what a command shows: leases, entries of the journal, sheltered bundles, or the
configuration.

* `Listing.human`: the listing as a table of text.
* `Listing.toJson`: the listing as a value.
-/

namespace Sheltering

open Text

/-- What a command shows. -/
inductive Listing where
  | leases (rows : List Lease)
  | journal (rows : List JournalEntry)
  | sheltered (rows : List ShelteredBundle)
  | config (c : Config)

namespace Listing

/-- The line under a heading. -/
def rule : String := String.ofList (List.replicate 90 '-')

/-- Some cells with their widths, separated by blanks. -/
def row (cells : List (Nat × String)) : String :=
  String.intercalate " " (cells.map fun (width, s) => padRight width s)

/-- The cells of a line about leases. -/
def leaseRow (workType status start deadline : String) : String :=
  row [(28, workType), (8, status), (26, start), (26, deadline)]

/-- The line of a lease. -/
def leaseLine (l : Lease) : String :=
  leaseRow l.workType l.status.name l.start.offsetForm l.deadline.offsetForm

/-- The name of a level in capitals. -/
def levelWord (l : JournalLevel) : String := upperWord l.name

/-- The line of an entry. -/
def journalLine (e : JournalEntry) : String :=
  let error := (e.error.map fun text => ": " ++ truncated 80 text).getD ""
  row [(0, e.time.secondForm), (5, levelWord e.level), (26, truncated 26 e.worker),
    (0, e.message)] ++ error

/-- The cells of a line about a bundle. -/
def bundleRow (since bundle : String) : String := row [(20, since), (0, bundle)]

/-- The line of a sheltered bundle. -/
def bundleLine (b : ShelteredBundle) : String := bundleRow b.since.secondForm b.bundle

/-- The lines of a table, or what is said of an empty one. -/
def table {α : Type} (empty : String) (heading : List String) (line : α → String)
    (rows : List α) : String :=
  if rows.isEmpty then empty else String.intercalate "\n" (heading ++ rows.map line)

/-- The listing as text. -/
def human : Listing → String
  | leases rows =>
    table "No worker leases found." [leaseRow "WORK TYPE" "STATUS" "STARTED" "EXPIRES", rule]
      leaseLine rows
  | journal rows => table "No worker logs found." [] journalLine rows
  | sheltered rows =>
    table "No sheltered bundles." [bundleRow "SHELTERED AT" "BUNDLE", rule] bundleLine rows
  | config c => c.toYaml

/-- A lease as a listing shows it. -/
def leaseJson (l : Lease) : Json :=
  .object [("id", .str l.id.text), ("work_type", .str l.workType), ("status", .str l.status.name),
    ("start_time", .str l.start.offsetForm),
    ("end_time", .strOrNull (l.finish.map Instant.offsetForm)),
    ("task_timeout", .str l.deadline.offsetForm)]

/-- Some values with their number. -/
def counted (name : String) (rows : List Json) : Json :=
  .object [(name, .arr rows), ("total", .nat rows.length)]

/-- The listing as a value. -/
def toJson : Listing → Json
  | leases rows => counted "leases" (rows.map leaseJson)
  | journal rows => counted "logs" (rows.map JournalEntry.toJson)
  | sheltered rows => counted "bundles" (rows.map ShelteredBundle.toJson)
  | config c => c.toJson

end Listing

end Sheltering
