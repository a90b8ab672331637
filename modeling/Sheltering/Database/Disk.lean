import Sheltering.Database
import Sheltering.Text.Split

/-!
# Files on a disk

A `Disk` is a tree of directories, with files of text and files that are databases. Paths begin at
its root.

* `components`: the steps of a path.
* `isName`: a step may be the name of an entry.
* `Disk.place?`: where a path leads, through directories that exist.
* `Disk.makeDirectories`: makes every directory of a path.
-/

namespace Sheltering

/-- What a file holds. -/
inductive FileContent where
  | text (s : String)
  | database (d : Database)

/-- What stands at a path. -/
inductive DiskEntry where
  | directory
  | file (content : FileContent)

/-- The entries of a disk by their paths. -/
structure Disk where
  entries : List (List String × DiskEntry) := []

/-- The steps of a path. Empty ones and single dots lead nowhere. -/
def components (path : String) : List String :=
  (Text.splitAt '/' path.toList).map String.ofList |>.filter fun c => c ≠ "" && c ≠ "."

/-- The steps of a path without the way back that two dots stand for. -/
def straight (path : List String) : List String :=
  path.foldl (fun place c => if c = ".." then place.dropLast else place ++ [c]) []

/-- The most bytes of the name of an entry. -/
def maxNameBytes : Nat := 255

/-- A step of a path may be the name of an entry. -/
def isName (step : String) : Bool :=
  step.utf8ByteSize ≤ maxNameBytes && !step.toList.contains '\x00'

namespace Disk

/-- What stands at a place. -/
def at? (disk : Disk) (place : List String) : Option DiskEntry :=
  if place = [] then some .directory else disk.entries.lookup place

/-- A directory stands at a place. -/
def isDirectory (disk : Disk) (place : List String) : Bool :=
  match disk.at? place with
  | some .directory => true
  | _ => false

/-- Puts an entry at a place. -/
def put (disk : Disk) (place : List String) (entry : DiskEntry) : Disk :=
  ⟨(place, entry) :: disk.entries.filter fun e => e.1 ≠ place⟩

/-- The place that a path leads to from another, if each step before the last is a directory. -/
def place? (disk : Disk) : (start path : List String) → Option (List String)
  | start, [] => some start
  | start, c :: rest =>
    if disk.isDirectory start then
      disk.place? (if c = ".." then start.dropLast else start ++ [c]) rest
    else none

/-- The text of a file. -/
def text? (disk : Disk) (place : List String) : Option String :=
  match disk.at? place with
  | some (.file (.text s)) => some s
  | _ => none

/-- Something stands where a path leads. -/
def exists? (disk : Disk) (path : List String) : Bool :=
  ((disk.place? [] path).bind disk.at?).isSome

/-- Makes every directory of a path, unless a file is in the way or a step is no name. -/
def makeDirectories (disk : Disk) : (start path : List String) → Option Disk
  | _, [] => some disk
  | start, c :: rest =>
    let place := if c = ".." then start.dropLast else start ++ [c]
    match disk.at? place with
    | some .directory => disk.makeDirectories place rest
    | some (.file _) => none
    | none =>
      if isName c then (disk.put place .directory).makeDirectories place rest else none

/-- The names of what stands in a directory. -/
def names (disk : Disk) (place : List String) : List String :=
  disk.entries.filterMap fun (path, _) =>
    if path.length = place.length + 1 ∧ place.isPrefixOf path then path.getLast? else none

end Disk

end Sheltering
