import Sheltering.Text.Percent

/-!
# Addresses of a database

An address is a path, perhaps after a scheme, with parameters after a question mark. The path
`:memory:` stands for a database without a file.

* `DatabaseAddress.ofUrl?`: reads an address.
* `DatabaseAddress.writtenPath`: the path as it is written, of which the directories are made.
-/

namespace Sheltering

open Text

/-- Where a database is and how it is opened. -/
structure DatabaseAddress where
  path : String
  /-- The database has no file, and its path is only the word for that. -/
  unnamed : Bool := false
  /-- The database has no file. -/
  memory : Bool := false
  readOnly : Bool := false
  /-- The file is taken to be unchanged by anyone. -/
  immutable : Bool := false
  sharedCache : Bool := false
  /-- The way of access to files, if it is named. -/
  access : Option String := none
deriving DecidableEq, Repr

namespace DatabaseAddress

/-- The text without some words at its start. -/
def dropWord? (word text : List Char) : Option (List Char) :=
  if word.isPrefixOf text then some (text.drop word.length) else none

/-- The scheme with the marks of a host. -/
def hostScheme : List Char := "sqlite://".toList

/-- The scheme. -/
def scheme : List Char := "sqlite:".toList

/-- The text without every occurrence of a word at its start. -/
def dropWords (word : List Char) (text : List Char) : List Char :=
  if word.isPrefixOf text ∧ word ≠ [] then dropWords word (text.drop word.length) else text
termination_by text.length
decreasing_by
  rename_i h
  have shorter : word.length ≤ text.length := (List.isPrefixOf_iff_prefix.1 h.1).length_le
  have nonempty : 0 < word.length := List.length_pos_iff.2 h.2
  rw [List.length_drop]
  omega

/-- A truth value of a parameter. -/
def flag? (value : String) : Option Bool :=
  if value = "true" ∨ value = "1" then some true
  else if value = "false" ∨ value = "0" then some false
  else none

/-- Applies a parameter, if it is known and has a known value. -/
def parameter? (a : DatabaseAddress) : String × String → Option DatabaseAddress
  | ("mode", "ro") => some { a with readOnly := true }
  | ("mode", "rw") => some a
  | ("mode", "rwc") => some a
  | ("mode", "memory") => some { a with memory := true, sharedCache := true }
  | ("cache", "private") => some { a with sharedCache := false }
  | ("cache", "shared") => some { a with sharedCache := true }
  | ("immutable", value) => (flag? value).map fun immutable => { a with immutable }
  | ("vfs", name) => some { a with access := some name }
  | _ => none

/-- The address of a path. -/
def ofPath? (path : List Char) : Option DatabaseAddress :=
  if String.ofList path = ":memory:" then
    some { path := ":memory:", unnamed := true, memory := true, sharedCache := true }
  else (percentDecoded? path).map fun path => { path }

/-- The characters before the first null. -/
def beforeNull (s : String) : String := String.ofList (s.toList.takeWhile (· ≠ '\x00'))

/-- A null ends each part of an address with parameters of access. -/
def cutAtNull (a : DatabaseAddress) : DatabaseAddress :=
  if a.immutable || a.access.isSome then
    { a with path := beforeNull a.path, access := a.access.map beforeNull }
  else a

/-- Reads an address, with any number of schemes before it. -/
def ofUrl? (url : String) : Option DatabaseAddress := do
  let rest := dropWords scheme (dropWords hostScheme url.toList)
  let a ← ofPath? (rest.takeWhile (· ≠ '?'))
  let query := (rest.dropWhile (· ≠ '?')).drop 1
  let a ← (formPairs query).foldlM parameter? a
  pure a.cutAtNull

/-- The path of an address as it is written, after one scheme. -/
def writtenPath (url : String) : String :=
  let text := url.toList
  String.ofList (((dropWord? hostScheme text).or (dropWord? scheme text)).getD text)

end DatabaseAddress

end Sheltering
