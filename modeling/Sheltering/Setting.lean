/-!
# Settings

A `Setting` is a value that some source of configuration gives. A table of settings may give only
some of the values that a program knows.

* `Setting.merge`: one setting over another. Tables are united key by key, anything else is
  replaced.
* `Setting.text?`, `Setting.natBelow?`, `Setting.variant?`: readers of one value. Nothing is
  converted: a number is no text, and digits in quotes are no number.
-/

namespace Sheltering

/-- A value of some source. -/
inductive Setting where
  | null
  | bool (b : Bool)
  | int (n : Int)
  /-- A number that is not written as an integer. -/
  | real
  | text (s : String)
  | list (items : List Setting)
  | table (entries : List (String × Setting))
deriving Repr, Inhabited

/-- The entries of a table, one for each key. -/
abbrev Settings := List (String × Setting)

namespace Settings

/-- Puts an entry in the place of the one with its key, or at the end. -/
def put (key : String) (value : Setting) : Settings → Settings
  | [] => [(key, value)]
  | (k, v) :: rest => if k = key then (key, value) :: rest else (k, v) :: put key value rest

/-- The table of some entries, of which the last counts for each key. -/
def ofList (entries : List (String × Setting)) : Settings :=
  entries.foldl (fun table (k, v) => put k v table) []

end Settings

namespace Setting

mutual

/-- A setting over another. -/
def merge : (lower upper : Setting) → Setting
  | .table a, .table b => .table (mergeEntries a b)
  | _, upper => upper

/-- The entries of a table over another. -/
def mergeEntries : (lower upper : List (String × Setting)) → List (String × Setting)
  | lower, [] => lower
  | lower, entry :: rest => mergeEntries (mergeEntry lower entry) rest

/-- An entry over a table. -/
def mergeEntry (lower : List (String × Setting)) :
    String × Setting → List (String × Setting)
  | (key, value) =>
    match lower.lookup key with
    | some below => Settings.put key (merge below value) lower
    | none => Settings.put key value lower

end

end Setting

namespace Settings

/-- One table over another. -/
def merge (lower upper : Settings) : Settings := Setting.mergeEntries lower upper

/-- A table that gives one value, under a path of keys. -/
def nested : (path : List String) → Setting → Settings
  | [], _ => []
  | [key], value => [(key, value)]
  | key :: path, value => [(key, .table (nested path value))]

end Settings

namespace Setting

/-! ## Reading -/

/-- A text. -/
def text? : Setting → Option String
  | .text s => some s
  | _ => none

/-- A text, or nothing. -/
def textOrNull? : Setting → Option (Option String)
  | .null => some none
  | .text s => some (some s)
  | _ => none

/-- A natural number below a bound. -/
def natBelow? (bound : Nat) : Setting → Option Nat
  | .int n => if 0 ≤ n ∧ n < bound then some n.toNat else none
  | _ => none

/-- A natural number of 64 bits. -/
def word64? (s : Setting) : Option UInt64 := (s.natBelow? UInt64.size).map UInt64.ofNat

/-- A natural number of 32 bits. -/
def word32? (s : Setting) : Option UInt32 := (s.natBelow? UInt32.size).map UInt32.ofNat

/-- The entry with the least key. -/
def leastEntry? : List (String × Setting) → Option (String × Setting)
  | [] => none
  | e :: rest =>
    match leastEntry? rest with
    | some least => if least.1 < e.1 then some least else some e
    | none => some e

/-- One of some named variants: its name, or a table whose least key is the name of nothing. -/
def variant? {α : Type} (names : List (String × α)) : Setting → Option α
  | .text name => names.lookup name
  | .table entries =>
    match leastEntry? entries with
    | some (name, .null) => names.lookup name
    | _ => none
  | _ => none

/-- The entries of a section with the given fields: a table, or a list of the values of the first
fields in their order. Items past the last field do not count. -/
def section? (fields : List String) : Setting → Option Settings
  | .table entries => some entries
  | .list items => some (fields.zip items)
  | _ => none

end Setting

namespace Settings

/-- A value of a table, or what stands for it when it is missing. -/
def withDefault? {α : Type} (s : Settings) (key : String) (default : α)
    (read : Setting → Option α) : Option α :=
  match s.lookup key with
  | some value => read value
  | none => some default

end Settings

end Sheltering
