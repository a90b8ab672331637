import Sheltering.Binary64

/-!
# JSON values

A `Json` is a value that a JSON text stands for. Integers between `-2 ^ 63` and `2 ^ 64` are exact;
every other number is a double.

* `Json.render`: the compact text.
* `Json.renderPretty`: the text with one member or item a line, indented by two blanks.

Members of an object are kept in the order of their keys; `Json.object` builds one from any list of
members, where a later member of a key replaces an earlier one.
-/

namespace Sheltering

/-- A JSON value. -/
inductive Json where
  | null
  | bool (b : Bool)
  | int (n : Int)
  | float (x : Binary64)
  | str (s : String)
  | arr (items : List Json)
  | obj (members : List (String × Json))
deriving Repr, Inhabited

namespace Json

/-! ## Objects -/

/-- Puts a member in its place among members sorted by key; a member of that key is replaced. -/
def insertMember (key : String) (value : Json) : List (String × Json) → List (String × Json)
  | [] => [(key, value)]
  | (k, v) :: rest =>
    if key < k then (key, value) :: (k, v) :: rest
    else if key = k then (key, value) :: rest
    else (k, v) :: insertMember key value rest

/-- The object of some members; the last member of a key is the one kept. -/
def object (members : List (String × Json)) : Json :=
  .obj (members.foldl (fun sorted (k, v) => insertMember k v sorted) [])

/-- The value of a member. -/
def get? (key : String) : Json → Option Json
  | .obj members => members.lookup key
  | _ => none

/-- Text, or `null` for its absence. -/
def strOrNull : Option String → Json
  | some s => .str s
  | none => .null

/-- A natural number as a value. -/
def nat (n : Nat) : Json := .int n

/-! ## Text -/

/-- The digits of a code below `0x20` in a `\u` escape. -/
def controlEscape (c : Char) : List Char :=
  ['\\', 'u', '0', '0', Nat.digitChar (c.toNat / 16), Nat.digitChar (c.toNat % 16)]

/-- A character of a string as it is written. Quotes, backslashes and control characters are
escaped, all others stand for themselves. -/
def escapeChar (c : Char) : List Char :=
  match c with
  | '"' => ['\\', '"']
  | '\\' => ['\\', '\\']
  | '\x08' => ['\\', 'b']
  | '\x0c' => ['\\', 'f']
  | '\n' => ['\\', 'n']
  | '\r' => ['\\', 'r']
  | '\t' => ['\\', 't']
  | c => if c.toNat < 0x20 then controlEscape c else [c]

/-- A string with its quotes. -/
def quote (s : String) : String :=
  String.ofList ('"' :: s.toList.flatMap escapeChar ++ ['"'])

/-- A number that is written without a point is an integer, any other a double. A double that is no
number at all has no spelling and becomes `null`. -/
def renderFloat (x : Binary64) : String := if x.isFinite then x.render else "null"

mutual

/-- The compact text of a value. -/
def render : Json → String
  | .null => "null"
  | .bool b => if b then "true" else "false"
  | .int n => toString n
  | .float x => renderFloat x
  | .str s => quote s
  | .arr items => "[" ++ renderItems items ++ "]"
  | .obj members => "\x7b" ++ renderMembers members ++ "\x7d"

/-- Items, separated by commas. -/
def renderItems : List Json → String
  | [] => ""
  | [v] => v.render
  | v :: rest => v.render ++ "," ++ renderItems rest

/-- Members, separated by commas. -/
def renderMembers : List (String × Json) → String
  | [] => ""
  | [(k, v)] => quote k ++ ":" ++ v.render
  | (k, v) :: rest => quote k ++ ":" ++ v.render ++ "," ++ renderMembers rest

end

/-- A line break and the blanks of an indentation level. -/
def newline (level : Nat) : String := "\n" ++ String.ofList (List.replicate (2 * level) ' ')

mutual

/-- The text of a value on several lines, at an indentation level. An empty object or array stays
on its line. -/
def renderPrettyAt (level : Nat) : Json → String
  | .null => "null"
  | .bool b => if b then "true" else "false"
  | .int n => toString n
  | .float x => renderFloat x
  | .str s => quote s
  | .arr [] => "[]"
  | .arr items => "[" ++ prettyItems (level + 1) items ++ newline level ++ "]"
  | .obj [] => "\x7b\x7d"
  | .obj members => "\x7b" ++ prettyMembers (level + 1) members ++ newline level ++ "\x7d"

/-- Items, each on its line. -/
def prettyItems (level : Nat) : List Json → String
  | [] => ""
  | [v] => newline level ++ v.renderPrettyAt level
  | v :: rest => newline level ++ v.renderPrettyAt level ++ "," ++ prettyItems level rest

/-- Members, each on its line. -/
def prettyMembers (level : Nat) : List (String × Json) → String
  | [] => ""
  | [(k, v)] => newline level ++ quote k ++ ": " ++ v.renderPrettyAt level
  | (k, v) :: rest =>
    newline level ++ quote k ++ ": " ++ v.renderPrettyAt level ++ "," ++ prettyMembers level rest

end

/-- The text of a value with one member or item a line. -/
def renderPretty (v : Json) : String := v.renderPrettyAt 0

end Json

end Sheltering
