import Sheltering.Text.Percent
import Sheltering.Url.Name

/-!
# Hosts of web addresses

A host is a name or a number. Numbers are written in one way whatever way they were given in.

* `Host.name?`: a host as a name in letters of ASCII, or as the four parts of a number.
* `Host.number?`: the number of a host that ends like one; a part may be octal or hexadecimal.
* `Host.longNumber?`: a number of eight groups in square brackets.
* `Host.token?`: the host of a scheme that gives it no meaning.
-/

namespace Sheltering.Host

open Text

/-! ## Numbers of four parts -/

/-- The number that digits to a base spell. -/
def digits? (base : Nat) (text : List Char) : Option Nat :=
  text.foldlM (fun n c => do
    let d ← hexDigit? c
    if d < base then some (base * n + d) else none) 0

/-- One part of a number. -/
def part? : List Char → Option Nat
  | [] => none
  | '0' :: x :: rest => if x = 'x' ∨ x = 'X' then digits? 16 rest else digits? 8 (x :: rest)
  | text => digits? 10 text

/-- The parts of a host, without an empty one at its end. -/
def parts (text : List Char) : List (List Char) :=
  let all := splitAt '.' text
  if 1 < all.length ∧ all.getLast? = some [] then all.dropLast else all

/-- The host is to be read as a number. -/
def endsInNumber (text : List Char) : Bool :=
  match (parts text).getLast? with
  | some last => (!last.isEmpty && last.all isDigit) || (part? last).isSome
  | none => false

/-- The number of some parts: each is a byte, the last one fills the bytes that are left. -/
def number? (text : List Char) : Option Nat := do
  let values ← (parts text).mapM part?
  let last ← values.getLast?
  let bytes := values.dropLast
  if 3 < bytes.length ∨ bytes.any (255 < ·) ∨ Nat.pow 256 (4 - bytes.length) ≤ last then none
  else some (bytes.zipIdx.foldl (fun n (b, i) => n + b * Nat.pow 256 (3 - i)) last)

/-- A number as four parts. -/
def fourParts (n : Nat) : String :=
  let byte (i : Nat) : String := toString (n / Nat.pow 256 i % 256)
  ".".intercalate [byte 3, byte 2, byte 1, byte 0]

/-! ## Numbers of eight groups -/

/-- The two groups of a number of four parts as it may end a longer number: decimal, without zeros
in front. -/
def twoGroups? (text : List Char) : Option (List Nat) := do
  let bytes ← (splitAt '.' text).mapM fun part =>
    if part.isEmpty ∨ (1 < part.length ∧ part.head? = some '0') then none else digits? 10 part
  match bytes with
  | [a, b, c, d] =>
    if [a, b, c, d].any (255 < ·) then none else some [256 * a + b, 256 * c + d]
  | _ => none

/-- Some groups with colons between them. Only the last may have four parts. -/
def groups? : List (List Char) → Option (List Nat)
  | [] => some []
  | text :: rest =>
    if rest.isEmpty ∧ text.contains '.' then twoGroups? text
    else if text.isEmpty ∨ 4 < text.length then none
    else do
      let n ← digits? 16 text
      let more ← groups? rest
      pure (n :: more)

/-- The groups of a text, which may be empty. -/
def groupsOf? (text : List Char) : Option (List Nat) :=
  if text.isEmpty then some [] else groups? (splitAt ':' text)

/-- Cuts a text at the first pair of colons. -/
def cutAtGap : List Char → Option (List Char × List Char)
  | ':' :: ':' :: rest => some ([], rest)
  | c :: rest => (cutAtGap rest).map fun (a, b) => (c :: a, b)
  | [] => none

/-- The eight groups of a number. A pair of colons stands for one group of zero or more. -/
def eightGroups? (text : List Char) : Option (List Nat) :=
  match cutAtGap text with
  | none => (groupsOf? text).filter (·.length = 8)
  | some (left, right) =>
    if left.contains '.' then none
    else do
      let a ← groupsOf? left
      let b ← groupsOf? right
      if 7 < a.length + b.length then none
      else some (a ++ List.replicate (8 - a.length - b.length) 0 ++ b)

/-- How many zeros stand at the start of each rest of a list. -/
def zeroRuns : List Nat → List Nat
  | [] => []
  | n :: rest =>
    let runs := zeroRuns rest
    (if n = 0 then (runs.head?.getD 0) + 1 else 0) :: runs

/-- Groups with colons between them. -/
def joined (groups : List Nat) : String :=
  ":".intercalate (groups.map fun n => String.ofList (Nat.toDigits 16 n))

/-- Eight groups as they are written: the first of the longest runs of zeros is left out. -/
def eightGroups (groups : List Nat) : String :=
  let runs := zeroRuns groups
  let longest := runs.foldl max 0
  if longest < 2 then joined groups
  else
    let start := runs.idxOf longest
    joined (groups.take start) ++ "::" ++ joined (groups.drop (start + longest))

/-- A number of eight groups, in square brackets. -/
def longNumber? (text : List Char) : Option String :=
  if text.head? = some '[' ∧ text.getLast? = some ']' then
    (eightGroups? ((text.drop 1).dropLast)).map fun groups => "[" ++ eightGroups groups ++ "]"
  else none

/-! ## Names -/

/-- The host of a web address. It is not empty. -/
def name? (text : List Char) : Option String :=
  if text.head? = some '[' then longNumber? text
  else do
    let decoded ← percentDecoded? text
    let name ← Name.ascii? decoded.toList
    if name.isEmpty then none
    else if endsInNumber name then (number? name).map fourParts
    else some (String.ofList name)

/-- The host of a scheme that gives it no meaning. -/
def token? (text : List Char) : Option String :=
  if text.head? = some '[' then longNumber? text
  else if text.any Name.isForbidden then none
  else some (String.ofList (percentEscaped (fun c => c ≤ '\x1f' || '\x7e' < c) text))

end Sheltering.Host
