import Sheltering.Text.Digits

/-!
# Tags of a YAML text

A `Tag` names the type of a node. It is bytes, which a percent sign with two digits may stand for,
and need not be a text.

* `Tag.ofWritten?`: the tag that some characters stand for.
* `Tag.text?`: the tag as a text.
* `Tag.localName?`: the name in a tag that is known to one program only.
-/

namespace Sheltering.Yaml

/-- A tag, or a part of one. -/
structure Tag where
  bytes : List UInt8
deriving DecidableEq, Repr

namespace Tag

/-- The tag of a text. -/
def ofText (s : String) : Tag := ⟨s.toUTF8.toList⟩

/-- The exclamation mark alone. -/
def mark : Tag := ofText "!"

/-- One part after another. -/
def append (a b : Tag) : Tag := ⟨a.bytes ++ b.bytes⟩

/-- How many bytes follow the first byte of a character. -/
def following? (byte : Nat) : Option Nat :=
  if byte < 0x80 then some 0
  else if byte < 0xC0 then none
  else if byte < 0xE0 then some 1
  else if byte < 0xF0 then some 2
  else if byte < 0xF8 then some 3
  else none

/-- The bytes of some characters. The percent signs of one character stand side by side; `left` of
its bytes are still to come. -/
def bytes? : (left : Nat) → List Char → Option (List UInt8)
  | left, [] => if left = 0 then some [] else none
  | left, '%' :: a :: b :: rest => do
    let byte := 16 * (← Text.hexDigit? a) + (← Text.hexDigit? b)
    let left ←
      if left = 0 then following? byte
      else if 0x80 ≤ byte ∧ byte < 0xC0 then some (left - 1)
      else none
    let more ← bytes? left rest
    pure (UInt8.ofNat byte :: more)
  | left, c :: rest =>
    if left = 0 ∧ c ≠ '%' then (bytes? 0 rest).map ((String.singleton c).toUTF8.toList ++ ·)
    else none

/-- The tag that some characters stand for. A null ends it. -/
def ofWritten? (written : String) : Option Tag :=
  (bytes? 0 written.toList).map fun bytes => ⟨bytes.takeWhile (· ≠ 0)⟩

/-- The tag as a text, if it is one. -/
def text? (tag : Tag) : Option String := String.fromUTF8? ⟨tag.bytes.toArray⟩

/-- The tag begins with an exclamation mark, so it is known to one program only. -/
def isLocal (tag : Tag) : Bool := tag.bytes.head? == mark.bytes.head?

/-- The name in a tag that is known to one program only, if it is a text. The exclamation mark is no
part of it, unless it stands alone. -/
def localName? (tag : Tag) : Option String :=
  if tag = mark then mark.text?
  else if tag.isLocal then text? ⟨tag.bytes.drop 1⟩
  else none

end Tag

end Sheltering.Yaml
