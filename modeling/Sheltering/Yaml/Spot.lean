/-!
# Spots of a YAML text

A YAML text is read as a list of `Spot`s: its characters with their places. Line breaks of one line
are one spot each, and a last spot stands for the end.

* `spots?`: the spots of a text, if it has no control character.
* `isBlank`, `isBreak`, `isGap`: the characters between words.
* `marksDocument`: the three characters that begin or end a document.
-/

namespace Sheltering.Yaml

/-- A character and its place. -/
structure Spot where
  char : Char
  /-- The characters before it in the text. -/
  index : Nat
  /-- The line breaks before it. -/
  line : Nat
  /-- The characters before it in its line. -/
  column : Nat
deriving DecidableEq, Repr

/-- The character that stands for the end. A text cannot hold it. -/
def endChar : Char := '\x00'

/-- A blank within a line. -/
def isBlank (c : Char) : Bool := c = ' ' || c = '\t'

/-- A line break. All but the last two are one and the same break. -/
def isBreak (c : Char) : Bool := c = '\n' || c = '\u2028' || c = '\u2029'

/-- The mark of the order of bytes, which may stand where a line begins. -/
def isOrderMark (c : Char) : Bool := c = '\ufeff'

/-- A blank, a break, or the end. -/
def isGap (c : Char) : Bool := isBlank c || isBreak c || c = endChar

namespace Spot

/-- The spot is the end. -/
def isEnd (s : Spot) : Bool := s.char = endChar

end Spot

/-- The spots of a text whose first character has the given place. -/
def spotsFrom : List Char → (index line column : Nat) → List Spot
  | [], index, line, column => [⟨endChar, index, line, column⟩]
  | '\r' :: '\n' :: rest, index, line, column =>
    ⟨'\n', index, line, column⟩ :: spotsFrom rest (index + 2) (line + 1) 0
  | c :: rest, index, line, column =>
    if c = '\r' ∨ c = '\n' ∨ c = '\u0085' then
      ⟨'\n', index, line, column⟩ :: spotsFrom rest (index + 1) (line + 1) 0
    else if isBreak c then
      ⟨c, index, line, column⟩ :: spotsFrom rest (index + 1) (line + 1) 0
    else ⟨c, index, line, column⟩ :: spotsFrom rest (index + 1) line (column + 1)

/-- The character may stand in a YAML text. -/
def isAllowed (c : Char) : Bool :=
  let n := c.toNat
  n = 0x09 || n = 0x0A || n = 0x0D || (0x20 ≤ n && n ≤ 0x7E) || n = 0x85 ||
    (0xA0 ≤ n && n ≤ 0xFFFD) || 0x10000 ≤ n

/-- The spots of a text. -/
def spots? (text : List Char) : Option (List Spot) :=
  if text.all isAllowed then some (spotsFrom text 0 0 0) else none

/-- The first character of some spots. -/
def firstChar : List Spot → Char
  | [] => endChar
  | s :: _ => s.char

/-- The spots begin a line with three dashes or three dots, and a gap. -/
def marksDocument (mark : Char) : List Spot → Bool
  | a :: b :: c :: rest =>
    a.column = 0 && a.char = mark && b.char = mark && c.char = mark && isGap (firstChar rest)
  | _ => false

/-- The spots begin or end a document. -/
def atDocument (spots : List Spot) : Bool := marksDocument '-' spots || marksDocument '.' spots

end Sheltering.Yaml
