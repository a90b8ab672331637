import Sheltering.Yaml.Plain
import Sheltering.Yaml.Spot

/-!
# Styles of a written text

A text is written as a YAML scalar in the simplest style in which it reads back: plain, in single
quotes, as a block of lines, or in double quotes with escapes.

* `Style.ofText`: the style of a text.
* `writeText`: the text in its style.
-/

namespace Sheltering.Yaml

/-! ## What a text looks like -/

/-- A blank, a line break or a null, at which a word ends. -/
def endsWord (c : Char) : Bool := isGap c || c = '\r' || c = '\u0085'

/-- The character may be written as it is. -/
def isPrintable (c : Char) : Bool :=
  let n := c.toNat
  n = 0x0A || (0x20 ≤ n && n ≤ 0x7E) || (0xA0 ≤ n && n ≤ 0xFFFD && n ≠ 0xFEFF) || 0x10000 ≤ n

/-- Two neighbours in a text have these properties. -/
def hasNeighbours (p q : Char → Bool) : List Char → Bool
  | a :: b :: rest => (p a && q b) || hasNeighbours p q (b :: rest)
  | _ => false

/-- The text begins with a character that begins no plain scalar in a block. -/
def beginsMarked : List Char → Bool
  | [] => false
  | c :: rest =>
    "#,[]{}&*!|>'\"%@\x60".toList.contains c ||
      ((c = '?' || c = ':' || c = '-') && endsWord (rest.headD endChar))

/-- A colon ends a word of the text. -/
def hasKeyColon : List Char → Bool
  | [] => false
  | c :: rest => (c = ':' && endsWord (rest.headD endChar)) || hasKeyColon rest

/-- The text has marks of another meaning within a block, or begins like a document. -/
def isMarked (text : List Char) : Bool :=
  beginsMarked text || hasKeyColon text || hasNeighbours endsWord (· = '#') text ||
    text.take 3 = ['-', '-', '-'] || text.take 3 = ['.', '.', '.']

/-- A blank stands at an end of the text. -/
def isPadded (text : List Char) : Bool := text.head? = some ' ' || text.getLast? = some ' '

/-! ## Styles -/

/-- How a text is written. -/
inductive Style where
  | plain
  | single
  | double
  | literal
deriving DecidableEq, Repr

namespace Style

/-- A plain scalar of this text stands for something else, or looks like a number to other
readers. -/
def isMistaken (s : String) : Bool :=
  Plain.ofText s ≠ .text || Plain.zeroLed (Text.Decimal.sign s.toList).2

/-- The text needs escapes. -/
def needsEscapes (text : List Char) : Bool :=
  !text.all isPrintable || hasNeighbours (· = ' ') isBreak text

/-- The style of a text. -/
def ofText (s : String) : Style :=
  let text := s.toList
  if text.contains '\n' then
    if needsEscapes text || text.getLast? = some ' ' then .double else .literal
  else if needsEscapes text || hasNeighbours isBreak (· = ' ') text then .double
  else if isMistaken s || isMarked text || isPadded text || text.any isBreak then .single
  else .plain

end Style

/-! ## Writing -/

/-- The text in double quotes for a character. -/
def escape (c : Char) : List Char :=
  let digits (width : Nat) : List Char :=
    (List.range width).reverse.map fun k => (Nat.digitChar (c.toNat / Nat.pow 16 k % 16)).toUpper
  match c with
  | '\x00' => ['\\', '0']
  | '\x07' => ['\\', 'a']
  | '\x08' => ['\\', 'b']
  | '\t' => ['\\', 't']
  | '\n' => ['\\', 'n']
  | '\x0b' => ['\\', 'v']
  | '\x0c' => ['\\', 'f']
  | '\x0d' => ['\\', 'r']
  | '\x1b' => ['\\', 'e']
  | '"' => ['\\', '"']
  | '\\' => ['\\', '\\']
  | '\u0085' => ['\\', 'N']
  | '\u2028' => ['\\', 'L']
  | '\u2029' => ['\\', 'P']
  | c =>
    if isPrintable c then [c]
    else if c.toNat ≤ 0xFF then '\\' :: 'x' :: digits 2
    else if c.toNat ≤ 0xFFFF then '\\' :: 'u' :: digits 4
    else '\\' :: 'U' :: digits 8

/-- A text with an indentation after each break that a further character follows. -/
def indented (indent : Nat) (quote : Char → List Char) : (fresh : Bool) → List Char → List Char
  | _, [] => []
  | fresh, c :: rest =>
    if isBreak c then c :: indented indent quote true rest
    else (if fresh then List.replicate indent ' ' else []) ++ quote c ++
      indented indent quote false rest

/-- The sign after the mark of a block that tells what becomes of its last breaks. -/
def chompingSign (text : List Char) : List Char :=
  match text.reverse with
  | [] => ['-']
  | [c] => if isBreak c then ['+'] else ['-']
  | c :: d :: _ => if !isBreak c then ['-'] else if isBreak d then ['+'] else []

/-- Writes a text in its style; further lines of it are indented. -/
def writeText (indent : Nat) (s : String) : String :=
  let text := s.toList
  String.ofList <|
    match Style.ofText s with
    | .plain => text
    | .single =>
      let quote (c : Char) : List Char := if c = '\'' then ['\'', '\''] else [c]
      let last := if text.getLast?.any isBreak then List.replicate indent ' ' else []
      ['\''] ++ indented indent quote false text ++ last ++ ['\'']
    | .double => ['"'] ++ text.flatMap escape ++ ['"']
    | .literal =>
      let hint := if text.head?.any fun c => c = ' ' || isBreak c then ['2'] else []
      ['|'] ++ hint ++ chompingSign text ++ ['\n'] ++ indented indent (fun c => [c]) true text

end Sheltering.Yaml
