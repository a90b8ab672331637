import Sheltering.Yaml.Spot
import Sheltering.Text.Digits

/-!
# Scalars of a YAML text

A scalar is written plain, in quotes, or as a block of lines. Each reader takes the spots of the
scalar and gives its text and the spots that follow.

* `Gap`: blanks and breaks between two words, and the text that they fold to.
* `plain?`, `singleQuoted?`, `doubleQuoted?`, `block?`: the four readers.
-/

namespace Sheltering.Yaml

/-! ## Folding -/

/-- Blanks and breaks between two words of a scalar. -/
structure Gap where
  /-- The blanks before the first break. -/
  blanks : List Char := []
  /-- The first break. An escaped break counts as one without text. -/
  first : Option (List Char) := none
  /-- The breaks after the first. -/
  more : List Char := []
deriving Repr

namespace Gap

/-- Nothing lies between the words. -/
def isEmpty (g : Gap) : Bool := g.blanks.isEmpty && g.first.isNone

/-- Adds a blank; after a break it does not count. -/
def blank (g : Gap) (c : Char) : Gap :=
  if g.first.isNone then { g with blanks := g.blanks ++ [c] } else g

/-- Adds a break; blanks before it do not count. -/
def line (g : Gap) (c : Char) : Gap :=
  if g.first.isNone then { blanks := [], first := some [c], more := g.more }
  else { g with more := g.more ++ [c] }

/-- A first break after its line, of which a common one is dropped where more follow and else
becomes a blank. -/
def folded (first more : List Char) : List Char :=
  if first = ['\n'] then if more.isEmpty then [' '] else more else first ++ more

/-- The text that a gap folds to. -/
def text (g : Gap) : List Char :=
  match g.first with
  | none => g.blanks
  | some first => folded first g.more

end Gap

/-! ## Plain scalars -/

/-- A character that ends a plain scalar in a flow collection. -/
def endsFlowPlain (c : Char) : Bool := c = ',' || c = '[' || c = ']' || c = '{' || c = '}'

/-- Reads a plain scalar: the words read so far in reverse, the gap after them, the spots. In block
collections a further line of it is indented by `indent` at least. The result says whether a break
came last. -/
def plainFrom? (flow : Bool) (indent : Nat) :
    List Char → Gap → List Spot → Option (String × Bool × List Spot)
  | _, _, [] => none
  | words, gap, s :: rest =>
    let done := some (String.ofList words.reverse, gap.first.isSome, s :: rest)
    let next := firstChar rest
    if isBlank s.char then
      if gap.first.isSome ∧ s.column < indent ∧ s.char = '\t' then none
      else plainFrom? flow indent words (gap.blank s.char) rest
    else if isBreak s.char then plainFrom? flow indent words (gap.line s.char) rest
    else if s.isEnd then done
    else if !gap.isEmpty ∧ (!flow ∧ s.column < indent ∨ atDocument (s :: rest) ∨ s.char = '#') then
      done
    else if flow ∧ s.char = ':' ∧ (endsFlowPlain next ∨ next = '?') then none
    else if (s.char = ':' ∧ isGap next) ∨ (flow ∧ endsFlowPlain s.char) then done
    else plainFrom? flow indent (s.char :: (gap.text.reverse ++ words)) {} rest

/-- Reads a plain scalar. -/
def plain? (flow : Bool) (indent : Nat) (spots : List Spot) :
    Option (String × Bool × List Spot) :=
  plainFrom? flow indent [] {} spots

/-! ## Quoted scalars -/

/-- Reads a scalar in single quotes after the first of them. A quote within is written twice. -/
def singleFrom? : List Char → Gap → List Spot → Option (String × List Spot)
  | _, _, [] => none
  | words, gap, s :: rest =>
    if isBlank s.char then singleFrom? words (gap.blank s.char) rest
    else if isBreak s.char then singleFrom? words (gap.line s.char) rest
    else if s.isEnd ∨ atDocument (s :: rest) then none
    else
      let words := gap.text.reverse ++ words
      if s.char = '\'' then
        match rest with
        | t :: more =>
          if t.char = '\'' then singleFrom? ('\'' :: words) {} more
          else some (String.ofList words.reverse, rest)
        | [] => none
      else singleFrom? (s.char :: words) {} rest

/-- Reads a scalar in single quotes. -/
def singleQuoted? : List Spot → Option (String × List Spot)
  | [] => none
  | _ :: rest => singleFrom? [] {} rest

/-- The character that an escape of one letter stands for. -/
def escaped? (c : Char) : Option Char :=
  [('0', '\x00'), ('a', '\x07'), ('b', '\x08'), ('t', '\t'), ('\t', '\t'), ('n', '\n'),
    ('v', '\x0b'), ('f', '\x0c'), ('r', '\x0d'), ('e', '\x1b'), (' ', ' '), ('"', '"'), ('/', '/'),
    ('\\', '\\'), ('N', '\u0085'), ('_', '\u00a0'), ('L', '\u2028'), ('P', '\u2029')].lookup c

/-- How many hexadecimal digits follow the letter of an escape. -/
def escapeWidth? (c : Char) : Option Nat := [('x', 2), ('u', 4), ('U', 8)].lookup c

/-- What a reader of a scalar in double quotes expects. -/
inductive Quoted where
  | text
  /-- The letter of an escape. -/
  | letter
  /-- Digits of an escape, and the number of those before them. -/
  | digits (left value : Nat)

/-- The character of a code that is neither half of a pair nor out of range. -/
def charOf? (n : Nat) : Option Char := if n.isValidChar then some (Char.ofNat n) else none

/-- Reads a scalar in double quotes after the first of them. -/
def doubleFrom? : List Char → Gap → Quoted → List Spot → Option (String × List Spot)
  | _, _, _, [] => none
  | words, gap, .letter, s :: rest =>
    if isBreak s.char then doubleFrom? words { first := some [] } .text rest
    else
      match escaped? s.char, escapeWidth? s.char with
      | some c, _ => doubleFrom? (c :: words) gap .text rest
      | none, some width => doubleFrom? words gap (.digits width 0) rest
      | none, none => none
  | words, gap, .digits left value, s :: rest =>
    match Text.hexDigit? s.char with
    | none => none
    | some d =>
      let value := 16 * value + d
      if left ≤ 1 then
        match charOf? value with
        | some c => doubleFrom? (c :: words) gap .text rest
        | none => none
      else doubleFrom? words gap (.digits (left - 1) value) rest
  | words, gap, .text, s :: rest =>
    if isBlank s.char then doubleFrom? words (gap.blank s.char) .text rest
    else if isBreak s.char then doubleFrom? words (gap.line s.char) .text rest
    else if s.isEnd ∨ atDocument (s :: rest) then none
    else
      let words := gap.text.reverse ++ words
      if s.char = '"' then some (String.ofList words.reverse, rest)
      else if s.char = '\\' then doubleFrom? words {} .letter rest
      else doubleFrom? (s.char :: words) {} .text rest

/-- Reads a scalar in double quotes. -/
def doubleQuoted? : List Spot → Option (String × List Spot)
  | [] => none
  | _ :: rest => doubleFrom? [] {} .text rest

/-! ## Block scalars -/

/-- What becomes of the breaks at the end of a block. -/
inductive Chomping where
  /-- All are dropped. -/
  | strip
  /-- One is kept. -/
  | clip
  /-- All are kept. -/
  | keep

/-- The line that opens a block. -/
structure BlockHeader where
  chomping : Chomping := .clip
  /-- By how much its lines are indented more than the collection that holds it. -/
  increment : Option Nat := none

namespace BlockHeader

/-- Reads a sign. -/
def chomping? (h : BlockHeader) : List Spot → BlockHeader × List Spot
  | [] => (h, [])
  | s :: rest =>
    if s.char = '+' then ({ h with chomping := .keep }, rest)
    else if s.char = '-' then ({ h with chomping := .strip }, rest)
    else (h, s :: rest)

/-- Reads a digit, which is not zero. -/
def increment? (h : BlockHeader) : List Spot → Option (BlockHeader × List Spot)
  | [] => none
  | s :: rest =>
    match Text.digit? s.char with
    | some 0 => none
    | some d => some ({ h with increment := some d }, rest)
    | none => some (h, s :: rest)

/-- The rest of the line, which holds only blanks and a comment, and its break. -/
def lineEnd? (comment : Bool) : List Spot → Option (List Spot)
  | [] => none
  | s :: rest =>
    if isBreak s.char then some rest
    else if s.isEnd then some (s :: rest)
    else if comment ∨ s.char = '#' then lineEnd? true rest
    else if isBlank s.char then lineEnd? false rest
    else none

/-- Reads the line after its first character: a sign and a digit, in either order. -/
def ofSpots? (spots : List Spot) : Option (BlockHeader × List Spot) := do
  let std : BlockHeader := {}
  let (signed, afterSign) := std.chomping? spots
  let (header, rest) ← signed.increment? afterSign
  let (header, rest) :=
    match signed.chomping, header.increment with
    | .clip, some _ => header.chomping? rest
    | _, _ => (header, rest)
  let rest ← lineEnd? false rest
  pure (header, rest)

end BlockHeader

/-- A block as far as it is read. -/
structure BlockText where
  literal : Bool
  /-- The least column of a line, when its first line decides it. -/
  least : Nat
  /-- The column of its lines, once known. -/
  indent : Option Nat
  /-- The greatest column of a line without text, as long as the column is not known. -/
  deepest : Nat := 0
  /-- The characters in reverse. -/
  words : List Char := []
  /-- The break after the last line with text. -/
  first : List Char := []
  /-- The breaks of the lines without text that follow it. -/
  more : List Char := []
  /-- The last line with text began with a blank. -/
  blankLed : Bool := false

namespace BlockText

/-- Ends the block. -/
def finish (b : BlockText) : Chomping → String
  | .strip => String.ofList b.words.reverse
  | .clip => String.ofList (b.words.reverse ++ b.first)
  | .keep => String.ofList (b.words.reverse ++ b.first ++ b.more)

/-- Begins a line with text at a character. A folded block joins the line to the one before it, if
neither begins with a blank. -/
def beginLine (b : BlockText) (c : Char) : BlockText :=
  let between :=
    if !b.literal && b.first == ['\n'] && !b.blankLed && !isBlank c then
      Gap.folded b.first b.more
    else b.first ++ b.more
  { b with words := c :: (between.reverse ++ b.words), first := [], more := [],
           blankLed := isBlank c }

/-- The column of the lines, decided by a line with text. -/
def decided (b : BlockText) (column : Nat) : Nat :=
  b.indent.getD (max b.least (max b.deepest column))

end BlockText

/-- Reads the lines of a block. Either a line has begun, or its indentation is read. -/
def blockFrom? (chomping : Chomping) :
    (begun : Bool) → BlockText → List Spot → Option (String × List Spot)
  | _, _, [] => none
  | true, b, s :: rest =>
    if s.isEnd then some (b.finish chomping, s :: rest)
    else if isBreak s.char then blockFrom? chomping false { b with first := [s.char] } rest
    else blockFrom? chomping true { b with words := s.char :: b.words } rest
  | false, b, s :: rest =>
    let within := b.indent.all (s.column < ·)
    if within ∧ s.char = ' ' then blockFrom? chomping false b rest
    else if within ∧ s.char = '\t' then none
    else if isBreak s.char then
      blockFrom? chomping false
        { b with deepest := max b.deepest s.column, more := b.more ++ [s.char] } rest
    else
      let indent := b.decided s.column
      if s.column = indent ∧ !s.isEnd then
        blockFrom? chomping true ({ b with indent := some indent }.beginLine s.char) rest
      else some (b.finish chomping, s :: rest)

/-- Reads a block scalar within a collection whose column is one less than `least`. -/
def block? (literal : Bool) (least : Nat) : List Spot → Option (String × List Spot)
  | [] => none
  | _ :: rest => do
    let (header, lines) ← BlockHeader.ofSpots? rest
    let indent := header.increment.map fun d => (least - 1) + d
    blockFrom? header.chomping false { literal, least := max 1 least, indent } lines

end Sheltering.Yaml
