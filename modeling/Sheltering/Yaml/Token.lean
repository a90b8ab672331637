import Sheltering.Yaml.Scalar
import Sheltering.Yaml.Tag

/-!
# Tokens of a YAML text

* `Token`: the marks, names and scalars of a YAML text. Indentation becomes tokens that open and
  close block collections, and a mapping key has a token before it.
* `Token.ofText?`: the tokens of a text.

A mapping key without a question mark is known as one only at its colon: `Tokens.key` remembers
where its token would go.
-/

namespace Sheltering.Yaml

/-- A token. -/
inductive Token where
  | version (major minor : Nat)
  /-- A handle stands for what tags with it begin with. -/
  | handle (name : String) (start : Tag)
  | documentStart
  | documentEnd
  | blockSequence
  | blockMapping
  /-- The end of a block collection. -/
  | blockEnd
  | flowSequence
  | flowSequenceEnd
  | flowMapping
  | flowMappingEnd
  /-- A dash before an item. -/
  | item
  | comma
  | key
  | value
  | reference (name : String)
  | anchor (name : String)
  /-- A tag; one without handle is complete. -/
  | tag (handle : String) (rest : Tag)
  | scalar (plain : Bool) (text : String)
deriving DecidableEq, Repr

/-- A place where a mapping key may have begun. -/
structure KeyPlace where
  /-- The tokens before it. -/
  number : Nat
  spot : Spot
  /-- Nothing but a key may begin here. -/
  required : Bool

namespace KeyPlace

/-- The longest key in characters. -/
def longest : Nat := 1024

/-- A key stands on one line and is not too long. -/
def reaches (k : KeyPlace) (s : Spot) : Bool :=
  k.spot.line = s.line && s.index ≤ k.spot.index + longest

end KeyPlace

/-- The tokens of a text as far as it is read. -/
structure Tokens where
  read : Array Token := #[]
  /-- The columns of the open block collections, innermost first. -/
  indents : List Nat := []
  /-- Where a key may have begun, for each open flow collection and the block around them,
  innermost first. -/
  keys : List (Option KeyPlace) := [none]
  /-- A key may begin here. -/
  keyAllowed : Bool := true

namespace Tokens

/-- The place is within a flow collection. -/
def inFlow (t : Tokens) : Bool := 1 < t.keys.length

/-- The least column of a further line of the innermost block collection. -/
def least (t : Tokens) : Nat :=
  match t.indents with
  | [] => 0
  | i :: _ => i + 1

/-- Appends a token. -/
def push (t : Tokens) (token : Token) : Tokens := { t with read := t.read.push token }

/-- Opens a block collection at a column if it is deeper than the innermost one; its token is the
one of the given number. -/
def indent (t : Tokens) (column number : Nat) (token : Token) : Tokens :=
  if t.inFlow ∨ column < t.least then t
  else { t with indents := column :: t.indents, read := t.read.insertIdxIfInBounds number token }

/-- Closes the block collections that are deeper than a column. -/
def dedent (t : Tokens) (shallower : Nat → Bool) : Tokens :=
  if t.inFlow then t
  else
    let closed := t.indents.takeWhile fun i => !shallower i
    { t with indents := t.indents.drop closed.length,
             read := t.read ++ (closed.map fun _ => Token.blockEnd).toArray }

/-- No key begins at the last place noted. -/
def dropKey? (t : Tokens) : Option Tokens :=
  match t.keys with
  | some k :: outer => if k.required then none else some { t with keys := none :: outer }
  | _ => some t

/-- Notes that a key may begin here. -/
def noteKey? (t : Tokens) (s : Spot) : Option Tokens :=
  if t.keyAllowed then do
    let t ← t.dropKey?
    let place : KeyPlace :=
      { number := t.read.size, spot := s
        required := !t.inFlow && t.indents.head? == some s.column }
    pure { t with keys := some place :: t.keys.drop 1 }
  else some t

/-- Forgets the places whose key would be too long at a spot. -/
def forgetKeys? (t : Tokens) (s : Spot) : Option Tokens := do
  let keys ← t.keys.mapM fun place =>
    match place with
    | some k => if k.reaches s then some (some k) else if k.required then none else some none
    | none => some none
  pure { t with keys }

/-! ## Blanks and comments -/

/-- The spots from the next token on, and whether a key may begin there. A tab indents no block. A
mark of the order of bytes that begins a line takes a column of it. -/
def skipGap (inFlow : Bool) : (comment allowed : Bool) → List Spot → Bool × List Spot
  | _, allowed, [] => (allowed, [])
  | comment, allowed, s :: rest =>
    if isBreak s.char then skipGap inFlow false (allowed || !inFlow) rest
    else if s.isEnd then (allowed, s :: rest)
    else if comment ∨ s.char = '#' then skipGap inFlow true allowed rest
    else if s.column = 0 ∧ isOrderMark s.char then skipGap inFlow false allowed rest
    else if s.char = ' ' ∨ (s.char = '\t' ∧ (inFlow ∨ !allowed)) then
      skipGap inFlow false allowed rest
    else (allowed, s :: rest)

/-! ## Names -/

/-- A character of a name. -/
def isNameChar (c : Char) : Bool := c.isAlphanum || c = '_' || c = '-'

/-- The characters at the start of some spots that have a property. -/
def spanChars (p : Char → Bool) (spots : List Spot) : String × List Spot :=
  let (taken, rest) := spots.span fun s => p s.char
  (String.ofList (taken.map Spot.char), rest)

/-- The name of an anchor, which is not empty. -/
def name? (spots : List Spot) : Option (String × List Spot) :=
  let (name, rest) := spanChars isNameChar spots
  let next := firstChar rest
  if name = "" then none
  else if isGap next ∨ ['?', ':', ',', ']', '}', '%', '@', '\x60'].contains next then
    some (name, rest)
  else none

/-! ## Tags -/

/-- A character of a tag; brackets and commas only where it is complete. -/
def isTagChar (complete : Bool) (c : Char) : Bool :=
  isNameChar c || ";/?:@&=+$.%!~*'()".toList.contains c || (complete && ",[]".toList.contains c)

/-- The rest of a tag. It may be missing, if that is allowed. -/
def tagRest? (complete mayMiss : Bool) (spots : List Spot) : Option (Tag × List Spot) := do
  let (written, rest) := spanChars (isTagChar complete) spots
  if written = "" ∧ !mayMiss then none else pure (← Tag.ofWritten? written, rest)

/-- A tag after its exclamation mark: complete between angles, or with a handle of letters between
two marks, or with the handle of one mark. A mark alone is a complete tag. -/
def tag? : List Spot → Option (Token × List Spot)
  | [] => none
  | s :: rest =>
    if s.char = '<' then do
      let (tag, rest) ← tagRest? true false rest
      match rest with
      | e :: rest => if e.char = '>' then some (.tag "" tag, rest) else none
      | [] => none
    else do
      let (name, afterName) := spanChars isNameChar (s :: rest)
      match afterName with
      | e :: more =>
        if e.char = '!' then do
          let (tag, rest) ← tagRest? false false more
          some (.tag ("!" ++ name ++ "!") tag, rest)
        else do
          let (tag, rest) ← tagRest? false true (s :: rest)
          some (if tag.bytes = [] then .tag "" Tag.mark else .tag "!" tag, rest)
      | [] => none

/-! ## Directives -/

/-- A number of at most nine digits. -/
def shortNumber? (spots : List Spot) : Option (Nat × List Spot) :=
  let (digits, rest) := spots.span fun s => Text.isDigit s.char
  if digits.isEmpty ∨ 9 < digits.length then none
  else some (Text.ofDigits (digits.filterMap fun s => Text.digit? s.char), rest)

/-- The spots without the blanks at their start. -/
def dropBlanks (spots : List Spot) : List Spot := spots.dropWhile fun s => isBlank s.char

/-- A directive after its percent sign. -/
def directive? (spots : List Spot) : Option (Token × List Spot) := do
  let (name, rest) := spanChars isNameChar spots
  if !isGap (firstChar rest) then none
  let rest := dropBlanks rest
  let (token, rest) ←
    if name = "YAML" then do
      let (major, rest) ← shortNumber? rest
      if firstChar rest ≠ '.' then none
      let (minor, rest) ← shortNumber? (rest.drop 1)
      pure (Token.version major minor, rest)
    else if name = "TAG" then do
      if firstChar rest ≠ '!' then none
      let (letters, rest) := spanChars isNameChar (rest.drop 1)
      let (handle, rest) ←
        if firstChar rest = '!' then pure ("!" ++ letters ++ "!", rest.drop 1)
        else if letters = "" then pure ("!", rest)
        else none
      if !isBlank (firstChar rest) then none
      let (start, rest) ← tagRest? true false (dropBlanks rest)
      if !isGap (firstChar rest) then none
      pure (Token.handle handle start, rest)
    else none
  let rest ← BlockHeader.lineEnd? false rest
  pure (token, rest)

/-! ## One token -/

/-- A token that may begin a key. -/
def keyLike? (t : Tokens) (s : Spot) (keyAllowed : Bool) (token : Token) (rest : List Spot) :
    Option (Tokens × List Spot) := do
  let t ← t.noteKey? s
  pure ({ t with keyAllowed }.push token, rest)

/-- The begin or end of a document. -/
def document? (t : Tokens) (token : Token) (rest : List Spot) : Option (Tokens × List Spot) := do
  let t ← (t.dedent fun _ => false).dropKey?
  pure ({ t with keyAllowed := false }.push token, rest)

/-- The begin of a flow collection. -/
def flowStart? (t : Tokens) (s : Spot) (token : Token) (rest : List Spot) :
    Option (Tokens × List Spot) := do
  let t ← t.noteKey? s
  pure ({ t with keys := none :: t.keys, keyAllowed := true }.push token, rest)

/-- The end of a flow collection. -/
def flowEnd? (t : Tokens) (token : Token) (rest : List Spot) : Option (Tokens × List Spot) := do
  let t ← t.dropKey?
  let keys := if t.inFlow then t.keys.drop 1 else t.keys
  pure ({ t with keys, keyAllowed := false }.push token, rest)

/-- A mark that begins an item or an explicit key, and opens its block collection. -/
def mark? (t : Tokens) (s : Spot) (collection token : Token) (keyAllowed : Bool)
    (rest : List Spot) : Option (Tokens × List Spot) := do
  if !t.inFlow ∧ !t.keyAllowed then none
  let t ← (t.indent s.column t.read.size collection).dropKey?
  pure ({ t with keyAllowed }.push token, rest)

/-- The colon before a value. What began on its line becomes the key. -/
def value? (t : Tokens) (s : Spot) (rest : List Spot) : Option (Tokens × List Spot) :=
  match t.keys with
  | some k :: outer =>
    let keyed := { t with read := t.read.insertIdxIfInBounds k.number .key, keys := none :: outer,
                          keyAllowed := false }
    some ((keyed.indent k.spot.column k.number .blockMapping).push .value, rest)
  | _ =>
    if t.inFlow then some ({ t with keyAllowed := false }.push .value, rest)
    else if t.keyAllowed then
      some (({ t with keyAllowed := true }.indent s.column t.read.size .blockMapping).push .value,
        rest)
    else none

/-- A scalar in quotes. -/
def quoted? (t : Tokens) (s : Spot) : Option (String × List Spot) → Option (Tokens × List Spot)
  | some (text, rest) => t.keyLike? s false (.scalar false text) rest
  | none => none

/-- A character that begins no plain scalar, unless a word follows it. -/
def isIndicator (c : Char) : Bool := "-?:,[]{}#&*!|>'\"%@\x60".toList.contains c

/-- A plain scalar begins with these characters. -/
def beginsPlain (inFlow : Bool) (c next : Char) : Bool :=
  !(isGap c || isIndicator c) || (c = '-' && !isBlank next) ||
    (!inFlow && (c = '?' || c = ':') && !isGap next)

/-- Reads the token at a spot that is not the end. -/
def one? (t : Tokens) (s : Spot) (rest : List Spot) : Option (Tokens × List Spot) :=
  let next := firstChar rest
  let here := s :: rest
  if s.column = 0 ∧ s.char = '%' then do
    let (token, rest) ← directive? rest
    t.document? token rest
  else if marksDocument '-' here then t.document? .documentStart (here.drop 3)
  else if marksDocument '.' here then t.document? .documentEnd (here.drop 3)
  else if s.char = '[' then t.flowStart? s .flowSequence rest
  else if s.char = '{' then t.flowStart? s .flowMapping rest
  else if s.char = ']' then t.flowEnd? .flowSequenceEnd rest
  else if s.char = '}' then t.flowEnd? .flowMappingEnd rest
  else if s.char = ',' then do
    let t ← t.dropKey?
    pure ({ t with keyAllowed := true }.push .comma, rest)
  else if s.char = '-' ∧ isGap next then t.mark? s .blockSequence .item true rest
  else if s.char = '?' ∧ (t.inFlow ∨ isGap next) then
    t.mark? s .blockMapping .key (!t.inFlow) rest
  else if s.char = ':' ∧ (t.inFlow ∨ isGap next) then t.value? s rest
  else if s.char = '*' then do
    let (name, rest) ← name? rest
    t.keyLike? s false (.reference name) rest
  else if s.char = '&' then do
    let (name, rest) ← name? rest
    t.keyLike? s false (.anchor name) rest
  else if s.char = '!' then do
    let (token, rest) ← tag? rest
    if isGap (firstChar rest) ∨ (t.inFlow ∧ firstChar rest = ',') then
      t.keyLike? s false token rest
    else none
  else if (s.char = '|' ∨ s.char = '>') ∧ !t.inFlow then do
    let t ← t.dropKey?
    let (text, rest) ← block? (s.char = '|') t.least here
    pure ({ t with keyAllowed := true }.push (.scalar false text), rest)
  else if s.char = '\'' then t.quoted? s (singleQuoted? here)
  else if s.char = '"' then t.quoted? s (doubleQuoted? here)
  else if beginsPlain t.inFlow s.char next then do
    let (text, broken, rest) ← plain? t.inFlow t.least here
    let t ← t.noteKey? s
    pure ({ t with keyAllowed := broken }.push (.scalar true text), rest)
  else none

/-- Reads all tokens. Each takes a spot at least. -/
def all? : (spots : Nat) → Tokens → List Spot → Option (Array Token)
  | 0, _, _ => none
  | n + 1, t, spots => do
    let (keyAllowed, here) := skipGap t.inFlow false t.keyAllowed spots
    match here with
    | [] => none
    | s :: rest =>
      let t ← { t with keyAllowed }.forgetKeys? s
      let t := t.dedent (· ≤ s.column)
      if s.isEnd then
        let t ← (t.dedent fun _ => false).dropKey?
        pure t.read
      else
        let (t, rest) ← t.one? s rest
        all? n t rest

end Tokens

/-- The tokens of a text. -/
def Token.ofText? (text : List Char) : Option (List Token) := do
  let spots ← spots? text
  let tokens ← Tokens.all? spots.length {} spots
  pure tokens.toList

end Sheltering.Yaml
