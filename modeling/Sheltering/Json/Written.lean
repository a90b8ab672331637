import Sheltering.Json.Numeral
import Sheltering.Text.Symbol

/-!
# JSON texts as written

A `Written` is the structure of a JSON text before its strings and numbers are given a value. A
part of a text that nobody reads may hold strings that are no text (`"\ud800"`) and numbers that are
out of range, so values are made only of the parts that are read.

* `Written.ofChars?`, `Written.ofBytes?`: read a text. The text is cut into tokens by an
  automaton over its characters,
  and the tokens are put together by an automaton with a stack of the open containers.
* `Written.text?`: the text of a string.
* `Written.toJson?`: the value, if its containers are nested no deeper than a limit.
-/

namespace Sheltering

/-- One unit of a string as it is written. -/
inductive StringUnit where
  /-- A character that stands for itself or was escaped by a letter. -/
  | char (c : Char)
  /-- A `\u` escape. -/
  | code (n : Nat)
  /-- A byte that is part of no character. -/
  | malformed
deriving DecidableEq, Repr

/-- A JSON text as it is written. -/
inductive Written where
  | null
  | bool (b : Bool)
  | number (n : Numeral)
  | string (units : List StringUnit)
  | array (items : List Written)
  | object (members : List (List StringUnit × Written))
deriving Repr

namespace Written

/-! ## Tokens -/

/-- A token of a JSON text. -/
inductive Token where
  | openArray
  | closeArray
  | openObject
  | closeObject
  | colon
  | comma
  | string (units : List StringUnit)
  | atom (w : Written)

/-- Where the lexer stands. The units of a string and the characters of a word are kept in
reverse. -/
inductive LexState where
  | ground
  | string (units : List StringUnit)
  | escape (units : List StringUnit)
  | code (units : List StringUnit) (missing : Nat) (value : Nat)
  | word (chars : List Char)

/-- The blanks between tokens. -/
def isBlank (c : Char) : Bool := c == ' ' || c == '\n' || c == '\t' || c == '\r'

/-- The characters of numbers and of the words `null`, `true` and `false`. -/
def isWordChar (c : Char) : Bool :=
  ('0' ≤ c && c ≤ '9') || ('a' ≤ c && c ≤ 'z') || c == 'E' || c == '+' || c == '-' || c == '.'

/-- The token of a mark. -/
def mark? : Char → Option Token
  | '[' => some .openArray
  | ']' => some .closeArray
  | '\x7b' => some .openObject
  | '\x7d' => some .closeObject
  | ':' => some .colon
  | ',' => some .comma
  | _ => none

/-- The meaning of a word. -/
def atom? (word : List Char) : Option Written :=
  if word = ['n', 'u', 'l', 'l'] then some .null
  else if word = ['t', 'r', 'u', 'e'] then some (.bool true)
  else if word = ['f', 'a', 'l', 's', 'e'] then some (.bool false)
  else (Numeral.ofChars? word).map .number

/-- The character that a letter after a backslash stands for. -/
def escaped? : Char → Option Char
  | '"' => some '"'
  | '\\' => some '\\'
  | '/' => some '/'
  | 'b' => some '\x08'
  | 'f' => some '\x0c'
  | 'n' => some '\n'
  | 'r' => some '\r'
  | 't' => some '\t'
  | _ => none

/-- A step between tokens: the tokens that the character completes, and the next state. -/
def lexGround (c : Char) : Option (List Token × LexState) :=
  if isBlank c then some ([], .ground)
  else if c = '"' then some ([], .string [])
  else if isWordChar c then some ([], .word [c])
  else (mark? c).map fun t => ([t], .ground)

/-- One step of the lexer. -/
def lexStep (c : Char) : LexState → Option (List Token × LexState)
  | .ground => lexGround c
  | .string units =>
    if c = '"' then some ([.string units.reverse], .ground)
    else if c = '\\' then some ([], .escape units)
    else if c.toNat < 0x20 then none
    else some ([], .string (.char c :: units))
  | .escape units =>
    if c = 'u' then some ([], .code units 4 0)
    else (escaped? c).map fun e => ([], .string (.char e :: units))
  | .code units missing value =>
    (Text.hexDigit? c).map fun d =>
      let value := 16 * value + d
      if missing ≤ 1 then ([], .string (.code value :: units))
      else ([], .code units (missing - 1) value)
  | .word chars =>
    if isWordChar c then some ([], .word (c :: chars))
    else do
      let a ← atom? chars.reverse
      let (tokens, state) ← lexGround c
      pure (.atom a :: tokens, state)

/-- The tokens of a text. -/
def lex : LexState → List Char → Option (List Token)
  | .ground, [] => some []
  | .word chars, [] => (atom? chars.reverse).map fun a => [.atom a]
  | _, [] => none
  | state, c :: rest => do
    let (tokens, state) ← lexStep c state
    let more ← lex state rest
    pure (tokens ++ more)

/-- The step of the lexer at a byte that is part of no character. Only strings may hold one. -/
def lexMalformed : LexState → Option LexState
  | .string units => some (.string (.malformed :: units))
  | _ => none

/-- The tokens of a text with bytes that are part of no character. -/
def lexSymbols : LexState → List (Option Char) → Option (List Token)
  | state, [] => lex state []
  | state, some c :: rest => do
    let (tokens, state) ← lexStep c state
    let more ← lexSymbols state rest
    pure (tokens ++ more)
  | state, none :: rest => do
    let state ← lexMalformed state
    lexSymbols state rest

/-! ## Structure -/

/-- An open container with what it holds so far, in reverse. -/
inductive Frame where
  | array (items : List Written)
  | object (members : List (List StringUnit × Written)) (key : List StringUnit)

/-- What may come next. -/
inductive Expecting where
  | value
  | valueOrClose
  | key (members : List (List StringUnit × Written))
  | keyOrClose
  | colon (members : List (List StringUnit × Written)) (key : List StringUnit)
  | afterValue (w : Written)

/-- One step of the builder: what is expected and the open containers, innermost first. -/
def buildStep (t : Token) : Expecting → List Frame → Option (Expecting × List Frame)
  | .value, frames | .valueOrClose, frames =>
    match t with
    | .openArray => some (.valueOrClose, .array [] :: frames)
    | .openObject => some (.keyOrClose, frames)
    | .string units => some (.afterValue (.string units), frames)
    | .atom w => some (.afterValue w, frames)
    | _ => none
  | .keyOrClose, frames =>
    match t with
    | .string units => some (.colon [] units, frames)
    | .closeObject => some (.afterValue (.object []), frames)
    | _ => none
  | .key members, frames =>
    match t with
    | .string units => some (.colon members units, frames)
    | _ => none
  | .colon members key, frames =>
    match t with
    | .colon => some (.value, .object members key :: frames)
    | _ => none
  | .afterValue w, frame :: frames =>
    match frame, t with
    | .array items, .comma => some (.value, .array (w :: items) :: frames)
    | .array items, .closeArray => some (.afterValue (.array (w :: items).reverse), frames)
    | .object members key, .comma => some (.key ((key, w) :: members), frames)
    | .object members key, .closeObject =>
      some (.afterValue (.object ((key, w) :: members).reverse), frames)
    | _, _ => none
  | .afterValue _, [] => none

/-- Closes the array that was just opened, or makes any other step. -/
def buildStepOrClose (t : Token) (e : Expecting) (frames : List Frame) :
    Option (Expecting × List Frame) :=
  match e, t, frames with
  | .valueOrClose, .closeArray, .array [] :: outer => some (.afterValue (.array []), outer)
  | e, t, frames => buildStep t e frames

/-- The one value that the tokens spell. -/
def build : Expecting → List Frame → List Token → Option Written
  | .afterValue w, [], [] => some w
  | _, _, [] => none
  | e, frames, t :: rest => do
    let (e, frames) ← buildStepOrClose t e frames
    build e frames rest

/-- Reads a JSON text: one value, blanks around it, nothing else. -/
def ofChars? (text : List Char) : Option Written := do
  let tokens ← lex .ground text
  build .value [] tokens

/-- Reads a JSON text. -/
def ofText? (text : String) : Option Written := ofChars? text.toList

/-- Reads a JSON text from its bytes. Strings that nobody reads may be malformed. -/
def ofBytes? (bytes : List UInt8) : Option Written := do
  let tokens ← lexSymbols .ground (Text.symbols bytes)
  build .value [] tokens

/-! ## Values -/

/-- The characters of a string. A pair of surrogate escapes is one character, a surrogate alone is
none. -/
def unitsChars? : List StringUnit → Option (List Char)
  | [] => some []
  | .char c :: rest => (unitsChars? rest).map (c :: ·)
  | .malformed :: _ => none
  | .code n :: rest =>
    if 0xD800 ≤ n ∧ n ≤ 0xDBFF then
      match rest with
      | .code m :: rest =>
        if 0xDC00 ≤ m ∧ m ≤ 0xDFFF then
          (unitsChars? rest).map (Char.ofNat (0x10000 + (n - 0xD800) * 0x400 + (m - 0xDC00)) :: ·)
        else none
      | _ => none
    else if 0xDC00 ≤ n ∧ n ≤ 0xDFFF then none
    else (unitsChars? rest).map (Char.ofNat n :: ·)

/-- The text of a string's units. -/
def unitsText? (units : List StringUnit) : Option String := (unitsChars? units).map String.ofList

/-- The deepest nesting of a value. -/
def depthLimit : Nat := 127

mutual

/-- The value of a text with containers nested at most `depth` deep. -/
def toJson? (depth : Nat) : Written → Option Json
  | .null => some .null
  | .bool b => some (.bool b)
  | .number n =>
    n.value?.map fun
      | .int i => .int i
      | .float x => .float x
  | .string units => (unitsText? units).map .str
  | .array items => if depth = 0 then none else (itemsToJson? (depth - 1) items).map .arr
  | .object members =>
    if depth = 0 then none else (membersToJson? (depth - 1) members).map Json.object

/-- The values of items. -/
def itemsToJson? (depth : Nat) : List Written → Option (List Json)
  | [] => some []
  | w :: rest => do
    let v ← toJson? depth w
    let vs ← itemsToJson? depth rest
    pure (v :: vs)

/-- The keys and values of members. -/
def membersToJson? (depth : Nat) :
    List (List StringUnit × Written) → Option (List (String × Json))
  | [] => some []
  | (units, w) :: rest => do
    let key ← unitsText? units
    let v ← toJson? depth w
    let vs ← membersToJson? depth rest
    pure ((key, v) :: vs)

end

end Written

/-- The value of a JSON text with containers nested at most `Written.depthLimit` deep. -/
def Json.ofText? (text : String) : Option Json := do
  let w ← Written.ofText? text
  w.toJson? Written.depthLimit

end Sheltering
