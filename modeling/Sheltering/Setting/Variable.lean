import Sheltering.Setting
import Sheltering.Text.Blank
import Sheltering.Text.Case
import Sheltering.Text.Decimal

/-!
# Settings from environment variables

* `Setting.ofVariable?`: the value of a variable. It is a truth value, a number, a quoted text, a
  list in brackets, a table in braces, or else a text as it is.
* `Variable.path?`: the keys that the name of a variable stands for.
* `Settings.ofVariables?`: the table of some variables. A later one counts more.
-/

namespace Sheltering

open Text

/-! ## Values -/

namespace VariableText

/-- Why a text is not read as a value. -/
inductive Misread where
  /-- It is not written like one. -/
  | unlike
  /-- A quoted text is cut within a character. -/
  | cut
deriving DecidableEq, Repr

/-- A blank around a value. -/
def isBlank (c : Char) : Bool := c = ' ' || c = '\t' || c = '\n' || c = '\x0c' || c = '\r'

/-- Passes blanks. -/
def skip (text : List Char) : List Char := text.dropWhile isBlank

/-- A character that ends a value without quotes. -/
def endsWord (c : Char) : Bool :=
  c = ',' || c = '\x7b' || c = '\x7d' || c = '[' || c = ']'

/-- Passes the character given; nothing else may stand here. -/
def pass (c : Char) : List Char → Except Misread (List Char)
  | d :: rest => if d = c then .ok rest else .error .unlike
  | [] => .error .unlike

/-! ### Quoted texts -/

/-- The characters up to a quote that is not escaped, and what follows the quote. -/
def quoted : (escaped : Bool) → List Char → Except Misread (List Char × List Char)
  | _, [] => .error .unlike
  | false, '"' :: rest => .ok ([], rest)
  | escaped, c :: rest => do
    let (inner, rest) ← quoted (!escaped && c = '\\') rest
    pure (c :: inner, rest)

/-- The character of some hexadecimal digits. -/
def coded? (digits : List Char) : Option Char := do
  let values ← digits.mapM hexDigit?
  let n := values.foldl (fun n d => 16 * n + d) 0
  if n.isValidChar then some (Char.ofNat n) else none

/-- A character that a quoted text may hold as it is. -/
def isQuotable (c : Char) : Bool := c = '\t' || (' ' ≤ c && c ≠ '\x7f')

/-- The character that an escape of one letter stands for. -/
def escaped? (c : Char) : Option Char :=
  [('"', '"'), ('\\', '\\'), ('b', '\x08'), ('f', '\x0c'), ('n', '\n'), ('r', '\r'),
    ('t', '\t')].lookup c

/-- The text of a quoted one. -/
def unescaped? : List Char → Option (List Char)
  | [] => some []
  | '\\' :: 'u' :: a :: b :: c :: d :: rest => do
    let char ← coded? [a, b, c, d]
    (unescaped? rest).map (char :: ·)
  | '\\' :: 'U' :: a :: b :: c :: d :: e :: f :: g :: h :: rest => do
    let char ← coded? [a, b, c, d, e, f, g, h]
    (unescaped? rest).map (char :: ·)
  | '\\' :: letter :: rest => do
    let char ← escaped? letter
    (unescaped? rest).map (char :: ·)
  | c :: rest => if isQuotable c ∧ c ≠ '\\' then (unescaped? rest).map (c :: ·) else none

/-- The characters at the start of a text that fill a number of bytes, unless the last byte falls
within one. -/
def bytePrefix? : Nat → List Char → Option (List Char)
  | 0, _ => some []
  | _, [] => some []
  | bytes, c :: rest =>
    if bytes < c.utf8Size then none
    else (bytePrefix? (bytes - c.utf8Size) rest).map (c :: ·)

/-- The text of a quoted one. Of the characters before the first escape as many bytes are kept as
there are characters. -/
def unquoted (text : List Char) : Except Misread (List Char) :=
  let plain := text.takeWhile (· ≠ '\\')
  if !plain.all isQuotable then .error .unlike
  else if plain.length = text.length then .ok text
  else
    match bytePrefix? plain.length plain, unescaped? (text.drop plain.length) with
    | none, _ => .error .cut
    | some kept, some rest => .ok (kept ++ rest)
    | some _, none => .error .unlike

/-- Reads a quoted text. -/
def string (text : List Char) : Except Misread (String × List Char) := do
  let rest ← pass '"' text
  let (inner, rest) ← quoted false rest
  pure (String.ofList (← unquoted inner), rest)

/-! ### Words -/

/-- The value of a word without quotes. -/
def word (text : List Char) : Setting :=
  let text := trim text
  let (negative, unsigned) := Decimal.sign text
  if text.contains '.' ∧ (Decimal.ofChars? unsigned).isSome then .real
  else
    match spanAllDigits unsigned with
    | (d :: ds, []) =>
      let n : Int := ofDigits (d :: ds)
      if negative then if n ≤ Nat.pow 2 63 then .int (-n) else .text (String.ofList text)
      else if n < UInt64.size then .int n
      else .text (String.ofList text)
    | _ => .text (String.ofList text)

/-- The text without a word at its start. -/
def dropWord? (word : String) (text : List Char) : Option (List Char) :=
  if word.toList.isPrefixOf text then some (text.drop word.length) else none

/-- Reads a key of a table: a quoted text, or letters, digits, underscores and hyphens. -/
def key (text : List Char) : Except Misread (String × List Char) :=
  if text.head? = some '"' then string text
  else
    match text.span fun c => c.isAlphanum || c = '_' || c = '-' with
    | ([], _) => .error .unlike
    | (name, rest) => .ok (String.ofList name, rest)

/-! ### Any value -/

mutual

/-- Reads a value with the blanks around it. The first argument bounds how many values and commas
are read. -/
def value : Nat → List Char → Except Misread (Setting × List Char)
  | 0, _ => .error .unlike
  | n + 1, text => do
    let text := skip text
    let (setting, rest) ←
      match dropWord? "true" text, dropWord? "false" text with
      | some rest, _ => pure (.bool true, rest)
      | none, some rest => pure (.bool false, rest)
      | none, none =>
        match text with
        | '\x7b' :: rest => do
          let (entries, rest) ← entries n rest
          pure (.table (Settings.ofList entries), rest)
        | '[' :: rest => do
          let (items, rest) ← items n rest
          pure (.list items, rest)
        | '"' :: _ => do
          let (s, rest) ← string text
          pure (.text s, rest)
        | '\'' :: c :: '\'' :: rest => pure (.text (String.singleton c), rest)
        | '\'' :: _ => .error .unlike
        | text =>
          let (taken, rest) := text.span fun c => !endsWord c
          pure (word taken, rest)
    pure (setting, skip rest)

/-- Reads the items of a list after its bracket. A comma may stand after the last. -/
def items : Nat → List Char → Except Misread (List Setting × List Char)
  | 0, _ => .error .unlike
  | n + 1, text =>
    match text with
    | ']' :: rest => .ok ([], rest)
    | text => do
      let (item, rest) ← value n text
      match rest with
      | ',' :: rest =>
        let (items, rest) ← items n rest
        pure (item :: items, rest)
      | rest => pure ([item], ← pass ']' rest)

/-- Reads the entries of a table after its brace. A comma may stand after the last. -/
def entries : Nat → List Char → Except Misread (List (String × Setting) × List Char)
  | 0, _ => .error .unlike
  | n + 1, text =>
    match text with
    | '\x7d' :: rest => .ok ([], rest)
    | text => do
      let (key, rest) ← key (skip text)
      let rest ← pass '=' (skip rest)
      let (value, rest) ← value n rest
      match rest with
      | ',' :: rest =>
        let (entries, rest) ← entries n rest
        pure ((key, value) :: entries, rest)
      | rest => pure ([(key, value)], ← pass '\x7d' rest)

end

end VariableText

/-- The value of a variable. There is none if a quoted text in it is cut within a character. -/
def Setting.ofVariable? (written : String) : Option Setting :=
  let text := written.toList
  match VariableText.value (2 * text.length + 2) text with
  | .ok (setting, []) => some setting
  | .error .cut => none
  | _ => some (.text written)

/-! ## Names -/

namespace Variable

/-- How the names of variables with settings begin. -/
def start : String := "ATLAS_"

/-- The name after its start, which is in letters of either case. -/
def named? (name : List Char) : Option (List Char) :=
  let n := start.length
  if (name.take n).map asciiLower = start.toList.map asciiLower then some (name.drop n) else none

/-- The keys of a name, between two underscores or at a point. -/
def segments : List Char → List (List Char)
  | [] => [[]]
  | '_' :: '_' :: rest => [] :: segments rest
  | '.' :: rest => [] :: segments rest
  | c :: rest =>
    match segments rest with
    | s :: more => (c :: s) :: more
    | [] => [[c]]

/-- The keys that a name stands for, in small letters. None of them is empty. -/
def path? (name : String) : Option (List String) := do
  let rest ← named? (trim name.toList)
  let keys := segments (trim rest)
  if keys.any List.isEmpty then none
  else some (keys.map fun k => String.ofList (k.map asciiLower))

end Variable

namespace Settings

/-- The variables of some assignments. One to a variable that is there already replaces its
value. -/
def assigned (assignments : List (String × String)) : List (String × String) :=
  assignments.foldl (fun present (name, value) =>
    if (present.lookup name).isSome then
      present.map fun v => if v.1 = name then (name, value) else v
    else present ++ [(name, value)]) []

/-- The table of some variables, if each has a value. -/
def ofVariables? (environment : List (String × String)) : Option Settings :=
  (assigned environment).foldlM (fun table (name, value) =>
    match Variable.path? name with
    | some path => (Setting.ofVariable? value).map fun setting => table.merge (nested path setting)
    | none => some table) []

end Settings

end Sheltering
