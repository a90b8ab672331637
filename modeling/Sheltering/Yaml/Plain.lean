import Sheltering.Text.Decimal

/-!
# What a plain scalar stands for

`Plain.ofText`: a plain scalar is null, a truth value, an integer, a real number or a text. Words
such as `yes` are texts, and so are digits after a leading zero.
-/

namespace Sheltering.Yaml

/-- What a plain scalar stands for. The value of a real number is not kept. -/
inductive Plain where
  | null
  | bool (b : Bool)
  | int (n : Int)
  | real
  | text
deriving DecidableEq, Repr

namespace Plain

open Text

/-- The truth value of a word. -/
def truth? (s : String) : Option Bool :=
  if ["true", "True", "TRUE"].contains s then some true
  else if ["false", "False", "FALSE"].contains s then some false
  else none

/-- The word stands for null. -/
def isNull (s : String) : Bool := ["null", "Null", "NULL", "~"].contains s

/-- Two digits or more, the first of which is zero. -/
def zeroLed (unsigned : List Char) : Bool :=
  unsigned.head? == some '0' && 1 < unsigned.length && unsigned.all isDigit

/-- Some digits in a base up to sixteen, at least one. -/
def inBase? (base : Nat) : List Char → Option Nat
  | [] => none
  | digits => do
    let values ← digits.mapM hexDigit?
    if values.all (· < base) then some (values.foldl (fun n d => base * n + d) 0) else none

/-- The size of an unsigned integer: after `0x`, `0o` or `0b` in that base, else decimal. -/
def magnitude? : List Char → Option Nat
  | '0' :: 'x' :: digits => inBase? 16 digits
  | '0' :: 'o' :: digits => inBase? 8 digits
  | '0' :: 'b' :: digits => inBase? 2 digits
  | digits => if zeroLed digits then none else inBase? 10 digits

/-- An integer of 128 bits, with or without a sign. -/
def int? (text : List Char) : Option Int := do
  let (negative, unsigned) := Decimal.sign text
  let n ← magnitude? unsigned
  if negative then if n ≤ Nat.pow 2 127 then some (-n) else none
  else if n < Nat.pow 2 128 then some n else none

/-- The scalar stands for a real number: infinite, no number, or a decimal one in range. -/
def isReal (text : List Char) : Bool :=
  let (_, unsigned) := Decimal.sign text
  let word := String.ofList unsigned
  [".inf", ".Inf", ".INF"].contains word ||
    [".nan", ".NaN", ".NAN"].contains (String.ofList text) ||
    (match Decimal.ofChars? unsigned with
      | some d => d.fitsBinary64
      | none => false)

/-- What a plain scalar stands for. -/
def ofText (s : String) : Plain :=
  let text := s.toList
  if s = "" ∨ isNull s then .null
  else
    match truth? s, int? text with
    | some b, _ => .bool b
    | none, some n => .int n
    | none, none =>
      if !zeroLed (Decimal.sign text).2 && isReal text then .real else .text

end Plain

end Sheltering.Yaml
