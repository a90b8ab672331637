import Sheltering.Text.Digits

/-!
# Decimal numbers

A `Decimal` is a number written with digits, at most one point, and perhaps an exponent. There is a
digit on one side of the point at least.

* `Decimal.ofChars?`: reads an unsigned one.
* `Decimal.fitsBinary64`: its nearest double is not infinite.
-/

namespace Sheltering.Text

/-- The number `digits * 10 ^ place`. -/
structure Decimal where
  digits : List Nat
  place : Int
deriving DecidableEq, Repr

namespace Decimal

/-- The sign at the start of a text, and what follows. -/
def sign : List Char → Bool × List Char
  | '-' :: rest => (true, rest)
  | '+' :: rest => (false, rest)
  | rest => (false, rest)

/-- An exponent that ends the text, or nothing. -/
def exponent? : List Char → Option Int
  | [] => some 0
  | e :: rest =>
    if e = 'e' ∨ e = 'E' then
      let (negative, unsigned) := sign rest
      match spanAllDigits unsigned with
      | (d :: ds, []) =>
        let n : Int := ofDigits (d :: ds)
        some (if negative then -n else n)
      | _ => none
    else none

/-- Reads a whole text as an unsigned number. -/
def ofChars? (text : List Char) : Option Decimal := do
  let (whole, rest) := spanAllDigits text
  let (fraction, rest) :=
    match rest with
    | '.' :: rest => spanAllDigits rest
    | rest => ([], rest)
  if whole.isEmpty ∧ fraction.isEmpty then none
  let exponent ← exponent? rest
  pure { digits := whole ++ fraction, place := exponent - fraction.length }

/-- The digits without the zeros at their start. -/
def significant (d : Decimal) : List Nat := d.digits.dropWhile (· = 0)

/-- The least number whose nearest double is infinite. -/
def overflow : Nat := Nat.pow 2 1024 - Nat.pow 2 970

/-- The nearest double is not infinite. Below `10 ^ 308` every number is in range, and none from
`10 ^ 309` on. -/
def fitsBinary64 (d : Decimal) : Bool :=
  let digits := d.significant
  let order := digits.length + d.place
  if digits.isEmpty || order ≤ 308 then true
  else if 309 < order then false
  else if 0 ≤ d.place then ofDigits digits * Nat.pow 10 d.place.toNat < overflow
  else ofDigits digits < overflow * Nat.pow 10 (-d.place).toNat

end Decimal

end Sheltering.Text
