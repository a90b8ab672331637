import Sheltering.Json
import Sheltering.Text.Digits

/-!
# Numerals

A `Numeral` is a number as a JSON text spells it. Its value is an integer or a double:

* `Numeral.ofChars?`: reads the spelling. No leading zeros, digits on both sides of the point.
* `Numeral.value?`: an integer of 64 bits where the spelling has neither point nor exponent, else a
  double. A number whose magnitude is out of range has no value.

The double is found in two roundings: the leading digits that fit 64 bits are rounded to a double,
and so is the power of ten; then their product or quotient is rounded. Digits past the leading ones
count by their places only.
-/

namespace Sheltering

/-- A number as it is spelled. -/
structure Numeral where
  negative : Bool
  /-- The digits before the point. -/
  whole : List Nat
  /-- The digits after the point, if there is one. -/
  fraction : Option (List Nat)
  /-- The sign and the digits of the exponent, if there is one. -/
  exponent : Option (Bool × List Nat)
deriving DecidableEq, Repr

namespace Numeral

open Text

/-! ## Reading -/

/-- The digits after a point, at least one. -/
def fraction? : List Char → Option (Option (List Nat) × List Char)
  | '.' :: rest =>
    match spanAllDigits rest with
    | ([], _) => none
    | (ds, r) => some (some ds, r)
  | text => some (none, text)

/-- An exponent with a digit at least; nothing follows it. -/
def exponent? : List Char → Option (Option (Bool × List Nat))
  | [] => some none
  | e :: rest =>
    if e = 'e' ∨ e = 'E' then
      let (negative, digits) :=
        match rest with
        | '-' :: r => (true, r)
        | '+' :: r => (false, r)
        | r => (false, r)
      match spanAllDigits digits with
      | (d :: ds, []) => some (some (negative, d :: ds))
      | _ => none
    else none

/-- Reads a whole text as a numeral. -/
def ofChars? (text : List Char) : Option Numeral := do
  let (negative, unsigned) :=
    match text with
    | '-' :: r => (true, r)
    | r => (false, r)
  let (whole, rest) := spanAllDigits unsigned
  match whole with
  | [] => none
  | 0 :: _ :: _ => none
  | _ => pure ()
  let (fraction, rest) ← fraction? rest
  let exponent ← exponent? rest
  pure { negative, whole, fraction, exponent }

/-! ## Value -/

/-- The value of a numeral. -/
inductive Value where
  | int (n : Int)
  | float (x : Binary64)
deriving DecidableEq, Repr

/-- The digits of a numeral that are kept for a double: a number below `2 ^ 64`, and the power of
ten that it counts. -/
structure Leading where
  significand : Nat
  place : Int
  /-- A digit did not fit. -/
  full : Bool

/-- Adds a digit before the point. -/
def Leading.whole (l : Leading) (d : Nat) : Leading :=
  if l.full ∨ UInt64.size ≤ 10 * l.significand + d then
    { l with place := l.place + 1, full := true }
  else { l with significand := 10 * l.significand + d }

/-- Adds a digit after the point. -/
def Leading.fraction (l : Leading) (d : Nat) : Leading :=
  if l.full ∨ UInt64.size ≤ 10 * l.significand + d then { l with full := true }
  else { l with significand := 10 * l.significand + d, place := l.place - 1 }

/-- The leading digits of a numeral. A digit after the point may still fit where one before it did
not. -/
def leading (n : Numeral) : Leading :=
  let whole := n.whole.foldl Leading.whole ⟨0, 0, false⟩
  (n.fraction.getD []).foldl Leading.fraction { whole with full := false }

/-- The greatest exponent that is taken at its value; a larger one is beyond every double. -/
def exponentLimit : Nat := Nat.pow 2 31 - 1

/-- Divides by ten to a power of any size, at most 308 places at a time. -/
def scaleDown (x : Binary64) (k : Nat) : Binary64 :=
  if k ≤ 308 then x.div (Binary64.powerOfTen k)
  else if x.magnitude = 0 then x
  else scaleDown (x.div (Binary64.powerOfTen 308)) (k - 308)
termination_by k
decreasing_by omega

/-- A double times ten to a power, if it is in range. -/
def scale? (x : Binary64) (place : Int) : Option Binary64 :=
  if 0 ≤ place then
    if place ≤ 308 then
      let product := x.mul (Binary64.powerOfTen place.toNat)
      if product.isFinite then some product else none
    else if x.magnitude = 0 then some x
    else none
  else some (scaleDown x (-place).toNat)

/-- The double of a numeral, if it is in range. -/
def toBinary64? (n : Numeral) : Option Binary64 := do
  let l := n.leading
  let signed (x : Binary64) : Binary64 := if n.negative then x.neg else x
  match n.exponent with
  | none => (scale? (Binary64.ofNat l.significand) l.place).map signed
  | some (negative, digits) =>
    let e := ofDigits digits
    if e ≤ exponentLimit then
      let place : Int := if negative then l.place - e else l.place + e
      (scale? (Binary64.ofNat l.significand) place).map signed
    else if l.significand ≠ 0 ∧ !negative then none
    else some (signed (Binary64.zero false))

/-- The value of a numeral. `-0` is a double, since no integer has that sign. -/
def value? (n : Numeral) : Option Value :=
  if n.fraction.isNone ∧ n.exponent.isNone then
    let magnitude := ofDigits n.whole
    if n.negative then
      if 0 < magnitude ∧ magnitude ≤ Nat.pow 2 63 then some (.int (-magnitude))
      else n.toBinary64?.map .float
    else if magnitude < UInt64.size then some (.int magnitude)
    else n.toBinary64?.map .float
  else n.toBinary64?.map .float

end Numeral

end Sheltering
