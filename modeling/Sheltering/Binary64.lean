/-!
# Binary floating point

A `Binary64` is a double-precision number, kept as its 64 bits. Everything here is exact arithmetic
on natural numbers.

* `Binary64.ofRatio`: the double nearest to a fraction, ties to the even significand.
* `Binary64.mul`, `Binary64.div`: one rounding of the exact product or quotient.
* `Binary64.shortest`: the fewest decimal digits that read back as the same double, and of those the
  nearest.
* `Binary64.render`: those digits as text. The notation is positional between `1e-5` and `1e16` and
  always shows a point or an exponent.
-/

namespace Sheltering

/-- A double-precision floating-point number, by its bits: sign, eleven bits of exponent, fifty-two
bits of fraction. -/
structure Binary64 where
  bits : UInt64
deriving DecidableEq, Repr, Inhabited

namespace Binary64

/-- The sign bit. -/
def negative (x : Binary64) : Bool := x.bits.toNat / Nat.pow 2 63 == 1

/-- The bits without the sign. -/
def magnitude (x : Binary64) : Nat := x.bits.toNat % Nat.pow 2 63

/-- The bits of the infinite magnitude. -/
def infinity : Nat := 2047 * Nat.pow 2 52

/-- Neither an infinity nor a NaN. -/
def isFinite (x : Binary64) : Bool := x.magnitude < infinity

/-- The sign bit put before a magnitude. -/
def ofMagnitude (negative : Bool) (magnitude : Nat) : Binary64 :=
  ⟨UInt64.ofNat (if negative then Nat.pow 2 63 + magnitude else magnitude)⟩

/-- The zero of a sign. -/
def zero (negative : Bool) : Binary64 := ofMagnitude negative 0

/-- The significand `m` and exponent `e` of a finite magnitude, which is `m * 2 ^ e`. -/
def decompose (x : Binary64) : Nat × Int :=
  let biased : Nat := x.magnitude / Nat.pow 2 52
  let fraction : Nat := x.magnitude % Nat.pow 2 52
  if biased = 0 then (fraction, -1074) else (Nat.pow 2 52 + fraction, (biased : Int) - 1075)

/-! ## Rounding -/

/-- `num / den` rounded to the nearest natural number, a half to the even one. -/
def roundHalfEven (num den : Nat) : Nat :=
  let quotient := num / den
  let rest := num % den
  if 2 * rest < den then quotient
  else if den < 2 * rest then quotient + 1
  else quotient + quotient % 2

/-- `num / den` in units of `2 ^ e`, as a numerator and a denominator. -/
def inUnits (num den : Nat) (e : Int) : Nat × Nat :=
  (num * Nat.pow 2 (-e).toNat, den * Nat.pow 2 e.toNat)

/-- The exponent of the last place of a double near `num / den`. -/
def lastPlace (num den : Nat) : Int :=
  let guess : Int := (num.log2 : Int) - den.log2 - 53
  let (n, d) := inUnits num den guess
  max (-1074) (if n / d < Nat.pow 2 53 then guess else guess + 1)

/-- The double nearest to `num / den`, infinite when the fraction is out of range. -/
def ofRatio (negative : Bool) (num den : Nat) : Binary64 :=
  if num = 0 then zero negative
  else
    let e := lastPlace num den
    let (n, d) := inUnits num den e
    let significand := roundHalfEven n d
    let magnitude :=
      if significand < Nat.pow 2 52 then significand
      else (e + 1074).toNat * Nat.pow 2 52 + significand
    ofMagnitude negative (min magnitude infinity)

/-- The double nearest to a natural number. -/
def ofNat (n : Nat) : Binary64 := ofRatio false n 1

/-- The double nearest to `10 ^ k`. -/
def powerOfTen (k : Nat) : Binary64 := ofNat (Nat.pow 10 k)

/-- The exact value of a finite magnitude as a numerator and a denominator. -/
def toRatio (x : Binary64) : Nat × Nat :=
  let (m, e) := x.decompose
  (m * Nat.pow 2 e.toNat, Nat.pow 2 (-e).toNat)

/-- The product of finite doubles, rounded once. -/
def mul (x y : Binary64) : Binary64 :=
  let (a, b) := x.toRatio
  let (c, d) := y.toRatio
  ofRatio (x.negative != y.negative) (a * c) (b * d)

/-- The quotient of finite doubles, the second not zero, rounded once. -/
def div (x y : Binary64) : Binary64 :=
  let (a, b) := x.toRatio
  let (c, d) := y.toRatio
  ofRatio (x.negative != y.negative) (a * d) (b * c)

/-- The number with the opposite sign. -/
def neg (x : Binary64) : Binary64 := ofMagnitude (!x.negative) x.magnitude

/-! ## Shortest decimal text -/

/-- The fractions that round to `x` lie between the first and the second number, both over the
third; the ends belong to `x` when its significand is even. -/
def roundingInterval (x : Binary64) : Nat × Nat × Nat :=
  let (m, e) := x.decompose
  let unit := Nat.pow 2 e.toNat
  let gapBelow := if m = Nat.pow 2 52 ∧ -1074 < e then unit else 2 * unit
  (4 * m * unit - gapBelow, 4 * m * unit + 2 * unit, 4 * Nat.pow 2 (-e).toNat)

/-- The number of decimal digits before the point of `num / den`; zero or negative when the
fraction starts with zeros. `room` bounds the zeros looked through. -/
def decimalPoint (num den : Nat) : (room : Nat) → Int
  | 0 => 0
  | room + 1 =>
    if den ≤ num then ((Nat.toDigits 10 (num / den)).length : Int)
    else decimalPoint (num * 10) den room - 1

/-- The multiple of `10 ^ place` next to the value, if one rounds to `x`; of two the nearer. -/
def onGrid (x : Binary64) (place : Int) : Option Nat :=
  let (low, high, den) := x.roundingInterval
  let even := x.magnitude % 2 = 0
  let (num, vden) := x.toRatio
  let up := Nat.pow 10 (-place).toNat
  let down := Nat.pow 10 place.toNat
  let below := num * up / (vden * down)
  let inside (d : Nat) : Bool :=
    let at4 := d * down * den
    if even then low * up ≤ at4 ∧ at4 ≤ high * up else low * up < at4 ∧ at4 < high * up
  let rest := num * up % (vden * down)
  match inside below, inside (below + 1) with
  | true, false => some below
  | false, true => some (below + 1)
  | true, true =>
    if 2 * rest < vden * down then some below
    else if vden * down < 2 * rest then some (below + 1)
    else some (below + below % 2)
  | false, false => none

/-- Tries `n`, `n + 1`, … digits, at most `room` lengths. -/
def shortestFrom (x : Binary64) (point : Int) (n : Nat) : (room : Nat) → Nat × Int
  | 0 => (0, 0)
  | room + 1 =>
    match x.onGrid (point - n) with
    | some d => (d, point - n)
    | none => shortestFrom x point (n + 1) room

/-- The decimal `d * 10 ^ k` of fewest digits that rounds to the finite magnitude of `x`. -/
def shortest (x : Binary64) : Nat × Int :=
  let (num, den) := x.toRatio
  shortestFrom x (decimalPoint num den 330) 1 17

/-- Digits without the zeros at their end, and how many of these there were. -/
def trimZeros (digits : List Char) : List Char × Nat :=
  let kept := (digits.reverse.dropWhile (· == '0')).reverse
  (kept, digits.length - kept.length)

/-- `digits` with the point after the first `point` of them, which may lie outside the digits.
Positional notation is used for `-5 < point ≤ 16`, an exponent with its sign otherwise. -/
def renderDigits (digits : List Char) (point : Int) : String :=
  let count : Int := digits.length
  let zeros (n : Int) : List Char := List.replicate n.toNat '0'
  if count ≤ point ∧ point ≤ 16 then
    String.ofList (digits ++ zeros (point - count) ++ ['.', '0'])
  else if 0 < point ∧ point ≤ 16 then
    String.ofList (digits.take point.toNat ++ ['.'] ++ digits.drop point.toNat)
  else if -5 < point ∧ point ≤ 0 then
    String.ofList (['0', '.'] ++ zeros (-point) ++ digits)
  else
    let fraction := if digits.length ≤ 1 then [] else '.' :: digits.drop 1
    let sign := if 0 < point then ['+'] else []
    String.ofList (digits.take 1 ++ fraction ++ ['e'] ++ sign) ++ toString (point - 1)

/-- The shortest text that reads back as `x`, which is finite. -/
def render (x : Binary64) : String :=
  let sign := if x.negative then "-" else ""
  if x.magnitude = 0 then sign ++ "0.0"
  else
    let (d, place) := x.shortest
    let (digits, dropped) := trimZeros (Nat.toDigits 10 d)
    sign ++ renderDigits digits (place + dropped + digits.length)

end Binary64

end Sheltering
