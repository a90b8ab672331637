/-!
# Digits

* `digit?`, `hexDigit?`: the value of a digit.
* `spanDigits`: the decimal digits at the start of a text, at most some number of them.
* `ofDigits`: the natural number of some decimal digits.
* `padded`: a number with zeros in front up to a width.
-/

namespace Sheltering.Text

/-- The value of a decimal digit. -/
def digit? (c : Char) : Option Nat := if '0' ≤ c ∧ c ≤ '9' then some (c.toNat - 48) else none

/-- The character is a decimal digit. -/
def isDigit (c : Char) : Bool := (digit? c).isSome

/-- The value of a hexadecimal digit. -/
def hexDigit? (c : Char) : Option Nat :=
  if '0' ≤ c ∧ c ≤ '9' then some (c.toNat - 48)
  else if 'a' ≤ c ∧ c ≤ 'f' then some (c.toNat - 87)
  else if 'A' ≤ c ∧ c ≤ 'F' then some (c.toNat - 55)
  else none

/-- The values of the digits at the start of a text, at most `most`, and the rest. -/
def spanDigits : (most : Nat) → List Char → List Nat × List Char
  | 0, text => ([], text)
  | _, [] => ([], [])
  | most + 1, c :: rest =>
    match digit? c with
    | some d => let (ds, r) := spanDigits most rest; (d :: ds, r)
    | none => ([], c :: rest)

/-- The values of all digits at the start of a text, and the rest. -/
def spanAllDigits (text : List Char) : List Nat × List Char := spanDigits text.length text

/-- The natural number of some decimal digits. -/
def ofDigits (digits : List Nat) : Nat := digits.foldl (fun n d => 10 * n + d) 0

/-- The decimal digits of a number, with zeros in front up to a width. -/
def padded (width n : Nat) : List Char :=
  let digits := Nat.toDigits 10 n
  List.replicate (width - digits.length) '0' ++ digits

end Sheltering.Text
