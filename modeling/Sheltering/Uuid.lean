import Sheltering.Text.Digits

/-!
# Identifiers

A `Uuid` is a number of 128 bits. It is written as thirty-two hexadecimal digits in groups of
8, 4, 4, 4 and 12.

* `Uuid.text`: the hyphenated text in lower case.
* `Uuid.ofText?`: reads the hyphenated text, also in braces or after `urn:uuid:`, and the bare
  digits.
* `Uuid.drawn`: the identifier made of some random bits.
-/

namespace Sheltering

/-- An identifier of 128 bits. -/
structure Uuid where
  value : BitVec 128
deriving DecidableEq, Repr, Inhabited

namespace Uuid

/-- The lengths of the groups of digits. -/
def groups : List Nat := [8, 4, 4, 4, 12]

/-- The thirty-two digits. -/
def digits (u : Uuid) : List Char :=
  (List.range 32).map fun i => Nat.digitChar (u.value.toNat / Nat.pow 16 (31 - i) % 16)

/-- Characters cut into groups of the given lengths, with hyphens between them. -/
def hyphenate : (lengths : List Nat) → List Char → List Char
  | [], _ => []
  | [n], cs => cs.take n
  | n :: ns, cs => cs.take n ++ '-' :: hyphenate ns (cs.drop n)

/-- The hyphenated text in lower case. -/
def text (u : Uuid) : String := String.ofList (hyphenate groups u.digits)

instance : ToString Uuid := ⟨text⟩

/-! ## Reading -/

/-- The number of hexadecimal digits. -/
def number? (n : Nat) : List Char → Option Nat
  | [] => some n
  | c :: rest => (Text.hexDigit? c).bind fun d => number? (16 * n + d) rest

/-- The identifier of thirty-two digits. -/
def ofDigits? (cs : List Char) : Option Uuid :=
  if cs.length = 32 then (number? 0 cs).map fun n => ⟨BitVec.ofNat 128 n⟩ else none

/-- The digits of groups of the given lengths with hyphens between them. -/
def ungroup? : (lengths : List Nat) → List Char → Option (List Char)
  | [], cs => if cs.isEmpty then some [] else none
  | [n], cs => if cs.length = n then some cs else none
  | n :: ns, cs =>
    match cs.drop n with
    | '-' :: rest => (ungroup? ns rest).map (cs.take n ++ ·)
    | _ => none

/-- The identifier of a hyphenated text. -/
def ofHyphenated? (cs : List Char) : Option Uuid := (ungroup? groups cs).bind ofDigits?

/-- The text in braces. -/
def inBraces? (cs : List Char) : Option (List Char) :=
  match cs, cs.getLast? with
  | '\x7b' :: rest, some '\x7d' => some rest.dropLast
  | _, _ => none

/-- The text after one of two marks. -/
def afterMark? (cs : List Char) : Option (List Char) :=
  if cs.take 9 = "urn:uuid:".toList ∨ cs.take 9 = "URN:UUID:".toList then some (cs.drop 9) else none

/-- Reads an identifier. -/
def ofText? (s : String) : Option Uuid :=
  let cs := s.toList
  match cs.length with
  | 32 => ofDigits? cs
  | 36 => ofHyphenated? cs
  | 38 => (inBraces? cs).bind ofHyphenated?
  | 45 => (afterMark? cs).bind ofHyphenated?
  | _ => none

/-! ## Making -/

/-- The identifier made of 122 random bits; the other six say so. -/
def drawn (bits : Nat) : Uuid :=
  let b := BitVec.ofNat 122 bits
  ⟨b.extractLsb' 74 48 ++ 4#4 ++ b.extractLsb' 62 12 ++ 2#2 ++ b.extractLsb' 0 62⟩

end Uuid

end Sheltering
