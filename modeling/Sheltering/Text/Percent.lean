import Sheltering.Text.Digits
import Sheltering.Text.Split

/-!
# Percent signs

In an address a percent sign with two hexadecimal digits stands for a byte.

* `percentDecoded`: the bytes of a text. A percent sign without two digits stands for itself.
* `percentDecoded?`: the text of these bytes, if they are one.
* `formPairs`: the names and values of a query.
* `percentEncoded`: a byte as it is written.
* `percentEscaped`: a text with the bytes of some of its characters written so.
-/

namespace Sheltering.Text

/-- The bytes of a text. -/
def utf8 (text : List Char) : List UInt8 := (String.ofList text).toUTF8.toList

/-- The text of some bytes, if they are one. -/
def ofUtf8? (bytes : List UInt8) : Option String := String.fromUTF8? ⟨bytes.toArray⟩

/-- The bytes of a text whose percent signs are replaced. -/
def percentDecoded : List Char → List UInt8
  | [] => []
  | c :: rest =>
    match c, rest with
    | '%', a :: b :: more =>
      match hexDigit? a, hexDigit? b with
      | some high, some low => UInt8.ofNat (16 * high + low) :: percentDecoded more
      | _, _ => utf8 ['%'] ++ percentDecoded (a :: b :: more)
    | c, rest => utf8 [c] ++ percentDecoded rest

/-- A text whose percent signs are replaced, if the bytes are a text. -/
def percentDecoded? (text : List Char) : Option String := ofUtf8? (percentDecoded text)

/-- A byte as a percent sign and two digits. -/
def percentEncoded (b : UInt8) : List Char :=
  let digit (n : Nat) : Char := asciiDigit n
  ['%', digit (b.toNat / 16), digit (b.toNat % 16)]
where
  /-- A hexadecimal digit, in capital letters. -/
  asciiDigit (n : Nat) : Char := if n < 10 then Char.ofNat (48 + n) else Char.ofNat (55 + n)

/-- A text with the characters of a set written as percent signs and digits. -/
def percentEscaped (set : Char → Bool) (text : List Char) : List Char :=
  text.flatMap fun c => if set c then (utf8 [c]).flatMap percentEncoded else [c]

/-- A name or value of a query. A plus stands for a blank; bytes that are no text are marked. -/
def formText (text : List Char) : String :=
  (percentDecoded? (text.map fun c => if c = '+' then ' ' else c)).getD "\ufffd"

/-- The names and values of a query. -/
def formPairs (query : List Char) : List (String × String) :=
  ((splitAt '&' query).filter fun part => !part.isEmpty).map fun part =>
    (formText (part.takeWhile (· ≠ '=')), formText ((part.dropWhile (· ≠ '=')).drop 1))

end Sheltering.Text
