/-!
# Letter case

Names are compared without regard to case in two ways.

* `asciiLower`: only the letters `A` to `Z` have a lower case.
* `upperWord`, `lowerWord`: the Unicode mappings of a whole text, for comparison with a word of
  ASCII letters. A character whose mapped form is not ASCII stays as it is; it is in no such word.
-/

namespace Sheltering.Text

/-- The lower case of a letter `A` to `Z`, any other character itself. -/
def asciiLower (c : Char) : Char := if 'A' ≤ c ∧ c ≤ 'Z' then Char.ofNat (c.toNat + 32) else c

/-- The upper case of a letter `a` to `z`, any other character itself. -/
def asciiUpper (c : Char) : Char := if 'a' ≤ c ∧ c ≤ 'z' then Char.ofNat (c.toNat - 32) else c

/-- A text with its letters `A` to `Z` in lower case. -/
def asciiLowerText (s : String) : String := String.ofList (s.toList.map asciiLower)

/-- The upper case of a character, where it is ASCII. Besides `a` to `z` these are the dotless `ı`,
the long `ſ`, the sharp `ß` and the ligatures of `f`, `i`, `l`, `s` and `t`. -/
def upperChar (c : Char) : List Char :=
  match c with
  | 'ı' => ['I']
  | 'ſ' => ['S']
  | 'ß' => ['S', 'S']
  | 'ﬀ' => ['F', 'F']
  | 'ﬁ' => ['F', 'I']
  | 'ﬂ' => ['F', 'L']
  | 'ﬃ' => ['F', 'F', 'I']
  | 'ﬄ' => ['F', 'F', 'L']
  | 'ﬅ' => ['S', 'T']
  | 'ﬆ' => ['S', 'T']
  | c => [asciiUpper c]

/-- The lower case of a character, where it is ASCII. Besides `A` to `Z` this is the Kelvin sign. -/
def lowerChar (c : Char) : Char := if c = '\u212a' then 'k' else asciiLower c

/-- A text in upper case, exact where that is ASCII. -/
def upperWord (s : String) : String := String.ofList (s.toList.flatMap upperChar)

/-- A text in lower case, exact where that is ASCII. -/
def lowerWord (s : String) : String := String.ofList (s.toList.map lowerChar)

end Sheltering.Text
