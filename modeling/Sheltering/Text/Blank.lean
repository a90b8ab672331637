/-!
# Blanks

The characters that a text is trimmed of: those with the Unicode property `White_Space`.

* `isBlank`: the property.
* `trimStart`, `trimEnd`, `trim`: a text without the blanks at its ends.
-/

namespace Sheltering.Text

/-- The character has the property `White_Space`. -/
def isBlank (c : Char) : Bool :=
  let n := c.toNat
  (0x09 ≤ n && n ≤ 0x0D) || n == 0x20 || n == 0x85 || n == 0xA0 || n == 0x1680 ||
    (0x2000 ≤ n && n ≤ 0x200A) || n == 0x2028 || n == 0x2029 || n == 0x202F || n == 0x205F ||
    n == 0x3000

/-- The text without the blanks at its start. -/
def trimStart (text : List Char) : List Char := text.dropWhile isBlank

/-- The text without the blanks at its end. -/
def trimEnd (text : List Char) : List Char := (trimStart text.reverse).reverse

/-- The text without the blanks at its ends. -/
def trim (text : List Char) : List Char := trimEnd (trimStart text)

end Sheltering.Text
