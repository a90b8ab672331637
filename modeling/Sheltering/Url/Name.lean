import Sheltering.Text.Punycode
import Sheltering.Url.Name.Composition
import Sheltering.Url.Name.Direction
import Sheltering.Url.Name.Joining
import Sheltering.Url.Name.Mapping

/-!
# Names of hosts

A name of a host is a list of labels with points between them. It may be given in letters of any
script, and is used in letters of ASCII: a label with other letters is written after `xn--`.

* `Name.ascii?`: a name in letters of ASCII.
* `Name.label?`: the letters of a label and how it is written.
* `Name.isSound`: no character of a label is out of place.
* `Name.isOrdered`: the directions in which the letters of a label are written fit together.
-/

namespace Sheltering.Name

open Text

/-! ## Labels -/

/-- No host has this character. -/
def isForbidden (c : Char) : Bool :=
  c = '\x00' || c = '\t' || c = '\n' || c = '\r' || " #/:<>?@[\\]^|".toList.contains c

/-- No name has this character. -/
def isForbiddenInName (c : Char) : Bool := isForbidden c || c ≤ '\x1f' || c = '%' || c = '\x7f'

/-- A label with letters that are no letters of ASCII begins so when it is written. -/
def mark : List Char := "xn--".toList

/-- A character is one of ASCII. -/
def isAscii (c : Char) : Bool := c.toNat < 128

/-- The most characters of a label that is to be written in letters of ASCII. -/
def maxLabel : Nat := 1000

/-- The most letters of a written label after the mark. -/
def maxWritten : Nat := 2000

/-- The letters of a label, and the label as it is written. A label that is given as it is written
must not need to be given so, and its letters must be ones that a name keeps. -/
def label? (label : List Char) : Option (List Char × List Char) :=
  if mark.isPrefixOf label then do
    let written := label.drop mark.length
    if !written.all isAscii ∨ label.getLast? = some '-' ∨ maxWritten < written.length then none
    let letters ← Punycode.unpunycode? written
    if letters.all isAscii ∨ !letters.all isKept ∨ letters.any (· = '.') ∨
        composed letters ≠ letters then none
    pure (letters, label)
  else if label.all isAscii then some (label, label)
  else if maxLabel < label.length then none
  else some (label, mark ++ Punycode.punycode label)

/-! ## Characters in their places -/

/-- Of the neighbours on one side, the nearest that parts letters is joined in the given way. -/
def reachesJoined (joined : Joining) (neighbours : List Char) : Bool :=
  match (neighbours.map joining).find? (· ≠ .transparent) with
  | some j => j = joined || j = .both
  | none => false

/-- A joiner or a parter may stand between two sequences of characters, the first of which is given
backwards: behind a virama, and a parter also between letters that are joined. -/
def mayJoin (c : Char) (before behind : List Char) : Bool :=
  before.head?.any isVirama ||
    (c = '\u200c' && reachesJoined .behind before && reachesJoined .before behind)

/-- Every joiner and every parter is in its place. The characters before are given backwards. -/
def joinsSoundly (before : List Char) : List Char → Bool
  | [] => true
  | c :: behind =>
    (if c = '\u200c' || c = '\u200d' then mayJoin c before behind else true) &&
      joinsSoundly (c :: before) behind

/-- No character of a label is out of place. -/
def isSound (label : List Char) : Bool :=
  !label.any isForbiddenInName && !label.head?.any isMark && joinsSoundly [] label

/-! ## Directions -/

/-- A character is written from right to left. -/
def goesRight (c : Char) : Bool := direction c = .right || direction c = .arabicDigit

/-- The directions of a label, without the marks at its end. -/
def directions (label : List Char) : List Direction :=
  ((label.map direction).reverse.dropWhile (· = .mark)).reverse

/-- The directions of a label fit together: the first letter decides, and digits of both kinds do
not meet. -/
def isOrdered (label : List Char) : Bool :=
  let inner := directions label
  match label.head?.map direction with
  | none => true
  | some .left =>
    inner.all [.left, .digit, .neutral, .mark].contains &&
      inner.getLast?.all [.left, .digit].contains
  | some .right =>
    inner.all [.right, .digit, .arabicDigit, .neutral, .mark].contains &&
      inner.getLast?.all [.right, .digit, .arabicDigit].contains &&
      !(inner.contains .digit && inner.contains .arabicDigit)
  | some _ => false

/-! ## Names -/

/-- A name in letters of ASCII. -/
def ascii? (text : List Char) : Option (List Char) := do
  let chars ← mapped? text
  let labels ← (splitAt '.' (composed chars)).mapM label?
  let letters := labels.map (·.1)
  if !letters.all isSound ∨ (letters.any (·.any goesRight) ∧ !letters.all isOrdered) then none
  pure (['.'].intercalate (labels.map (·.2)))

end Sheltering.Name
