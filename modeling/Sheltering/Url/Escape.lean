import Sheltering.Text.Percent

/-!
# Characters that an address escapes

A character that may not stand in a part of an address is written there as percent signs and digits.
Each part has its own set of such characters; control characters and all that is not ASCII are in
every set.
-/

namespace Sheltering.Url

open Text

/-- Control characters and all that is not ASCII. -/
def isControl (c : Char) : Bool := c ≤ '\x1f' || '\x7e' < c

/-- The characters that are escaped in a fragment. -/
def escapedInFragment (c : Char) : Bool := isControl c || [' ', '"', '<', '>', '\x60'].contains c

/-- The characters that are escaped in a query. -/
def escapedInQuery (isSpecial : Bool) (c : Char) : Bool :=
  isControl c || [' ', '"', '#', '<', '>'].contains c || (isSpecial && c = '\x27')

/-- The characters that are escaped in a path. -/
def escapedInPath (c : Char) : Bool :=
  escapedInFragment c || ['#', '?', '\x7b', '\x7d'].contains c

/-- The characters that are escaped in a name or a password before the host. -/
def escapedInCredentials (c : Char) : Bool :=
  escapedInPath c || ['/', ':', ';', '=', '@', '[', '\\', ']', '^', '|'].contains c

/-- A text with the characters of a set escaped. -/
def escaped (set : Char → Bool) (text : List Char) : String :=
  String.ofList (percentEscaped set text)

end Sheltering.Url
