import Sheltering.Json.Record

/-!
# Looking into written values

A member that is missing, `null` or of another type counts as not given.

* `Written.member?`, `Written.given?`: a member of an object.
* `Written.items`, `Written.entries`: the parts of an array or an object; other values have none.
* `Written.textAt?`, `Written.natAt?`, `Written.flagAt`: members of the plain types.
-/

namespace Sheltering

namespace Written

/-- A member of an object. -/
def member? (w : Written) (key : String) : Option Written :=
  match w with
  | .object members => (members.find? fun m => unitsText? m.1 == some key).map (·.2)
  | _ => none

/-- A member that is not `null`. -/
def given? (w : Written) (key : String) : Option Written :=
  match w.member? key with
  | some .null => none
  | other => other

/-- A member, or `null` for its absence. -/
def memberAt (w : Written) (key : String) : Written := (w.member? key).getD .null

/-- The items of an array. -/
def items : Written → List Written
  | .array items => items
  | _ => []

/-- The members of an object by key. -/
def entries : Written → List (String × Written)
  | .object members => members.filterMap fun m => (unitsText? m.1).map (·, m.2)
  | _ => []

/-- The items of a member. -/
def listAt (w : Written) (key : String) : List Written := (w.memberAt key).items

/-- The members of a member. -/
def tableAt (w : Written) (key : String) : List (String × Written) := (w.memberAt key).entries

/-- A member with text. -/
def textAt? (w : Written) (key : String) : Option String := (w.given? key).bind text?

/-- A member with text, or the empty text. -/
def textAt (w : Written) (key : String) : String := (w.textAt? key).getD ""

/-- A member with an integer; a negative one counts as zero. -/
def natAt? (w : Written) (key : String) : Option Nat :=
  (w.given? key).bind fun v => v.int?.map Int.toNat

/-- A member with a natural number, or a number in its place. -/
def natAt (w : Written) (key : String) (otherwise : Nat) : Nat := (w.natAt? key).getD otherwise

/-- A member that is true. -/
def flagAt (w : Written) (key : String) : Bool := ((w.given? key).bind flag?).getD false

/-- The texts among the items of an array. -/
def texts (w : Written) : List String := w.items.filterMap text?

end Written

end Sheltering
