import Sheltering.Json.Written
import Sheltering.Instant.Reader
import Sheltering.Uuid

/-!
# Reading records

A record is written as an object, or as an array of its fields in their order. In an object the keys
of other records are skipped unread, and a key of the record stands at most once. In an array the
last fields may be missing, if something stands for them.

* `Fields.of?`: the written fields of a record.
* `Fields.required?`, `Fields.optional?`, `Fields.withDefault?`: one field.
* `Written.text?`, `Written.natBelow?`, `Written.intWithin?`, `Written.flag?`, `Written.instant?`,
  `Written.uuid?`: fields of the plain types. Nothing is converted: a number in quotes is no number.
* `Written.variant?`: one of some names, also as an object with the name as its only key.
-/

namespace Sheltering

namespace Written

/-- A string as text. -/
def text? : Written → Option String
  | .string units => unitsText? units
  | _ => none

/-- An integer, spelled as one. -/
def int? : Written → Option Int
  | .number n =>
    match n.value? with
    | some (.int i) => some i
    | _ => none
  | _ => none

/-- An integer within bounds. -/
def intWithin? (least most : Int) (w : Written) : Option Int := do
  let i ← w.int?
  if least ≤ i ∧ i ≤ most then some i else none

/-- A natural number below a bound. -/
def natBelow? (bound : Nat) (w : Written) : Option Nat :=
  (w.intWithin? 0 (bound - 1)).map Int.toNat

/-- A natural number of 64 bits. -/
def word64? (w : Written) : Option UInt64 := (w.natBelow? UInt64.size).map UInt64.ofNat

/-- A natural number of 32 bits. -/
def word32? (w : Written) : Option UInt32 := (w.natBelow? UInt32.size).map UInt32.ofNat

/-- A truth value. -/
def flag? : Written → Option Bool
  | .bool b => some b
  | _ => none

/-- An instant, in the laxer form. -/
def instant? (w : Written) : Option Instant := w.text?.bind Instant.ofLoose?

/-- An identifier. -/
def uuid? (w : Written) : Option Uuid := w.text?.bind Uuid.ofText?

/-- The name of a variant: a string, or an object with the name as its one key and `null`. -/
def variantName? : Written → Option String
  | .string units => unitsText? units
  | .object [(units, .null)] => unitsText? units
  | _ => none

/-- One of some named variants. -/
def variant? {α : Type} (names : List (String × α)) (w : Written) : Option α := do
  let name ← w.variantName?
  names.lookup name

/-- A value that may be `null`. -/
def orNull? {α : Type} (read : Written → Option α) : Written → Option (Option α)
  | .null => some none
  | w => (read w).map some

end Written

/-- The written fields of a record, by key. -/
structure Fields where
  /-- The record was written as an array. -/
  positional : Bool
  values : List (String × Written)

namespace Fields

/-- Pairs the items of an array with keys; there are no more items than keys. -/
def zip? : List String → List Written → Option (List (String × Written))
  | _, [] => some []
  | [], _ :: _ => none
  | k :: ks, w :: ws => (zip? ks ws).map ((k, w) :: ·)

/-- The members of an object with one of the keys; none of these keys is repeated. -/
def pick? (keys : List String) :
    List (List StringUnit × Written) → Option (List (String × Written))
  | [] => some []
  | (units, w) :: rest => do
    let key ← Written.unitsText? units
    let more ← pick? keys rest
    if keys.contains key then
      if (more.lookup key).isSome then none else pure ((key, w) :: more)
    else pure more

/-- The fields of a record with the given keys. -/
def of? (keys : List String) : Written → Option Fields
  | .array items => (zip? keys items).map fun values => { positional := true, values }
  | .object members => (pick? keys members).map fun values => { positional := false, values }
  | _ => none

variable {α : Type}

/-- A field that must be there. -/
def required? (f : Fields) (key : String) (read : Written → Option α) : Option α := do
  let w ← f.values.lookup key
  read w

/-- A field that may be `null`, and may be missing in an object. -/
def optional? (f : Fields) (key : String) (read : Written → Option α) : Option (Option α) :=
  match f.values.lookup key with
  | some w => w.orNull? read
  | none => if f.positional then none else some none

/-- A field with a value that stands for it when it is missing. -/
def withDefault? (f : Fields) (key : String) (default : α) (read : Written → Option α) :
    Option α :=
  match f.values.lookup key with
  | some w => read w
  | none => some default

end Fields

end Sheltering
