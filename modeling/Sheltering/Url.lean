import Sheltering.Text.Percent

/-!
# Web addresses

A `Url` is a web address in its normal form: letters of scheme and host in lower case, steps to a
parent directory taken, and all that may not stand in an address percent-encoded.

* `Credentials`: a name and a password before the host.
* `Url.text`: the address as it is written.
* `Url.requested`: the address to which a request is sent.
* `Url.isSendable`: a request can be sent to the address.
-/

namespace Sheltering

open Text

/-- A name and a password, percent-encoded. -/
structure Credentials where
  name : String
  password : Option String
deriving DecidableEq, Repr

namespace Credentials

/-- The credentials as they stand before a host. -/
def text (c : Credentials) : String := c.name ++ c.password.elim "" (":" ++ ·) ++ "@"

/-- The credentials can be sent in a request of their own accord: the name can be read, and there is
a name or a password that can be read. -/
def isSendable (c : Credentials) : Bool :=
  match percentDecoded? c.name.toList with
  | some name => !name.isEmpty || (c.password.bind (percentDecoded? ·.toList)).isSome
  | none => false

end Credentials

/-- A web address. -/
structure Url where
  scheme : String
  credentials : Option Credentials := none
  host : Option String
  /-- The number of the endpoint on the host, if it is not the usual one of the scheme. -/
  endpoint : Option Nat := none
  path : String
  query : Option String := none
  fragment : Option String := none
deriving DecidableEq, Repr

namespace Url

/-- The host with its marks and what belongs to it. -/
def authority (u : Url) : String :=
  match u.host with
  | some host =>
    "//" ++ u.credentials.elim "" Credentials.text ++ host ++
      (u.endpoint.elim "" fun endpoint => s!":{endpoint}")
  | none => if u.path.startsWith "//" then "/." else ""

/-- The address as it is written. -/
def text (u : Url) : String :=
  u.scheme ++ ":" ++ u.authority ++ u.path ++ (u.query.elim "" ("?" ++ ·)) ++
    (u.fragment.elim "" ("#" ++ ·))

/-- The address to which a request is sent. Credentials are sent apart from it where they can be. -/
def requested (u : Url) : Url := { u with credentials := u.credentials.filter (!·.isSendable) }

/-- The most bytes of an address to which a request can be sent. -/
def maxBytes : Nat := 65534

/-- The characters that an address may have in its host though a request may not. -/
def unsendable : List Char := ['"', '\x60', '\x7b', '\x7d']

/-- A request can be sent to the address. -/
def isSendable (u : Url) : Bool :=
  (u.scheme == "http" || u.scheme == "https") && u.text.utf8ByteSize ≤ maxBytes &&
    !((u.host.getD "").any unsendable.contains)

end Url

end Sheltering
