import Sheltering.Url.Authority
import Sheltering.Url.Path

/-!
# Reading addresses

An address is a scheme, for most schemes a host, a path, a query and a fragment. Blanks around it
and line breaks in it are dropped. The schemes of the web and of files take backslashes for slashes,
and those of the web need a host.

`Url.ofText?`: the normal form of an address. An address without a scheme has none.
-/

namespace Sheltering.Url

open Text

/-! ## Schemes -/

/-- The schemes that need a host, with their usual endpoints. -/
def specialSchemes : List (String × Nat) :=
  [("http", 80), ("https", 443), ("ftp", 21), ("ws", 80), ("wss", 443)]

/-- The character may follow the first one of a scheme. -/
def isSchemeChar (c : Char) : Bool := c.isAlphanum || c = '+' || c = '-' || c = '.'

/-- The scheme of an address in lower case, and what follows its colon. -/
def splitScheme? (text : List Char) : Option (String × List Char) :=
  let name := text.takeWhile isSchemeChar
  match text.dropWhile isSchemeChar with
  | ':' :: rest =>
    if name.head?.any Char.isAlpha then some (String.ofList (name.map asciiLower), rest) else none
  | _ => none

/-! ## What follows the host -/

/-- The parts of an address after its host. -/
structure Tail where
  path : List Char
  query : Option (List Char)
  fragment : Option (List Char)

/-- The path, query and fragment of what follows the host. -/
def tailOf (text : List Char) : Tail :=
  let (text, fragment) := cutAt '#' text
  let (path, query) := cutAt '?' text
  { path, query, fragment }

/-- An address with the query and the fragment of a text. -/
def withTail (u : Url) (isSpecial : Bool) (tail : Tail) : Url :=
  { u with
    query := tail.query.map (escaped (escapedInQuery isSpecial))
    fragment := tail.fragment.map (escaped escapedInFragment) }

/-- The path with a slash in front. -/
def rooted (isSpecial : Bool) (path : List Char) : List Char :=
  if path.head? = some '/' || (isSpecial && path.head? = some '\\') then path else '/' :: path

/-! ## Addresses -/

/-- An address with a host, from what follows the slashes before the host. -/
def withHost? (scheme : String) (usual : Option Nat) (text : List Char) : Option Url := do
  let isSpecial := usual.isSome
  let (authority, rest) ← Authority.ofText? usual text
  let tail := tailOf rest
  let path :=
    if tail.path.isEmpty && !isSpecial then ""
    else pathText (resolved false [] (segments isSpecial (rooted isSpecial tail.path)))
  some <| withTail
    { scheme, credentials := authority.credentials, host := some authority.host
      endpoint := authority.endpoint, path } isSpecial tail

/-- An address of a file, from its host and the rest. A path that begins with a drive has no
host. -/
def ofFile (host : String) (text : List Char) : Url :=
  let tail := tailOf text
  let path := resolved true [] (segments true (rooted true tail.path))
  let host := if path.head?.any isDrive then "" else host
  withTail { scheme := "file", host := some host, path := pathText (withoutSlashes path) } true tail

/-- An address of a file, from what follows the colon. A drive in the place of the host is part of
the path. -/
def file? (text : List Char) : Option Url :=
  let isSlash (c : Char) : Bool := c = '/' || c = '\\'
  match text with
  | a :: b :: rest =>
    if isSlash a && isSlash b then
      let hostText := rest.takeWhile (!Authority.ends true ·)
      let path := rest.drop hostText.length
      if isDrive hostText then some (ofFile "" ('/' :: rest))
      else if hostText.isEmpty then some (ofFile "" ('/' :: path))
      else (Host.name? hostText).map fun host =>
        if host = "localhost" then ofFile "" ('/' :: path) else ofFile host path
    else some (ofFile "" text)
  | _ => some (ofFile "" text)

/-- An address without a host, from what follows the colon. -/
def withoutHost (scheme : String) (text : List Char) : Url :=
  let tail := tailOf text
  let path :=
    if tail.path.head? = some '/' then pathText (resolved false [] (segments false tail.path))
    else escaped isControl tail.path
  withTail { scheme, host := none, path } false tail

/-- The text without blanks around it and line breaks in it. -/
def cleaned (text : List Char) : List Char :=
  let isBlank (c : Char) : Bool := c ≤ ' '
  let trimmed := ((text.dropWhile isBlank).reverse.dropWhile isBlank).reverse
  trimmed.filter fun c => c ≠ '\t' && c ≠ '\n' && c ≠ '\r'

/-- Reads an address. -/
def ofText? (text : String) : Option Url := do
  let (scheme, rest) ← splitScheme? (cleaned text.toList)
  match specialSchemes.lookup scheme with
  | some endpoint => withHost? scheme (some endpoint) (rest.dropWhile fun c => c = '/' || c = '\\')
  | none =>
    if scheme = "file" then file? rest
    else
      match rest with
      | '/' :: '/' :: rest => withHost? scheme none rest
      | rest => some (withoutHost scheme rest)

end Sheltering.Url
