import Sheltering.Url
import Sheltering.Url.Escape
import Sheltering.Url.Host

/-!
# Hosts with what belongs to them

Before the host of an address may stand a name and a password, and behind it the number of an
endpoint.

* `cutAt`: a text before and after a mark.
* `Authority.ofText?`: the authority at the start of a text, and what follows it.
-/

namespace Sheltering

open Text

namespace Url

/-- Cuts a text at the first occurrence of a mark. -/
def cutAt (mark : Char) (text : List Char) : List Char × Option (List Char) :=
  match text.dropWhile (· ≠ mark) with
  | _ :: rest => (text.takeWhile (· ≠ mark), some rest)
  | [] => (text, none)

end Url

/-- The name and the password that some text before a host tells. Neither is there if both are
empty. -/
def Credentials.ofText? (text : List Char) : Option Credentials :=
  let (name, password) := Url.cutAt ':' text
  let password := password.filter (!·.isEmpty)
  if name.isEmpty && password.isNone then none
  else
    let escape := Url.escaped Url.escapedInCredentials
    some { name := escape name, password := password.map escape }

/-- A host with what belongs to it. -/
structure Authority where
  credentials : Option Credentials
  host : String
  endpoint : Option Nat

namespace Authority

/-- The character ends an authority. -/
def ends (isSpecial : Bool) (c : Char) : Bool :=
  c = '/' || c = '?' || c = '#' || (isSpecial && c = '\\')

/-- What stands before the last `@` of an authority, and what follows it. -/
def splitCredentials (isSpecial : Bool) (text : List Char) : Option (List Char) × List Char :=
  let whole := text.takeWhile (!ends isSpecial ·)
  if whole.contains '@' then
    let place := (whole.reverse.takeWhile (· ≠ '@')).length
    let count := whole.length - place
    (some (whole.take (count - 1)), text.drop count)
  else (none, text)

/-- The host at the start of a text, and what follows it. A bracket holds colons that belong to the
host. -/
def splitHost (isSpecial : Bool) (text : List Char) : List Char × List Char :=
  let inBrackets :=
    if text.head? = some '[' then text.takeWhile (fun c => !ends isSpecial c && c ≠ ']') else []
  let rest := text.drop inBrackets.length
  let isHost (c : Char) : Bool := !ends isSpecial c && c ≠ ':'
  (inBrackets ++ rest.takeWhile isHost, rest.dropWhile isHost)

/-- The number of an endpoint, or nothing if it is empty. -/
def endpoint? (text : List Char) : Option (Option Nat) :=
  if text.isEmpty then some none
  else do
    let n ← Host.digits? 10 text
    if n < 65536 then some (some n) else none

/-- The authority at the start of a text, and what follows it. The scheme has a usual endpoint if it
is one that needs a host. Credentials and an endpoint need a host too. -/
def ofText? (usual : Option Nat) (text : List Char) : Option (Authority × List Char) := do
  let isSpecial := usual.isSome
  let (before, text) := splitCredentials isSpecial text
  if before = some [] ∧ text.head?.any (ends isSpecial) then none
  let credentials := before.bind Credentials.ofText?
  let (hostText, rest) := splitHost isSpecial text
  let host ← if isSpecial then Host.name? hostText else Host.token? hostText
  if host.isEmpty ∧ (credentials.isSome ∨ rest.head? = some ':') then none
  if rest.head? = some ':' then
    let digits := (rest.drop 1).takeWhile (!ends true ·)
    let endpoint ← endpoint? digits
    let endpoint := if endpoint = usual then none else endpoint
    some ({ credentials, host, endpoint }, rest.drop (digits.length + 1))
  else some ({ credentials, host, endpoint := none }, rest)

end Authority

end Sheltering
