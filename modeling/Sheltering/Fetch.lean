import Sheltering.Bundle
import Sheltering.Fault
import Sheltering.Url.Reader

/-!
# Fetching a bundle

A node hands out its bundles over the web, at an address below its base address. What it sends is
taken only if it is the metadata of the bundle that was asked for.

* `Directory`: the base addresses of the nodes.
* `WebReply`: what comes of a request.
* `fetch`: the metadata of a bundle from a node, or the fault of that node.
-/

namespace Sheltering

/-- The base address of each node. -/
abbrev Directory : Type := String → Except Fault String

/-- A directory of some nodes. Addresses of nodes are compared exactly. -/
def Directory.ofList (nodes : List (String × String)) : Directory := fun node =>
  match nodes.lookup node with
  | some base => .ok base
  | none => .error (.ledger ("no url registered for " ++ node))

/-- What comes after the head of an answer. -/
inductive WebBody where
  | whole (bytes : List UInt8)
  /-- The connection ended before the body did. -/
  | cut
  /-- The body does not end within the time allowed. -/
  | late
deriving DecidableEq, Repr

/-- What comes of a request. -/
inductive WebReply where
  /-- There is no connection, or it ended before an answer. -/
  | lost
  /-- There is no answer within the time allowed. -/
  | late
  | answer (status : UInt16) (body : WebBody)
deriving DecidableEq, Repr

/-- What comes of a request to each address. -/
abbrev Web : Type := Url → WebReply

/-- A web in which there is no connection to anyone. -/
def Web.disconnected : Web := fun _ => .lost

/-- The address of the metadata of a bundle, below the base address of a node. -/
def metadataAddress (base bundle : String) : String :=
  let base := (base.toList.reverse.dropWhile (· = '/')).reverse
  String.ofList base ++ "/bundle/" ++ bundle ++ "/info"

/-- The body of an answer as the metadata of a bundle. -/
def verified (bundle : String) (timeout : UInt64) (body : WebBody) :
    Except DownloadFault BundleMetadata :=
  let undecodable := .error (.invalid "undecodable bundle: error decoding response body")
  match body with
  | .late => .error (.timedOut timeout)
  | .cut => undecodable
  | .whole bytes =>
    match BundleMetadata.ofBytes? bytes with
    | none => undecodable
    | some b =>
      if b.bundle = bundle then .ok b
      else .error (.invalid s!"holder returned bundle {b.bundle} instead of {bundle}")

/-- An answer as the metadata of a bundle. Only a status of success tells of a body. -/
def WebReply.metadata (bundle : String) (timeout : UInt64) (url : Url) :
    WebReply → Except DownloadFault BundleMetadata
  | lost => .error (.unreachable ("error sending request for url (" ++ url.text ++ ")"))
  | late => .error (.timedOut timeout)
  | answer status body =>
    if 200 ≤ status ∧ status < 300 then verified bundle timeout body
    else .error (.status status)

/-- Fetches the metadata of a bundle from a node, within some milliseconds. -/
def fetch (directory : Directory) (web : Web) (bundle node : String) (timeout : UInt64) :
    Except DownloadFault BundleMetadata := do
  let base ← (directory node).mapError fun fault =>
    .unreachable s!"no url for {node}: {fault.message}"
  match Url.ofText? (metadataAddress base bundle) with
  | none => .error (.unreachable "builder error")
  | some url =>
    let url := url.requested
    if url.isSendable then (web url).metadata bundle timeout url
    else .error (.unreachable ("builder error for url (" ++ url.text ++ ")"))

end Sheltering
