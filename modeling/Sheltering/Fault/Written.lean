import Sheltering.Fault
import Sheltering.Json.Lookup

/-!
# Written faults

A fault is written as a record with its name under `kind` and what it says of itself.

* `Fault.name`, `DownloadFault.name`, `ResolutionFault.name`: the names.
* `Fault.ofWritten`, `DownloadFault.ofWritten`, `ResolutionFault.ofWritten`: the readers. A name
  that
  is not known counts as a fault of the ledger, of the way to a node, or of the strategy.
-/

namespace Sheltering

namespace Fault

/-- The name of a fault. -/
def name : Fault → String
  | workInProgress _ => "WorkInProgress"
  | invalidConfig _ => "InvalidConfig"
  | ledger _ => "Ledger"
  | database _ => "DatabaseError"
  | serialization _ => "SerializationError"

/-- Reads a fault. -/
def ofWritten (w : Written) : Fault :=
  let reason := w.textAt "msg"
  match w.textAt "kind" with
  | "WorkInProgress" => workInProgress reason
  | "InvalidConfig" => invalidConfig reason
  | "DatabaseError" => database reason
  | "SerializationError" => serialization reason
  | _ => ledger reason

end Fault

namespace DownloadFault

/-- The name of a fault. -/
def name : DownloadFault → String
  | unreachable _ => "Unreachable"
  | timedOut _ => "Timeout"
  | status _ => "HttpStatus"
  | invalid _ => "Validation"

/-- Reads a fault. -/
def ofWritten (w : Written) : DownloadFault :=
  let reason := w.textAt "msg"
  match w.textAt "kind" with
  | "Timeout" => timedOut (UInt64.ofNat (w.natAt "ms" 0))
  | "HttpStatus" => status (UInt16.ofNat (w.natAt "status" 0))
  | "Validation" => invalid reason
  | _ => unreachable reason

end DownloadFault

namespace ResolutionFault

/-- The name of a fault. -/
def name : ResolutionFault → String
  | download .. => "Download"
  | noDonors .. => "NoDonorsAvailable"
  | invalidBundle .. => "InvalidBundle"
  | ledger _ => "Ledger"
  | storage _ => "Storage"
  | strategy _ => "Strategy"

/-- Reads a fault. -/
def ofWritten (w : Written) : ResolutionFault :=
  let reason := w.textAt "msg"
  let bundle := w.textAt "bundle_id"
  let source := DownloadFault.ofWritten (w.memberAt "source")
  match w.textAt "kind" with
  | "Download" => download bundle (w.textAt "holder") source
  | "NoDonorsAvailable" => noDonors bundle (w.natAt "attempts" 0) source
  | "InvalidBundle" => invalidBundle bundle reason
  | "Ledger" => ledger reason
  | "Storage" => storage reason
  | _ => strategy reason

end ResolutionFault

end Sheltering
