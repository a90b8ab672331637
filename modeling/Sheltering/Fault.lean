/-!
# Faults

* `Fault`: what goes wrong in the services around a resolver: the ledger, the lease, the database,
  the configuration.
* `DownloadFault`: why a node did not hand over a bundle.
* `ResolutionFault`: why an attempt to resolve a proposition failed; `ResolutionFault.kind` classes
  it for statistics.

Every kind has one function `message` that gives its text.
-/

namespace Sheltering

/-- A fault of a service. -/
inductive Fault where
  /-- Another process holds the lease of this work type. -/
  | workInProgress (workType : String)
  | invalidConfig (reason : String)
  | ledger (reason : String)
  | database (reason : String)
  | serialization (reason : String)
deriving DecidableEq, Repr

namespace Fault

/-- The text of a fault. -/
def message : Fault → String
  | workInProgress workType => "Work of this type is currently in progress: " ++ workType
  | invalidConfig reason => "Invalid configuration: " ++ reason
  | ledger reason => "Ledger error: " ++ reason
  | database reason => "Database error: " ++ reason
  | serialization reason => "Serialization error: " ++ reason

/-- The lease is held elsewhere, which is no trouble. -/
def isWorkInProgress : Fault → Bool
  | workInProgress _ => true
  | _ => false

end Fault

/-- Why a node did not hand over a bundle. -/
inductive DownloadFault where
  | unreachable (reason : String)
  | timedOut (millis : UInt64)
  | status (code : UInt16)
  | invalid (reason : String)
deriving DecidableEq, Repr

namespace DownloadFault

/-- The text of a fault. -/
def message : DownloadFault → String
  | unreachable reason => "holder unreachable: " ++ reason
  | timedOut millis => s!"download timed out after {millis}ms"
  | status code => s!"holder responded with status {code}"
  | invalid reason => "downloaded bundle is invalid: " ++ reason

/-- The node answered, but not with the bundle. -/
def isValidation : DownloadFault → Bool
  | invalid _ => true
  | _ => false

end DownloadFault

/-- The class of a failed attempt. -/
inductive FailureKind where
  | transport
  | validation
  | ledger
  | storage
  | policy
deriving DecidableEq, Repr

/-- The name of a class. -/
def FailureKind.name : FailureKind → String
  | transport => "transport"
  | validation => "validation"
  | ledger => "ledger"
  | storage => "storage"
  | policy => "policy"

/-- Why an attempt to resolve a proposition failed. -/
inductive ResolutionFault where
  /-- The holder failed and there was no other node to ask. -/
  | download (bundle holder : String) (source : DownloadFault)
  /-- Every node that was asked failed. -/
  | noDonors (bundle : String) (attempts : Nat) (last : DownloadFault)
  | invalidBundle (bundle reason : String)
  | ledger (reason : String)
  | storage (reason : String)
  | strategy (reason : String)
deriving DecidableEq, Repr

namespace ResolutionFault

/-- The text of a fault. -/
def message : ResolutionFault → String
  | download bundle holder source =>
    s!"Could not download bundle {bundle} from {holder}: " ++ source.message
  | noDonors bundle attempts last =>
    s!"No donors available for bundle {bundle} after {attempts} attempt(s): " ++ last.message
  | invalidBundle bundle reason => s!"Bundle {bundle} is invalid: {reason}"
  | ledger reason => "Ledger error: " ++ reason
  | storage reason => "Storage error: " ++ reason
  | strategy reason => "Strategy error: " ++ reason

/-- The class of a fault. -/
def kind : ResolutionFault → FailureKind
  | download _ _ source => if source.isValidation then .validation else .transport
  | noDonors _ _ last => if last.isValidation then .validation else .transport
  | invalidBundle _ _ => .validation
  | ledger _ => .ledger
  | storage _ => .storage
  | strategy _ => .policy

/-- The fault that lies behind a fault. -/
def source : ResolutionFault → Option DownloadFault
  | download _ _ source => some source
  | _ => none

/-- A service's fault as the failure of an attempt: the ledger's is kept, any other is one of
storage. -/
def ofFault : Fault → ResolutionFault
  | .ledger reason => ledger reason
  | fault => storage fault.message

end ResolutionFault

end Sheltering
