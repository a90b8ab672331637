import Sheltering.Bundle
import Sheltering.Config
import Sheltering.Fault
import Sheltering.Proposition

/-!
# Strategies

A `Strategy` takes part in all propositions or in none, and says how long a failed one is left
alone.

* `Strategy.ofSettings`: the strategy of a configuration. It fails when the retry timeout is longer
  than `maxSeconds`.
-/

namespace Sheltering

/-- Whether a node takes part, and how long it waits after a failure. -/
structure Strategy where
  participation : Participation
  retryTimeout : Span
deriving DecidableEq, Repr

namespace Strategy

/-- The strategy of a configuration. -/
def ofSettings (s : ResolutionSettings) : Except Fault Strategy :=
  match spanOfSeconds? s.retryTimeout with
  | some retryTimeout => .ok { participation := s.strategy, retryTimeout }
  | none => .error (.invalidConfig s!"retry_timeout_secs {s.retryTimeout} is out of range")

/-- Whether the bundle of a proposition is to be fetched. -/
def shouldFetch (s : Strategy) (_ : Proposition) : Bool := s.participation == .resolveAll

/-- Whether the proposition of a bundle is to be resolved. -/
def shouldResolve (s : Strategy) (_ : BundleMetadata) : Bool := s.participation == .resolveAll

end Strategy

end Sheltering
