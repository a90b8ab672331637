import Sheltering.Config
import Sheltering.Resolver.Attempt

/-!
# Batches

* `Resolver.attempts`: attempts propositions in order, all of them or up to the first that is
  resolved.
* `Resolver.batch`: attempts the open propositions, then drops the closed backoff windows. Only the
  ledger's feeds can make it fail.
-/

namespace Sheltering.Resolver

/-- Attempts propositions in order. With the mode `one` the first that is resolved is the last. -/
def attempts (r : Resolver) (mode : Mode) :
    List Proposition → Dialogue Query (List Outcome)
  | [] => pure []
  | p :: rest => do
    let outcome ← attempt r p
    if mode = .one ∧ outcome.isResolved then pure [outcome]
    else do
      let more ← attempts r mode rest
      pure (outcome :: more)

/-- Attempts the open propositions and reports on them. -/
def batch (r : Resolver) (mode : Mode) : Ask Fault BatchReport := do
  let opened ← ongoing r.node
  let outcomes ← ExceptT.lift (attempts r mode opened)
  let _ ← ExceptT.lift Ask.sweep
  pure (BatchReport.ofOutcomes opened.length outcomes)

end Sheltering.Resolver
