import Sheltering.Reconcile
import Sheltering.Resolver.Ask

/-!
# Open propositions

* `Resolver.ongoing`: asks the ledger for its feeds since the earliest block that matters, and
  reconciles them. The first fault ends it.
* `Resolver.candidates`: the nodes that may have the bundle of a proposition. For a challenge these
  are its holders and its uploader, for a transfer its holders.

Reads that a resolver starts together are asked here one after another, in a fixed order. Nothing is
lost by that. A read changes nothing, and what it is answered is left to the surroundings. If the
reads succeed together, then they succeed in this order; if one of them faults or panics first, then
there are surroundings in which those before it in the order are answered and it is the one that
ends them, with the same fault.
-/

namespace Sheltering.Resolver

/-- The feeds of the ledger since the earliest block that matters. The three of them are read
together; the first fault in their order ends them. -/
def feeds : Ask Fault Feeds := do
  let window ← Ask.duration
  let since ← Ask.earliestBlock window
  let opened ← Ask.openedEvents since
  let resolved ← Ask.resolvedEvents since
  let timedOut ← Ask.timedOutEvents since
  pure { opened, resolved, timedOut }

/-- The propositions that are open for a node. -/
def ongoing (node : String) : Ask Fault (List Proposition) := do
  let feeds ← feeds
  pure (reconcile feeds node)

/-- The nodes that may have the bundle of a proposition. The holders and the uploader are read
together; the first fault in this order ends them. -/
def candidates (subject : Subject) (p : Proposition) : Ask Fault (List String) := do
  let holders ← Ask.holders p.bundle
  match subject with
  | .challenge => do
    let uploader ← Ask.uploader p.bundle
    pure (holders ++ [uploader])
  | .transfer => pure holders

end Sheltering.Resolver
