import Sheltering.Backoff
import Sheltering.Bundle
import Sheltering.Dialogue
import Sheltering.Fault
import Sheltering.Proposition

/-!
# What a resolver asks

A `Query` is a question that a resolver asks of the ledger, the registry of holders, the storage of
bundles, the strategy, the source of chance, or its own memory of failures. Whoever answers may
keep a state, fail, or panic.

* `Query.isMemory`: the questions to the resolver's own memory.
* `Backoff.reply`: how a memory of failures answers them at the reading of a clock.
-/

namespace Sheltering

/-- A question of a resolver. -/
inductive Query where
  /-- How long a proposition stays open. -/
  | duration
  /-- The first block that may hold a proposition opened within a span before now. -/
  | earliestBlock (window : Span)
  | openedEvents (since : UInt64)
  | resolvedEvents (since : UInt64)
  | timedOutEvents (since : UInt64)
  /-- Does the ledger still take a resolution? -/
  | canResolve (id : String)
  /-- Whose turn is it? -/
  | designated (p : Proposition)
  | submit (p : Proposition)
  /-- The nodes that shelter a bundle. -/
  | holders (bundle : String)
  /-- The node that uploaded a bundle. -/
  | uploader (bundle : String)
  /-- Fetches a bundle from a node, in a number of milliseconds. -/
  | download (bundle node : String) (timeout : UInt64)
  /-- Marks a bundle as sheltered by this node. -/
  | mark (bundle : String)
  | shouldFetch (p : Proposition)
  | shouldResolve (b : BundleMetadata)
  /-- The strategy's hook after a resolution. -/
  | afterResolution (p : Proposition)
  | retryTimeout
  /-- A number below `n`. -/
  | pick (n : Nat)
  /-- Is the backoff window of an id open? -/
  | isSuppressed (id : String)
  /-- Opens a backoff window. -/
  | remember (id : String) (ttl : Span)
  /-- Drops the closed windows. -/
  | sweep
deriving DecidableEq, Repr

namespace Query

/-- What each question is answered with. -/
def Answer : Query → Type
  | duration => Except Fault Span
  | earliestBlock _ => Except Fault UInt64
  | openedEvents _ => Except Fault (List Proposition)
  | resolvedEvents _ => Except Fault (List ResolvedEvent)
  | timedOutEvents _ => Except Fault (List TimedOutEvent)
  | canResolve _ => Except Fault Bool
  | designated _ => Except Fault String
  | submit _ => Except Fault Receipt
  | holders _ => Except Fault (List String)
  | uploader _ => Except Fault String
  | download _ _ _ => Except DownloadFault BundleMetadata
  | mark _ => Except Fault Unit
  | shouldFetch _ => Except ResolutionFault Bool
  | shouldResolve _ => Except ResolutionFault Bool
  | afterResolution _ => Except ResolutionFault Unit
  | retryTimeout => Span
  | pick _ => Nat
  | isSuppressed _ => Bool
  | remember _ _ => Unit
  | sweep => Nat

instance : Question Query := ⟨Answer⟩

/-- The question is to the resolver's own memory. -/
def isMemory : Query → Bool
  | isSuppressed _ => true
  | remember _ _ => true
  | sweep => true
  | _ => false

end Query

/-- Answers a question to the memory of failures at the reading of a clock; no other question. -/
def Backoff.reply (b : Backoff) (now : Instant) : (q : Query) → Option (Query.Answer q × Backoff)
  | .isSuppressed id => some (b.lookup id now)
  | .remember id ttl => some ((), b.remember id ttl now)
  | .sweep => some (b.sweep now)
  | _ => none

end Sheltering
