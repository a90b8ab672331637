import Sheltering.Resolver.Query

/-!
# Questions that may fail

`Ask ε α` is a dialogue of a resolver that ends with an `α` or a fault `ε`; a fault ends what
follows it. There is one `Ask` or dialogue for every question of `Query`.
-/

namespace Sheltering

/-- A dialogue of a resolver that may fail. -/
abbrev Ask (ε α : Type) : Type := ExceptT ε (Dialogue Query) α

namespace Ask

open Dialogue (call)

/-! ## The ledger -/

def duration : Ask Fault Span := ExceptT.mk (call Query.duration)

def earliestBlock (window : Span) : Ask Fault UInt64 :=
  ExceptT.mk (call (Query.earliestBlock window))

def openedEvents (since : UInt64) : Ask Fault (List Proposition) :=
  ExceptT.mk (call (Query.openedEvents since))

def resolvedEvents (since : UInt64) : Ask Fault (List ResolvedEvent) :=
  ExceptT.mk (call (Query.resolvedEvents since))

def timedOutEvents (since : UInt64) : Ask Fault (List TimedOutEvent) :=
  ExceptT.mk (call (Query.timedOutEvents since))

def canResolve (id : String) : Ask Fault Bool := ExceptT.mk (call (Query.canResolve id))

def designated (p : Proposition) : Ask Fault String := ExceptT.mk (call (Query.designated p))

def submit (p : Proposition) : Ask Fault Receipt := ExceptT.mk (call (Query.submit p))

/-! ## The registry and the storage -/

def holders (bundle : String) : Ask Fault (List String) := ExceptT.mk (call (Query.holders bundle))

def uploader (bundle : String) : Ask Fault String := ExceptT.mk (call (Query.uploader bundle))

def download (bundle node : String) (timeout : UInt64) :
    Dialogue Query (Except DownloadFault BundleMetadata) :=
  call (Query.download bundle node timeout)

def mark (bundle : String) : Ask Fault Unit := ExceptT.mk (call (Query.mark bundle))

/-! ## The strategy and chance -/

def shouldFetch (p : Proposition) : Ask ResolutionFault Bool :=
  ExceptT.mk (call (Query.shouldFetch p))

def shouldResolve (b : BundleMetadata) : Ask ResolutionFault Bool :=
  ExceptT.mk (call (Query.shouldResolve b))

def afterResolution (p : Proposition) : Dialogue Query (Except ResolutionFault Unit) :=
  call (Query.afterResolution p)

def retryTimeout : Dialogue Query Span := call Query.retryTimeout

def pick (n : Nat) : Dialogue Query Nat := call (Query.pick n)

/-! ## The memory of failures -/

def isSuppressed (id : String) : Dialogue Query Bool := call (Query.isSuppressed id)

def remember (id : String) (ttl : Span) : Dialogue Query Unit := call (Query.remember id ttl)

def sweep : Dialogue Query Nat := call Query.sweep

end Ask

end Sheltering
