import Sheltering.Outcome
import Sheltering.Resolver.Ongoing
import Sheltering.Resolver.Strategy

/-!
# One attempt

* `Resolver.withSettings`: a resolver with the settings of a configuration.
* `fetchBundle`: the bundle of a proposition, from its holder or else from the other nodes that may
  have it, each asked at most once and in an order left to chance.
* `resolve`: the gates before a resolution (is the proposition still open, is it this node's turn,
  does the strategy want it), then the resolution: submit, then mark the bundle as sheltered.
* `attempt`: leaves a proposition alone while its backoff window is open, and opens one when the
  attempt fails.
-/

namespace Sheltering

/-- What a resolver of propositions of one kind is set up with. -/
structure Resolver where
  subject : Subject
  /-- The address of the node it resolves for. -/
  node : String
  /-- Milliseconds that one download may take. -/
  downloadTimeout : UInt64 := 10000
deriving DecidableEq, Repr

namespace Resolver

/-- The resolver with the settings of a configuration, and the strategy that goes with it. -/
def withSettings (r : Resolver) (s : ResolutionSettings) : Except Fault (Resolver × Strategy) := do
  let strategy ← Strategy.ofSettings s
  pure ({ r with downloadTimeout := s.downloadTimeout }, strategy)

/-! ## Download -/

/-- The candidates that are asked after the holder: neither the holder nor this node, and each
address once, as it is spelled first. `tried` holds the addresses to leave out, in lower case. -/
def eligible (tried : List String) : List String → List String
  | [] => []
  | donor :: rest =>
    let key := Text.asciiLowerText donor
    if tried.contains key then eligible tried rest else donor :: eligible (key :: tried) rest

/-- Asks the donors that are left, in an order left to chance, until one has the bundle. `attempts`
counts the nodes asked before, `last` is the fault of the last of them. -/
def askDonors (r : Resolver) (bundle : String) (donors : List String) (attempts : Nat)
    (last : DownloadFault) : Dialogue Query (Except ResolutionFault BundleMetadata) :=
  if donors.isEmpty then pure (.error (.noDonors bundle attempts last))
  else do
    let i ← Ask.pick donors.length
    if h : i < donors.length then
      match ← Ask.download bundle donors[i] r.downloadTimeout with
      | .ok b => pure (.ok b)
      | .error fault => askDonors r bundle (donors.eraseIdx i) (attempts + 1) fault
    else .panic
termination_by donors.length
decreasing_by simp [List.length_eraseIdx, h]; omega

/-- The bundle of a proposition, from its holder or from a donor. -/
def fetchBundle (r : Resolver) (p : Proposition) : Ask ResolutionFault BundleMetadata := do
  match ← ExceptT.lift (Ask.download p.bundle p.holder r.downloadTimeout) with
  | .ok b => pure b
  | .error fault => do
    let candidates ← (candidates r.subject p).adapt ResolutionFault.ofFault
    let tried := [Text.asciiLowerText p.holder, Text.asciiLowerText r.node]
    match eligible tried candidates with
    | [] => throw (.download p.bundle p.holder fault)
    | donors => ExceptT.mk (askDonors r p.bundle donors 1 fault)

/-! ## Resolution -/

/-- A service's fault fails the attempt. -/
def service {α : Type} (ask : Ask Fault α) : Ask ResolutionFault α :=
  ask.adapt ResolutionFault.ofFault

/-- Submits a resolution, then marks the bundle as sheltered, then runs the strategy's hook, whose
fault does no harm. -/
def commit (p : Proposition) : Ask ResolutionFault Outcome := do
  let _ ← service (Ask.submit p)
  (Ask.mark p.bundle).adapt fun fault => .storage fault.message
  let _ ← ExceptT.lift (Ask.afterResolution p)
  pure .resolved

/-- Resolves a proposition if it is still open, it is this node's turn, the bundle can be had, and
the strategy agrees before and after the download. -/
def resolve (r : Resolver) (p : Proposition) : Ask ResolutionFault Outcome := do
  if !(← service (Ask.canResolve p.id)) then return .skipped .alreadyClosed
  if !sameAddress (← service (Ask.designated p)) r.node then return .skipped .notOurTurn
  if !(← Ask.shouldFetch p) then return .skipped .fetchDeclined
  let bundle ← fetchBundle r p
  if bundle.bundle ≠ p.bundle then
    throw (.invalidBundle p.bundle ("storage returned bundle " ++ bundle.bundle))
  if !(← Ask.shouldResolve bundle) then return .skipped .resolveDeclined
  commit p

/-- One attempt at a proposition. It never fails: a fault opens a backoff window and is the
outcome. -/
def attempt (r : Resolver) (p : Proposition) : Dialogue Query Outcome := do
  if ← Ask.isSuppressed p.id then return .skipped .recentlyFailed
  match ← (resolve r p).run with
  | .ok outcome => return outcome
  | .error fault => do
    Ask.remember p.id (← Ask.retryTimeout)
    return .failed fault

end Resolver

end Sheltering
