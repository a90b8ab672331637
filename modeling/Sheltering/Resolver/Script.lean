import Sheltering.Resolver.Batch
import Sheltering.Resolver.Strategy

/-!
# Scripted surroundings

A `Script` stands for the ledger, the registry, the storage, the strategy and the source of chance
at once: it answers a resolver's queries from tables. With it a resolver can be rehearsed without a
network.

* `Script.reply`: how a script answers a query, and what it remembers of it: accepted resolutions
  and the number of picks.
* `Query.callText`: how a query is written down in the record of a rehearsal.
* `Stage`: a script with a memory of failures and a clock, the surroundings of `Dialogue.run`.
-/

namespace Sheltering

/-- What befalls a call of a script. -/
inductive Mishap where
  | panic
  /-- A fault, as services and as strategies report it. -/
  | fault (service : Fault) (strategy : ResolutionFault)
deriving DecidableEq, Repr

/-- What a node has to say when it is asked for a bundle. -/
inductive Serving where
  /-- The bundle that was asked for. -/
  | asRequested
  /-- A bundle with another id. -/
  | other (bundle : String)
  | fault (fault : DownloadFault)
  | panic
deriving DecidableEq, Repr

/-- The tables from which a resolver's queries are answered. A table with `"*"` answers so for every
key that it does not name. -/
structure Script where
  window : Span := Span.ofMillis 86400000
  earliestBlock : UInt64 := 0
  feeds : Feeds := ⟨[], [], []⟩
  /-- The ids for which the ledger takes no resolution. -/
  closed : List String := []
  designated : List (String × String) := []
  holders : List (String × List String) := []
  uploaders : List (String × String) := []
  /-- By `node/bundle` or by node. -/
  servings : List (String × Serving) := []
  shouldFetch : List (String × Bool) := []
  shouldResolve : List (String × Bool) := []
  retryTimeout : Span := Span.ofSeconds 60
  picks : List Nat := []
  /-- By `call:key` or by call. -/
  mishaps : List (String × Mishap) := []
  /-- A strategy in the place of the scripted one. -/
  strategy : Option Strategy := none
  /-- Chance is not scripted. -/
  unscriptedChance : Bool := false
  /-- The picks made so far. -/
  drawn : Nat := 0

namespace Query

/-- The name of a call and the text of its arguments. -/
def call : Query → String × String
  | duration => ("proposition_duration", "")
  | earliestBlock window => ("earliest_relevant_block", toString window.millis)
  | openedEvents since => ("opened_events", toString since)
  | resolvedEvents since => ("resolved_events", toString since)
  | timedOutEvents since => ("timed_out_events", toString since)
  | canResolve id => ("can_resolve", id)
  | designated p => ("designated_resolver", p.id)
  | submit p => ("submit_resolution", p.id)
  | holders bundle => ("current_holders", bundle)
  | uploader bundle => ("original_uploader", bundle)
  | download bundle node timeout => ("download", s!"{bundle},{node},{timeout}")
  | mark bundle => ("mark", bundle)
  | shouldFetch p => ("should_fetch", p.id)
  | shouldResolve b => ("should_resolve", b.bundle)
  | afterResolution p => ("after_resolution", p.id)
  | retryTimeout => ("retry_timeout", "")
  | pick n => ("pick", toString n)
  | isSuppressed id => ("is_suppressed", id)
  | remember id _ => ("remember", id)
  | sweep => ("sweep", "")

/-- The query is one to the strategy. -/
def isForStrategy : Query → Bool
  | shouldFetch _ => true
  | shouldResolve _ => true
  | afterResolution _ => true
  | retryTimeout => true
  | _ => false

/-- A query as it is written down. -/
def callText (q : Query) : String := q.call.1 ++ "(" ++ q.call.2 ++ ")"

end Query

namespace Script

/-- The entry of a key, or the entry of `"*"`. -/
def entry {α : Type} (table : List (String × α)) (key : String) : Option α :=
  (table.lookup key).or (table.lookup "*")

/-- What befalls a call, if anything. -/
def mishap? (s : Script) (q : Query) : Option Mishap :=
  (s.mishaps.lookup (q.call.1 ++ ":" ++ q.call.2)).or (s.mishaps.lookup q.call.1)

/-- The next pick among `n`. -/
def nextPick (s : Script) (n : Nat) : Nat :=
  match s.picks[s.drawn % s.picks.length]? with
  | some k => k % n
  | none => 0

/-- An answer that a mishap may take the place of. -/
def orMishap {ε α : Type} (s : Script) (q : Query) (fault : Fault → ResolutionFault → ε)
    (answer : Except ε α) : Reply (Except ε α) :=
  match s.mishap? q with
  | some .panic => .panic
  | some (.fault service strategy) => .answer (.error (fault service strategy))
  | none => .answer answer

/-- The answer of a service. -/
def service {α : Type} (s : Script) (q : Query) (answer : Except Fault α) :
    Reply (Except Fault α) :=
  s.orMishap q (fun fault _ => fault) answer

/-- The answer of the scripted strategy. -/
def consult {α : Type} (s : Script) (q : Query) (answer : α) : Reply (Except ResolutionFault α) :=
  s.orMishap q (fun _ fault => fault) (.ok answer)

/-- What a node answers when it is asked for a bundle. -/
def serve (s : Script) (bundle node : String) : Reply (Except DownloadFault BundleMetadata) :=
  match (s.servings.lookup (node ++ "/" ++ bundle)).or (s.servings.lookup node) with
  | some .asRequested => .answer (.ok (BundleMetadata.ofId bundle))
  | some (.other id) => .answer (.ok (BundleMetadata.ofId id))
  | some (.fault fault) => .answer (.error fault)
  | some .panic => .panic
  | none => .answer (.error (.unreachable (node ++ " offline")))

/-- Answers a query on behalf of a node's surroundings. The queries to the resolver's memory are not
a script's to answer; it has none. -/
def reply (node : String) : (q : Query) → Script → Reply (Answer q) × Script
  | .duration, s => (s.service .duration (.ok s.window), s)
  | .earliestBlock window, s => (s.service (.earliestBlock window) (.ok s.earliestBlock), s)
  | .openedEvents since, s => (s.service (.openedEvents since) (.ok s.feeds.opened), s)
  | .resolvedEvents since, s => (s.service (.resolvedEvents since) (.ok s.feeds.resolved), s)
  | .timedOutEvents since, s => (s.service (.timedOutEvents since) (.ok s.feeds.timedOut), s)
  | .canResolve id, s => (s.service (.canResolve id) (.ok (!s.closed.contains id)), s)
  | .designated p, s =>
    (s.service (.designated p) (.ok ((entry s.designated p.id).getD node)), s)
  | .submit p, s =>
    let accepted : ResolvedEvent := ⟨p.id, node, p.position.block⟩
    match s.service (.submit p) (.ok ⟨p.id, p.position.block⟩) with
    | .answer (.ok receipt) =>
      (.answer (.ok receipt),
        { s with feeds := { s.feeds with resolved := s.feeds.resolved ++ [accepted] } })
    | other => (other, s)
  | .holders bundle, s =>
    (s.service (.holders bundle) (.ok ((s.holders.lookup bundle).getD [])), s)
  | .uploader bundle, s =>
    let known := (s.uploaders.lookup bundle).elim (.error (.ledger ("unknown bundle " ++ bundle)))
      Except.ok
    (s.service (.uploader bundle) known, s)
  | .download bundle node timeout, s =>
    match s.mishap? (.download bundle node timeout) with
    | some .panic => (.panic, s)
    | _ => (s.serve bundle node, s)
  | .mark bundle, s => (s.service (.mark bundle) (.ok ()), s)
  | .shouldFetch p, s =>
    match s.strategy with
    | some strategy => (.answer (.ok (strategy.shouldFetch p)), s)
    | none => (s.consult (.shouldFetch p) ((entry s.shouldFetch p.id).getD true), s)
  | .shouldResolve b, s =>
    match s.strategy with
    | some strategy => (.answer (.ok (strategy.shouldResolve b)), s)
    | none => (s.consult (.shouldResolve b) ((entry s.shouldResolve b.bundle).getD true), s)
  | .afterResolution p, s =>
    match s.strategy with
    | some _ => (.answer (.ok ()), s)
    | none => (s.consult (.afterResolution p) (), s)
  | .retryTimeout, s => (.answer ((s.strategy.map (·.retryTimeout)).getD s.retryTimeout), s)
  | .pick n, s =>
    match s.mishap? (.pick n) with
    | some .panic => (.panic, s)
    | _ => (.answer (s.nextPick n), { s with drawn := s.drawn + 1 })
  | .isSuppressed _, s => (.answer false, s)
  | .remember _ _, s => (.answer (), s)
  | .sweep, s => (.answer (0 : Nat), s)

/-- The query is answered by the script's tables. -/
def answers (s : Script) (q : Query) : Bool :=
  match q with
  | .retryTimeout => false
  | .pick _ => !s.unscriptedChance
  | q => !q.isMemory && !(q.isForStrategy && s.strategy.isSome)

end Script

/-- A script with a memory of failures and a clock for it. -/
structure Stage where
  script : Script
  backoff : Backoff := .empty
  now : Instant

namespace Stage

/-- Queries to the memory are answered by it, all others by the script. -/
def surroundings (node : String) : Dialogue.Surroundings Query Stage := fun q stage =>
  match stage.backoff.reply stage.now q with
  | some (a, backoff) => (.answer a, { stage with backoff })
  | none =>
    let (r, script) := stage.script.reply node q
    (r, { stage with script })

/-- Holds a dialogue on a stage: how it ends, the calls of scripted collaborators in order, and the
stage after it. -/
def hold {α : Type} (node : String) (d : Dialogue Query α) (stage : Stage) :
    Reply α × List String × Stage :=
  let run := d.run (surroundings node) stage
  let calls := (run.exchanges.filter fun e => stage.script.answers e.question).map
    fun e => e.question.callText
  (run.ending, calls, run.state)

end Stage

end Sheltering
