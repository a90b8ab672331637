import Sheltering.Fault.Written
import Sheltering.Resolver.Script

/-!
# Written scripts

A script is written as a record of its tables. What is not given keeps its value.

* `Span.ofWritten`: a span in milliseconds, `"min"`, `"max"`, or a record of nanoseconds.
* `Mishap.ofWritten`, `Serving.ofWritten`: what befalls a call, and what a node has to say.
* `Script.update`: replaces the tables that a record gives.
-/

namespace Sheltering

/-- Reads a span. -/
def Span.ofWritten (w : Written) : Span :=
  match w with
  | .string _ => if w.text? = some "min" then ⟨-Span.longest.nanos⟩ else Span.longest
  | .object _ => ⟨((w.member? "ns").bind Written.int?).getD 0⟩
  | w => Span.ofMillis (w.int?.getD 0)

/-- Reads a mishap. -/
def Mishap.ofWritten (w : Written) : Mishap :=
  if w.textAt "kind" = "panic" then .panic
  else .fault (Fault.ofWritten w) (ResolutionFault.ofWritten w)

/-- Reads what a node has to say. -/
def Serving.ofWritten (w : Written) : Serving :=
  match w with
  | .string _ => .asRequested
  | w =>
    match w.textAt? "bundle" with
    | some bundle => .other bundle
    | none => if w.textAt "kind" = "panic" then .panic else .fault (DownloadFault.ofWritten w)

/-- The mishaps of a table. -/
def Mishap.tableOf (w : Written) : List (String × Mishap) :=
  w.entries.map fun (k, v) => (k, Mishap.ofWritten v)

namespace Script

/-- A table whose values are read one by one; those that cannot be read are left out. -/
def tableOf {α : Type} (read : Written → Option α) (w : Written) : List (String × α) :=
  w.entries.filterMap fun (k, v) => (read v).map (k, ·)

/-- Replaces the tables that a record gives. -/
def update (subject : Subject) (w : Written) (s : Script) : Script :=
  let given {α : Type} (key : String) (old : α) (read : Written → α) : α :=
    match w.member? key with
    | some v => read v
    | none => old
  { s with
    window := given "duration_ms" s.window Span.ofWritten
    earliestBlock := given "earliest_block" s.earliestBlock fun v => (v.word64?).getD 0
    feeds :=
      { opened := given "opened" s.feeds.opened fun v =>
          v.items.filterMap (Proposition.ofWritten? subject)
        resolved := given "resolved" s.feeds.resolved fun v =>
          v.items.filterMap ResolvedEvent.ofWritten?
        timedOut := given "timed_out" s.feeds.timedOut fun v =>
          v.items.filterMap TimedOutEvent.ofWritten? }
    closed := given "closed" s.closed Written.texts
    designated := given "designated" s.designated (tableOf Written.text?)
    holders := given "holders" s.holders (tableOf fun v => some v.texts)
    uploaders := given "uploaders" s.uploaders (tableOf Written.text?)
    servings := given "serve" s.servings (tableOf fun v => some (Serving.ofWritten v))
    shouldFetch := given "should_fetch" s.shouldFetch (tableOf Written.flag?)
    shouldResolve := given "should_resolve" s.shouldResolve (tableOf Written.flag?)
    retryTimeout := given "retry" s.retryTimeout Span.ofWritten
    picks := given "picks" s.picks fun v => v.items.filterMap fun n => n.int?.map Int.toNat
    mishaps := given "fail" s.mishaps Mishap.tableOf }

end Script

end Sheltering
