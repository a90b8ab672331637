import Sheltering.Proposition
import Std.Data.TreeMap

/-!
# Reconciliation

The ledger has three feeds: propositions opened, propositions resolved, propositions timed out. They
may be unordered, repeat events, and name propositions that were opened before the window.

* `reconcile`: the propositions that are still open for a node, in ledger order. A proposition is
  open while it has a free slot, has not timed out and has not been resolved by this node.
* `freeSlots`: the slots that resolutions leave of the propositions, by id.
-/

namespace Sheltering

/-- The events of a window. -/
structure Feeds where
  opened : List Proposition
  resolved : List ResolvedEvent
  timedOut : List TimedOutEvent
deriving DecidableEq, Repr

namespace Reconcile

/-- The slots of the ids that were opened. An id that was opened more than once has those of its last
event. -/
def openedSlots (opened : List Proposition) : Std.TreeMap String UInt32 :=
  opened.foldl (fun slots p => slots.insert p.id p.slots) ∅

/-- The slots that are left by one event after `slots` were free. A resolution by the node itself
takes them all, any other takes one if there is one. -/
def takeSlot (node : String) (slots : UInt32) (e : ResolvedEvent) : UInt32 :=
  if sameAddress e.resolver node then 0 else if slots = 0 then 0 else slots - 1

/-- The slots that are free for a node, by id. Resolutions of ids that were not opened are ignored. -/
def freeSlots (feeds : Feeds) (node : String) : Std.TreeMap String UInt32 :=
  feeds.resolved.foldl (fun slots e => slots.modify e.id fun n => takeSlot node n e)
    (openedSlots feeds.opened)

/-- A proposition of the id has timed out. -/
def hasTimedOut (feeds : Feeds) (id : String) : Bool := feeds.timedOut.any (·.id == id)

/-- The id is open, if so many slots are free. -/
def isOpen (feeds : Feeds) (slots : Std.TreeMap String UInt32) (id : String) : Bool :=
  !hasTimedOut feeds id && slots[id]?.any (0 < ·)

/-- Keeps the first proposition of each id. `seen` holds the ids met before. -/
def firstOfEachId (seen : List String) : List Proposition → List Proposition
  | [] => []
  | p :: rest =>
    if seen.contains p.id then firstOfEachId seen rest
    else p :: firstOfEachId (p.id :: seen) rest

end Reconcile

open Reconcile in
/-- The propositions that are open for a node, in ledger order; each id stands once, by its earliest
event. -/
def reconcile (feeds : Feeds) (node : String) : List Proposition :=
  let slots := freeSlots feeds node
  let isOpen := feeds.opened.filter fun p => Reconcile.isOpen feeds slots p.id
  firstOfEachId [] (isOpen.mergeSort fun a b => (a.compare b).isLE)

end Sheltering
