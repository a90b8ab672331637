import Sheltering.Json.Record
import Sheltering.Text.Case

/-!
# Propositions

A `Proposition` is a challenge or a transfer that the ledger has opened: a node is to show that it
shelters a bundle. Both kinds have the same content, so there is one type; a transfer has one slot.

* `Subject`: challenge or transfer, which fixes the names of a proposition's fields.
* `LedgerPosition`: where the ledger opened a proposition, ordered by block, then log index.
* `ResolvedEvent`, `TimedOutEvent`: the events that close propositions.
* `sameAddress`: addresses are equal up to the case of the letters `A` to `Z`.
-/

namespace Sheltering

/-- Addresses of one node; only the case of ASCII letters may differ. -/
def sameAddress (a b : String) : Bool := Text.asciiLowerText a == Text.asciiLowerText b

/-- The two kinds of proposition. -/
inductive Subject where
  | challenge
  | transfer
deriving DecidableEq, Repr

namespace Subject

/-- The name of a kind. -/
def name : Subject → String
  | challenge => "challenge"
  | transfer => "transfer"

/-- The kinds by name. -/
def names : List (String × Subject) := [("challenge", challenge), ("transfer", transfer)]

end Subject

/-- Where the ledger recorded an event. -/
structure LedgerPosition where
  block : UInt64
  logIndex : UInt64
deriving DecidableEq, Repr

namespace LedgerPosition

/-- Positions are ordered by block, then log index. -/
def compare (a b : LedgerPosition) : Ordering :=
  (Ord.compare a.block b.block).then (Ord.compare a.logIndex b.logIndex)

/-- Positions in ledger order. -/
def inOrder (ps : List LedgerPosition) : List LedgerPosition :=
  ps.mergeSort fun a b => (a.compare b).isLE

/-- The position as a value. -/
def toJson (p : LedgerPosition) : Json :=
  .object [("block_number", .nat p.block.toNat), ("log_index", .nat p.logIndex.toNat)]

/-- Reads a position. -/
def ofWritten? (w : Written) : Option LedgerPosition := do
  let f ← Fields.of? ["block_number", "log_index"] w
  let block ← f.required? "block_number" Written.word64?
  let logIndex ← f.required? "log_index" Written.word64?
  pure { block, logIndex }

end LedgerPosition

/-- A challenge or a transfer that the ledger has opened. -/
structure Proposition where
  id : String
  /-- The node that has the bundle. -/
  holder : String
  bundle : String
  /-- How many nodes may resolve it. -/
  slots : UInt32
  position : LedgerPosition
deriving DecidableEq, Repr

namespace Proposition

/-- The proposition as a value. -/
def toJson (p : Proposition) : Subject → Json
  | .challenge => .object
      [("challenge_id", .str p.id), ("shelterer_id", .str p.holder), ("bundle_id", .str p.bundle),
        ("count", .nat p.slots.toNat), ("block_number", .nat p.position.block.toNat),
        ("log_index", .nat p.position.logIndex.toNat)]
  | .transfer => .object
      [("transfer_id", .str p.id), ("donor_id", .str p.holder), ("bundle_id", .str p.bundle),
        ("block_number", .nat p.position.block.toNat),
        ("log_index", .nat p.position.logIndex.toNat)]

/-- The keys of a kind's fields in their order. -/
def keys : Subject → List String
  | .challenge => ["challenge_id", "shelterer_id", "bundle_id", "count", "block_number",
      "log_index"]
  | .transfer => ["transfer_id", "donor_id", "bundle_id", "block_number", "log_index"]

/-- Reads a proposition of a kind. -/
def ofWritten? (subject : Subject) (w : Written) : Option Proposition := do
  let f ← Fields.of? (keys subject) w
  let (idKey, holderKey) :=
    match subject with
    | .challenge => ("challenge_id", "shelterer_id")
    | .transfer => ("transfer_id", "donor_id")
  let id ← f.required? idKey Written.text?
  let holder ← f.required? holderKey Written.text?
  let bundle ← f.required? "bundle_id" Written.text?
  let slots ←
    match subject with
    | .challenge => f.required? "count" Written.word32?
    | .transfer => some 1
  let block ← f.required? "block_number" Written.word64?
  let logIndex ← f.required? "log_index" Written.word64?
  pure { id, holder, bundle, slots, position := { block, logIndex } }

/-- Propositions are listed by position, then by id. -/
def compare (a b : Proposition) : Ordering :=
  (a.position.compare b.position).then (Ord.compare a.id b.id)

end Proposition

/-- A node took a slot of a proposition. -/
structure ResolvedEvent where
  id : String
  resolver : String
  block : UInt64
deriving DecidableEq, Repr

namespace ResolvedEvent

/-- The event as a value. -/
def toJson (e : ResolvedEvent) : Json :=
  .object [("id", .str e.id), ("resolver", .str e.resolver), ("block_number", .nat e.block.toNat)]

/-- Reads an event. -/
def ofWritten? (w : Written) : Option ResolvedEvent := do
  let f ← Fields.of? ["id", "resolver", "block_number"] w
  let id ← f.required? "id" Written.text?
  let resolver ← f.required? "resolver" Written.text?
  let block ← f.required? "block_number" Written.word64?
  pure { id, resolver, block }

end ResolvedEvent

/-- The time to resolve a proposition ran out. -/
structure TimedOutEvent where
  id : String
  block : UInt64
deriving DecidableEq, Repr

namespace TimedOutEvent

/-- The event as a value. -/
def toJson (e : TimedOutEvent) : Json :=
  .object [("id", .str e.id), ("block_number", .nat e.block.toNat)]

/-- Reads an event. -/
def ofWritten? (w : Written) : Option TimedOutEvent := do
  let f ← Fields.of? ["id", "block_number"] w
  let id ← f.required? "id" Written.text?
  let block ← f.required? "block_number" Written.word64?
  pure { id, block }

end TimedOutEvent

/-- The ledger's receipt for a submitted resolution. -/
structure Receipt where
  transaction : String
  block : UInt64
deriving DecidableEq, Repr

namespace Receipt

/-- The receipt as a value. -/
def toJson (r : Receipt) : Json :=
  .object [("transaction_hash", .str r.transaction), ("block_number", .nat r.block.toNat)]

/-- Reads a receipt. -/
def ofWritten? (w : Written) : Option Receipt := do
  let f ← Fields.of? ["transaction_hash", "block_number"] w
  let transaction ← f.required? "transaction_hash" Written.text?
  let block ← f.required? "block_number" Written.word64?
  pure { transaction, block }

end Receipt

end Sheltering
