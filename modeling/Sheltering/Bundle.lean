import Sheltering.Instant.Written
import Sheltering.Json.Record

/-!
# Bundles

* `BundleMetadata`: what a node tells of a bundle that it shelters.
* `ShelteredBundle`: a bundle that this node has taken, and since when.
-/

namespace Sheltering

/-- What a node tells of a bundle. -/
structure BundleMetadata where
  bundle : String
  uploader : Option String
  size : UInt64
  /-- Seconds since 1970. -/
  uploadedAt : Option Int
  storageYears : Option UInt32
deriving DecidableEq, Repr

namespace BundleMetadata

/-- A bundle of which nothing but the id is known. -/
def ofId (bundle : String) : BundleMetadata := ⟨bundle, none, 0, none, none⟩

/-- The keys of the fields in their order. -/
def keys : List String :=
  ["bundleId", "uploaderId", "sizeBytes", "uploadTimestamp", "storagePeriodYears"]

/-- The metadata as a value. -/
def toJson (b : BundleMetadata) : Json :=
  .object
    [("bundleId", .str b.bundle), ("uploaderId", .strOrNull b.uploader),
      ("sizeBytes", .nat b.size.toNat), ("uploadTimestamp", b.uploadedAt.elim .null .int),
      ("storagePeriodYears", b.storageYears.elim .null fun n => .nat n.toNat)]

/-- Reads metadata; everything but the id may be missing. -/
def ofWritten? (w : Written) : Option BundleMetadata := do
  let f ← Fields.of? keys w
  let bundle ← f.required? "bundleId" Written.text?
  let uploader ← f.withDefault? "uploaderId" none (Written.orNull? Written.text?)
  let size ← f.withDefault? "sizeBytes" 0 Written.word64?
  let uploadedAt ← f.withDefault? "uploadTimestamp" none
    (Written.orNull? (Written.intWithin? (-9223372036854775808) 9223372036854775807))
  let storageYears ← f.withDefault? "storagePeriodYears" none (Written.orNull? Written.word32?)
  pure { bundle, uploader, size, uploadedAt, storageYears }

/-- Reads metadata from the bytes of a JSON text. -/
def ofBytes? (bytes : List UInt8) : Option BundleMetadata := Written.ofBytes? bytes >>= ofWritten?

end BundleMetadata

/-- A bundle that this node has taken. -/
structure ShelteredBundle where
  bundle : String
  since : Instant
deriving DecidableEq, Repr

namespace ShelteredBundle

/-- The bundle as a value. -/
def toJson (b : ShelteredBundle) : Json :=
  .object [("bundle_id", .str b.bundle), ("sheltered_at", .str b.since.shortest)]

/-- Reads a sheltered bundle. -/
def ofWritten? (w : Written) : Option ShelteredBundle := do
  let f ← Fields.of? ["bundle_id", "sheltered_at"] w
  let bundle ← f.required? "bundle_id" Written.text?
  let since ← f.required? "sheltered_at" Written.instant?
  pure { bundle, since }

end ShelteredBundle

end Sheltering
