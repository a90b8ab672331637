import Sheltering.Fetch
import Sheltering.Resolver.Query
import Sheltering.Shelter

/-!
# The storage of bundles

A `Storage` fetches bundles from other nodes and remembers which ones this node shelters.

* `Storage.download`, `Storage.mark`: what it does.
* `Storage.reply`: how it answers a resolver's questions about bundles at the reading of a clock.
-/

namespace Sheltering

/-- The nodes, the web between them, and the bundles that this node shelters. -/
structure Storage where
  directory : Directory
  web : Web
  shelter : ShelterTable := {}

namespace Storage

/-- Fetches the metadata of a bundle from a node, within some milliseconds. -/
def download (s : Storage) (bundle node : String) (timeout : UInt64) :
    Except DownloadFault BundleMetadata :=
  fetch s.directory s.web bundle node timeout

/-- Marks a bundle as sheltered since an instant. -/
def mark (s : Storage) (bundle : String) (now : Instant) : Storage :=
  { s with shelter := s.shelter.mark bundle now }

/-- Answers a question about bundles; no other question. -/
def reply (s : Storage) (now : Instant) : (q : Query) → Option (Query.Answer q × Storage)
  | .download bundle node timeout => some (s.download bundle node timeout, s)
  | .mark bundle => some (.ok (), s.mark bundle now)
  | _ => none

end Storage

end Sheltering
