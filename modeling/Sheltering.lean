import Sheltering.Main
import Sheltering.Proofs.Backoff.History
import Sheltering.Proofs.Backoff.Length
import Sheltering.Proofs.Config.Layers
import Sheltering.Proofs.Config.Runnable
import Sheltering.Proofs.Instant.Calendar
import Sheltering.Proofs.Journal
import Sheltering.Proofs.Lease.Deadline
import Sheltering.Proofs.Lease.Race
import Sheltering.Proofs.Reconcile.Excerpt
import Sheltering.Proofs.Reconcile.Redelivery
import Sheltering.Proofs.Resolver.Batch
import Sheltering.Proofs.Resolver.Delivery
import Sheltering.Proofs.Resolver.Discipline
import Sheltering.Proofs.Resolver.Fallback
import Sheltering.Proofs.Resolver.Independence
import Sheltering.Proofs.Resolver.Recorded
import Sheltering.Proofs.Resolver.Session
import Sheltering.Proofs.Scheduler.Timeline
import Sheltering.Proofs.Schema.Resume
import Sheltering.Proofs.Schema.Startup
import Sheltering.Proofs.Shelter
import Sheltering.Proofs.Tick.Fleet
import Sheltering.Proofs.Tick.Note
import Sheltering.Proofs.Tick.Release
import Sheltering.Resolver.Chance
import Sheltering.Resolver.Script.Written
import Sheltering.Resolver.Storage
import Sheltering.Tick.Script
