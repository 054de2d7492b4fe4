import Freehold.Cache
import Freehold.Cell
import Freehold.Claim
import Freehold.Claiming
import Freehold.Config
import Freehold.Data
import Freehold.Data.Config
import Freehold.Data.Entities
import Freehold.DebugText
import Freehold.Directory
import Freehold.Error
import Freehold.Event
import Freehold.Identity
import Freehold.KeyedLocks
import Freehold.Lifecycle
import Freehold.Marks
import Freehold.Operation
import Freehold.Order
import Freehold.Pricing
import Freehold.Proofs.Acceptance
import Freehold.Proofs.Adjacency
import Freehold.Proofs.Atomicity
import Freehold.Proofs.AuditTrail
import Freehold.Proofs.Batch
import Freehold.Proofs.CacheChanges
import Freehold.Proofs.CacheWrites
import Freehold.Proofs.Calendar
import Freehold.Proofs.Checks
import Freehold.Proofs.Command
import Freehold.Proofs.Components
import Freehold.Proofs.ConfigText
import Freehold.Proofs.Contest
import Freehold.Proofs.Departure
import Freehold.Proofs.DirectoryChanges
import Freehold.Proofs.DirectoryMirror
import Freehold.Proofs.DirectoryRebuilt
import Freehold.Proofs.DirectoryRows
import Freehold.Proofs.DirectorySound
import Freehold.Proofs.Disbanding
import Freehold.Proofs.Expansion
import Freehold.Proofs.Failure
import Freehold.Proofs.Founding
import Freehold.Proofs.FreeSlots
import Freehold.Proofs.Gate
import Freehold.Proofs.Healing
import Freehold.Proofs.Independence
import Freehold.Proofs.Keyed
import Freehold.Proofs.LandIndex
import Freehold.Proofs.Lifetime
import Freehold.Proofs.LockTable
import Freehold.Proofs.Log
import Freehold.Proofs.Managed
import Freehold.Proofs.Moves
import Freehold.Proofs.NewcomerLimit
import Freehold.Proofs.Offers
import Freehold.Proofs.Ownership
import Freehold.Proofs.Passing
import Freehold.Proofs.Plans
import Freehold.Proofs.Quotes
import Freehold.Proofs.ReadBack
import Freehold.Proofs.Refunds
import Freehold.Proofs.Regions
import Freehold.Proofs.Reload
import Freehold.Proofs.Request
import Freehold.Proofs.Restart
import Freehold.Proofs.Returning
import Freehold.Proofs.Rules
import Freehold.Proofs.Sync
import Freehold.Proofs.TimestampText
import Freehold.Proofs.TomlText
import Freehold.Proofs.UuidText
import Freehold.Proofs.Verdict
import Freehold.Proofs.VillageLand
import Freehold.Proofs.VillageNames
import Freehold.Proofs.VillageRights
import Freehold.Proofs.VillageRows
import Freehold.Protection
import Freehold.Race
import Freehold.Realm
import Freehold.Region
import Freehold.Request
import Freehold.Sample
import Freehold.Store
import Freehold.Store.Faults
import Freehold.Text.Blank
import Freehold.Text.CaseContext
import Freehold.Text.CaseMap
import Freehold.Text.Digits
import Freehold.Text.LowerCase
import Freehold.Timestamp
import Freehold.Timestamp.Calendar
import Freehold.Timestamp.Text
import Freehold.Toml.Config
import Freehold.Toml.Document
import Freehold.Toml.Inline
import Freehold.Toml.Quoted
import Freehold.Toml.Scalar
import Freehold.Toml.Table
import Freehold.Toml.Value
import Freehold.Uuid
import Freehold.Village
import Freehold.Village.Authority
import Freehold.Village.Founding
import Freehold.Village.Grants
import Freehold.Village.Land
import Freehold.Village.Members
import Freehold.Village.Name
import Freehold.Vocabulary
