import Mnemes.Lib.Proc
import Mnemes.Lib.RelyGuarantee
import Mnemes.Lib.Yields
import Mnemes.Lib.Steps
import Mnemes.Lib.Keeps
import Mnemes.Lib.Alone
import Mnemes.Lib.Layouts
import Mnemes.Lib.Table
import Mnemes.Lib.Noninterference
import Mnemes.Lib.Lists
import Mnemes.Lib.Commitment
import Mnemes.Lib.Json
import Mnemes.Lib.Ranking
import Mnemes.Lib.Recency
import Mnemes.Lib.Files
import Mnemes.Lib.Walks
import Mnemes.Lib.Rfc3339.Digits
import Mnemes.Lib.Rfc3339.Calendar
import Mnemes.Lib.Rfc3339
import Mnemes.Lib.Rfc3339.Read
import Mnemes.Types
import Mnemes.SemanticMemory
import Mnemes.Store
import Mnemes.Registry
import Mnemes.Replication.FactCreate
import Mnemes.Replication.FactSupersede
import Mnemes.Replication.Envelope
import Mnemes.Replication.Preimages
import Mnemes.Replication.HashChain
import Mnemes.Replication.Collision
import Mnemes.Replication.TrustedKeys
import Mnemes.Replication.Requests
import Mnemes.Server
import Mnemes.Replication.Transport
import Mnemes.Replication.Discipline
import Mnemes.Conformance
import Mnemes.Replication.Admission
import Mnemes.Replication.Acknowledgement
import Mnemes.Replication.Cutoff
import Mnemes.Replication.Interference
import Mnemes.Operations
import Mnemes.SyncClient
import Mnemes.Replication.Delivery
import Mnemes.Profile.Scope
import Mnemes.Profile.Snapshot
import Mnemes.Profile.Registry
import Mnemes.Profile.Policy
import Mnemes.Profile.Authorization
import Mnemes.Profile.Runs
import Mnemes.Profile.Bindings
import Mnemes.Profile.Decisions
import Mnemes.Profile.Revocation
import Mnemes.Profile.Isolation
import Mnemes.Profile.Digest
import Mnemes.Profile.Permits
import Mnemes.Provenance.Edges
import Mnemes.Provenance.ItemKeys
import Mnemes.Provenance.Lineage
import Mnemes.Provenance.Past
import Mnemes.Provenance.Chronology
import Mnemes.Provenance.Appends
import Mnemes.Provenance.Storage
import Mnemes.Provenance.Reach
import Mnemes.Provenance.Projection
import Mnemes.Catalog
import Mnemes.Credentials
import Mnemes.Registration
import Mnemes.Replication.Counts
import Mnemes.Replication.FactSync
import Mnemes.Receipts
import Mnemes.Search.Merge
import Mnemes.Search.Routed
import Mnemes.Search.ShardRanking
import Mnemes.Search.Profile
import Mnemes.Search.Confinement
import Mnemes.Sync.Journal
import Mnemes.Sync.Replica
import Mnemes.Sync.Batch
import Mnemes.Schema.Statements
import Mnemes.Schema.Opening
import Mnemes.ShardCache
import Mnemes.ReceiptKey
import Mnemes.Schema.Reopening
import Mnemes.Reconcile
import Mnemes.RunPack.Attempts
import Mnemes.Server.History
import Mnemes.Server.Http
import Mnemes.Server.Mcp
import Mnemes.Server.Effects
import Mnemes.Server.Requests
import Mnemes.Server.Privilege
