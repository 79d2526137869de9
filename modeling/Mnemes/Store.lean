import Mnemes.Lib.RelyGuarantee
import Mnemes.Lib.Table
import Mnemes.Profile.Scope
import Mnemes.SemanticMemory

/-!
# The control-plane store

`MnemesStore` is the state the server's calls share: the tables of `pooled.db`, the two replication
gates, and the shards the owner keeps. An asynchronous method is a process over it (`Op`) whose
actions are the critical sections under the pool lock, the calls of the owner, and taking and giving
back a gate. A section is one statement or one transaction: where it fails it leaves the database as
it was, with an error of its own or with the fault the environment chose (`Choice`).

The bounded cache of open shard handles is left out: a handle names its shard.
-/

namespace Mnemes

open Concurrency Relational

/-! ## Tables -/

/-- A row of `devices`. -/
structure Device where
  deviceId : DeviceId
  label : String
  platform : String
  hostname : String
  credentialFingerprint : Option String
  firstSeenAt : String
  lastSeenAt : String
  status : DeviceStatus
  deriving DecidableEq, Repr

/-- The tool profile an actor is granted. -/
inductive ToolProfile where
  | agent
  | operator
  deriving DecidableEq, Repr

/-- A row of `actors`. -/
structure Actor where
  actorId : ActorId
  deviceId : DeviceId
  toolProfile : ToolProfile
  actorKind : String
  providerModel : Option String
  recordedAt : String
  deriving DecidableEq, Repr

/-- A row of `device_shards`: its lifecycle, its counters, and the summary the router reads. The
latencies of the searches of the shard stand for their number (`search_count`) and their moving
average (`ewma_latency_ms`). -/
structure DeviceShard where
  deviceId : DeviceId
  relativePath : String
  state : ShardState
  generation : Nat
  routingTerms : String := ""
  namespaces : List String := []
  counts : MemoryStats
  lastRefreshedAt : Option String
  searchLatencies : List UInt64 := []
  deriving DecidableEq, Repr

/-- The two families of signed replication, each with its own gate and tables. -/
inductive Family where
  | factCreate
  | factSupersede
  deriving DecidableEq, Repr

/-- The primary key of an admission: device, store, namespace (of the replacement, for a
supersession), principal and key version. -/
structure AdmissionScope where
  deviceId : DeviceId
  storeId : String
  «namespace» : String
  principalId : String
  keyVersion : Int64
  deriving DecidableEq

/-- A row of `fact_create_admissions` (`epochs` is the stream epoch) or of
`fact_supersede_admissions` (the store epoch and the writer epoch). -/
structure AdmissionRow where
  scope : AdmissionScope
  publicKey : Bytes32
  activatedAt : Int64
  cutoffAt : Int64
  revoked : Bool
  epochs : List Int64
  fencingToken : String
  deriving DecidableEq

/-- A row of `fact_create_acks` or `fact_supersede_acks`; the epoch is the owner's stream epoch. -/
structure AckRow where
  batchId : String
  requestDigest : String
  homeDeviceId : String
  storeId : String
  streamEpoch : Int64
  acceptedHead : Int64
  disposition : String
  deriving DecidableEq

/-- The tables of one family. -/
structure ReplicationTables where
  admissions : Table AdmissionRow AdmissionRow.scope
  acks : Table AckRow AckRow.batchId

/-- The semantic class of an operation. -/
inductive OperationKind where
  | observe
  | assert
  | supersede
  | revoke
  | redact
  | adjudicate
  deriving DecidableEq, Repr

/-- An operation envelope, and a row of `operation_envelopes`. -/
structure OperationEnvelope where
  operationId : OperationId
  idempotencyKey : String
  requestingDeviceId : DeviceId
  requestingActorId : ActorId
  recordingDeviceId : DeviceId
  recordingServerId : DeviceId
  operationKind : OperationKind
  targetKind : String
  targetId : String
  contentDigest : String
  observedAt : Option String
  validTime : Option String
  recordedAt : String
  receiptId : Option String
  deriving DecidableEq, Repr

/-- A typed node of the provenance graph. -/
structure MemoryItemRef where
  kind : String
  id : String
  deriving DecidableEq, Repr

/-- The relation a provenance edge states. -/
inductive ProvenanceEdgeType where
  | observedBy
  | recordedBy
  | derivedFrom
  | supports
  | contradicts
  | supersedes
  | retrievedFrom
  deriving DecidableEq, Repr

/-- A row of `provenance_edges`: its times and its metadata are texts. -/
structure ProvenanceEdgeRow where
  edgeId : ProvenanceEdgeId
  edgeType : ProvenanceEdgeType
  source : MemoryItemRef
  target : MemoryItemRef
  operationId : Option OperationId
  actorId : Option ActorId
  deviceId : Option DeviceId
  validFrom : Option String
  validTo : Option String
  observedAt : Option String
  recordedAt : String
  contentDigest : Option String
  metadata : Option String
  supersedesEdgeId : Option ProvenanceEdgeId
  deriving DecidableEq, Repr

/-- A row of `memory_access_grants`. -/
structure MemoryAccessGrantRow where
  grantId : MemoryGrantId
  granteeProfileId : MemoryProfileId
  storeId : String
  «namespace» : String
  effect : MemoryAccessEffect
  issuedByActorId : ActorId
  window : Window
  createdAt : String
  deriving DecidableEq

/-- A row of `actor_profile_bindings`, with the `CHECK`s on its epoch and digest. -/
structure ActorProfileBindingRow where
  bindingId : ActorProfileBindingId
  actorId : ActorId
  profileId : MemoryProfileId
  ownerDeviceId : DeviceId
  issuedByActorId : ActorId
  window : Window
  bindingEpoch : Int64
  bindingDigest : String
  recordedAt : String
  epoch_pos : 0 < bindingEpoch
  digest_length : bindingDigest.length = 64
  deriving DecidableEq

/-- A row of `synced_facts`: a source fact a device has delivered. -/
structure SyncedFact where
  sourceFactId : String
  deviceId : DeviceId
  serverFactId : String
  syncedAt : String
  deriving DecidableEq, Repr

/-- The primary key of a synced fact. -/
def SyncedFact.key (row : SyncedFact) : String × DeviceId := (row.sourceFactId, row.deviceId)

/-- What a cell of a table may hold, whatever its column was declared to be. -/
inductive SqlValue where
  | null
  | integer (v : Int64)
  | real
  | text (v : String)
  | blob
  deriving DecidableEq, Repr

/-- A row of `profile_routing_receipts`. -/
structure ProfileRoutingReceiptRow where
  receiptId : SqlValue
  requesterActorId : SqlValue
  subjectProfileId : SqlValue
  authorizationSnapshotDigest : SqlValue
  receiptJson : SqlValue
  receiptDigest : SqlValue
  recordedAt : SqlValue
  deriving DecidableEq, Repr

/-- A row of `shard_routing_receipts`. -/
structure ShardRoutingReceiptRow where
  receiptId : SqlValue
  requesterDeviceId : SqlValue
  querySha256 : SqlValue
  shardBudget : SqlValue
  actualSelectedShardCount : SqlValue
  exhaustive : SqlValue
  eligibleShardsJson : SqlValue
  rankedShardsJson : SqlValue
  selectedShardsJson : SqlValue
  skippedShardsJson : SqlValue
  outcomesJson : SqlValue
  fallbackReason : SqlValue
  finalResultIdsJson : SqlValue
  mergeDigest : SqlValue
  receiptDigest : SqlValue
  recordedAt : SqlValue
  deriving DecidableEq, Repr

/-- The outcome of a request that is audited. -/
inductive AuditOutcome where
  | ok
  | denied
  | error
  deriving DecidableEq, Repr

/-- A row of `audit_events`. -/
structure AuditEvent where
  eventId : String
  deviceId : Option DeviceId
  actorId : Option ActorId
  endpoint : String
  method : String
  outcome : AuditOutcome
  detail : Option String
  createdAt : String
  deriving DecidableEq, Repr

/-- The tables of `pooled.db`. The receipt tables are lists of any cells: what is read from them is
not taken for what was written. -/
structure PooledDb where
  devices : Table Device Device.deviceId
  actors : Table Actor Actor.actorId
  operations : Table OperationEnvelope OperationEnvelope.operationId
  deviceShards : Table DeviceShard DeviceShard.deviceId
  replication : Family → ReplicationTables
  memoryProfiles : Table MemoryProfile MemoryProfile.profileId := .empty
  memoryStores : Table MemoryStoreIdentity MemoryStoreIdentity.storeId := .empty
  memoryAccessGrants : Table MemoryAccessGrantRow MemoryAccessGrantRow.grantId := .empty
  actorProfileBindings : Table ActorProfileBindingRow ActorProfileBindingRow.bindingId := .empty
  provenanceEdges : Table ProvenanceEdgeRow ProvenanceEdgeRow.edgeId := .empty
  syncedFacts : Table SyncedFact SyncedFact.key := .empty
  profileRoutingReceipts : List ProfileRoutingReceiptRow := []
  shardRoutingReceipts : List ShardRoutingReceiptRow := []
  auditEvents : Table AuditEvent AuditEvent.eventId := .empty

/-- The shared state: the database, who holds each replication gate, and the owner's shards. -/
structure MnemesStore (M : SemanticMemory) where
  db : PooledDb
  gate : Family → Option Tid
  shards : DeviceId → M.Store

/-! ## Processes over the store -/

/-- What the environment decides inside one action: whether the statement or the call fails, with
the text of the failure, and the time the clock shows. -/
structure Choice where
  fault : Option String
  now : String
  deriving DecidableEq

/-- A key admission as it is requested, before its numbers are stored. Each epoch comes with the
name its range error uses. -/
structure Admission where
  deviceId : DeviceId
  storeId : String
  «namespace» : String
  principalId : String
  keyVersion : UInt64
  publicKey : Bytes32
  activatedAt : UInt64
  cutoffAt : UInt64
  epochs : List (String × UInt64)
  fencingToken : String
  deriving DecidableEq

/-- What an apply call of either family reads of its signed batch; `project` is the owner's envelope
and the namespace it is about, once the batch is validated. -/
structure Submission where
  batchId : String
  homeDeviceId : String
  storeId : String
  signerPrincipalId : String
  signerKeyVersion : UInt64
  observedAt : UInt64
  fencingToken : String
  signerPublicKey : Bytes32
  epochs : List UInt64
  ownerStreamEpoch : UInt64
  project : Except MnemesError (ReplicaEnvelopeV1 × String)
  deriving DecidableEq

/-- What a history records of the actions. -/
inductive Event where
  /-- A key was admitted, or admitted again. -/
  | admitted (F : Family) (admission : Admission)
  /-- A revocation of the scope was carried out. -/
  | revoked (F : Family) (scope : AdmissionScope)
  /-- The owner was asked to apply an envelope to a device's shard, and answered. -/
  | ownerApplied (F : Family) (b : Submission) (device : DeviceId) (envelope : ReplicaEnvelopeV1)
    (answer : Except MemoryError ReplicaApplyOutcome)
  /-- An acknowledgement was stored. -/
  | acknowledged (F : Family) (row : AckRow)
  /-- The status of a device was changed. -/
  | statusSet (device : DeviceId) (status : DeviceStatus)
  /-- The store of a device's shard was opened, or its open handle was taken. -/
  | shardOpened (device : DeviceId)
  /-- The store of a device's shard was asked for its counters. -/
  | countsRead (device : DeviceId)
  /-- The counters of a device's shard were copied into the catalog. -/
  | countsRefreshed (device : DeviceId)
  /-- An authentication read the status of a device, and found it active. -/
  | statusChecked (device : DeviceId)
  /-- The row of a device was read. -/
  | deviceRead (device : DeviceId) (status : DeviceStatus)
  /-- A submission looked its idempotency key up, and no operation had it. -/
  | operationMissing (idempotencyKey : String)
  /-- An operation was stored. -/
  | operationStored (row : OperationEnvelope)
  /-- The registered devices were counted. -/
  | registryCounted (count : Nat)
  /-- A device was registered. -/
  | deviceRegistered (device : DeviceId)
  /-- A fact was added to a device's shard. -/
  | factAdded (device : DeviceId)
  deriving DecidableEq

/-- A call over the store. -/
abbrev Op (M : SemanticMemory) (α : Type) :=
  ExceptT MnemesError (Proc (MnemesStore M) Choice Event) α

variable {M : SemanticMemory} {α : Type}

/-- One section under the pool lock. -/
def poolConn (f : PooledDb → Choice → Except MnemesError (α × PooledDb × List Event)) : Op M α :=
  ExceptT.mk (Proc.atomic fun s x =>
    match x.fault with
    | some error => (.error (.database error), s, [])
    | none =>
      match f s.db x with
      | .error e => (.error e, s, [])
      | .ok (a, db, es) => (.ok a, { s with db }, es))

/-- A section that reads only. -/
def poolRead (f : PooledDb → Except MnemesError α) : Op M α :=
  poolConn fun db _ => (f db).map (·, db, [])

/-- A query whose failure the code takes for an empty result (`.ok()`), with the events to record of
what it found. -/
def poolReadOk (f : PooledDb → Option α) (note : α → List Event) : Op M (Option α) :=
  ExceptT.mk (Proc.atomic fun s x =>
    match x.fault with
    | some _ => (.ok none, s, [])
    | none => (.ok (f s.db), s, (f s.db).elim [] note))

/-- One call of the owner. -/
def memoryCall (f : MnemesStore M → Except MnemesError α × MnemesStore M × List Event) : Op M α :=
  ExceptT.mk (Proc.atomic fun s x =>
    match x.fault with
    | some error => (.error (.memory (.other error)), s, [])
    | none => f s)

/-- Run `t` as call `i` while holding the gate of the family `F`. -/
def underGate (i : Tid) (F : Family) (t : Op M α) : Op M α :=
  ExceptT.mk (Proc.locked (fun s => (s.gate F).isNone)
    (fun s => { s with gate := Function.update s.gate F (some i) })
    (fun s => { s with gate := Function.update s.gate F none }) t.run)

/-! ## Calls that run alone -/

section
variable {β : Type} {x : Choice} (hx : x.fault = none) {k : α → Op M β} {s : MnemesStore M}

/-- A value alone goes on with the value, and an error ends the call. -/
theorem alone_lift {r : Except MnemesError α} :
    ((liftM r : Op M α) >>= k).run.alone x s =
      match r with
      | .ok a => (k a).run.alone x s
      | .error e => (some (.error e), s) := by
  cases r <;> rfl

include hx

/-- A section alone, without a fault, goes on with its result and its database. -/
theorem alone_poolConn {f : PooledDb → Choice → Except MnemesError (α × PooledDb × List Event)} :
    (poolConn f >>= k).run.alone x s =
      match f s.db x with
      | .ok (a, db, _) => (k a).run.alone x { s with db }
      | .error e => (some (.error e), s) := by
  unfold poolConn
  rw [Proc.alone_attempt]
  simp only [hx]
  cases f s.db x <;> rfl

/-- A section that reads goes on with what it reads. -/
theorem alone_poolRead {f : PooledDb → Except MnemesError α} :
    (poolRead f >>= k).run.alone x s =
      match f s.db with
      | .ok a => (k a).run.alone x s
      | .error e => (some (.error e), s) := by
  unfold poolRead
  rw [alone_poolConn hx]
  cases f s.db <;> rfl

/-- A call of the owner goes on with its result and its shards. -/
theorem alone_memoryCall {f : MnemesStore M → Except MnemesError α × MnemesStore M × List Event} :
    (memoryCall f >>= k).run.alone x s =
      match (f s).1 with
      | .ok a => (k a).run.alone x (f s).2.1
      | .error e => (some (.error e), (f s).2.1) := by
  unfold memoryCall
  rw [Proc.alone_attempt]
  simp only [hx]
  cases (f s).1 <;> rfl

end

/-- A dropped call gives back the gates it holds. -/
def releaseGates (i : Tid) (s : MnemesStore M) : MnemesStore M :=
  { s with gate := fun F => if s.gate F = some i then none else s.gate F }

end Mnemes
