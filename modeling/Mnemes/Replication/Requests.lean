import Mnemes.Store
import Mnemes.Replication.FactSupersede

/-!
# Admission and apply of signed replication

The store's methods for signed replication (`store.rs`): admitting and revoking a signing key,
applying a batch, and the shard functions they call. The fact-create and the fact-supersede family
run one protocol over their own gate and tables, so it is written once, with what differs between
them in `Family.code`; each method of the source is then that definition at its family.
-/

namespace Mnemes

open Concurrency Relational

variable {M : SemanticMemory}

/-! ## Shards -/

/-- `shard_relative_path`. -/
def shardRelativePath (device : DeviceId) : String := "memory/shards/" ++ device.text

/-- The path the catalog has for a device's shard. -/
def PooledDb.shardPath (db : PooledDb) (device : DeviceId) : Option String :=
  (db.deviceShards.find? device).map (·.relativePath)

/-- `device_memory`: look the shard up in the catalog, check its path, and open it. The shard's
lifecycle is not looked at. -/
def deviceMemory (device : DeviceId) : Op M Unit := do
  let catalogPath ← poolRead fun db =>
    match db.deviceShards.find? device with
    | some row => .ok row.relativePath
    | none => .error (.deviceNotFound device.text)
  if catalogPath ≠ shardRelativePath device then
    throw (.invalidShardCatalog
      s!"device {device.text} has non-deterministic path {catalogPath}")
  -- the section under the cache lock
  memoryCall fun s => (.ok (), s, [.shardOpened device])

/-- `MemoryStore::stats` of a device's shard. -/
def shardStats (device : DeviceId) : Op M MemoryStats :=
  memoryCall fun s => ((M.stats (s.shards device)).mapError .memory, s, [.countsRead device])

/-- `refresh_shard_counts`. -/
def refreshShardCounts (device : DeviceId) : Op M Unit := do
  deviceMemory device
  let stats ← shardStats device
  poolConn fun db x =>
    match db.deviceShards.find? device with
    | none => .error (.deviceNotFound device.text)
    | some _ =>
      let refresh (row : DeviceShard) : DeviceShard :=
        { row with
          counts := stats, generation := row.generation + 1, lastRefreshedAt := some x.now }
      let deviceShards := db.deviceShards.update (·.deviceId = device) refresh fun _ => rfl
      .ok ((), { db with deviceShards }, [.countsRefreshed device])

/-! ## What the families differ in -/

/-- The constants of a family: its error constructors and texts, the owner's apply function, and
whether the catalog counters are refreshed after an apply. -/
structure FamilyCode (M : SemanticMemory) where
  rejected : String → MnemesError
  /-- The text for an invalid admission record. -/
  invalidAdmission : String
  /-- The text for a batch without a matching admission. -/
  notAdmitted : String
  /-- The text for an acknowledgement whose epoch does not fit. -/
  ackEpochRange : String
  apply : M.Store → ReplicaEnvelopeV1 → Except MemoryError (ReplicaApplyOutcome × M.Store)
  /-- The error of a failed apply. -/
  applyError : MemoryError → MnemesError
  /-- The error of a conflicting answer. -/
  conflict : MnemesError
  refreshes : Bool

/-- The families of the source. -/
def Family.code (M : SemanticMemory) : Family → FamilyCode M
  | .factCreate =>
    { rejected := .factCreateRejected
      invalidAdmission := "invalid fact-create admission record"
      notAdmitted := "key admission, lifecycle, scope, epoch, or fencing token rejected"
      ackEpochRange := "stream epoch does not fit SQLite INTEGER"
      apply := M.applyVerifiedFactCreate
      applyError := .memory
      conflict := .factCreateRejected "semantic conflict"
      refreshes := true }
  | .factSupersede =>
    { rejected := .factSupersedeRejected
      invalidAdmission := "invalid fact-supersede admission record"
      notAdmitted :=
        "key admission, lifecycle, replacement namespace, epoch, or fencing token rejected"
      ackEpochRange := "owner stream epoch does not fit SQLite INTEGER"
      apply := M.applyVerifiedFactSupersede
      applyError := fun
        | .corruptData table rowId detail =>
          if detail = "fact-supersede semantic lineage digest mismatch" then
            .factSupersedeSemanticConflict
          else .memory (.corruptData table rowId detail)
        | error => .memory error
      conflict := .factSupersedeSemanticConflict
      refreshes := false }

/-- Either family's apply function is a transaction of the owner. -/
theorem Family.code_laws (F : Family) : OwnerApply M.genesis M.log (F.code M).apply := by
  cases F with
  | factCreate => exact M.factCreate_laws
  | factSupersede => exact M.factSupersede_laws

/-! ## Admissions -/

/-- The tables with those of one family replaced. -/
def PooledDb.setReplication (db : PooledDb) (F : Family) (tables : ReplicationTables) : PooledDb :=
  { db with replication := Function.update db.replication F tables }

/-- A number for an `INTEGER` column, or the family's range error. -/
def fitInteger (F : FamilyCode M) (name : String) (v : UInt64) : Except MnemesError Int64 :=
  match i64TryFrom v with
  | some x => .ok x
  | none => .error (F.rejected s!"{name} does not fit SQLite INTEGER")

/-- The epoch columns of an admission. -/
def fitEpochs (F : FamilyCode M) : List (String × UInt64) → Except MnemesError (List Int64)
  | [] => .ok []
  | (name, v) :: rest => do
    let x ← fitInteger F name v
    let xs ← fitEpochs F rest
    return x :: xs

/-- The record an admission must be to be stored. -/
def Admission.valid (a : Admission) : Bool :=
  !a.storeId.isEmpty && !a.namespace.isEmpty && !a.principalId.isEmpty &&
    !a.fencingToken.isEmpty && a.keyVersion != 0 && a.epochs.all (·.2 != 0) &&
    a.activatedAt ≤ a.cutoffAt

/-- The row that stores an admission. -/
def Admission.row (F : FamilyCode M) (a : Admission) : Except MnemesError AdmissionRow := do
  let keyVersion ← fitInteger F "key version" a.keyVersion
  let activatedAt ← fitInteger F "activation time" a.activatedAt
  let cutoffAt ← fitInteger F "cutoff time" a.cutoffAt
  let epochs ← fitEpochs F a.epochs
  return { scope := ⟨a.deviceId, a.storeId, a.namespace, a.principalId, keyVersion⟩
           publicKey := a.publicKey, activatedAt, cutoffAt, revoked := false, epochs
           fencingToken := a.fencingToken }

/-- `admit_fact_create_key` and `admit_fact_supersede_key`: store the admission, replacing and
reinstating one of the same scope. The device must be registered (a foreign key). -/
def admitKey (F : Family) (i : Tid) (a : Admission) : Op M Unit :=
  underGate i F do
    if !a.valid then throw ((F.code M).rejected (F.code M).invalidAdmission)
    let row ← liftM (a.row (F.code M))
    poolConn fun db _ => do
      if (db.devices.find? a.deviceId).isNone then throw (.database "FOREIGN KEY constraint failed")
      let tables := db.replication F
      let admissions := tables.admissions.upsert row
      return ((), db.setReplication F { tables with admissions }, [.admitted F a])

/-- `revoke_fact_create_key` and `revoke_fact_supersede_key`. -/
def revokeKey (F : Family) (i : Tid) (device : DeviceId) (storeId ns principalId : String)
    (keyVersion : UInt64) : Op M Unit :=
  underGate i F do
    poolConn fun db _ =>
      let scope : AdmissionScope := ⟨device, storeId, ns, principalId, keyVersion.toInt64⟩
      let tables := db.replication F
      let admissions :=
        tables.admissions.update (·.scope = scope) ({ · with revoked := true }) fun _ => rfl
      .ok ((), db.setReplication F { tables with admissions }, [.revoked F scope])

/-! ## Applying a batch -/

/-- `FactCreateAckRecord` and `FactSupersedeAckRecord`. -/
structure AckRecord where
  batchId : String
  requestDigest : String
  homeDeviceId : String
  storeId : String
  streamEpoch : UInt64
  acceptedHead : Int64
  disposition : String
  deriving DecidableEq

/-- The record a stored acknowledgement reads back as. -/
def AckRow.record (row : AckRow) : Except MnemesError AckRecord :=
  match u64TryFrom row.streamEpoch with
  | some streamEpoch => .ok { row with streamEpoch }
  | none => .error (.database "Integer 0 out of range at index 4")

/-- The row that stores an acknowledgement. -/
def AckRecord.row (F : FamilyCode M) (ack : AckRecord) : Except MnemesError AckRow :=
  match i64TryFrom ack.streamEpoch with
  | some streamEpoch => .ok { ack with streamEpoch }
  | none => .error (F.rejected F.ackEpochRange)

/-- `get_fact_create_ack_locked` and `get_fact_supersede_ack_locked`. -/
def getAckLocked (F : Family) (batchId : String) : Op M (Option AckRecord) :=
  poolRead fun db =>
    match (db.replication F).acks.find? batchId with
    | none => .ok none
    | some row => row.record.map some

/-- `persist_fact_create_ack_locked` and `persist_fact_supersede_ack_locked`. -/
def persistAckLocked (F : Family) (ack : AckRecord) : Op M Unit := do
  let row ← liftM (ack.row (F.code M))
  poolConn fun db _ =>
    let tables := db.replication F
    match tables.acks.insert? row with
    | none => .error (.database "UNIQUE constraint failed")
    | some acks => .ok ((), db.setReplication F { tables with acks }, [.acknowledged F row])

/-- The scope a batch about the namespace `ns` needs an admission of. -/
def Submission.scope (b : Submission) (device : DeviceId) (ns : String) : AdmissionScope :=
  ⟨device, b.storeId, ns, b.signerPrincipalId, b.signerKeyVersion.toInt64⟩

/-- An admission row covers a batch. -/
def AdmissionRow.covers (row : AdmissionRow) (b : Submission) : Bool :=
  row.publicKey = b.signerPublicKey && !row.revoked && 0 ≤ row.activatedAt &&
    row.activatedAt ≤ row.cutoffAt && row.activatedAt.toUInt64 ≤ b.observedAt &&
    b.observedAt ≤ row.cutoffAt.toUInt64 && row.epochs = b.epochs.map UInt64.toInt64 &&
    row.fencingToken = b.fencingToken

/-- `DeviceId::parse(&batch.home_device_id)?`. -/
def Submission.device (P : Platform) (b : Submission) : Except MnemesError DeviceId :=
  (DeviceId.parse P b.homeDeviceId).mapError .memory

/-- `check_fact_create_admission_inner` and `check_fact_supersede_admission_locked`. -/
def checkAdmissionLocked (P : Platform) (F : Family) (b : Submission) (ns : String) :
    Op M Unit := do
  let device ← liftM (b.device P)
  poolRead fun db =>
    match (db.replication F).admissions.find? (b.scope device ns) with
    | some row =>
      if row.covers b then .ok () else .error ((F.code M).rejected (F.code M).notAdmitted)
    | none => .error ((F.code M).rejected (F.code M).notAdmitted)

/-- `apply_verified_fact_create` and `apply_verified_fact_supersede` of the device's shard. -/
def ownerApply (F : Family) (b : Submission) (device : DeviceId) (envelope : ReplicaEnvelopeV1) :
    Op M ReplicaApplyOutcome :=
  ExceptT.mk (Proc.atomic fun s x =>
    match x.fault.elim ((F.code M).apply (s.shards device) envelope) (.error <| .other ·) with
    | .error error =>
      (.error ((F.code M).applyError error), s, [.ownerApplied F b device envelope (.error error)])
    | .ok (answer, shard) =>
      (.ok answer, { s with shards := Function.update s.shards device shard },
        [.ownerApplied F b device envelope (.ok answer)]))

/-- The part of an apply call after its batch identifier was found to be new. -/
def applyNewBatch (P : Platform) (F : Family) (b : Submission) (requestDigest : String) :
    Op M AckRecord := do
  let (envelope, ns) ← liftM b.project
  checkAdmissionLocked P F b ns
  let device ← liftM (b.device P)
  deviceMemory device
  let answer ← ownerApply F b device envelope
  match answer.accepted with
  | none => throw (F.code M).conflict
  | some acceptedHead =>
    if (F.code M).refreshes then refreshShardCounts device
    let ack : AckRecord :=
      { batchId := b.batchId, requestDigest, homeDeviceId := b.homeDeviceId, storeId := b.storeId
        streamEpoch := b.ownerStreamEpoch, acceptedHead, disposition := "accepted" }
    persistAckLocked F ack
    return ack

/-- The apply call of a family: under the gate, answer a known batch identifier from its
acknowledgement, and admit, apply and acknowledge a new one. -/
def applyRequest (P : Platform) (F : Family) (i : Tid) (b : Submission) (requestDigest : String) :
    Op M AckRecord :=
  underGate i F do
    match ← getAckLocked F b.batchId with
    | some existing =>
      if existing.requestDigest ≠ requestDigest then
        throw ((F.code M).rejected "batch id digest collision")
      else return existing
    | none => applyNewBatch P F b requestDigest

/-- What `apply_fact_create_request` reads of a batch. The batch must have one entry; its namespace
is the one the owner finds in the payload. -/
def SignedFactCreateBatchV1.submission (P : Platform) (M : SemanticMemory)
    (b : SignedFactCreateBatchV1) : Submission where
  batchId := b.batchId
  homeDeviceId := b.homeDeviceId
  storeId := b.storeId
  signerPrincipalId := b.signerPrincipalId
  signerKeyVersion := b.signerKeyVersion
  observedAt := b.observedAt
  fencingToken := b.fencingToken
  signerPublicKey := b.signerPublicKey
  epochs := [b.streamEpoch]
  ownerStreamEpoch := b.streamEpoch
  project :=
    match b.entries with
    | [entry] => do
      let _ ← (b.semanticEnvelopes P M).mapError fun e => .replication e.display
      let envelope := b.toSemanticEnvelope entry
      let payload ← (M.validateFactCreateReplicaEnvelope envelope).mapError .factCreateRejected
      return (envelope, payload.namespace)
    | _ => throw (.factCreateRejected "V1 accepts exactly one entry")

/-- What `apply_fact_supersede_request` reads of a batch. -/
def SignedFactSupersedeBatchV1.submission (P : Platform) (M : SemanticMemory)
    (b : SignedFactSupersedeBatchV1) : Submission where
  batchId := b.batchId
  homeDeviceId := b.homeDeviceId
  storeId := b.storeId
  signerPrincipalId := b.signerPrincipalId
  signerKeyVersion := b.signerKeyVersion
  observedAt := b.observedAt
  fencingToken := b.fencingToken
  signerPublicKey := b.signerPublicKey
  epochs := [b.storeEpoch, b.writerEpoch]
  ownerStreamEpoch := b.ownerStreamEpoch
  project := do
    let envelope ← (b.semanticEnvelope P M).mapError fun e => .replication e.display
    let ns ← (replacementNamespace M envelope).mapError fun e => .factSupersedeRejected e.display
    return (envelope, ns)

/-- `FactCreateAdmission`. -/
structure FactCreateAdmission where
  deviceId : DeviceId
  storeId : String
  «namespace» : String
  principalId : String
  keyVersion : UInt64
  publicKey : Bytes32
  activatedAt : UInt64
  cutoffAt : UInt64
  streamEpoch : UInt64
  fencingToken : String
  deriving DecidableEq

/-- The admission a fact-create record asks for. -/
def FactCreateAdmission.admission (a : FactCreateAdmission) : Admission :=
  { a with epochs := [("stream epoch", a.streamEpoch)] }

/-- `FactSupersedeAdmission`. -/
structure FactSupersedeAdmission where
  deviceId : DeviceId
  storeId : String
  replacementNamespace : String
  principalId : String
  keyVersion : UInt64
  publicKey : Bytes32
  activatedAt : UInt64
  cutoffAt : UInt64
  storeEpoch : UInt64
  writerEpoch : UInt64
  fencingToken : String
  deriving DecidableEq

/-- The admission a fact-supersede record asks for. -/
def FactSupersedeAdmission.admission (a : FactSupersedeAdmission) : Admission :=
  { a with
    «namespace» := a.replacementNamespace
    epochs := [("store epoch", a.storeEpoch), ("writer epoch", a.writerEpoch)] }

/-- `admit_fact_create_key`. -/
def admitFactCreateKey (i : Tid) (a : FactCreateAdmission) : Op M Unit :=
  admitKey .factCreate i a.admission

/-- `revoke_fact_create_key`. -/
def revokeFactCreateKey (i : Tid) (device : DeviceId) (storeId ns principalId : String)
    (keyVersion : UInt64) : Op M Unit :=
  revokeKey .factCreate i device storeId ns principalId keyVersion

/-- `apply_fact_create_request`. -/
def applyFactCreateRequest (P : Platform) (i : Tid) (b : SignedFactCreateBatchV1)
    (requestDigest : String) : Op M AckRecord :=
  applyRequest P .factCreate i (b.submission P M) requestDigest

/-- `admit_fact_supersede_key`. -/
def admitFactSupersedeKey (i : Tid) (a : FactSupersedeAdmission) : Op M Unit :=
  admitKey .factSupersede i a.admission

/-- `revoke_fact_supersede_key`. -/
def revokeFactSupersedeKey (i : Tid) (device : DeviceId) (storeId ns principalId : String)
    (keyVersion : UInt64) : Op M Unit :=
  revokeKey .factSupersede i device storeId ns principalId keyVersion

/-- `apply_fact_supersede_request`. -/
def applyFactSupersedeRequest (P : Platform) (i : Tid) (b : SignedFactSupersedeBatchV1)
    (requestDigest : String) : Op M AckRecord :=
  applyRequest P .factSupersede i (b.submission P M) requestDigest

end Mnemes
