import Mathlib.Data.List.Sort
import Mnemes.Profile.Snapshot
import Mnemes.Replication.Requests

/-!
# The profile, store and grant registry

The methods of the store (`store.rs`) that register devices, actors, profiles and stores, issue and
revoke grants and bindings, change lifecycles, and decide accesses. Each of them checks its argument
and then runs one critical section (`Method`); only the snapshot is built from several.

The foreign keys of the profile tables are rows that the same section has just read.
-/

namespace Mnemes

open Concurrency Relational

variable {M : SemanticMemory} {α : Type}

/-! ## Methods of one section -/

/-- A method: what it checks before it takes the pool lock, and its section under the lock. -/
structure Method (α : Type) where
  check : Except MnemesError Unit := .ok ()
  body : PooledDb → Choice → Except MnemesError (α × PooledDb × List Event)

/-- The call of a method. -/
def Method.op (m : Method α) : Op M α := do
  liftM m.check
  poolConn m.body

/-- The method on a database: its result and the database it leaves, or its error. -/
def Method.exec (m : Method α) (db : PooledDb) (x : Choice) :
    Except MnemesError (α × PooledDb) := do
  m.check
  match x.fault with
  | some error => throw (.database error)
  | none =>
    let (a, db, _) ← m.body db x
    return (a, db)

/-- The database after the method: a failed one leaves it as it was. -/
def Method.next (m : Method α) (db : PooledDb) (x : Choice) : PooledDb :=
  match m.exec db x with
  | .ok (_, db) => db
  | .error _ => db

/-! ## Devices and actors -/

/-- The catalog row of a new device. -/
def newShardRow (device : Device) : DeviceShard where
  deviceId := device.deviceId
  relativePath := shardRelativePath device.deviceId
  state := .ofDeviceStatus device.status
  generation := 1
  counts := ⟨0, 0, 0, 0⟩
  lastRefreshedAt := none

/-- `register_device`: the device and its catalog row, in one transaction. -/
def registerDevice (device : Device) : Method DeviceId where
  body db x := do
    let devices ← okOr
      (db.devices.insert? { device with firstSeenAt := x.now, lastSeenAt := x.now })
      (.database "UNIQUE constraint failed: devices.device_id")
    -- `INSERT OR IGNORE`
    let deviceShards := (db.deviceShards.insert? (newShardRow device)).getD db.deviceShards
    return (device.deviceId, { db with devices, deviceShards }, [])

/-- A change of status keeps the device. -/
theorem statusSet_deviceId (status : DeviceStatus) (x : Choice) (row : Device) :
    ({ row with status := status, lastSeenAt := x.now } : Device).deviceId = row.deviceId := rfl

/-- A change of state keeps the shard's device. -/
theorem stateSet_deviceId (status : DeviceStatus) (row : DeviceShard) :
    ({ row with state := .ofDeviceStatus status } : DeviceShard).deviceId = row.deviceId := rfl

/-- `set_device_status`, as a method. -/
def deviceStatusMethod (device : DeviceId) (status : DeviceStatus) : Method Unit where
  body db x := do
    let _ ← okOr (db.devices.find? device) (.deviceNotFound device.text)
    let devices := db.devices.update (·.deviceId = device)
      ({ · with status := status, lastSeenAt := x.now }) (statusSet_deviceId status x)
    let deviceShards := db.deviceShards.update (·.deviceId = device)
      ({ · with state := .ofDeviceStatus status }) (stateSet_deviceId status)
    return ((), { db with devices, deviceShards }, [.statusSet device status])

/-- `rotate_device_credential`, with the digest of the generated credential. -/
def rotateDeviceCredential (device : DeviceId) (digest : String) : Method Unit where
  body db x := do
    let _ ← okOr (db.devices.find? device) (.deviceNotFound device.text)
    let devices := db.devices.update (·.deviceId = device)
      ({ · with credentialFingerprint := some digest, lastSeenAt := x.now }) fun _ => rfl
    return ((), { db with devices }, [])

/-- `heartbeat_device`: only the row of an active device is touched. -/
def heartbeatDevice (device : DeviceId) : Method Unit where
  body db x := do
    let _ ← okOr ((db.devices.find? device).filter (·.status = .active))
      (.deviceNotFound device.text)
    let devices := db.devices.update (·.deviceId = device) ({ · with lastSeenAt := x.now })
      fun _ => rfl
    return ((), { db with devices }, [])

/-- `register_actor`. -/
def registerActor (actor : Actor) : Method ActorId where
  body db x := do
    let actors ← okOr (db.actors.insert? { actor with recordedAt := x.now })
      (.database "UNIQUE constraint failed: actors.actor_id")
    if (db.devices.find? actor.deviceId).isNone then
      throw (.database "FOREIGN KEY constraint failed")
    return (actor.actorId, { db with actors }, [])

/-- `bootstrap`: the first device and its operator, in one transaction; `digest` is that of the
generated credential. -/
def bootstrap (device : Device) (actor : ActorId) (actorKind digest : String) :
    Method (DeviceId × ActorId) where
  body db x := do
    if !db.devices.rows.isEmpty then
      throw (.bootstrapRejected "bootstrap requires an empty device registry")
    let devices ← okOr
      (db.devices.insert? { device with
        credentialFingerprint := some digest, firstSeenAt := x.now, lastSeenAt := x.now })
      (.database "UNIQUE constraint failed: devices.device_id")
    let operator : Actor :=
      { actorId := actor
        deviceId := device.deviceId
        toolProfile := .operator
        actorKind := actorKind
        providerModel := none
        recordedAt := x.now }
    let actors ← okOr (db.actors.insert? operator)
      (.database "UNIQUE constraint failed: actors.actor_id")
    let deviceShards := (db.deviceShards.insert? (newShardRow device)).getD db.deviceShards
    return ((device.deviceId, actor), { db with devices, actors, deviceShards }, [])

/-! ## Joins -/

/-- `actors JOIN devices` for one actor. -/
def PooledDb.actorOnDevice (db : PooledDb) (actor : ActorId) : Option (Actor × Device) := do
  let actor ← db.actors.find? actor
  let device ← db.devices.find? actor.deviceId
  return (actor, device)

/-- `memory_profiles JOIN devices` for one profile. -/
def PooledDb.profileOnDevice (db : PooledDb) (profile : MemoryProfileId) :
    Option (MemoryProfile × Device) := do
  let profile ← db.memoryProfiles.find? profile
  let device ← db.devices.find? profile.ownerDeviceId
  return (profile, device)

/-- `memory_stores JOIN memory_profiles JOIN devices` for one stored row. -/
def PooledDb.ownersOf (db : PooledDb) (store : MemoryStoreIdentity) :
    Option (MemoryProfile × Device) := do
  let profile ← db.memoryProfiles.find? store.profileId
  let device ← db.devices.find? store.ownerDeviceId
  return (profile, device)

/-- The issuer check: an operator actor on an active device. -/
def PooledDb.issuerIsOperator (db : PooledDb) (actor : ActorId) : Bool :=
  (db.actorOnDevice actor).any fun r => r.1.toolProfile = .operator && r.2.status = .active

/-! ## Profiles and stores -/

/-- `register_memory_profile`. -/
def registerMemoryProfile (profile : MemoryProfile) : Method MemoryProfileId where
  check := do
    profile.validate
    if profile.status ≠ .active then
      throw (.invalidMemoryScope "new memory profiles must be active")
  body db x := do
    if (db.devices.find? profile.ownerDeviceId).all (·.status ≠ .active) then
      throw (.deviceNotActive profile.ownerDeviceId.text)
    let memoryProfiles ← okOr (db.memoryProfiles.insert? { profile with createdAt := x.now })
      (.database "UNIQUE constraint failed: memory_profiles.profile_id")
    return (profile.profileId, { db with memoryProfiles }, [])

/-- `register_memory_store`. -/
def registerMemoryStore (store : MemoryStoreIdentity) : Method String where
  check := do
    store.validate
    if store.status ≠ .active then
      throw (.invalidMemoryScope "new memory stores must be active")
  body db x := do
    let owner ← okOr ((db.profileOnDevice store.profileId).filter (·.1.status = .active))
      (.memoryGrantDenied "store profile is not active or does not exist")
    if owner.2.status ≠ .active then
      throw (.deviceNotActive owner.1.ownerDeviceId.text)
    if owner.1.ownerDeviceId ≠ store.ownerDeviceId then
      throw (.memoryGrantDenied "store owner device does not match the active profile owner")
    if db.memoryStores.rows.any (·.relativePath = store.relativePath) then
      throw (.database "UNIQUE constraint failed: memory_stores.relative_path")
    let memoryStores ← okOr (db.memoryStores.insert? { store with createdAt := x.now })
      (.database "UNIQUE constraint failed: memory_stores.store_id")
    return (store.storeId, { db with memoryStores }, [])

/-- `set_memory_profile_status`. -/
def setMemoryProfileStatus (profile : MemoryProfileId) (status : MemoryProfileStatus) :
    Method Unit where
  body db _ := do
    let _ ← okOr (db.memoryProfiles.find? profile)
      (.memoryGrantDenied "memory profile does not exist")
    let memoryProfiles := db.memoryProfiles.update (·.profileId = profile)
      ({ · with status := status }) fun _ => rfl
    return ((), { db with memoryProfiles }, [])

/-- `set_memory_store_status`. -/
def setMemoryStoreStatus (storeId : String) (status : MemoryStoreStatus) : Method Unit where
  body db _ := do
    let _ ← okOr (db.memoryStores.find? storeId) (.memoryGrantDenied "memory store does not exist")
    let memoryStores := db.memoryStores.update (·.storeId = storeId)
      ({ · with status := status }) fun _ => rfl
    return ((), { db with memoryStores }, [])

/-! ## Grants -/

/-- The row of a grant, once its window passes the `CHECK`s. The times are cast, not converted. -/
def MemoryAccessGrant.row? (grant : MemoryAccessGrant) (now : String) :
    Option MemoryAccessGrantRow :=
  (Window.check? grant.validFrom.toInt64 grant.expiresAt.toInt64
      (grant.revokedAt.map (·.toInt64))).map fun window =>
    { grantId := grant.grantId
      granteeProfileId := grant.granteeProfileId
      storeId := grant.storeId
      «namespace» := grant.namespace
      effect := grant.effect
      issuedByActorId := grant.issuedByActorId
      window := window
      createdAt := now }

/-- The columns of the `UNIQUE` constraint on grants. -/
def MemoryAccessGrantRow.scope (row : MemoryAccessGrantRow) :
    MemoryProfileId × String × String × MemoryAccessEffect × Int64 :=
  (row.granteeProfileId, row.storeId, row.namespace, row.effect, row.window.validFrom)

/-- `INSERT INTO memory_access_grants`. -/
def PooledDb.insertGrant (db : PooledDb) (grant : MemoryAccessGrant) (now : String) :
    Except MnemesError PooledDb := do
  let row ← okOr (grant.row? now) (.database "CHECK constraint failed: memory_access_grants")
  if db.memoryAccessGrants.rows.any (·.scope = row.scope) then
    throw (.database "UNIQUE constraint failed: memory_access_grants")
  let memoryAccessGrants ← okOr (db.memoryAccessGrants.insert? row)
    (.database "UNIQUE constraint failed: memory_access_grants.grant_id")
  return { db with memoryAccessGrants }

/-- `grant_memory_access`. -/
def grantMemoryAccess (grant : MemoryAccessGrant) : Method MemoryGrantId where
  check := grant.validate
  body db x := do
    if !db.issuerIsOperator grant.issuedByActorId then
      throw (.authorizationDenied "memory grants require an active operator actor")
    let store ← okOr ((db.memoryStores.find? grant.storeId).filter (·.status = .active))
      (.memoryGrantDenied "grant target store is not active or does not exist")
    let owners ← okOr (db.ownersOf store)
      (.memoryGrantDenied "grant target store is not active or does not exist")
    if store.namespace ≠ grant.namespace then
      throw (.memoryGrantDenied "grant namespace does not match the target store")
    if owners.1.status ≠ .active then
      throw (.memoryGrantDenied "grant target profile is not active")
    if owners.2.status ≠ .active then
      throw (.deviceNotActive store.ownerDeviceId.text)
    let grantee ← okOr (db.profileOnDevice grant.granteeProfileId)
      (.memoryGrantDenied "grant grantee profile does not exist")
    if grantee.1.status ≠ .active then
      throw (.memoryGrantDenied "grant grantee profile is not active")
    if grantee.2.status ≠ .active then
      throw (.memoryGrantDenied "grant grantee device is not active")
    let db ← db.insertGrant grant x.now
    return (grant.grantId, db, [])

/-- `revoke_memory_access`. -/
def revokeMemoryAccess (grantId : MemoryGrantId) (revokedAt : UInt64) : Method Unit where
  body db _ := do
    let row ← okOr ((db.memoryAccessGrants.find? grantId).filter (·.window.revokedAt.isNone))
      (.memoryGrantDenied "grant does not exist or is already revoked")
    let window ← okOr (row.window.revoke? revokedAt.toInt64)
      (.database "CHECK constraint failed: memory_access_grants")
    let memoryAccessGrants := db.memoryAccessGrants.update (·.grantId = grantId)
      ({ · with window := window }) fun _ => rfl
    return ((), { db with memoryAccessGrants }, [])

/-- `u64::try_from` of a stored time of a grant. -/
def readGrantTime (field : String) (time : Int64) : Except MnemesError UInt64 :=
  okOr (u64TryFrom time) (.invalidMemoryScope s!"negative grant {field}")

/-- A stored grant, read back. -/
def MemoryAccessGrantRow.read (row : MemoryAccessGrantRow) :
    Except MnemesError MemoryAccessGrant := do
  let validFrom ← readGrantTime "valid_from" row.window.validFrom
  let expiresAt ← readGrantTime "expires_at" row.window.expiresAt
  let revokedAt ← row.window.revokedAt.mapM (readGrantTime "revoked_at")
  return {
    grantId := row.grantId
    granteeProfileId := row.granteeProfileId
    storeId := row.storeId
    «namespace» := row.namespace
    effect := row.effect
    issuedByActorId := row.issuedByActorId
    validFrom := validFrom
    expiresAt := expiresAt
    revokedAt := revokedAt
    createdAt := row.createdAt }

/-- `ORDER BY valid_from ASC, grant_id ASC`. -/
def MemoryAccessGrantRow.le (a b : MemoryAccessGrantRow) : Bool :=
  a.window.validFrom < b.window.validFrom ||
    (a.window.validFrom = b.window.validFrom && textLe a.grantId.text b.grantId.text)

/-- The grants to a profile for a store, as `authorize_memory_access` and
`memory_grants_for_profile_store` select and read them. -/
def PooledDb.memoryGrants (db : PooledDb) (profile : MemoryProfileId) (storeId : String) :
    Except MnemesError (List MemoryAccessGrant) :=
  ((db.memoryAccessGrants.rows.filter fun row =>
    row.granteeProfileId = profile ∧ row.storeId = storeId).insertionSort
      fun a b => a.le b).mapM MemoryAccessGrantRow.read

/-- The section of `MnemesStore::authorize_memory_access`. -/
def PooledDb.authorizeMemoryAccess (db : PooledDb) (requester : MemoryProfileId)
    (storeId «namespace» : String) (effect : MemoryAccessEffect) (at' : UInt64) :
    Except MnemesError Unit := do
  let profile ← okOr (db.memoryProfiles.find? requester)
    (.memoryGrantDenied "requesting profile not found")
  let requesterDevice ← okOr (db.devices.find? profile.ownerDeviceId)
    (.database "Query returned no rows")
  if requesterDevice.status ≠ .active then
    throw (.deviceNotActive profile.ownerDeviceId.text)
  let row ← okOr (db.memoryStores.find? storeId) (.memoryGrantDenied "target store not found")
  let identity ← MemoryStoreIdentity.new row.storeId row.profileId row.ownerDeviceId row.namespace
    row.relativePath
  let store := { identity with status := row.status, createdAt := row.createdAt }
  let ownerDevice ← okOr (db.devices.find? store.ownerDeviceId)
    (.database "Query returned no rows")
  if ownerDevice.status ≠ .active then
    throw (.deviceNotActive store.ownerDeviceId.text)
  let ownerProfile ← okOr (db.memoryProfiles.find? store.profileId)
    (.database "Query returned no rows")
  if ownerProfile.status ≠ .active then
    throw (.memoryGrantDenied "target store owner profile is not active")
  let grants ← db.memoryGrants requester storeId
  Mnemes.authorizeMemoryAccess requester profile store grants effect «namespace» at'

/-- `MnemesStore::authorize_memory_access`. -/
def authorizeMemoryAccessMethod (requester : MemoryProfileId) (storeId «namespace» : String)
    (effect : MemoryAccessEffect) (at' : UInt64) : Method Unit where
  body db _ := (db.authorizeMemoryAccess requester storeId «namespace» effect at').map (·, db, [])

/-! ## Bindings -/

/-- The row of a binding, once it passes the `CHECK`s of its table. -/
def ActorProfileBinding.row? (binding : ActorProfileBinding) (now : String) :
    Option ActorProfileBindingRow :=
  match Window.check? binding.validFrom.toInt64 binding.expiresAt.toInt64 none with
  | none => none
  | some window =>
    if h : 0 < binding.bindingEpoch.toInt64 ∧ binding.bindingDigest.length = 64 then
      some {
        bindingId := binding.bindingId
        actorId := binding.actorId
        profileId := binding.profileId
        ownerDeviceId := binding.ownerDeviceId
        issuedByActorId := binding.issuedByActorId
        window := window
        bindingEpoch := binding.bindingEpoch.toInt64
        bindingDigest := binding.bindingDigest
        recordedAt := now
        epoch_pos := h.1
        digest_length := h.2 }
    else none

/-- `INSERT INTO actor_profile_bindings`. -/
def PooledDb.insertBinding (db : PooledDb) (binding : ActorProfileBinding) (now : String) :
    Except MnemesError PooledDb := do
  let row ← okOr (binding.row? now) (.database "CHECK constraint failed: actor_profile_bindings")
  if db.actorProfileBindings.rows.any fun other =>
      other.actorId = row.actorId && other.bindingEpoch = row.bindingEpoch then
    throw (.database "UNIQUE constraint failed: actor_profile_bindings.binding_epoch")
  let actorProfileBindings ← okOr (db.actorProfileBindings.insert? row)
    (.database "UNIQUE constraint failed: actor_profile_bindings.binding_id")
  return { db with actorProfileBindings }

/-- The overlap query: an unrevoked binding of the actor that meets the half-open window. -/
def PooledDb.bindingOverlaps (db : PooledDb) (actor : ActorId) (validFrom expiresAt : Int64) :
    Bool :=
  db.actorProfileBindings.rows.any fun row => row.actorId = actor &&
    row.window.revokedAt.isNone && row.window.validFrom < expiresAt &&
    validFrom < row.window.expiresAt

/-- `i64::try_from` in front of a binding method. -/
def bindingInteger (value : UInt64) (text : String) : Except MnemesError Int64 :=
  okOr (i64TryFrom value) (.actorProfileBindingDenied text)

/-- `bind_actor_profile`. -/
def bindActorProfile (P : Platform) (binding : ActorProfileBinding) :
    Method ActorProfileBindingId where
  check := do
    binding.validate P
    let _ ← bindingInteger binding.validFrom "binding valid_from exceeds SQLite range"
    let _ ← bindingInteger binding.expiresAt "binding expires_at exceeds SQLite range"
    let _ ← bindingInteger binding.bindingEpoch "binding epoch exceeds SQLite range"
  body db x := do
    if !db.issuerIsOperator binding.issuedByActorId then
      throw (.actorProfileBindingDenied "binding transitions require an active operator actor")
    let actor ← okOr (db.actorOnDevice binding.actorId)
      (.actorProfileBindingDenied "binding actor does not exist")
    if actor.2.status ≠ .active || actor.1.deviceId ≠ binding.ownerDeviceId then
      throw (.actorProfileBindingDenied
        "binding actor must belong to the active profile owner device")
    let profile ← okOr ((db.profileOnDevice binding.profileId).filter (·.1.status = .active))
      (.actorProfileBindingDenied "binding profile is not active or does not exist")
    if profile.2.status ≠ .active || profile.1.ownerDeviceId ≠ binding.ownerDeviceId then
      throw (.actorProfileBindingDenied
        "binding owner device must equal the active profile owner")
    if db.bindingOverlaps binding.actorId binding.validFrom.toInt64 binding.expiresAt.toInt64 then
      throw (.actorProfileBindingDenied
        "an overlapping active binding already exists for this actor")
    let db ← db.insertBinding binding x.now
    return (binding.bindingId, db, [])

/-- `revoke_actor_profile_binding`. -/
def revokeActorProfileBinding (bindingId : ActorProfileBindingId) (revokedAt : UInt64) :
    Method Unit where
  check := do
    let _ ← bindingInteger revokedAt "binding revoked_at exceeds SQLite range"
  body db _ := do
    let row ← okOr ((db.actorProfileBindings.find? bindingId).filter (·.window.revokedAt.isNone))
      (.actorProfileBindingDenied "binding does not exist or is already revoked")
    let window ← okOr (row.window.revoke? revokedAt.toInt64)
      (.database "CHECK constraint failed: actor_profile_bindings")
    let actorProfileBindings := db.actorProfileBindings.update (·.bindingId = bindingId)
      ({ · with window := window }) fun _ => rfl
    return ((), { db with actorProfileBindings }, [])

/-- A stored binding with the rows its resolution joins: its actor, the actor's device, its profile
and the profile's device. -/
structure ResolvedRow where
  binding : ActorProfileBindingRow
  actor : Actor
  actorDevice : Device
  profile : MemoryProfile
  profileDevice : Device

/-- The query of `resolve_actor_profile`. Its order is left out: only a single row is used. -/
def PooledDb.activeBindings (db : PooledDb) (actor : ActorId) (at' : Int64) : List ResolvedRow :=
  db.actorProfileBindings.rows.filterMap fun row =>
    if row.actorId = actor ∧ row.window.revokedAt.isNone ∧ row.window.validFrom ≤ at' ∧
        at' < row.window.expiresAt then do
      let (actor, actorDevice) ← db.actorOnDevice row.actorId
      let (profile, profileDevice) ← db.profileOnDevice row.profileId
      return ⟨row, actor, actorDevice, profile, profileDevice⟩
    else none

/-- `u64::try_from` of a stored number of a binding. -/
def readBindingInteger (field : String) (value : Int64) : Except MnemesError UInt64 :=
  okOr (u64TryFrom value) (.actorProfileBindingDenied s!"negative binding {field}")

/-- A stored binding, read back. -/
def ActorProfileBindingRow.read (row : ActorProfileBindingRow) :
    Except MnemesError ActorProfileBinding := do
  let validFrom ← readBindingInteger "valid_from" row.window.validFrom
  let expiresAt ← readBindingInteger "expires_at" row.window.expiresAt
  let revokedAt ← row.window.revokedAt.mapM (readBindingInteger "revoked_at")
  let bindingEpoch ← readBindingInteger "epoch" row.bindingEpoch
  return {
    bindingId := row.bindingId
    actorId := row.actorId
    profileId := row.profileId
    ownerDeviceId := row.ownerDeviceId
    issuedByActorId := row.issuedByActorId
    validFrom := validFrom
    expiresAt := expiresAt
    revokedAt := revokedAt
    bindingEpoch := bindingEpoch
    bindingDigest := row.bindingDigest
    recordedAt := row.recordedAt }

/-- The section of `resolve_actor_profile`. -/
def PooledDb.resolveActorProfile (P : Platform) (db : PooledDb) (actor : ActorId) (at' : Int64) :
    Except MnemesError ActorProfileBinding :=
  match db.activeBindings actor at' with
  | [] => .error (.actorProfileBindingDenied "no active binding exists for this actor")
  | [row] => do
    let binding ← row.binding.read
    binding.validate P
    if row.actor.deviceId ≠ binding.ownerDeviceId ||
        row.profile.ownerDeviceId ≠ binding.ownerDeviceId || row.actorDevice.status ≠ .active ||
        row.profile.status ≠ .active || row.profileDevice.status ≠ .active then
      throw (.actorProfileBindingDenied
        "binding actor, profile, and owner-device lifecycle relation is invalid")
    return binding
  | _ => .error (.actorProfileBindingDenied "multiple active bindings exist for this actor")

/-- `resolve_actor_profile`. -/
def resolveActorProfile (P : Platform) (actor : ActorId) (at' : UInt64) :
    Method ActorProfileBinding where
  check := do
    let _ ← bindingInteger at' "authorization time exceeds SQLite range"
  body db _ := (db.resolveActorProfile P actor at'.toInt64).map (·, db, [])

/-! ## Runs of the control plane -/

/-- The calls that write the tables authorization reads. -/
inductive ControlCall where
  | registerDevice (device : Device)
  | setDeviceStatus (device : DeviceId) (status : DeviceStatus)
  | rotateDeviceCredential (device : DeviceId) (digest : String)
  | heartbeatDevice (device : DeviceId)
  | registerActor (actor : Actor)
  | bootstrap (device : Device) (actor : ActorId) (actorKind digest : String)
  | registerMemoryProfile (profile : MemoryProfile)
  | registerMemoryStore (store : MemoryStoreIdentity)
  | setMemoryProfileStatus (profile : MemoryProfileId) (status : MemoryProfileStatus)
  | setMemoryStoreStatus (storeId : String) (status : MemoryStoreStatus)
  | grantMemoryAccess (grant : MemoryAccessGrant)
  | revokeMemoryAccess (grantId : MemoryGrantId) (revokedAt : UInt64)
  | bindActorProfile (binding : ActorProfileBinding)
  | revokeActorProfileBinding (bindingId : ActorProfileBindingId) (revokedAt : UInt64)
  deriving DecidableEq

/-- The database after a call. -/
def ControlCall.next (P : Platform) (db : PooledDb) (x : Choice) : ControlCall → PooledDb
  | .registerDevice device => (Mnemes.registerDevice device).next db x
  | .setDeviceStatus device status => (deviceStatusMethod device status).next db x
  | .rotateDeviceCredential device digest =>
    (Mnemes.rotateDeviceCredential device digest).next db x
  | .heartbeatDevice device => (Mnemes.heartbeatDevice device).next db x
  | .registerActor actor => (Mnemes.registerActor actor).next db x
  | .bootstrap device actor actorKind digest =>
    (Mnemes.bootstrap device actor actorKind digest).next db x
  | .registerMemoryProfile profile => (Mnemes.registerMemoryProfile profile).next db x
  | .registerMemoryStore store => (Mnemes.registerMemoryStore store).next db x
  | .setMemoryProfileStatus profile status =>
    (Mnemes.setMemoryProfileStatus profile status).next db x
  | .setMemoryStoreStatus storeId status => (Mnemes.setMemoryStoreStatus storeId status).next db x
  | .grantMemoryAccess grant => (Mnemes.grantMemoryAccess grant).next db x
  | .revokeMemoryAccess grantId revokedAt => (Mnemes.revokeMemoryAccess grantId revokedAt).next db x
  | .bindActorProfile binding => (Mnemes.bindActorProfile P binding).next db x
  | .revokeActorProfileBinding bindingId revokedAt =>
    (Mnemes.revokeActorProfileBinding bindingId revokedAt).next db x

/-- A run of calls, each with the choice of its section: since every call is one section, every
interleaving of concurrent calls is one. -/
def controlRun (P : Platform) (db : PooledDb) (calls : List (ControlCall × Choice)) : PooledDb :=
  calls.foldl (fun db call => call.1.next P db call.2) db

end Mnemes
