import Mnemes.Profile.Policy

/-!
# Building and checking snapshots

`build_authorization_snapshot` resolves the actor's binding, reads the live stores, and then reads
the grants of one store after the other, each in a section of its own. Run alone, it admits a store
exactly where `authorize_memory_access` allows it (`authorization_paths_agree`).
-/

namespace Mnemes

open Concurrency Relational

variable {M : SemanticMemory}

/-! ## The calls -/

/-- `memory_grants_for_profile_store`. -/
def memoryGrantsForProfileStore (profile : MemoryProfileId) (storeId : String) :
    Op M (List MemoryAccessGrant) :=
  poolRead fun db => db.memoryGrants profile storeId

/-- The query for the live stores, `ORDER BY store_id ASC`. -/
def PooledDb.liveStores (db : PooledDb) : List MemoryStoreIdentity :=
  (db.memoryStores.rows.filter fun store => store.status = .active &&
    (db.ownersOf store).any fun owners =>
      owners.1.status = .active && owners.2.status = .active).insertionSort
    fun a b => textLe a.storeId b.storeId

/-- `Ord::min`. -/
def minTime (a b : UInt64) : UInt64 := if a ≤ b then a else b

/-- The subject of a snapshot: what its construction fixes of a binding and a request. -/
structure Subject where
  binding : ActorProfileBinding
  effect : MemoryAccessEffect
  requestedNamespaces : List String
  evaluatedAt : UInt64

namespace Subject

/-- The profile the decision is asked for. -/
def profile (subject : Subject) : MemoryProfile where
  profileId := subject.binding.profileId
  ownerDeviceId := subject.binding.ownerDeviceId
  label := "authorization subject"
  status := .active
  createdAt := ""

/-- The request filter: no requested namespace, or the store's among them. -/
def requests (subject : Subject) (store : MemoryStoreIdentity) : Bool :=
  subject.requestedNamespaces.isEmpty || subject.requestedNamespaces.any (· = store.namespace)

/-- The entry of an admitted store: the grants that allow the effect, and the earliest end among
theirs and the binding's. -/
def entry (subject : Subject) (store : MemoryStoreIdentity) (grants : List MemoryAccessGrant) :
    AuthorizedMemoryStore :=
  let allowing := grants.filter (·.allows subject.effect store.namespace subject.evaluatedAt)
  { storeId := store.storeId
    profileId := store.profileId
    ownerDeviceId := store.ownerDeviceId
    «namespace» := store.namespace
    relativePath := store.relativePath
    grantIds := (allowing.map (·.grantId)).insertionSort fun a b => textLe a.text b.text
    authorizationExpiresAt := (allowing.map (·.expiresAt)).foldl minTime subject.binding.expiresAt }

/-- The loop over the live stores. -/
def admitStores (subject : Subject) : List MemoryStoreIdentity → Op M (List AuthorizedMemoryStore)
  | [] => return []
  | store :: stores =>
    if !subject.requests store then subject.admitStores stores
    else do
      let grants ← memoryGrantsForProfileStore subject.binding.profileId store.storeId
      match authorizeMemoryAccess subject.binding.profileId subject.profile store grants
          subject.effect store.namespace subject.evaluatedAt with
      | .error _ => subject.admitStores stores
      | .ok () =>
        let authorizedStores ← subject.admitStores stores
        return subject.entry store grants :: authorizedStores

end Subject

/-- `build_authorization_snapshot`. -/
def buildAuthorizationSnapshot (P : Platform) (actor : ActorId) (effect : MemoryAccessEffect)
    (namespaces : Option (List String)) (at' : UInt64) : Op M AuthorizationSnapshot := do
  let binding ← (resolveActorProfile P actor at').op
  let subject : Subject := ⟨binding, effect, namespaces.getD [], at'⟩
  let stores ← poolRead fun db => .ok db.liveStores
  let authorizedStores ← subject.admitStores stores
  return .new P binding effect subject.requestedNamespaces authorizedStores at'

/-- `validate_authorization_snapshot`. -/
def validateAuthorizationSnapshot (P : Platform) (snapshot : AuthorizationSnapshot)
    (at' : UInt64) : Op M Unit := do
  liftM (snapshot.validate P)
  if snapshot.evaluatedAt ≠ at' then
    throw (.authorizationSnapshotInvalid
      "snapshot evaluation time does not match request authorization time")
  let namespaces := if snapshot.namespaces.isEmpty then none else some snapshot.namespaces
  let current ← buildAuthorizationSnapshot P snapshot.actorId snapshot.effect namespaces at'
  if current.snapshotDigest ≠ snapshot.snapshotDigest then
    throw (.authorizationSnapshotInvalid
      "snapshot no longer matches current binding, lifecycle, or grants")

/-- `list_authorized_stores`. -/
def listAuthorizedStores (P : Platform) (snapshot : AuthorizationSnapshot) (at' : UInt64) :
    Op M (List AuthorizedMemoryStore) := do
  validateAuthorizationSnapshot P snapshot at'
  return snapshot.authorizedStores

/-- `issue_memory_access_permit`. -/
def issueMemoryAccessPermit (P : Platform) (snapshot : AuthorizationSnapshot)
    (storeId «namespace» : String) (at' : UInt64) (queryBudget : Nat) :
    Op M MemoryAccessPermit := do
  validateAuthorizationSnapshot P snapshot at'
  let store ← liftM (okOr
    (snapshot.authorizedStores.find? fun store =>
      store.storeId = storeId && store.namespace = «namespace»)
    (MnemesError.memoryGrantDenied "store is not admitted by the authorization snapshot"))
  let latest := if at'.toNat + 60 < 2 ^ 64 then at' + 60 else UInt64.ofNat (2 ^ 64 - 1)
  liftM (MemoryAccessPermit.new P snapshot store at'
    (minTime store.authorizationExpiresAt latest) queryBudget)

/-! ## What they do alone -/

/-- A method, alone. -/
theorem Method.op_alone {α β : Type} {x : Choice} (hx : x.fault = none) {m : Method α}
    {k : α → Op M β} {s : MnemesStore M} :
    (m.op >>= k).run.alone x s =
      match m.exec s.db x with
      | .ok (a, db) => (k a).run.alone x { s with db }
      | .error e => (some (.error e), s) := by
  unfold Method.op Method.exec
  simp only [bind_assoc]
  rw [alone_lift]
  cases m.check with
  | error e => rfl
  | ok u =>
    simp only [alone_poolConn hx, hx]
    cases m.body s.db x <;> rfl

/-- What the loop does with one store of the database. -/
def Subject.admits (db : PooledDb) (subject : Subject) (store : MemoryStoreIdentity) :
    Option AuthorizedMemoryStore :=
  let grants := (db.grantsOf subject.binding.profileId store.storeId).map MemoryAccessGrantRow.grant
  if subject.requests store &&
      (authorizeMemoryAccess subject.binding.profileId subject.profile store grants subject.effect
        store.namespace subject.evaluatedAt).isOk then
    some (subject.entry store grants)
  else none

/-- The snapshot of one database. -/
def PooledDb.snapshot (P : Platform) (db : PooledDb) (actor : ActorId)
    (effect : MemoryAccessEffect) (namespaces : Option (List String)) (at' : UInt64) :
    Except MnemesError AuthorizationSnapshot := do
  let _ ← bindingInteger at' "authorization time exceeds SQLite range"
  let binding ← db.resolveActorProfile P actor at'.toInt64
  let subject : Subject := ⟨binding, effect, namespaces.getD [], at'⟩
  return .new P binding effect subject.requestedNamespaces
    (db.liveStores.filterMap (subject.admits db)) at'

/-- The validation of a snapshot on one database. -/
def PooledDb.validateSnapshot (P : Platform) (db : PooledDb) (snapshot : AuthorizationSnapshot)
    (at' : UInt64) : Except MnemesError Unit := do
  snapshot.validate P
  if snapshot.evaluatedAt ≠ at' then
    throw (.authorizationSnapshotInvalid
      "snapshot evaluation time does not match request authorization time")
  let namespaces := if snapshot.namespaces.isEmpty then none else some snapshot.namespaces
  let current ← db.snapshot P snapshot.actorId snapshot.effect namespaces at'
  if current.snapshotDigest ≠ snapshot.snapshotDigest then
    throw (.authorizationSnapshotInvalid
      "snapshot no longer matches current binding, lifecycle, or grants")

section
variable {β : Type} {x : Choice} (hx : x.fault = none) {s : MnemesStore M}
include hx

/-- The loop admits the stores one by one from the grants of the database. -/
theorem Subject.admitStores_alone {subject : Subject} (stores : List MemoryStoreIdentity)
    {k : List AuthorizedMemoryStore → Op M β} :
    (subject.admitStores stores >>= k).run.alone x s =
      (k (stores.filterMap (subject.admits s.db))).run.alone x s := by
  induction stores generalizing k with
  | nil => simp [admitStores]
  | cons store stores ih =>
    unfold admitStores
    by_cases hr : subject.requests store
    · simp only [hr, Bool.not_true, Bool.false_eq_true, if_false, bind_assoc,
        memoryGrantsForProfileStore, alone_poolRead hx, PooledDb.memoryGrants_eq]
      cases hd : authorizeMemoryAccess subject.binding.profileId subject.profile store
          ((s.db.grantsOf subject.binding.profileId store.storeId).map MemoryAccessGrantRow.grant)
          subject.effect store.namespace subject.evaluatedAt with
      | error e =>
        rw [List.filterMap_cons_none (by simp [admits, hd, Except.isOk, Except.toBool])]
        exact ih
      | ok u =>
        rw [List.filterMap_cons_some (by simp [admits, hr, hd, Except.isOk, Except.toBool]; rfl)]
        simp only [bind_assoc, pure_bind]
        exact ih
    · simp only [hr, Bool.not_false, if_true]
      rw [List.filterMap_cons_none (by simp [admits, hr])]
      exact ih

/-- A snapshot that is built alone is that of the database. -/
theorem buildAuthorizationSnapshot_alone {P : Platform} {actor : ActorId}
    {effect : MemoryAccessEffect} {namespaces : Option (List String)} {at' : UInt64}
    {k : AuthorizationSnapshot → Op M β} :
    (buildAuthorizationSnapshot P actor effect namespaces at' >>= k).run.alone x s =
      match s.db.snapshot P actor effect namespaces at' with
      | .ok snapshot => (k snapshot).run.alone x s
      | .error e => (some (.error e), s) := by
  unfold buildAuthorizationSnapshot PooledDb.snapshot
  simp only [bind_assoc, pure_bind, Method.op_alone hx, Method.exec, resolveActorProfile, hx]
  cases hb : bindingInteger at' "authorization time exceeds SQLite range" with
  | error e => rfl
  | ok i =>
    cases hr : s.db.resolveActorProfile P actor at'.toInt64 with
    | error e => rfl
    | ok binding =>
      show (poolRead _ >>= _).run.alone x s = _
      rw [alone_poolRead hx]
      exact Subject.admitStores_alone hx _

/-- A validation alone is against the database. -/
theorem validateAuthorizationSnapshot_alone {P : Platform} {snapshot : AuthorizationSnapshot}
    {at' : UInt64} {k : Unit → Op M β} :
    (validateAuthorizationSnapshot P snapshot at' >>= k).run.alone x s =
      match s.db.validateSnapshot P snapshot at' with
      | .ok () => (k ()).run.alone x s
      | .error e => (some (.error e), s) := by
  unfold validateAuthorizationSnapshot PooledDb.validateSnapshot
  simp only [bind_assoc]
  rw [alone_lift]
  cases hvalid : snapshot.validate P with
  | error e => rfl
  | ok u =>
    simp only [ok_bind]
    split
    · rfl
    · simp only [bind_assoc]
      rw [buildAuthorizationSnapshot_alone hx]
      cases s.db.snapshot P snapshot.actorId snapshot.effect
          (if snapshot.namespaces.isEmpty then none else some snapshot.namespaces) at' with
      | error e => rfl
      | ok current =>
        simp only [ok_bind]
        split
        · rfl
        · rfl

end

end Mnemes
