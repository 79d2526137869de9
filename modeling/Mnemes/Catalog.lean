import Mnemes.Operations
import Mnemes.Profile.Runs

/-!
# The shard catalog mirrors the registry

`device_shards` is derived from `devices`: a device's entry has the device's deterministic path and
the state of the device's status (`PooledDb.Mirrors`). Registration, bootstrap and a change of
status write both tables in one transaction, a refresh writes the summary columns only, and opening
the store adds the entries that are missing (`backfill_mirrors`). So the catalog mirrors the
registry after every action of every interleaving of these calls (`catalog_mirrors_registry`).
-/

namespace Mnemes

open Concurrency Relational

variable {M : SemanticMemory}

/-! ## The rows -/

/-- `insert_device_shard_row`: `INSERT OR IGNORE`. -/
def PooledDb.insertDeviceShardRow (db : PooledDb) (device : Device) : PooledDb :=
  { db with deviceShards := (db.deviceShards.insert? (newShardRow device)).getD db.deviceShards }

/-- The devices without a catalog row, `ORDER BY device_id ASC`. -/
def PooledDb.uncataloged (db : PooledDb) : List Device :=
  (db.devices.rows.filter fun device =>
    (db.deviceShards.find? device.deviceId).isNone).insertionSort
      fun a b => textLe a.deviceId.text b.deviceId.text

/-- `backfill_device_shards`. -/
def PooledDb.backfillDeviceShards (db : PooledDb) : PooledDb :=
  db.uncataloged.foldl PooledDb.insertDeviceShardRow db

/-- `list_shards`: the catalog joined with the devices' statuses, `ORDER BY device_id ASC`. -/
def PooledDb.listShards (db : PooledDb) : List (DeviceShard × DeviceStatus) :=
  (db.deviceShards.rows.insertionSort
    fun a b => textLe a.deviceId.text b.deviceId.text).filterMap fun shard =>
      (db.devices.find? shard.deviceId).map fun device => (shard, device.status)

/-- `routing_tokens`. -/
def routingTokens (value : String) : List String :=
  sortDedup (((value.toList.splitOnP fun c => !c.isAlphanum).filter fun token => !token.isEmpty).map
    fun token => String.ofList (token.map Char.toLower))

/-! ## The calls -/

/-- A step on the file system around the database. -/
def fileSystem : Op M Unit :=
  ExceptT.mk (Proc.atomic fun s x =>
    match x.fault with
    | some error => (.error (.io error), s, [])
    | none => (.ok (), s, []))

/-- `open_with_shared_embedder`, on a directory where `legacyGlobal` is the legacy global store, if
there is one: the schema transaction between the steps that make directories and the key file. -/
def openWithSharedEmbedder (legacyGlobal : Option String) : Op M Unit := do
  if let some path := legacyGlobal then
    throw (.legacyGlobalStorePresent path)
  fileSystem
  poolConn fun db _ => .ok ((), db.backfillDeviceShards, [])
  fileSystem

/-- `refresh_shard_summary`. -/
def refreshShardSummary (device : DeviceId) (routingTerms : String) (namespaces : List String) :
    Op M (DeviceShard × DeviceStatus) := do
  deviceMemory device
  let stats ← shardStats device
  poolConn fun db x =>
    match db.deviceShards.find? device with
    | none => .error (.deviceNotFound device.text)
    | some _ =>
      let refresh (row : DeviceShard) : DeviceShard :=
        { row with
          routingTerms := joinTexts " " (routingTokens routingTerms)
          namespaces := sortDedup namespaces
          counts := stats
          generation := row.generation + 1
          lastRefreshedAt := some x.now }
      let deviceShards := db.deviceShards.update (·.deviceId = device) refresh fun _ => rfl
      .ok ((), { db with deviceShards }, [.countsRefreshed device])
  poolRead fun db =>
    okOr (db.listShards.find? (·.1.deviceId = device)) (.deviceNotFound device.text)

/-- The calls that write devices or their catalog rows. -/
inductive CatalogCall where
  | bootstrap (device : Device) (actor : ActorId) (actorKind digest : String)
  | registerDevice (device : Device)
  | rotateDeviceCredential (device : DeviceId) (digest : String)
  | heartbeatDevice (device : DeviceId)
  | setDeviceStatus (device : DeviceId) (status : DeviceStatus)
  | refreshShardCounts (device : DeviceId)
  | refreshShardSummary (device : DeviceId) (routingTerms : String) (namespaces : List String)
  | openStore (legacyGlobal : Option String)
  deriving DecidableEq

/-- The process of a call, without its result. A registration makes the shard's directory before it
takes the lock. -/
def CatalogCall.op : CatalogCall → Op M Unit
  | .bootstrap device actor actorKind digest => do
    fileSystem
    let _ ← (Mnemes.bootstrap device actor actorKind digest).op
    return ()
  | .registerDevice device => do
    fileSystem
    let _ ← (Mnemes.registerDevice device).op
    return ()
  | .rotateDeviceCredential device digest => (Mnemes.rotateDeviceCredential device digest).op
  | .heartbeatDevice device => (Mnemes.heartbeatDevice device).op
  | .setDeviceStatus device status => (deviceStatusMethod device status).op
  | .refreshShardCounts device => Mnemes.refreshShardCounts device
  | .refreshShardSummary device routingTerms namespaces => do
    let _ ← Mnemes.refreshShardSummary device routingTerms namespaces
    return ()
  | .openStore legacyGlobal => openWithSharedEmbedder legacyGlobal

/-- The calls, in any number and any interleaving, on one database. -/
def catalogService (M : SemanticMemory) :
    Service CatalogCall (MnemesStore M) Choice Event (Except MnemesError Unit) where
  body _ call := call.op.run
  release _ s := s

/-! ## The mirror -/

/-- What the catalog has for a device: path and state. -/
def PooledDb.catalogEntry (db : PooledDb) (device : DeviceId) : Option (String × ShardState) :=
  (db.deviceShards.find? device).map fun shard => (shard.relativePath, shard.state)

/-- What the catalog is to have for a device. -/
def PooledDb.registryEntry (db : PooledDb) (device : DeviceId) : Option (String × ShardState) :=
  (db.devices.find? device).map fun row => (shardRelativePath device, .ofDeviceStatus row.status)

/-- The catalog mirrors the registry. -/
def PooledDb.Mirrors (db : PooledDb) : Prop :=
  ∀ device, db.catalogEntry device = db.registryEntry device

section
variable {db : PooledDb}

/-- The row of a new shard has the path and the lifecycle of its device. -/
theorem newShardRow_entry {device : Device} {id : DeviceId} (h : device.deviceId = id) :
    ((newShardRow device).relativePath, (newShardRow device).state) =
      (shardRelativePath id, .ofDeviceStatus device.status) := by
  subst h
  rfl

/-- The device of an entry is registered, and a registered device has its entry, if the entries of
the two tables are the same. -/
theorem PooledDb.Mirrors.find?_isSome (h : db.Mirrors) (device : DeviceId) :
    (db.deviceShards.find? device).isSome = (db.devices.find? device).isSome := by
  have := congrArg Option.isSome (h device)
  simpa only [catalogEntry, registryEntry, Option.isSome_map] using this

/-- The entries after a row is inserted. -/
theorem catalogEntry_insert {device : Device} (id : DeviceId) :
    (db.insertDeviceShardRow device).catalogEntry id =
      if device.deviceId = id ∧ db.catalogEntry id = none then
        some (shardRelativePath id, .ofDeviceStatus device.status)
      else db.catalogEntry id := by
  unfold PooledDb.insertDeviceShardRow PooledDb.catalogEntry
  cases hins : db.deviceShards.insert? (newShardRow device) with
  | none =>
    obtain ⟨row, hrow⟩ := Table.insert?_eq_none.1 hins
    have hrow : db.deviceShards.find? device.deviceId = some row := hrow
    rw [if_neg]
    · rfl
    · rintro ⟨rfl, hnone⟩
      rw [hrow] at hnone
      cases hnone
  | some deviceShards =>
    have hfree : db.deviceShards.find? device.deviceId = none := (Table.insert?_eq_some hins).1
    simp only [Option.getD_some, Table.find?_insert hins]
    by_cases hid : device.deviceId = id
    · rw [if_pos (show (newShardRow device).deviceId = id from hid),
        if_pos ⟨hid, by rw [← hid, hfree]; rfl⟩]
      exact congrArg some (newShardRow_entry hid)
    · rw [if_neg (show (newShardRow device).deviceId ≠ id from hid), if_neg fun h => hid h.1]

/-- A device is inserted with its catalog row where the catalog mirrors the registry. -/
theorem PooledDb.Mirrors.insert (h : db.Mirrors) {device row : Device}
    {devices : Table Device Device.deviceId} (hid : row.deviceId = device.deviceId)
    (hstatus : row.status = device.status) (hins : db.devices.insert? row = some devices)
    {db' : PooledDb} (hdevices : db'.devices = devices)
    (hshards : db'.deviceShards = (db.insertDeviceShardRow device).deviceShards) : db'.Mirrors := by
  intro id
  have hentry : db'.catalogEntry id = (db.insertDeviceShardRow device).catalogEntry id := by
    simp only [catalogEntry, hshards]
  have hfree : db.registryEntry device.deviceId = none := by
    rw [registryEntry, ← hid, (Table.insert?_eq_some hins).1]
    rfl
  rw [hentry, catalogEntry_insert, registryEntry, hdevices, Table.find?_insert hins, hid]
  by_cases hcase : device.deviceId = id
  · subst hcase
    rw [if_pos ⟨rfl, (h _).trans hfree⟩, if_pos rfl, Option.map_some, hstatus]
  · rw [if_neg fun hc => hcase hc.1, if_neg hcase]
    exact h id

/-- An update of the rows of both tables that keeps the paths and sets the states by the
statuses. -/
theorem PooledDb.Mirrors.map (h : db.Mirrors) {db' : PooledDb} {f : Device → Device}
    {g : DeviceShard → DeviceShard}
    (hdevices : ∀ id, db'.devices.find? id = (db.devices.find? id).map f)
    (hshards : ∀ id, db'.deviceShards.find? id = (db.deviceShards.find? id).map g)
    (hpath : ∀ shard, (g shard).relativePath = shard.relativePath)
    (hstate : ∀ shard device, shard.deviceId = device.deviceId →
      shard.state = .ofDeviceStatus device.status →
        (g shard).state = .ofDeviceStatus (f device).status) : db'.Mirrors := by
  intro id
  have hid := h id
  simp only [catalogEntry, registryEntry, hdevices, hshards, Option.map_map] at hid ⊢
  cases hrow : db.deviceShards.find? id with
  | none =>
    cases hdev : db.devices.find? id with
    | none => rfl
    | some device => rw [hrow, hdev] at hid; cases hid
  | some shard =>
    cases hdev : db.devices.find? id with
    | none => rw [hrow, hdev] at hid; cases hid
    | some device =>
      rw [hrow, hdev] at hid
      obtain ⟨hp, hs⟩ := Prod.mk.inj (Option.some.inj hid)
      have hkey : shard.deviceId = device.deviceId :=
        (Table.find?_eq_some.1 hrow).2.trans (Table.find?_eq_some.1 hdev).2.symm
      simp only [Option.map_some, Function.comp_apply, hpath, hp, hstate shard device hkey hs]

/-- An update of the devices alone that keeps their statuses. -/
theorem PooledDb.Mirrors.mapDevices (h : db.Mirrors) {db' : PooledDb} {f : Device → Device}
    (hdevices : ∀ id, db'.devices.find? id = (db.devices.find? id).map f)
    (hshards : db'.deviceShards = db.deviceShards)
    (hstatus : ∀ device, (f device).status = device.status) : db'.Mirrors :=
  h.map hdevices (g := id) (fun id => by rw [hshards, Option.map_id, id_eq]) (fun _ => rfl)
    fun shard device _ hs => by rw [hstatus]; exact hs

/-- An update of the catalog alone that keeps paths and states. -/
theorem PooledDb.Mirrors.mapShards (h : db.Mirrors) {db' : PooledDb}
    {g : DeviceShard → DeviceShard} (hdevices : db'.devices = db.devices)
    (hshards : ∀ id, db'.deviceShards.find? id = (db.deviceShards.find? id).map g)
    (hpath : ∀ shard, (g shard).relativePath = shard.relativePath)
    (hstate : ∀ shard, (g shard).state = shard.state) : db'.Mirrors :=
  h.map (f := id) (fun id => by rw [hdevices, Option.map_id, id_eq]) hshards hpath
    fun shard device _ hs => by rw [hstate]; exact hs

end

/-! ## The backfill -/

/-- Every entry of the catalog is what the registry says; devices may lack one. -/
def PooledDb.Within (db : PooledDb) : Prop :=
  ∀ device entry, db.catalogEntry device = some entry → db.registryEntry device = some entry

section
variable {db : PooledDb}

/-- A catalog that mirrors the registry has shards of registered devices only. -/
theorem PooledDb.Mirrors.within (h : db.Mirrors) : db.Within :=
  fun device _ he => h device ▸ he

/-- One registered device is cataloged. -/
theorem PooledDb.Within.insert (h : db.Within) {device : Device} (hdev : device ∈ db.devices.rows) :
    (db.insertDeviceShardRow device).Within := by
  intro id entry he
  rw [catalogEntry_insert] at he
  split at he
  · next hc =>
    obtain ⟨rfl, -⟩ := hc
    rw [← he]
    show Option.map _ (db.devices.find? _) = _
    rw [Table.find?_eq_some.2 ⟨hdev, rfl⟩]
    rfl
  · exact h id entry he

/-- Cataloging devices keeps the registry and every entry, and gives each of them one. -/
theorem foldl_insertDeviceShardRow {pending : List Device} (h : db.Within)
    (hpending : ∀ device ∈ pending, device ∈ db.devices.rows) :
    let db' := pending.foldl PooledDb.insertDeviceShardRow db
    db'.Within ∧ db'.devices = db.devices ∧
      (∀ id, (db.catalogEntry id).isSome → (db'.catalogEntry id).isSome) ∧
      ∀ device ∈ pending, (db'.catalogEntry device.deviceId).isSome := by
  induction pending generalizing db with
  | nil => exact ⟨h, rfl, fun _ hid => hid, nofun⟩
  | cons device pending ih =>
    have hkeep : ∀ id, (db.catalogEntry id).isSome →
        ((db.insertDeviceShardRow device).catalogEntry id).isSome := by
      intro id hid
      rw [catalogEntry_insert]
      split
      · rfl
      · exact hid
    have hnew : ((db.insertDeviceShardRow device).catalogEntry device.deviceId).isSome := by
      rw [catalogEntry_insert]
      split
      · rfl
      · next hc => exact Option.isSome_iff_ne_none.2 fun hnone => hc ⟨rfl, hnone⟩
    obtain ⟨h1, h2, h3, h4⟩ := ih (h.insert (hpending device List.mem_cons_self))
      fun d hd => hpending d (List.mem_cons_of_mem _ hd)
    refine ⟨h1, h2, fun id hid => h3 id (hkeep id hid), fun d hd => ?_⟩
    rcases List.mem_cons.1 hd with rfl | hd
    · exact h3 _ hnew
    · exact h4 d hd

/-- The backfill restores the mirror wherever no entry is wrong. -/
theorem backfill_mirrors (h : db.Within) : db.backfillDeviceShards.Mirrors := by
  have hpending : ∀ device ∈ db.uncataloged, device ∈ db.devices.rows := fun device hd =>
    (List.mem_filter.1 ((List.mem_insertionSort _).1 hd)).1
  obtain ⟨hwithin, hdevices, hkeep, hnew⟩ := foldl_insertDeviceShardRow h hpending
  intro id
  cases hentry : db.backfillDeviceShards.catalogEntry id with
  | some entry => exact (hwithin id entry hentry).symm
  | none =>
    cases hdev : db.devices.find? id with
    | none =>
      simp only [PooledDb.registryEntry, PooledDb.backfillDeviceShards, hdevices, hdev,
        Option.map_none]
    | some device =>
      -- a registered device had an entry, or is one of those cataloged now
      obtain ⟨hmem, hid⟩ := Table.find?_eq_some.1 hdev
      have hsome : (db.backfillDeviceShards.catalogEntry id).isSome := by
        cases hold : db.deviceShards.find? id with
        | some row =>
          refine hkeep id ?_
          rw [PooledDb.catalogEntry, hold]
          rfl
        | none =>
          rw [← hid]
          refine hnew device ((List.mem_insertionSort _).2 (List.mem_filter.2 ⟨hmem, ?_⟩))
          rw [hid, hold]
          rfl
      rw [hentry] at hsome
      cases hsome

end

/-! ## The calls keep the mirror -/

/-- A method keeps the mirror. -/
def Method.KeepsMirror {α : Type} (m : Method α) : Prop :=
  ∀ db x a db' es, PooledDb.Mirrors db → m.body db x = .ok (a, db', es) → db'.Mirrors

/-- A registration adds the device and its shard in one transaction. -/
theorem registerDevice_keepsMirror (device : Device) : (registerDevice device).KeepsMirror := by
  intro db x a db' es h hrun
  simp only [registerDevice, bind_eq_ok, okOr_eq_ok] at hrun
  obtain ⟨devices, hins, hret⟩ := hrun
  cases hret
  exact h.insert rfl rfl hins rfl rfl

/-- So does a bootstrap. -/
theorem bootstrap_keepsMirror (device : Device) (actor : ActorId) (actorKind digest : String) :
    (bootstrap device actor actorKind digest).KeepsMirror := by
  intro db x a db' es h hrun
  simp only [bootstrap, guard_eq_ok, bind_eq_ok, okOr_eq_ok] at hrun
  obtain ⟨-, devices, hins, actors, -, hret⟩ := hrun
  cases hret
  exact h.insert rfl rfl hins rfl rfl

/-- A change of status is made in both tables. -/
theorem deviceStatusMethod_keepsMirror (device : DeviceId) (status : DeviceStatus) :
    (deviceStatusMethod device status).KeepsMirror := by
  intro db x a db' es h hrun
  simp only [deviceStatusMethod, bind_eq_ok, okOr_eq_ok] at hrun
  obtain ⟨_, -, hret⟩ := hrun
  cases hret
  refine h.map (Table.find?_update _ _ _ (by intro _; rfl))
    (Table.find?_update _ _ _ (by intro _; rfl)) (fun shard => ?_) fun shard row hkey hs => ?_
  · split <;> rfl
  · simp only [hkey, decide_eq_true_eq]
    split
    · rfl
    · exact hs

/-- A new credential changes no entry of either table. -/
theorem rotateDeviceCredential_keepsMirror (device : DeviceId) (digest : String) :
    (rotateDeviceCredential device digest).KeepsMirror := by
  intro db x a db' es h hrun
  simp only [rotateDeviceCredential, bind_eq_ok, okOr_eq_ok] at hrun
  obtain ⟨_, -, hret⟩ := hrun
  cases hret
  exact h.mapDevices (Table.find?_update _ _ _ (by intro _; rfl)) rfl fun row => by split <;> rfl

/-- Neither does a heartbeat. -/
theorem heartbeatDevice_keepsMirror (device : DeviceId) :
    (heartbeatDevice device).KeepsMirror := by
  intro db x a db' es h hrun
  simp only [heartbeatDevice, bind_eq_ok, okOr_eq_ok] at hrun
  obtain ⟨_, -, hret⟩ := hrun
  cases hret
  exact h.mapDevices (Table.find?_update _ _ _ (by intro _; rfl)) rfl fun row => by split <;> rfl

/-! ## Runs -/

/-- Every action of a call keeps the mirror, and relies on nothing else of the others. -/
def mirrorRely (M : SemanticMemory) : RelyGuarantee (catalogService M) where
  inv h := h.state.db.Mirrors
  rely _ _ _ := True
  guar _ _ _ h' := h'.state.db.Mirrors
  rely_refl _ _ := trivial
  rely_trans _ _ := trivial
  guar_rely _ _ _ := trivial
  guar_inv _ hg := hg
  release_guar hinv := by simpa [catalogService] using hinv

section
variable {β : Type} {i : Tid} {call : CatalogCall} {h : Hist (MnemesStore M) Event}

/-- The rest of a call keeps the mirror. -/
def KeepsMirror (i : Tid) (call : CatalogCall) {β : Type} (t : Op M β) : Prop :=
  ∀ h, t.run.Safe ((mirrorRely M).terms i call) (fun _ _ => True) h

/-- A result without an action keeps the mirror. -/
theorem keepsMirror_pure {a : β} : KeepsMirror (M := M) i call (pure a : Op M β) :=
  fun _ => Proc.Safe.done fun _ _ _ => trivial

/-- An error without an action keeps the mirror. -/
theorem keepsMirror_throw {e : MnemesError} : KeepsMirror (M := M) i call (throw e : Op M β) :=
  fun _ => Proc.Safe.done fun _ _ _ => trivial

/-- Calls that keep the mirror do so one after the other. -/
theorem keepsMirror_bind {α : Type} {t : Op M α} {k : α → Op M β} (ht : KeepsMirror i call t)
    (hk : ∀ a, KeepsMirror i call (k a)) : KeepsMirror i call (t >>= k) := by
  refine fun h => Proc.Safe.attempt_bind ((ht h).mono_post fun r h' _ _ => ?_)
  cases r with
  | ok a => exact hk a h'
  | error e => exact fun _ _ _ => trivial

/-- A section of the database keeps the mirror if every one of its results does. -/
theorem keepsMirror_section {α : Type}
    {f : PooledDb → Choice → Except MnemesError (α × PooledDb × List Event)}
    (hf : ∀ db x a db' es, PooledDb.Mirrors db → f db x = .ok (a, db', es) → db'.Mirrors) :
    KeepsMirror (M := M) i call (poolConn f) := by
  refine fun h => Proc.Safe.atomic fun h' x _ hinv => ⟨?_, fun _ _ _ => trivial⟩
  have hinv : h'.state.db.Mirrors := hinv
  show PooledDb.Mirrors _
  cases hx : x.fault with
  | some error => exact hinv
  | none =>
    cases hrun : f h'.state.db x with
    | error e => simpa [hx, hrun] using hinv
    | ok r =>
      obtain ⟨a, db', es⟩ := r
      simpa [hx, hrun] using hf _ _ _ _ _ hinv hrun

/-- A method that keeps the mirror does so as a call. -/
theorem keepsMirror_op {α : Type} {m : Method α} (hm : m.KeepsMirror) :
    KeepsMirror (M := M) i call m.op := by
  refine keepsMirror_bind ?_ fun _ => keepsMirror_section hm
  cases hc : m.check with
  | ok u => exact keepsMirror_pure
  | error e => exact keepsMirror_throw

/-- The file system is not the catalog. -/
theorem keepsMirror_fileSystem : KeepsMirror (M := M) i call fileSystem := by
  refine fun h => Proc.Safe.atomic fun h' x _ hinv => ⟨?_, fun _ _ _ => trivial⟩
  have hinv : h'.state.db.Mirrors := hinv
  show PooledDb.Mirrors _
  cases x.fault <;> exact hinv

/-- Neither is the owner. -/
theorem keepsMirror_memoryCall {α : Type}
    {f : MnemesStore M → Except MnemesError α × MnemesStore M × List Event}
    (hf : ∀ s, (f s).2.1.db = s.db) : KeepsMirror i call (memoryCall f) := by
  refine fun h => Proc.Safe.atomic fun h' x _ hinv => ⟨?_, fun _ _ _ => trivial⟩
  have hinv : h'.state.db.Mirrors := hinv
  show PooledDb.Mirrors _
  cases hx : x.fault with
  | some error => exact hinv
  | none => simpa [hx, hf] using hinv

/-- A section that reads keeps the mirror. -/
theorem keepsMirror_poolRead {α : Type} {f : PooledDb → Except MnemesError α} :
    KeepsMirror (M := M) i call (poolRead f) :=
  keepsMirror_section fun db x a db' es h hrun => by
    cases hread : f db with
    | error e => rw [hread] at hrun; cases hrun
    | ok a' => rw [hread] at hrun; cases hrun; exact h

/-- Opening a shard keeps the mirror. -/
theorem keepsMirror_deviceMemory {device : DeviceId} :
    KeepsMirror (M := M) i call (deviceMemory device) := by
  unfold deviceMemory
  refine keepsMirror_bind keepsMirror_poolRead fun path => ?_
  split
  · exact keepsMirror_throw
  · exact keepsMirror_memoryCall fun _ => rfl

/-- A refresh of the counters changes no entry of the catalog. -/
theorem keepsMirror_refreshShardCounts {device : DeviceId} :
    KeepsMirror (M := M) i call (refreshShardCounts device) := by
  unfold refreshShardCounts
  refine keepsMirror_bind keepsMirror_deviceMemory fun _ =>
    keepsMirror_bind (keepsMirror_memoryCall fun _ => rfl) fun stats =>
      keepsMirror_section fun db x a db' es h hrun => ?_
  split at hrun
  · cases hrun
  · cases hrun
    refine h.mapShards rfl (Table.find?_update _ _ _ (by intro _; rfl)) (fun shard => ?_)
      fun shard => ?_
    · split <;> rfl
    · split <;> rfl

/-- Neither does a refresh of the summary. -/
theorem keepsMirror_refreshShardSummary {device : DeviceId} {routingTerms : String}
    {namespaces : List String} :
    KeepsMirror (M := M) i call (refreshShardSummary device routingTerms namespaces) := by
  unfold refreshShardSummary
  refine keepsMirror_bind keepsMirror_deviceMemory fun _ =>
    keepsMirror_bind (keepsMirror_memoryCall fun _ => rfl) fun stats =>
      keepsMirror_bind (keepsMirror_section fun db x a db' es h hrun => ?_) fun _ =>
        keepsMirror_poolRead
  split at hrun
  · cases hrun
  · cases hrun
    refine h.mapShards rfl (Table.find?_update _ _ _ (by intro _; rfl)) (fun shard => ?_)
      fun shard => ?_
    · split <;> rfl
    · split <;> rfl

/-- Opening adds the shards that are missing. -/
theorem keepsMirror_openWithSharedEmbedder {legacyGlobal : Option String} :
    KeepsMirror (M := M) i call (openWithSharedEmbedder legacyGlobal) := by
  have hopen : KeepsMirror (M := M) i call (do
      fileSystem
      poolConn fun db _ => .ok ((), db.backfillDeviceShards, [])
      fileSystem) := by
    refine keepsMirror_bind keepsMirror_fileSystem fun _ =>
      keepsMirror_bind (keepsMirror_section fun db x a db' es h hrun => ?_) fun _ =>
        keepsMirror_fileSystem
    cases hrun
    exact backfill_mirrors h.within
  cases legacyGlobal with
  | none => exact hopen
  | some path => exact keepsMirror_throw

/-- Every call of the service keeps the mirror. -/
theorem CatalogCall.keepsMirror : KeepsMirror (M := M) i call call.op := by
  cases call with
  | bootstrap device actor actorKind digest =>
    exact keepsMirror_bind keepsMirror_fileSystem fun _ =>
      keepsMirror_bind (keepsMirror_op (bootstrap_keepsMirror _ _ _ _)) fun _ => keepsMirror_pure
  | registerDevice device =>
    exact keepsMirror_bind keepsMirror_fileSystem fun _ =>
      keepsMirror_bind (keepsMirror_op (registerDevice_keepsMirror _)) fun _ => keepsMirror_pure
  | rotateDeviceCredential device digest =>
    exact keepsMirror_op (rotateDeviceCredential_keepsMirror _ _)
  | heartbeatDevice device => exact keepsMirror_op (heartbeatDevice_keepsMirror _)
  | setDeviceStatus device status => exact keepsMirror_op (deviceStatusMethod_keepsMirror _ _)
  | refreshShardCounts device => exact keepsMirror_refreshShardCounts
  | refreshShardSummary device routingTerms namespaces =>
    exact keepsMirror_bind keepsMirror_refreshShardSummary fun _ => keepsMirror_pure
  | openStore legacyGlobal => exact keepsMirror_openWithSharedEmbedder

end

/-- A store without devices and without catalog rows. -/
def MnemesStore.Blank (s : MnemesStore M) : Prop :=
  s.db.devices.rows = [] ∧ s.db.deviceShards.rows = []

/-- An empty catalog mirrors an empty registry. -/
theorem MnemesStore.Blank.mirrors {s : MnemesStore M} (h : s.Blank) : s.db.Mirrors := by
  intro device
  simp only [PooledDb.catalogEntry, PooledDb.registryEntry, Table.find?, h.1, h.2]
  rfl

/-- In every state that any interleaving of the calls reaches from an empty store, each device has
exactly one catalog row, with its own path and the state of its status, and every catalog row is a
device's. -/
theorem catalog_mirrors_registry
    {c : Config CatalogCall (MnemesStore M) Choice Event (Except MnemesError Unit)}
    (hc : (catalogService M).Reachable MnemesStore.Blank c) :
    (∀ device ∈ c.hist.state.db.devices.rows,
      ∃! shard, shard ∈ c.hist.state.db.deviceShards.rows ∧ shard.deviceId = device.deviceId) ∧
    (∀ device ∈ c.hist.state.db.devices.rows, ∀ shard ∈ c.hist.state.db.deviceShards.rows,
      shard.deviceId = device.deviceId →
        shard.relativePath = "memory/shards/" ++ device.deviceId.text ∧
        shard.state = .ofDeviceStatus device.status) ∧
    ∀ shard ∈ c.hist.state.db.deviceShards.rows,
      ∃ device ∈ c.hist.state.db.devices.rows, device.deviceId = shard.deviceId := by
  have hbodies : (mirrorRely M).Bodies fun _ _ _ _ => True :=
    fun _ _ h _ _ => CatalogCall.keepsMirror h
  have h : c.hist.state.db.Mirrors :=
    (RelyGuarantee.Holds.reachable hbodies (fun _ hs => MnemesStore.Blank.mirrors hs) hc).inv
  refine ⟨fun device hdev => ?_, fun device hdev shard hshard hkey => ?_, fun shard hshard => ?_⟩
  · have hfind := Table.find?_eq_some.2 ⟨hdev, rfl⟩
    have hsome := h.find?_isSome device.deviceId
    rw [hfind] at hsome
    obtain ⟨shard, hshard⟩ := Option.isSome_iff_exists.1 hsome
    obtain ⟨hmem, hkey⟩ := Table.find?_eq_some.1 hshard
    exact ⟨shard, ⟨hmem, hkey⟩, fun other ho => Table.eq_of_key ho.1 hmem (ho.2.trans hkey.symm)⟩
  · have hentry := h device.deviceId
    rw [PooledDb.catalogEntry, PooledDb.registryEntry, Table.find?_eq_some.2 ⟨hshard, hkey⟩,
      Table.find?_eq_some.2 ⟨hdev, rfl⟩] at hentry
    obtain ⟨hpath, hstate⟩ := Prod.mk.inj (Option.some.inj hentry)
    exact ⟨hpath, hstate⟩
  · have hsome := h.find?_isSome shard.deviceId
    rw [Table.find?_eq_some.2 ⟨hshard, rfl⟩] at hsome
    obtain ⟨device, hdev⟩ := Option.isSome_iff_exists.1 hsome.symm
    exact ⟨device, Table.find?_eq_some.1 hdev⟩

namespace Sample

/-- A registration, a bootstrap, a change of status, a refresh and a reopening, interleaved; the
bootstrap fails. -/
def catalogRun : List (Command CatalogCall Choice) :=
  [.start 0 (.registerDevice (device deviceA digestCredentialA)),
    .start 1 (.bootstrap (device deviceB digestCredentialB) actorB "human" "digest"),
    .start 2 (.setDeviceStatus deviceA .quarantined),
    .start 3 (.refreshShardSummary deviceA "Rust, rust" ["notes"]),
    .start 4 (.openStore none),
    .run 1 plain, .run 0 plain, .run 0 plain, .run 1 plain, .run 4 plain, .run 3 plain,
    .run 2 plain, .run 3 plain, .run 4 plain, .run 3 plain, .run 3 plain, .run 3 plain,
    .run 4 plain]

/-- A store on which nothing has happened. -/
def blankStore : MnemesStore memory where
  db :=
    { devices := .empty
      actors := .empty
      operations := .empty
      deviceShards := .empty
      replication := fun _ => ⟨.empty, .empty⟩ }
  gate _ := none
  shards _ := []

end Sample

open Sample in
/-- The shard of a device that was registered and quarantined is quarantined. -/
theorem catalog_mirrors_registry_sample :
    ∃ c, (catalogService memory).run (Service.init blankStore) catalogRun = some c ∧
      ∃ shard ∈ c.hist.state.db.deviceShards.rows, shard.deviceId = deviceA ∧
        shard.state = .quarantined ∧ shard.generation = 2 := by
  have hrun : ((catalogService memory).run (Service.init blankStore) catalogRun).any (fun c =>
      c.hist.state.db.devices.rows.any (fun d => d.deviceId = deviceA && d.status = .quarantined) &&
        c.hist.state.db.deviceShards.rows.all (·.generation = 2)) = true := by
    decide +kernel
  obtain ⟨c, hc, hc'⟩ := (Option.any_eq_true _ _).1 hrun
  simp only [Bool.and_eq_true, List.any_eq_true, List.all_eq_true, decide_eq_true_eq] at hc'
  obtain ⟨⟨device, hdev, hid, hstatus⟩, hgeneration⟩ := hc'
  obtain ⟨hone, hentry, -⟩ := catalog_mirrors_registry (M := memory)
    ⟨blankStore, catalogRun, ⟨rfl, rfl⟩, hc⟩
  obtain ⟨shard, ⟨hshard, hkey⟩, -⟩ := hone device hdev
  obtain ⟨-, hstate⟩ := hentry device hdev shard hshard hkey
  exact ⟨c, hc, shard, hshard,
    hkey.trans hid, by rw [hstate, hstatus]; rfl, hgeneration shard hshard⟩

end Mnemes
