import Mnemes.Lib.Lists
import Mnemes.Profile.Policy

/-!
# Runs of the control plane

What one call does to the database (`Does`, one case for each method that succeeds), and from it
what holds of every database that a run reaches (`Reachable.of_keeps`): stored identities pass their
checks, and the unrevoked bindings of an actor never overlap.
-/

namespace Mnemes

open Relational

/-! ## What a call can do -/

/-- A method that returns has passed its check, and its section has run without a fault. -/
theorem Method.exec_eq_ok {α : Type} {m : Method α} {db db' : PooledDb} {x : Choice} {a : α} :
    m.exec db x = .ok (a, db') ↔
      m.check = .ok () ∧ x.fault = none ∧ ∃ es, m.body db x = .ok (a, db', es) := by
  unfold Method.exec
  cases m.check with
  | error e => simp [bind, Except.bind]
  | ok u =>
    cases x.fault with
    | some error => simp [bind, Except.bind, throw, throwThe, MonadExceptOf.throw]
    | none =>
      cases m.body db x with
      | error e => simp [bind, Except.bind]
      | ok r =>
        obtain ⟨a', db'', es⟩ := r
        simp [bind, Except.bind, pure, Except.pure]

/-- A method fails in its check, for a fault of its section, or in its section. -/
theorem Method.exec_eq_error {α : Type} {m : Method α} {db : PooledDb} {x : Choice}
    {e : MnemesError} (h : m.exec db x = .error e) :
    m.check = .error e ∨ (∃ error, e = .database error) ∨
      m.check = .ok () ∧ m.body db x = .error e := by
  unfold Method.exec at h
  rcases bind_eq_error.1 h with h | ⟨u, hcheck, h⟩
  · exact .inl h
  · split at h
    · next error hx =>
      cases h
      exact .inr (.inl ⟨error, rfl⟩)
    · rcases bind_eq_error.1 h with h | ⟨r, -, h⟩
      · exact .inr (.inr ⟨hcheck, h⟩)
      · cases h

/-- What a call does to the database: nothing, or what its method does when it succeeds. -/
inductive ControlCall.Does (P : Platform) (db : PooledDb) : ControlCall → PooledDb → Prop where
  | failed (call : ControlCall) : Does P db call db
  | registeredDevice {device : Device} {row : Device} {devices : Table Device Device.deviceId}
    {deviceShards : Table DeviceShard DeviceShard.deviceId} :
    row.deviceId = device.deviceId → db.devices.insert? row = some devices →
    Does P db (.registerDevice device) { db with devices, deviceShards }
  | deviceStatusSet {device : DeviceId} {status : DeviceStatus} {now : String}
    {deviceShards : Table DeviceShard DeviceShard.deviceId} :
    Does P db (.setDeviceStatus device status)
      { db with
        devices := db.devices.update (·.deviceId = device)
          ({ · with status := status, lastSeenAt := now }) fun _ => rfl
        deviceShards }
  | credentialRotated {device : DeviceId} {digest now : String} :
    Does P db (.rotateDeviceCredential device digest)
      { db with
        devices := db.devices.update (·.deviceId = device)
          ({ · with credentialFingerprint := some digest, lastSeenAt := now }) fun _ => rfl }
  | heartbeat {device : DeviceId} {now : String} :
    Does P db (.heartbeatDevice device)
      { db with
        devices := db.devices.update (·.deviceId = device) ({ · with lastSeenAt := now })
          fun _ => rfl }
  | registeredActor {actor : Actor} {actors : Table Actor Actor.actorId} {now : String} :
    db.actors.insert? { actor with recordedAt := now } = some actors →
    Does P db (.registerActor actor) { db with actors }
  | bootstrapped {device row : Device} {actor : ActorId} {operator : Actor}
    {actorKind digest : String} {devices : Table Device Device.deviceId}
    {actors : Table Actor Actor.actorId}
    {deviceShards : Table DeviceShard DeviceShard.deviceId} :
    db.devices.insert? row = some devices → db.actors.insert? operator = some actors →
    Does P db (.bootstrap device actor actorKind digest) { db with devices, actors, deviceShards }
  | registeredProfile {profile : MemoryProfile} {now : String}
    {memoryProfiles : Table MemoryProfile MemoryProfile.profileId} :
    db.memoryProfiles.insert? { profile with createdAt := now } = some memoryProfiles →
    Does P db (.registerMemoryProfile profile) { db with memoryProfiles }
  | registeredStore {store : MemoryStoreIdentity} {now : String}
    {memoryStores : Table MemoryStoreIdentity MemoryStoreIdentity.storeId} :
    store.validate = .ok () →
    db.memoryStores.insert? { store with createdAt := now } = some memoryStores →
    Does P db (.registerMemoryStore store) { db with memoryStores }
  | profileStatusSet {profile : MemoryProfileId} {status : MemoryProfileStatus} :
    Does P db (.setMemoryProfileStatus profile status)
      { db with
        memoryProfiles := db.memoryProfiles.update (·.profileId = profile)
          ({ · with status := status }) fun _ => rfl }
  | storeStatusSet {storeId : String} {status : MemoryStoreStatus} :
    Does P db (.setMemoryStoreStatus storeId status)
      { db with
        memoryStores := db.memoryStores.update (·.storeId = storeId)
          ({ · with status := status }) fun _ => rfl }
  | granted {grant : MemoryAccessGrant} {store : MemoryStoreIdentity} {row : MemoryAccessGrantRow}
    {now : String} {memoryAccessGrants : Table MemoryAccessGrantRow MemoryAccessGrantRow.grantId} :
    db.issuerIsOperator grant.issuedByActorId = true →
    db.memoryStores.find? grant.storeId = some store → store.namespace = grant.namespace →
    grant.row? now = some row → db.memoryAccessGrants.insert? row = some memoryAccessGrants →
    Does P db (.grantMemoryAccess grant) { db with memoryAccessGrants }
  | revoked {grantId : MemoryGrantId} {revokedAt : UInt64} {row : MemoryAccessGrantRow}
    {window : Window} :
    db.memoryAccessGrants.find? grantId = some row → row.window.revokedAt = none →
    row.window.revoke? revokedAt.toInt64 = some window →
    Does P db (.revokeMemoryAccess grantId revokedAt)
      { db with
        memoryAccessGrants := db.memoryAccessGrants.update (·.grantId = grantId)
          ({ · with window := window }) fun _ => rfl }
  | bound {binding : ActorProfileBinding} {row : ActorProfileBindingRow} {now : String}
    {actorProfileBindings : Table ActorProfileBindingRow ActorProfileBindingRow.bindingId} :
    db.bindingOverlaps binding.actorId binding.validFrom.toInt64 binding.expiresAt.toInt64 = false →
    binding.row? now = some row →
    db.actorProfileBindings.insert? row = some actorProfileBindings →
    Does P db (.bindActorProfile binding) { db with actorProfileBindings }
  | unbound {bindingId : ActorProfileBindingId} {revokedAt : UInt64} {row : ActorProfileBindingRow}
    {window : Window} :
    revokedAt.toNat < 2 ^ 63 → db.actorProfileBindings.find? bindingId = some row →
    row.window.revokedAt = none → row.window.revoke? revokedAt.toInt64 = some window →
    Does P db (.revokeActorProfileBinding bindingId revokedAt)
      { db with
        actorProfileBindings := db.actorProfileBindings.update (·.bindingId = bindingId)
          ({ · with window := window }) fun _ => rfl }

/-- A computation whose result passes a test has succeeded. -/
theorem ok_of_any {ε α : Type} {r : Except ε α} {p : α → Bool} (h : r.toOption.any p = true) :
    ∃ a, r = .ok a ∧ p a = true := by
  cases r with
  | error e => cases h
  | ok a => exact ⟨a, rfl, h⟩

/-- A method that does something when it returns, does that or nothing. -/
theorem Method.next_of_exec {α : Type} {m : Method α} {db : PooledDb} {x : Choice}
    {R : PooledDb → Prop} (h0 : R db) (h : ∀ a db', m.exec db x = .ok (a, db') → R db') :
    R (m.next db x) := by
  unfold Method.next
  split
  · next a db' he => exact h a db' he
  · exact h0

/-- A number of a binding is stored exactly if it is in the range of the column. -/
theorem bindingInteger_eq_ok {value : UInt64} {text : String} {i : Int64} :
    bindingInteger value text = .ok i ↔ i64TryFrom value = some i := by
  simp [bindingInteger]

/-- Every call does what its method does when it succeeds, or nothing. -/
theorem ControlCall.next_does (P : Platform) (db : PooledDb) (x : Choice) (call : ControlCall) :
    call.Does P db (call.next P db x) := by
  cases call with
  | registerDevice device =>
    refine Method.next_of_exec (.failed _) fun a db' h => ?_
    obtain ⟨-, -, es, h⟩ := Method.exec_eq_ok.1 h
    simp only [Mnemes.registerDevice, bind_eq_ok, okOr_eq_ok] at h
    obtain ⟨devices, hins, h⟩ := h
    cases h
    refine .registeredDevice ?_ hins
    rfl
  | setDeviceStatus device status =>
    refine Method.next_of_exec (.failed _) fun a db' h => ?_
    obtain ⟨-, -, es, h⟩ := Method.exec_eq_ok.1 h
    simp only [deviceStatusMethod, bind_eq_ok, okOr_eq_ok] at h
    obtain ⟨row, -, h⟩ := h
    cases h
    exact .deviceStatusSet
  | rotateDeviceCredential device digest =>
    refine Method.next_of_exec (.failed _) fun a db' h => ?_
    obtain ⟨-, -, es, h⟩ := Method.exec_eq_ok.1 h
    simp only [Mnemes.rotateDeviceCredential, bind_eq_ok, okOr_eq_ok] at h
    obtain ⟨row, -, h⟩ := h
    cases h
    exact .credentialRotated
  | heartbeatDevice device =>
    refine Method.next_of_exec (.failed _) fun a db' h => ?_
    obtain ⟨-, -, es, h⟩ := Method.exec_eq_ok.1 h
    simp only [Mnemes.heartbeatDevice, bind_eq_ok, okOr_eq_ok] at h
    obtain ⟨row, -, h⟩ := h
    cases h
    exact .heartbeat
  | bootstrap device actor actorKind digest =>
    refine Method.next_of_exec (.failed _) fun a db' h => ?_
    obtain ⟨-, -, es, h⟩ := Method.exec_eq_ok.1 h
    simp only [Mnemes.bootstrap, bind_eq_ok, okOr_eq_ok, guard_eq_ok] at h
    obtain ⟨-, devices, hdevices, actors, hactors, h⟩ := h
    cases h
    exact .bootstrapped hdevices hactors
  | registerActor actor =>
    refine Method.next_of_exec (.failed _) fun a db' h => ?_
    obtain ⟨-, -, es, h⟩ := Method.exec_eq_ok.1 h
    simp only [Mnemes.registerActor, bind_eq_ok, okOr_eq_ok, guard_eq_ok] at h
    obtain ⟨actors, hins, -, h⟩ := h
    cases h
    exact .registeredActor hins
  | registerMemoryProfile profile =>
    refine Method.next_of_exec (.failed _) fun a db' h => ?_
    obtain ⟨-, -, es, h⟩ := Method.exec_eq_ok.1 h
    simp only [Mnemes.registerMemoryProfile, bind_eq_ok, okOr_eq_ok, guard_eq_ok] at h
    obtain ⟨-, memoryProfiles, hins, h⟩ := h
    cases h
    exact .registeredProfile hins
  | registerMemoryStore store =>
    refine Method.next_of_exec (.failed _) fun a db' h => ?_
    obtain ⟨hcheck, -, es, h⟩ := Method.exec_eq_ok.1 h
    simp only [Mnemes.registerMemoryStore, bind_eq_ok, okOr_eq_ok, guard_eq_ok] at h hcheck
    obtain ⟨⟨⟩, hvalid, -⟩ := hcheck
    obtain ⟨owner, -, -, -, -, memoryStores, hins, h⟩ := h
    cases h
    exact .registeredStore hvalid hins
  | setMemoryProfileStatus profile status =>
    refine Method.next_of_exec (.failed _) fun a db' h => ?_
    obtain ⟨-, -, es, h⟩ := Method.exec_eq_ok.1 h
    simp only [Mnemes.setMemoryProfileStatus, bind_eq_ok, okOr_eq_ok] at h
    obtain ⟨row, -, h⟩ := h
    cases h
    exact .profileStatusSet
  | setMemoryStoreStatus storeId status =>
    refine Method.next_of_exec (.failed _) fun a db' h => ?_
    obtain ⟨-, -, es, h⟩ := Method.exec_eq_ok.1 h
    simp only [Mnemes.setMemoryStoreStatus, bind_eq_ok, okOr_eq_ok] at h
    obtain ⟨row, -, h⟩ := h
    cases h
    exact .storeStatusSet
  | grantMemoryAccess grant =>
    refine Method.next_of_exec (.failed _) fun a db' h => ?_
    obtain ⟨-, -, es, h⟩ := Method.exec_eq_ok.1 h
    simp only [Mnemes.grantMemoryAccess, bind_eq_ok, okOr_eq_ok, guard_eq_ok,
      PooledDb.insertGrant] at h
    obtain ⟨hissuer, store, hstore, owners, -, hns, -, -, grantee, -, -, -, db'', hins, h⟩ := h
    obtain ⟨row, hrow, -, memoryAccessGrants, hins, hdb⟩ := hins
    cases h
    cases hdb
    exact .granted (by simpa using hissuer) (Option.filter_eq_some_iff.1 hstore).1
      (by simpa using hns) hrow hins
  | revokeMemoryAccess grantId revokedAt =>
    refine Method.next_of_exec (.failed _) fun a db' h => ?_
    obtain ⟨-, -, es, h⟩ := Method.exec_eq_ok.1 h
    simp only [Mnemes.revokeMemoryAccess, bind_eq_ok, okOr_eq_ok] at h
    obtain ⟨row, hrow, window, hwindow, h⟩ := h
    cases h
    obtain ⟨hrow, hrev⟩ := Option.filter_eq_some_iff.1 hrow
    exact .revoked hrow (by simpa using hrev) hwindow
  | bindActorProfile binding =>
    refine Method.next_of_exec (.failed _) fun a db' h => ?_
    obtain ⟨-, -, es, h⟩ := Method.exec_eq_ok.1 h
    simp only [Mnemes.bindActorProfile, bind_eq_ok, okOr_eq_ok, guard_eq_ok,
      PooledDb.insertBinding] at h
    obtain ⟨-, actor, -, -, profile, -, -, hoverlap, db'', hins, h⟩ := h
    obtain ⟨row, hrow, -, actorProfileBindings, hins, hdb⟩ := hins
    cases h
    cases hdb
    exact .bound (by simpa using hoverlap) hrow hins
  | revokeActorProfileBinding bindingId revokedAt =>
    refine Method.next_of_exec (.failed _) fun a db' h => ?_
    obtain ⟨hcheck, -, es, h⟩ := Method.exec_eq_ok.1 h
    simp only [Mnemes.revokeActorProfileBinding, bind_eq_ok, okOr_eq_ok,
      bindingInteger_eq_ok] at h hcheck
    obtain ⟨i, hi, -⟩ := hcheck
    obtain ⟨row, hrow, window, hwindow, h⟩ := h
    cases h
    obtain ⟨hrow, hrev⟩ := Option.filter_eq_some_iff.1 hrow
    exact .unbound (i64TryFrom_eq_some hi).1 hrow (by simpa using hrev) hwindow

/-! ## Reachable databases -/

/-- A database without profiles, stores, grants and bindings; its devices and actors are any. -/
structure PooledDb.Fresh (db : PooledDb) : Prop where
  profiles : db.memoryProfiles.rows = []
  stores : db.memoryStores.rows = []
  grants : db.memoryAccessGrants.rows = []
  bindings : db.actorProfileBindings.rows = []

/-- What holds of a fresh database and is kept by every call holds at the end of every run. -/
theorem controlRun_keeps {P : Platform} {I : PooledDb → Prop}
    (hstep : ∀ {db db' : PooledDb} {call : ControlCall}, call.Does P db db' → I db → I db')
    {db : PooledDb} (h : I db) (calls : List (ControlCall × Choice)) :
    I (controlRun P db calls) := by
  induction calls generalizing db with
  | nil => exact h
  | cons call calls ih => exact ih (hstep (call.1.next_does P db call.2) h)

/-- The databases that runs of the control plane reach. -/
def Reachable (P : Platform) (db : PooledDb) : Prop :=
  ∃ db₀ calls, db₀.Fresh ∧ controlRun P db₀ calls = db

/-- What holds of fresh databases and is kept by every call holds of reachable ones. -/
theorem Reachable.of_keeps {P : Platform} {I : PooledDb → Prop}
    (hfresh : ∀ {db : PooledDb}, db.Fresh → I db)
    (hstep : ∀ {db db' : PooledDb} {call : ControlCall}, call.Does P db db' → I db → I db')
    {db : PooledDb} (h : Reachable P db) : I db := by
  obtain ⟨db₀, calls, h₀, rfl⟩ := h
  exact controlRun_keeps hstep (hfresh h₀) calls

/-! ## Invariants -/

/-- Stored identities pass their checks: a call stores only what it has validated, and changes
nothing of it but its status. -/
theorem Reachable.storesValid {P : Platform} {db : PooledDb} (h : Reachable P db) :
    db.StoresValid := by
  refine h.of_keeps (I := PooledDb.StoresValid) (fun h => ?_) fun hdoes hv => ?_
  · intro store hstore
    rw [h.stores] at hstore
    cases hstore
  · cases hdoes with
    | registeredStore hvalid hins =>
      intro store hstore
      rcases (Table.mem_insert hins).1 hstore with hstore | rfl
      · exact hv _ hstore
      · exact hvalid
    | storeStatusSet =>
      intro store hstore
      simp only [Table.mem_update] at hstore
      obtain ⟨old, hold, rfl⟩ := hstore
      have hold := hv _ hold
      split
      · exact hold
      · exact hold
    | _ => exact hv

/-- Unrevoked bindings of one actor that overlap are one binding. -/
def PooledDb.BindingsDisjoint (db : PooledDb) : Prop :=
  ∀ row ∈ db.actorProfileBindings.rows, ∀ row' ∈ db.actorProfileBindings.rows,
    row.actorId = row'.actorId → row.window.revokedAt = none → row'.window.revokedAt = none →
    row.window.validFrom < row'.window.expiresAt → row'.window.validFrom < row.window.expiresAt →
    row = row'

/-- The row a new binding is stored as: its window is unrevoked and has the binding's times. -/
theorem ActorProfileBinding.row?_eq_some {binding : ActorProfileBinding} {now : String}
    {row : ActorProfileBindingRow} (h : binding.row? now = some row) :
    row.bindingId = binding.bindingId ∧ row.actorId = binding.actorId ∧
      row.profileId = binding.profileId ∧ row.ownerDeviceId = binding.ownerDeviceId ∧
      row.issuedByActorId = binding.issuedByActorId ∧
      row.window.validFrom = binding.validFrom.toInt64 ∧
      row.window.expiresAt = binding.expiresAt.toInt64 ∧ row.window.revokedAt = none ∧
      row.bindingEpoch = binding.bindingEpoch.toInt64 ∧
      row.bindingDigest = binding.bindingDigest := by
  unfold row? at h
  split at h
  · cases h
  · next window hwindow =>
    split at h
    · cases h
      obtain ⟨h1, h2, h3⟩ := Window.check?_eq_some.1 hwindow
      exact ⟨rfl, rfl, rfl, rfl, rfl, h1, h2, h3, rfl, rfl⟩
    · cases h

/-- A new binding is stored only where no unrevoked binding of its actor overlaps it, and a
revocation takes a binding out. -/
theorem Reachable.bindingsDisjoint {P : Platform} {db : PooledDb} (h : Reachable P db) :
    db.BindingsDisjoint := by
  refine h.of_keeps (I := PooledDb.BindingsDisjoint) (fun h => ?_) fun {db db' call} hdoes hv => ?_
  · intro row hrow
    rw [h.bindings] at hrow
    cases hrow
  · cases hdoes with
    | @bound binding new now actorProfileBindings hoverlap hnew hins =>
      obtain ⟨-, hactor, -, -, -, hfrom, hto, -, -⟩ := binding.row?_eq_some hnew
      have hno : ∀ row ∈ db.actorProfileBindings.rows, row.actorId = new.actorId →
          row.window.revokedAt = none → row.window.validFrom < new.window.expiresAt →
          ¬ new.window.validFrom < row.window.expiresAt := by
        intro row hrow ha hr h1 h2
        have := List.any_eq_false.1 hoverlap row hrow
        rw [← hfrom, ← hto, ← hactor] at this
        simp [ha, hr, h1, h2] at this
      intro row hrow row' hrow' ha hr hr' h1 h2
      rcases (Table.mem_insert hins).1 hrow with hrow | rfl <;>
        rcases (Table.mem_insert hins).1 hrow' with hrow' | rfl
      · exact hv row hrow row' hrow' ha hr hr' h1 h2
      · exact absurd h2 (hno row hrow ha hr h1)
      · exact absurd h1 (hno row' hrow' ha.symm hr' h2)
      · rfl
    | @unbound bindingId revokedAt new window hlt hfind hrev hwindow =>
      obtain ⟨-, -, hrevoked⟩ := Window.check?_eq_some.1 hwindow
      have hkeep : ∀ row ∈ (db.actorProfileBindings.update (·.bindingId = bindingId)
          ({ · with window := window }) fun _ => rfl).rows,
          row.window.revokedAt = none → row ∈ db.actorProfileBindings.rows := by
        intro row hrow hr
        simp only [Table.mem_update] at hrow
        obtain ⟨old, hold, rfl⟩ := hrow
        split at hr
        · rw [hrevoked] at hr
          cases hr
        · next hne => rwa [if_neg hne]
      intro row hrow row' hrow' ha hr hr' h1 h2
      exact hv row (hkeep row hrow hr) row' (hkeep row' hrow' hr') ha hr hr' h1 h2
    | _ => exact hv

/-! ## A run

An operator registers two profiles of its device and a store of the second, grants the first to
search it, and binds itself to the first. The digests are the true ones. -/

namespace Sample

def laptop : DeviceId := ⟨"0f8fad5b-d9cb-469f-a165-70867728950e"⟩

def alice : ActorId := ⟨"7d444840-9dc0-41d1-b245-5ffdce74fad2"⟩

/-- One active device with an operator. -/
def registry : PooledDb where
  devices := ⟨[{
    deviceId := laptop
    label := "laptop"
    platform := "linux"
    hostname := "laptop"
    credentialFingerprint := none
    firstSeenAt := "now"
    lastSeenAt := "now"
    status := .active }], by decide⟩
  actors := ⟨[{
    actorId := alice
    deviceId := laptop
    toolProfile := .operator
    actorKind := "human"
    providerModel := none
    recordedAt := "now" }], by decide⟩
  operations := .empty
  deviceShards := .empty
  replication _ := ⟨.empty, .empty⟩

/-- The registry has no profiles, stores, grants or bindings. -/
theorem registry_fresh : registry.Fresh := ⟨rfl, rfl, rfl, rfl⟩

/-- A profile of the device. -/
def profile (id : String) : MemoryProfile where
  profileId := ⟨id⟩
  ownerDeviceId := laptop
  label := id
  status := .active
  createdAt := ""

/-- A store of a profile of the device. -/
def storeOf (profileId storeId : String) : MemoryStoreIdentity where
  storeId := storeId
  profileId := ⟨profileId⟩
  ownerDeviceId := laptop
  «namespace» := "shared"
  relativePath := s!"memory/profiles/{profileId}/{storeId}"
  status := .active
  createdAt := ""

def grant : MemoryAccessGrant where
  grantId := ⟨"16fd2706-8baf-433b-82eb-8c7fada847da"⟩
  granteeProfileId := ⟨"alice"⟩
  storeId := "notes"
  «namespace» := "shared"
  effect := .search
  issuedByActorId := alice
  validFrom := 20
  expiresAt := 80
  revokedAt := none
  createdAt := ""

def binding : ActorProfileBinding where
  bindingId := ⟨"e58ed763-928c-4155-bee9-fdbaaadc15f3"⟩
  actorId := alice
  profileId := ⟨"alice"⟩
  ownerDeviceId := laptop
  issuedByActorId := alice
  validFrom := 10
  expiresAt := 90
  revokedAt := none
  bindingEpoch := 1
  bindingDigest := "d24d95fcbf2a2687a84a6d5271cdc4e56b507ab34ad69de565a69d2a7f210112"
  recordedAt := ""

/-- What the digest of the snapshot for `alice` at time 50 covers. -/
def snapshotFields : List String :=
  [alice.text, laptop.text, "alice", binding.bindingId.text, binding.bindingDigest, "search", "",
    s!"notes|team|{laptop.text}|shared|memory/profiles/team/notes|{grant.grantId.text}|80", "50",
    "mnemes.profile-authz.v1"]

/-- Each identity that parses is canonical, as none does. -/
theorem no_uuid {value : String} {parsed : Uuid}
    (h : (fun _ => .error "invalid character" : String → Except String Uuid) value = .ok parsed) :
    (fun _ => .error "invalid character" : String → Except String Uuid) parsed.hyphenated =
      .ok parsed := by
  cases h

/-- SHA-256, on what this run asks of it. -/
def digests : Platform where
  uuidParseStr _ := .error "invalid character"
  uuid_canonical := @no_uuid
  sha256 bytes :=
    if bytes = digestPreimage "mnemes.authorization-snapshot.v1" snapshotFields then
      #v[22, 57, 235, 114, 8, 179, 30, 186, 56, 97, 161, 6, 133, 78, 153, 198, 251, 165, 207, 141,
        80, 216, 234, 129, 159, 168, 6, 79, 161, 68, 138, 0]
    else
      #v[210, 77, 149, 252, 191, 42, 38, 135, 168, 74, 109, 82, 113, 205, 196, 229, 107, 80, 122,
        179, 74, 214, 157, 229, 101, 166, 157, 42, 127, 33, 1, 18]
  verifyingKey _ := .ok ()
  verify _ _ _ := .ok ()
  verifyingKeyOf seed := seed
  sign _ _ := Vector.replicate 64 0

/-- An action without a fault. -/
def step : Choice := ⟨none, "now"⟩

/-- The registrations of the run. -/
def registrations : List (ControlCall × Choice) :=
  [(.registerMemoryProfile (profile "alice"), step),
    (.registerMemoryProfile (profile "team"), step),
    (.registerMemoryStore (storeOf "team" "notes"), step)]

/-- The run, up to the grant and the binding. -/
def sharing : List (ControlCall × Choice) :=
  registrations ++ [(.grantMemoryAccess grant, step), (.bindActorProfile binding, step)]

/-- The database after the run. -/
def shared : PooledDb := controlRun digests registry sharing

/-- The database with the shared store is reached by the calls that share it. -/
theorem shared_reachable : Reachable digests shared := ⟨registry, sharing, registry_fresh, rfl⟩

end Sample

end Mnemes
