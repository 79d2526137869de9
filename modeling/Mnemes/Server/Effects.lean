import Mnemes.Conformance
import Mnemes.Lib.Keeps
import Mnemes.Server.Mcp

/-!
# What a request can change

`Effect` is all that one action of a request may do to the store, with the authority it takes: the
credential of an active device, an actor of that device, or an operator on it, each read from the
tables at some time of the request; and for a registration, the bootstrap secret or an empty
registry. A census is any properties that the rows of the two tables have, and one that holds where
there is no device; every action of every request is an effect under every census
(`HttpCall.body_keeps`). What the server guarantees over whole runs follows from the effects alone.
-/

namespace Mnemes

open Concurrency Relational

variable {M : SemanticMemory} {S : SearchSources} {α β : Type}

/-! ## Authority -/

/-- What the rows of the tables of devices and actors have to be, and what has to hold where no
device is registered. -/
structure Census where
  device : Device → Prop
  actor : Actor → Prop
  fresh : Prop

/-- Every row of the two tables is such, and no registry is empty unless that is so. -/
structure Census.Covers (C : Census) (s : MnemesStore M) : Prop where
  devices : ∀ row ∈ s.db.devices.rows, C.device row
  actors : ∀ row ∈ s.db.actors.rows, C.actor row
  fresh : s.db.devices.rows = [] → C.fresh

/-- The device is active, and the token is its credential. -/
def Device.Admits (P : Platform) (row : Device) (token : String) : Prop :=
  row.status = .active ∧ ∃ secret, parseAuthorizationToken P token = .ok (row.deviceId, secret) ∧
    verifyCredential P row.credentialFingerprint (row.deviceId.text ++ ":" ++ secret) = true

namespace Census

variable (C : Census) (P : Platform) (headers : Request)

/-- A request presents the credential of an active device. -/
def Presents (device : DeviceId) : Prop :=
  ∃ token row, bearerToken headers = .ok token ∧ C.device row ∧ row.deviceId = device ∧
    row.Admits P token

/-- A request may act as an actor: one of the device whose credential it presents. -/
def Acts (actor : Actor) : Prop := C.actor actor ∧ C.Presents P headers actor.deviceId

/-- A request may act as an operator. -/
def Operates : Prop := ∃ actor, C.Acts P headers actor ∧ actor.toolProfile = .operator

/-- A request presents the credential of some active device. -/
def Knows : Prop := ∃ device, C.Presents P headers device

/-- A request presents the credential of the device that a path or a payload names. -/
def Owns (raw : String) : Prop :=
  ∃ device, parseDeviceId P raw = .ok device ∧ C.Presents P headers device

/-- A request may act as the actor that a payload names. -/
def ActsAs (raw : String) (actor : Actor) : Prop :=
  parseActorId P raw = .ok actor.actorId ∧ C.Acts P headers actor

/-- A request may call the tool that its parameters name, as the actor that they name. -/
def Calls (params : Option Json.Value) : Prop :=
  ∃ tool raw actor, parseToolCall params = .ok tool ∧ tool.actorId = some raw ∧
    C.ActsAs P headers raw actor ∧
      (readTool tool.name = true ∨ operatorTool tool.name = true ∧ actor.toolProfile = .operator)

/-- Who the target of a request serves. -/
def Serves : Target → Prop
  | .route .livez | .route (.registerDevice _) => True
  | .route (.heartbeat raw) | .route (.rotateDevice raw) | .route (.revokeDevice raw)
  | .route (.quarantineDevice raw) => C.Owns P headers raw
  | .route (.registerActor payload) => C.Owns P headers payload.deviceId
  | .route (.submitOperation payload) => ∃ actor,
      C.ActsAs P headers payload.requestingActorId actor ∧ actor.toolProfile = .operator
  | .route (.searchProfileWitnessed payload) => ∃ actor, C.ActsAs P headers payload.actorId actor
  | .route _ => C.Knows P headers
  | .mcp request => C.Knows P headers ∧
      (request.method = "tools/call" → C.Calls P headers request.params)

end Census

/-- A response that is not an error is for a request that its target serves. -/
def Answers (C : Census) (P : Platform) (call : HttpCall) (reply : Reply S) : Prop :=
  reply.status < 400 → C.Serves P call.headers call.target

/-- A request may register a device over the route: it presents the bootstrap secret, or there is
none, and no device was registered. -/
def Census.Registers (C : Census) (Z : ServerState M S) (call : HttpCall) : Prop :=
  (∃ payload, call.target = .route (.registerDevice payload)) ∧
    ((∃ secret, Z.bootstrapSecret = .ok secret ∧ bearerToken call.headers = .ok secret) ∨
      Z.bootstrapSecret = .notPresent ∧ C.fresh)

/-! ## Effects -/

/-- What one action of a request may do to the store. -/
inductive Effect (C : Census) (Z : ServerState M S) (call : HttpCall) (s : MnemesStore M) :
    MnemesStore M → Prop
  /-- At most a lock is taken or given back. -/
  | idle (gate : Family → Option Tid) : Effect C Z call s { s with gate }
  /-- A device is registered, over the registration route or by an operator. -/
  | register {row : Device} {devices : Table Device Device.deviceId}
    {deviceShards : Table DeviceShard DeviceShard.deviceId}
    (hwho : C.Registers Z call ∨ C.Operates Z.platform call.headers)
    (hdevice : row.deviceId = call.drawn.deviceId) (hstatus : row.status = .active)
    (hdevices : s.db.devices.insert? row = some devices)
    (hshards : deviceShards =
      (s.db.deviceShards.insert? (newShardRow row)).getD s.db.deviceShards) :
    Effect C Z call s { s with db := { s.db with devices, deviceShards } }
  /-- A device is heard of, or gets a new credential. -/
  | amend {target : DeviceId} {f : Device → Device} {hid : ∀ row, (f row).deviceId = row.deviceId}
    (hwho : C.Presents Z.platform call.headers target ∨ C.Operates Z.platform call.headers)
    (hstatus : ∀ row, (f row).status = row.status) :
    Effect C Z call s { s with
      db := { s.db with devices := s.db.devices.update (·.deviceId = target) f hid } }
  /-- A device is quarantined or revoked, with its shard. -/
  | demote {target : DeviceId} {status : DeviceStatus} (now : String)
    (hwho : C.Presents Z.platform call.headers target ∨ C.Operates Z.platform call.headers)
    (hstatus : status ≠ .active) :
    Effect C Z call s { s with
      db := { s.db with
        devices := s.db.devices.update (·.deviceId = target)
          ({ · with status := status, lastSeenAt := now }) fun _ => rfl
        deviceShards := s.db.deviceShards.update (·.deviceId = target)
          ({ · with state := .ofDeviceStatus status }) fun _ => rfl } }
  /-- An actor is registered: by its device over the route, or by an operator. -/
  | enrol {actor : Actor} {actors : Table Actor Actor.actorId}
    (hwho : (C.Presents Z.platform call.headers actor.deviceId ∧ ∃ payload : RegisterActorRequest,
        call.target = .route (.registerActor payload) ∧
          actor.toolProfile = requestedProfile payload.toolProfile) ∨
      C.Operates Z.platform call.headers)
    (hdevice : (s.db.devices.find? actor.deviceId).isSome)
    (hactors : s.db.actors.insert? actor = some actors) :
    Effect C Z call s { s with db := { s.db with actors } }
  /-- An operation is stored, of an actor that the request may act as: an operator, except for the
  observation of a run pack. -/
  | submit {actor : Actor} {row : OperationEnvelope}
    {operations : Table OperationEnvelope OperationEnvelope.operationId}
    (hwho : C.Acts Z.platform call.headers actor)
    (hprofile : actor.toolProfile = .operator ∨
      row.operationKind = .observe ∧ row.targetKind = "run_pack_projection")
    (hactor : row.requestingActorId = actor.actorId)
    (hdevice : row.requestingDeviceId = actor.deviceId)
    (hoperations : s.db.operations.insert? row = some operations) :
    Effect C Z call s { s with db := { s.db with operations } }
  /-- An edge is stored, of an actor that the request may act as. -/
  | relate {actor : Actor} {row : ProvenanceEdgeRow}
    {provenanceEdges : Table ProvenanceEdgeRow ProvenanceEdgeRow.edgeId}
    (hwho : C.Acts Z.platform call.headers actor)
    (hcall : call.target = .route .importRunPackObservation)
    (hactor : row.actorId = some actor.actorId) (hdevice : row.deviceId = some actor.deviceId)
    (hedges : s.db.provenanceEdges.insert? row = some provenanceEdges) :
    Effect C Z call s { s with db := { s.db with provenanceEdges } }
  /-- The receipt of a search is stored. -/
  | receipt {device : DeviceId} {row : ShardRoutingReceiptRow}
    (hwho : C.Presents Z.platform call.headers device) :
    Effect C Z call s { s with
      db := { s.db with shardRoutingReceipts := s.db.shardRoutingReceipts ++ [row] } }
  /-- The receipt of a search for a profile is stored, of an actor that the request may act as. -/
  | profileReceipt {actor : Actor} {row : ProfileRoutingReceiptRow}
    (hwho : C.Acts Z.platform call.headers actor)
    (hactor : row.requesterActorId = .text actor.actorId.text) :
    Effect C Z call s { s with
      db := { s.db with profileRoutingReceipts := s.db.profileRoutingReceipts ++ [row] } }
  /-- The shard of the device whose credential is presented applies an envelope. -/
  | apply {F : Family} {device : DeviceId} {envelope : ReplicaEnvelopeV1}
    {answer : ReplicaApplyOutcome} {shard : M.Store}
    (hwho : C.Presents Z.platform call.headers device)
    (happly : (F.code M).apply (s.shards device) envelope = .ok (answer, shard)) :
    Effect C Z call s { s with shards := Function.update s.shards device shard }
  /-- The counters of that shard are copied into the catalog. -/
  | refresh {device : DeviceId} {f : DeviceShard → DeviceShard}
    {hid : ∀ row, (f row).deviceId = row.deviceId}
    (hwho : C.Presents Z.platform call.headers device)
    (hstate : ∀ row, (f row).state = row.state)
    (hpath : ∀ row, (f row).relativePath = row.relativePath) :
    Effect C Z call s { s with
      db := { s.db with deviceShards := s.db.deviceShards.update (·.deviceId = device) f hid } }
  /-- A shard is searched, for a device whose credential is presented, and records the search. -/
  | search {device target : DeviceId} {context : SearchContext} {request : RoutingSearchRequest}
    {shard : M.Store} (hwho : C.Presents Z.platform call.headers device)
    (hsearch : shard = (Z.disk.searchWithContext (s.shards target) context request).2) :
    Effect C Z call s { s with shards := Function.update s.shards target shard }
  /-- The catalog counts a search of a shard, for a device whose credential is presented. -/
  | observe {device target : DeviceId} (latencyMs : UInt64)
    (hwho : C.Presents Z.platform call.headers device) :
    Effect C Z call s { s with
      db := { s.db with
        deviceShards := s.db.deviceShards.update (·.deviceId = target) (·.observe latencyMs)
          fun _ => rfl } }
  /-- The request is audited: in the name of the device whose credential is presented or that is
  registered, and of an actor that the request may act as. -/
  | audit {device : DeviceId} {row : AuditEvent} {auditEvents : Table AuditEvent AuditEvent.eventId}
    (hwho : C.Presents Z.platform call.headers device ∨
      device = call.drawn.deviceId ∧ C.Registers Z call)
    (hdevice : row.deviceId = some device)
    (hactor : ∀ id, row.actorId = some id →
      ∃ actor, C.Acts Z.platform call.headers actor ∧ actor.actorId = id)
    (haudit : s.db.auditEvents.insert? row = some auditEvents) :
    Effect C Z call s { s with db := { s.db with auditEvents } }
  /-- A batch of that device is acknowledged. -/
  | acknowledge {F : Family} {device : DeviceId} {row : AckRow} {acks : Table AckRow AckRow.batchId}
    (hwho : C.Presents Z.platform call.headers device) (hhome : row.homeDeviceId = device.text)
    (hacks : (s.db.replication F).acks.insert? row = some acks) :
    Effect C Z call s { s with
      db := s.db.setReplication F { s.db.replication F with acks } }

/-! ## Sections -/

/-- Wherever a census covers the tables, the actions of a call are effects. -/
def Within (C : Census) (Z : ServerState M S) (call : HttpCall) (Q : α → Prop) (t : Op M α) :
    Prop :=
  Proc.KeepsOk C.Covers (Effect C Z call) Q t

section
variable {C : Census} {Z : ServerState M S} {call : HttpCall} {Q : α → Prop} {R : β → Prop}
  {s : MnemesStore M}

/-- To do nothing is an effect. -/
theorem Effect.refl : Effect C Z call s s := .idle s.gate

/-- Two calls in sequence, the second on a result of the first. -/
theorem Within.bind {t : Op M α} {f : α → Op M β} (ht : Within C Z call Q t)
    (hf : ∀ a, Q a → Within C Z call R (f a)) : Within C Z call R (t >>= f) :=
  Proc.KeepsOk.bind ht hf

/-- A result that is so is also of any weaker kind. -/
theorem Within.mono {Q' : α → Prop} {t : Op M α} (ht : Within C Z call Q t)
    (hQ : ∀ a, Q a → Q' a) : Within C Z call Q' t :=
  Proc.KeepsOk.mono ht (fun _ h => h) (fun _ _ _ h => h) hQ

/-- A fact of the call goes with whatever result. -/
theorem Within.given {p : Prop} (hp : p) {t : Op M α} (ht : Within C Z call Q t) :
    Within C Z call (fun _ => p) t :=
  ht.mono fun _ _ => hp

/-- Whatever is done with any result. -/
theorem Within.any {t : Op M α} (ht : Within C Z call Q t) : Within C Z call (fun _ => True) t :=
  ht.mono fun _ _ => trivial

/-- A result. -/
theorem within_pure {a : α} (ha : Q a) : Within C Z call Q (pure a : Op M α) :=
  Proc.keepsOk_pure ha

/-- An error is no result. -/
theorem within_throw {e : MnemesError} : Within C Z call Q (throw e : Op M α) :=
  Proc.keepsOk_throw

/-- A value or an error, of which a value is such a result. -/
theorem within_lift {r : Except MnemesError α} (hr : ∀ a, r = .ok a → Q a) :
    Within C Z call Q (liftM r : Op M α) :=
  Proc.keepsOk_except hr

/-- A value or an error. -/
theorem within_ok {r : Except MnemesError α} :
    Within C Z call (fun a => r = .ok a) (liftM r : Op M α) :=
  within_lift fun _ h => h

/-- A value or an error, whatever the value. -/
theorem within_value {r : Except MnemesError α} :
    Within C Z call (fun _ => True) (liftM r : Op M α) :=
  within_lift fun _ _ => trivial

/-- A section is an effect where its statements are. -/
theorem within_poolConn {f : PooledDb → Choice → Except MnemesError (α × PooledDb × List Event)}
    (hf : ∀ (s : MnemesStore M) x a db es, C.Covers s → f s.db x = .ok (a, db, es) →
      Effect C Z call s { s with db } ∧ Q a) :
    Within C Z call Q (poolConn f : Op M α) := by
  refine Proc.keepsOk_atomic fun s x hs => ?_
  split
  · exact ⟨.refl, fun _ h => by cases h⟩
  · split
    · exact ⟨.refl, fun _ h => by cases h⟩
    · next a db es hrun =>
      obtain ⟨heffect, hQ⟩ := hf s x a db es hs hrun
      exact ⟨heffect, fun _ h => by cases h; exact hQ⟩

/-- A section that reads. -/
theorem within_poolRead {f : PooledDb → Except MnemesError α}
    (hf : ∀ (s : MnemesStore M) a, C.Covers s → f s.db = .ok a → Q a) :
    Within C Z call Q (poolRead f : Op M α) := by
  refine within_poolConn fun s x a db es hs hrun => ?_
  cases hread : f s.db with
  | error e => simp [hread, Except.map] at hrun
  | ok b =>
    simp only [hread, Except.map, Except.ok.injEq, Prod.mk.injEq] at hrun
    obtain ⟨rfl, rfl, rfl⟩ := hrun
    exact ⟨.refl, hf s b hs hread⟩

/-- A section that reads, whatever it reads. -/
theorem within_read {f : PooledDb → Except MnemesError α} :
    Within C Z call (fun _ => True) (poolRead f : Op M α) :=
  within_poolRead fun _ _ _ _ => trivial

/-- A query whose failure counts as an empty result. -/
theorem within_poolReadOk {f : PooledDb → Option α} {note : α → List Event} {Q : Option α → Prop}
    (hnone : Q none) (hf : ∀ s : MnemesStore M, C.Covers s → Q (f s.db)) :
    Within C Z call Q (poolReadOk f note : Op M (Option α)) := by
  refine Proc.keepsOk_atomic fun s x hs => ?_
  split
  · exact ⟨.refl, fun _ h => by cases h; exact hnone⟩
  · exact ⟨.refl, fun _ h => by cases h; exact hf s hs⟩

/-- A call of `semantic-memory` is an effect where what it does to the shards is. -/
theorem within_memoryCall
    {f : MnemesStore M → Except MnemesError α × MnemesStore M × List Event}
    (hf : ∀ s, C.Covers s → Effect C Z call s (f s).2.1 ∧ ∀ a, (f s).1 = .ok a → Q a) :
    Within C Z call Q (memoryCall f : Op M α) := by
  refine Proc.keepsOk_atomic fun s x hs => ?_
  split
  · exact ⟨.refl, fun _ h => by cases h⟩
  · exact hf s hs

/-- A step of the file system leaves the store as it is. -/
theorem within_fileSystem : Within C Z call (fun _ => True) (fileSystem : Op M Unit) := by
  refine Proc.keepsOk_atomic fun s x _ => ?_
  split <;> exact ⟨.refl, fun _ _ => trivial⟩

/-- A method of the store is an effect where its statements are. -/
theorem within_op {m : Method α}
    (hf : ∀ (s : MnemesStore M) x a db es, C.Covers s → m.body s.db x = .ok (a, db, es) →
      Effect C Z call s { s with db } ∧ Q a) :
    Within C Z call Q (m.op : Op M α) := by
  unfold Method.op
  exact within_value.bind fun _ _ => within_poolConn hf

/-- A call under a lock. -/
theorem within_underGate {i : Tid} {F : Family} {t : Op M α} (ht : Within C Z call Q t) :
    Within C Z call Q (underGate i F t) :=
  Proc.keepsOk_locked (fun _ _ => .idle _) (fun _ _ => .idle _) ht

/-- A call as a process that ends with an error or a result. -/
theorem Within.keeps {t : Op M α} (ht : Within C Z call Q t) :
    t.run.Keeps C.Covers (Effect C Z call) fun r => ∀ a, r = .ok a → Q a := ht

/-- A process that cannot fail. -/
theorem within_liftProc {t : Proc (MnemesStore M) Choice Event α}
    (ht : t.Keeps C.Covers (Effect C Z call) fun _ => True) :
    Within C Z call (fun _ => True) (liftM t : Op M α) :=
  Proc.keepsOk_lift ht

/-- A call for each element of a list. -/
theorem within_mapM {f : α → Op M β} (hf : ∀ a, Within C Z call (fun _ => True) (f a))
    (as : List α) :
    Within C Z call (fun _ => True) (as.mapM f) :=
  Proc.KeepsOk.mono (Proc.keepsOk_mapM hf as) (fun _ h => h) (fun _ _ _ h => h) fun _ _ => trivial

/-- A call whose failure is looked at. -/
theorem within_attempted {t : Op M α} (ht : Within C Z call Q t) :
    Within C Z call (fun r => ∀ a, r = .ok a → Q a) (attempted t) :=
  Proc.keepsOk_lift ht

end

-- The actions of a call are followed with the rules above, without looking into the process.
attribute [irreducible] Within

/-! ## Authentication -/

section
variable {C : Census} {Z : ServerState M S} {call : HttpCall} {token : String}

/-- A device that is found is a row of the census. -/
theorem within_getDevice {device : DeviceId} :
    Within C Z call (fun found => ∀ row, found = some row → C.device row ∧ row.deviceId = device)
      (getDevice device : Op M (Option Device)) := by
  refine within_poolReadOk (fun _ h => by cases h) fun s hs row hrow => ?_
  obtain ⟨hmem, hid⟩ := Table.find?_eq_some.1 hrow
  exact ⟨hs.devices row hmem, hid⟩

/-- An actor that is found is a row of the census. -/
theorem within_getActor {actor : ActorId} :
    Within C Z call (fun found => ∀ row, found = some row → C.actor row ∧ row.actorId = actor)
      (getActor actor : Op M (Option Actor)) := by
  refine within_poolReadOk (fun _ h => by cases h) fun s hs row hrow => ?_
  obtain ⟨hmem, hid⟩ := Table.find?_eq_some.1 hrow
  exact ⟨hs.actors row hmem, hid⟩

/-- A token that is accepted is the credential of a row. -/
theorem within_tokenDeviceId :
    Within C Z call
      (fun r => ∃ row, C.device row ∧ row.deviceId = r.1.deviceId ∧ row.Admits Z.platform token)
      (tokenDeviceId Z.platform token : Op M (Device × Option String)) := by
  unfold tokenDeviceId
  refine within_ok.bind fun r hparse => ?_
  obtain ⟨device, secret⟩ := r
  have hrow : Within C Z call (fun found => ∀ r, found = some r → ∃ row, C.device row ∧
      row.deviceId = device ∧ row.credentialFingerprint = r.1 ∧ row.status = r.2)
      (credentialRow device : Op M _) := by
    refine within_poolReadOk (fun _ h => by cases h) fun s hs r hr => ?_
    obtain ⟨row, hfind, rfl⟩ := Option.map_eq_some_iff.1 hr
    obtain ⟨hmem, hid⟩ := Table.find?_eq_some.1 hfind
    exact ⟨row, hs.devices row hmem, hid, rfl, rfl⟩
  refine hrow.bind fun found hfound => ?_
  cases found with
  | none => exact within_throw
  | some r =>
    obtain ⟨fingerprint, status⟩ := r
    obtain ⟨row, hC, rfl, hfingerprint, hstatus⟩ := hfound _ rfl
    simp only
    split
    · exact within_throw
    · next hactive =>
      split
      · exact within_throw
      · next hverify =>
        refine within_getDevice.bind fun found hdevice => ?_
        cases found with
        | none => exact within_throw
        | some row' =>
          refine within_pure ⟨row, hC, (hdevice row' rfl).2.symm, ?_, secret, hparse, ?_⟩
          · rw [hstatus]
            exact not_not.1 hactive
          · rw [hfingerprint]
            simpa using hverify

/-- A request that is authenticated is one of an active device, and its actor one of that device. -/
theorem within_authenticateRequest {actorId : Option ActorId} :
    Within C Z call (fun r => (∃ row, C.device row ∧ row.deviceId = r.1.deviceId ∧
        row.Admits Z.platform token) ∧ (∀ actor, r.2 = some actor → C.actor actor ∧
          actor.deviceId = r.1.deviceId) ∧
        ∀ id, actorId = some id → ∃ actor, r.2 = some actor ∧ actor.actorId = id)
      (authenticateRequest Z.platform token actorId : Op M (Device × Option Actor)) := by
  unfold authenticateRequest
  refine within_tokenDeviceId.bind fun r hr => ?_
  obtain ⟨device, fingerprint⟩ := r
  cases actorId with
  | none => exact within_pure ⟨hr, fun _ h => (by cases h), fun _ h => by cases h⟩
  | some id =>
    simp only
    refine within_getActor.bind fun found hfound => ?_
    cases found with
    | none => exact within_throw
    | some actor =>
      obtain ⟨hC, rfl⟩ := hfound actor rfl
      simp only
      split
      · exact within_throw
      · next hhome =>
        refine within_pure ⟨hr, fun a ha => ?_, fun id hid => ⟨actor, rfl, ?_⟩⟩
        · cases ha
          exact ⟨hC, not_not.1 hhome⟩
        · cases hid
          rfl

/-- A request that is authorized presents the credential of the device. -/
theorem within_authorize :
    Within C Z call (fun device => C.Presents Z.platform call.headers device.deviceId)
      (authorize Z.platform call.headers : Op M Device) := by
  unfold authorize
  refine within_ok.bind fun token htoken => within_authenticateRequest.bind fun r hr => ?_
  obtain ⟨row, hC, hid, hadmits⟩ := hr.1
  exact within_pure ⟨token, row, htoken, hC, hid, hadmits⟩

end

section
variable {Z : ServerState M S} {C : Census} {call : HttpCall}

/-- A request that is authorized with an actor may act as that actor. -/
theorem within_authorizeAs {actorId : Option ActorId} :
    Within C Z call (fun r => C.Presents Z.platform call.headers r.1.deviceId ∧
        (∀ actor, r.2 = some actor →
          C.Acts Z.platform call.headers actor ∧ actor.deviceId = r.1.deviceId) ∧
        ∀ id, actorId = some id → ∃ actor, r.2 = some actor ∧ actor.actorId = id)
      (Z.authorizeAs call.headers actorId : Op M (Device × Option Actor)) := by
  unfold ServerState.authorizeAs
  refine within_ok.bind fun token htoken => within_authenticateRequest.mono fun r hr => ?_
  obtain ⟨⟨row, hC, hid, hadmits⟩, hactor, hnamed⟩ := hr
  have hpresents : C.Presents Z.platform call.headers r.1.deviceId :=
    ⟨token, row, htoken, hC, hid, hadmits⟩
  refine ⟨hpresents, fun actor ha => ?_, hnamed⟩
  obtain ⟨hCa, hhome⟩ := hactor actor ha
  exact ⟨⟨hCa, hhome ▸ hpresents⟩, hhome⟩

/-- The handlers of a device's own routes go on with the device whose credential is presented. -/
theorem within_ownDevice {raw : String} :
    Within C Z call (fun device => parseDeviceId Z.platform raw = .ok device ∧
        C.Presents Z.platform call.headers device)
      (Z.ownDevice call.headers raw : Op M DeviceId) := by
  unfold ServerState.ownDevice
  refine within_ok.bind fun device hdevice => within_authorize.bind fun row hrow => ?_
  split
  · exact within_throw
  · next hsame => exact within_pure ⟨hdevice, not_not.1 hsame ▸ hrow⟩

end

/-! ## The writing methods -/

section
variable {C : Census} {Z : ServerState M S} {call : HttpCall}

/-- An operation is looked up. -/
theorem within_getOperation {operationId : OperationId} :
    Within C Z call (fun _ => True) (getOperation operationId : Op M (Option OperationEnvelope)) :=
  within_poolReadOk trivial fun _ _ => trivial

/-- An operation is looked up by its key. -/
theorem within_getOperationByIdempotencyKey {idempotencyKey : String} :
    Within C Z call (fun _ => True)
      (getOperationByIdempotencyKey idempotencyKey : Op M (Option OperationEnvelope)) := by
  unfold getOperationByIdempotencyKey
  refine (within_poolConn (Q := fun _ => True) fun s x a db es _ hrun => ?_).bind fun found _ => ?_
  · split at hrun <;> cases hrun <;> exact ⟨.refl, trivial⟩
  · cases found with
    | none => exact within_pure trivial
    | some operationId => exact within_getOperation

/-- An operation is looked up by its receipt. -/
theorem within_getOperationByReceipt {receiptId : String} :
    Within C Z call (fun _ => True)
      (getOperationByReceipt receiptId : Op M (Option OperationEnvelope)) := by
  unfold getOperationByReceipt
  refine within_read.bind fun found _ => ?_
  cases found with
  | none => exact within_pure trivial
  | some operationId => exact within_getOperation

/-- A device is heard of, from itself or from an operator. -/
theorem within_heartbeatDevice {device : DeviceId}
    (hwho : C.Presents Z.platform call.headers device ∨ C.Operates Z.platform call.headers) :
    Within C Z call (fun _ => True) ((heartbeatDevice device).op : Op M Unit) := by
  refine within_op fun s x a db es _ hrun => ⟨?_, trivial⟩
  simp only [heartbeatDevice, bind_eq_ok] at hrun
  obtain ⟨_, _, hret⟩ := hrun
  cases hret
  exact .amend hwho fun _ => rfl

/-- A credential is changed by its device or by an operator. -/
theorem within_rotateDeviceCredential {device : DeviceId} {digest : String}
    (hwho : C.Presents Z.platform call.headers device ∨ C.Operates Z.platform call.headers) :
    Within C Z call (fun _ => True) ((rotateDeviceCredential device digest).op : Op M Unit) := by
  refine within_op fun s x a db es _ hrun => ⟨?_, trivial⟩
  simp only [rotateDeviceCredential, bind_eq_ok] at hrun
  obtain ⟨_, _, hret⟩ := hrun
  cases hret
  exact .amend hwho fun _ => rfl

/-- A device is taken out of service by itself or by an operator. -/
theorem within_setDeviceStatus {device : DeviceId} {status : DeviceStatus}
    (hwho : C.Presents Z.platform call.headers device ∨ C.Operates Z.platform call.headers)
    (hstatus : status ≠ .active) :
    Within C Z call (fun _ => True) (setDeviceStatus device status : Op M Unit) := by
  refine within_poolConn fun s x a db es _ hrun => ⟨?_, trivial⟩
  split at hrun
  · cases hrun
  · cases hrun
    exact .demote x.now hwho hstatus

/-- A device is registered under the identity that was drawn for it. -/
theorem within_registerDevice {device : Device} {secret : String}
    (hwho : C.Registers Z call ∨ C.Operates Z.platform call.headers)
    (hdevice : device.deviceId = call.drawn.deviceId) (hstatus : device.status = .active) :
    Within C Z call (fun _ => True)
      (registerDeviceWithGeneratedCredential Z.platform device secret :
        Op M (DeviceId × String)) := by
  unfold registerDeviceWithGeneratedCredential
  refine within_fileSystem.bind fun _ _ => ?_
  refine (within_op (Q := fun _ => True) fun s x a db es _ hrun => ⟨?_, trivial⟩).bind fun _ _ =>
    within_pure trivial
  obtain ⟨es₀, hbody, -⟩ := Method.noting_eq_ok.1 hrun
  simp only [registerDevice, bind_eq_ok, okOr_eq_ok] at hbody
  obtain ⟨devices, hins, hret⟩ := hbody
  cases hret
  refine .register hwho ?_ ?_ hins rfl
  · exact hdevice
  · exact hstatus

/-- An actor is registered by its device, with the profile it asks for, or by an operator. -/
theorem within_registerActor {actor : Actor}
    (hwho : (C.Presents Z.platform call.headers actor.deviceId ∧ ∃ payload : RegisterActorRequest,
        call.target = .route (.registerActor payload) ∧
          actor.toolProfile = requestedProfile payload.toolProfile) ∨
      C.Operates Z.platform call.headers) :
    Within C Z call (fun _ => True) ((registerActor actor).op : Op M ActorId) := by
  refine within_op fun s x a db es _ hrun => ⟨?_, trivial⟩
  simp only [registerActor, bind_eq_ok, okOr_eq_ok, guard_eq_ok] at hrun
  obtain ⟨actors, hins, hhome, hret⟩ := hrun
  cases hret
  exact .enrol (by simpa using hwho) (by simpa [Option.isSome_iff_ne_none] using hhome) hins

/-- A request is audited in the name of who may make it. -/
theorem within_logAudit {device : DeviceId} {actor : Option ActorId} {endpoint method : String}
    {outcome : AuditOutcome} {detail : String}
    (hwho : C.Presents Z.platform call.headers device ∨
      device = call.drawn.deviceId ∧ C.Registers Z call)
    (hactor : ∀ id, actor = some id → ∃ a, C.Acts Z.platform call.headers a ∧ a.actorId = id) :
    Within C Z call (fun _ => True)
      (ServerState.logAudit call.drawn device actor endpoint method outcome detail :
        Op M Unit) := by
  unfold ServerState.logAudit
  refine (within_attempted (Q := fun _ => True)
    (within_poolConn fun s x a db es _ hrun => ⟨?_, trivial⟩)).bind fun _ _ => within_pure trivial
  simp only [bind_eq_ok, okOr_eq_ok] at hrun
  obtain ⟨auditEvents, hins, hret⟩ := hrun
  cases hret
  refine .audit hwho ?_ ?_ hins
  · rfl
  · exact hactor

/-- A request is audited in the name of its device. -/
theorem within_deviceAudit {device : DeviceId} {endpoint method : String} {outcome : AuditOutcome}
    {detail : String} (hwho : C.Presents Z.platform call.headers device) :
    Within C Z call (fun _ => True)
      (ServerState.logAudit call.drawn device none endpoint method outcome detail : Op M Unit) :=
  within_logAudit (.inl hwho) fun _ h => by cases h

/-- A call whose error is logged. -/
theorem within_orAudit {α : Type} {Q : α → Prop} {audit : Op M Unit} {t : Op M α}
    (haudit : Within C Z call (fun _ => True) audit) (ht : Within C Z call Q t) :
    Within C Z call Q (ServerState.orAudit audit t) := by
  unfold ServerState.orAudit
  refine (within_attempted ht).bind fun r hr => ?_
  cases r with
  | ok a => exact within_pure (hr a rfl)
  | error error => exact haudit.bind fun _ _ => within_throw

/-- The submission of an operation of an actor that the request may act as. -/
theorem within_submitOperation {actor : Actor} {envelope : OperationEnvelope}
    (hwho : C.Acts Z.platform call.headers actor)
    (hprofile : actor.toolProfile = .operator ∨
      envelope.operationKind = .observe ∧ envelope.targetKind = "run_pack_projection")
    (hactor : envelope.requestingActorId = actor.actorId)
    (hdevice : envelope.requestingDeviceId = actor.deviceId) :
    Within C Z call (fun _ => True) (submitOperation envelope : Op M String) := by
  unfold submitOperation
  refine within_getOperationByIdempotencyKey.bind fun found _ => ?_
  cases found with
  | none =>
    refine within_poolConn fun s x a db es _ hrun => ⟨?_, trivial⟩
    split at hrun
    · cases hrun
    · next operations hins =>
      split at hrun
      · cases hrun
      · cases hrun
        refine .submit hwho ?_ ?_ ?_ hins
        · exact hprofile
        · exact hactor
        · exact hdevice
  | some existing =>
    simp only
    split
    · split
      · exact within_pure trivial
      · exact within_throw
    · exact within_throw

/-- The import of a run pack records an edge in the name of its actor. -/
theorem within_recordProvenanceEdge {C' : Chrono} {J : SerdeJson} {actor : Actor}
    {request : ProvenanceEdgeRequest} {minted : Minted}
    (hwho : C.Acts Z.platform call.headers actor)
    (hcall : call.target = .route .importRunPackObservation)
    (hactor : request.actorId = some actor.actorId)
    (hdevice : request.deviceId = some actor.deviceId) :
    Within C Z call (fun _ => True)
      ((recordProvenanceEdge C' J request minted).op : Op M (ProvenanceEdge J)) := by
  refine within_op fun s x a db es _ hrun => ⟨?_, trivial⟩
  simp only [recordProvenanceEdge, bind_eq_ok] at hrun
  obtain ⟨⟨edge, db'⟩, hconn, hret⟩ := hrun
  cases hret
  obtain ⟨metadata, value, existing, -, -, ⟨-, -, hinsert⟩ | ⟨rfl, -, -⟩⟩ := recordConn_cases hconn
  · simp only [insertProvenanceEdge, bind_eq_ok, okOr_eq_ok, guard_eq_ok] at hinsert
    obtain ⟨-, edges, hins, -, hret⟩ := hinsert
    cases hret
    refine .relate hwho hcall ?_ ?_ hins
    · exact hactor
    · exact hdevice
  · exact .refl

/-- The receipt of a search of shards is stored for a device. -/
theorem within_persistRoutingReceipt {authKey : Bytes32} {receipt : ShardRoutingReceipt}
    {device : DeviceId} (hwho : C.Presents Z.platform call.headers device) :
    Within C Z call (fun _ => True)
      ((persistRoutingReceipt Z.platform authKey receipt).op : Op M Unit) := by
  refine within_op fun s x a db es _ hrun => ⟨?_, trivial⟩
  simp only [persistRoutingReceipt, bind_eq_ok, guard_eq_ok] at hrun
  obtain ⟨_, -, _, -, -, -, hret⟩ := hrun
  cases hret
  exact .receipt hwho

/-- The receipt of a search of stores is stored in the name of its actor. -/
theorem within_persistProfileRoutingReceipt {authKey : Bytes32} {receipt : ProfileRoutingReceipt}
    {actor : Actor} (hwho : C.Acts Z.platform call.headers actor)
    (hactor : receipt.actorId = actor.actorId) :
    Within C Z call (fun _ => True)
      ((persistProfileRoutingReceipt Z.platform authKey receipt).op : Op M Unit) := by
  refine within_op fun s x a db es _ hrun => ⟨?_, trivial⟩
  simp only [persistProfileRoutingReceipt, guard_eq_ok] at hrun
  obtain ⟨-, -, hret⟩ := hrun
  cases hret
  refine .profileReceipt hwho ?_
  rw [hactor]

end

/-! ## The owner's shards -/

section
variable {C : Census} {Z : ServerState M S} {call : HttpCall}

/-- The shard of a device is opened. -/
theorem within_deviceMemory {device : DeviceId} :
    Within C Z call (fun _ => True) (deviceMemory device : Op M Unit) := by
  unfold deviceMemory
  refine within_read.bind fun path _ => ?_
  split
  · exact within_throw
  · exact within_memoryCall fun s _ => ⟨.refl, fun _ _ => trivial⟩

/-- The catalog counts the shard again for the device of a batch. -/
theorem within_refreshShardCounts {device : DeviceId}
    (hwho : C.Presents Z.platform call.headers device) :
    Within C Z call (fun _ => True) (refreshShardCounts device : Op M Unit) := by
  unfold refreshShardCounts shardStats
  refine within_deviceMemory.bind fun _ _ =>
    (within_memoryCall (Q := fun _ => True) fun s _ => ⟨.refl, fun _ _ => trivial⟩).bind
      fun stats _ => within_poolConn fun s x a db es _ hrun => ⟨?_, trivial⟩
  split at hrun
  · cases hrun
  · cases hrun
    exact .refresh hwho (fun _ => rfl) fun _ => rfl

/-- The owner applies an envelope of the device to the device's own shard. -/
theorem within_ownerApply {F : Family} {b : Submission} {device : DeviceId}
    {envelope : ReplicaEnvelopeV1} (hwho : C.Presents Z.platform call.headers device) :
    Within C Z call (fun _ => True)
      (ownerApply F b device envelope : Op M ReplicaApplyOutcome) := by
  unfold Within ownerApply
  refine Proc.keepsOk_atomic fun s x _ => ?_
  split
  · exact ⟨.refl, fun _ _ => trivial⟩
  · next answer shard happly =>
    refine ⟨?_, fun _ _ => trivial⟩
    cases hx : x.fault with
    | some error =>
      rw [hx] at happly
      cases happly
    | none =>
      rw [hx] at happly
      exact .apply hwho happly

/-- An acknowledgement is stored for the batch of the device. -/
theorem within_persistAckLocked {F : Family} {ack : AckRecord} {device : DeviceId}
    (hwho : C.Presents Z.platform call.headers device) (hhome : ack.homeDeviceId = device.text) :
    Within C Z call (fun _ => True) (persistAckLocked F ack : Op M Unit) := by
  unfold persistAckLocked
  refine within_ok.bind fun row hrow => within_poolConn fun s x a db es _ hrun => ⟨?_, trivial⟩
  simp only at hrun
  split at hrun
  · cases hrun
  · next acks hins =>
    cases hrun
    refine .acknowledge hwho ?_ hins
    rw [AckRecord.row] at hrow
    split at hrow
    · cases hrow
      exact hhome
    · cases hrow

/-- A batch of the device whose credential is presented. -/
theorem within_applyRequest {F : Family} {i : Tid} {b : Submission} {requestDigest : String}
    {device : DeviceId} (hwho : C.Presents Z.platform call.headers device)
    (hhome : b.homeDeviceId = device.text) :
    Within C Z call (fun _ => True)
      (applyRequest Z.platform F i b requestDigest : Op M AckRecord) := by
  have hdevice : ∀ d, b.device Z.platform = .ok d → d = device := by
    obtain ⟨token, row, -, -, rfl, -, secret, hparse, -⟩ := hwho
    intro d hd
    rw [Submission.device, hhome, parseAuthorizationToken_device hparse] at hd
    cases hd
    rfl
  unfold applyRequest
  refine within_underGate (within_read.bind fun found _ => ?_)
  cases found with
  | some existing =>
    simp only
    split
    · exact within_throw
    · exact within_pure trivial
  | none =>
    unfold applyNewBatch checkAdmissionLocked
    simp only [bind_assoc]
    refine within_value.bind fun r _ => within_value.bind fun _ _ => within_read.bind fun _ _ =>
      within_ok.bind fun d hd => within_deviceMemory.bind fun _ _ => ?_
    obtain rfl := hdevice d hd
    refine (within_ownerApply hwho).bind fun answer _ => ?_
    cases answer.accepted with
    | none => exact within_throw
    | some acceptedHead =>
      simp only
      split
      · exact (within_refreshShardCounts hwho).bind fun _ _ =>
          (within_persistAckLocked hwho hhome).bind fun _ _ => within_pure trivial
      · exact (within_persistAckLocked hwho hhome).bind fun _ _ => within_pure trivial

end

/-! ## Searches -/

section
variable {C : Census} {Z : ServerState M S} {call : HttpCall}
  {search : DeviceShard → Proc (MnemesStore M) Choice Event (ShardAnswer S)}

/-- The expansion of a search does what the searches of its shards do. -/
theorem within_expandShards
    (hsearch : ∀ shard, (search shard).Keeps C.Covers (Effect C Z call) fun _ => True)
    {catalog : List (DeviceShard × DeviceStatus)} {topK : Nat} (rest : List RankedShard)
    (expansion : Expansion S) :
    Within C Z call (fun _ => True) (expandShards search catalog topK expansion rest) := by
  induction rest generalizing expansion with
  | nil => exact within_pure trivial
  | cons next rest ih =>
    unfold expandShards
    cases byDevice catalog next.deviceId with
    | none => exact ih expansion
    | some shard =>
      simp only [searchOneShard, bind_assoc, pure_bind]
      refine (within_liftProc (hsearch shard)).bind fun answer _ =>
        within_value.bind fun merged _ => ?_
      split
      · exact within_pure trivial
      · exact ih _

/-- A search of ranked shards does what the searches of those shards do. -/
theorem within_searchRanked
    (hsearch : ∀ shard, (search shard).Keeps C.Covers (Effect C Z call) fun _ => True)
    {catalog : List (DeviceShard × DeviceStatus)} {request : RoutingSearchRequest}
    {ranked : List RankedShard} :
    Within C Z call (fun _ => True) (searchRanked search catalog request ranked) := by
  unfold searchRanked searchShardBatch searchOneShard
  refine (within_mapM (fun shard => (within_liftProc (hsearch shard)).bind fun _ _ =>
    within_pure trivial) _).bind fun executions _ => ?_
  simp only
  split
  · refine within_value.bind fun merged _ => ?_
    split
    · exact (within_expandShards hsearch _ _).bind fun _ _ => within_pure trivial
    · exact within_pure trivial
  · exact within_pure trivial

/-- A search of shards does what the searches of those shards do, and stores its receipt. -/
theorem within_routedSearch {device : DeviceId} (hwho : C.Presents Z.platform call.headers device)
    (hsearch : ∀ shard, (search shard).Keeps C.Covers (Effect C Z call) fun _ => True)
    {authKey : Bytes32} {receiptId recordedAt : String} {requester : DeviceId}
    {request : RoutingSearchRequest} :
    Within C Z call (fun _ => True)
      (routedSearch Z.platform authKey receiptId recordedAt search requester request) := by
  unfold routedSearch
  refine within_getDevice.any.bind fun found _ => ?_
  split
  · exact within_throw
  · refine within_read.bind fun catalog _ => (within_searchRanked hsearch).bind fun r _ => ?_
    refine within_value.bind fun results _ => within_value.bind fun _ _ => ?_
    exact (within_persistRoutingReceipt hwho).bind fun _ _ => within_pure trivial

/-- The profile of an actor is resolved. -/
theorem within_resolveActorProfile {actor : ActorId} {at' : UInt64} :
    Within C Z call (fun _ => True)
      ((resolveActorProfile Z.platform actor at').op : Op M ActorProfileBinding) :=
  within_value.bind fun _ _ =>
    within_read (f := fun db => db.resolveActorProfile Z.platform actor at'.toInt64)

/-- The stores that a subject may access are looked up. -/
theorem within_admitStores {subject : Subject} (stores : List MemoryStoreIdentity) :
    Within C Z call (fun _ => True)
      (subject.admitStores stores : Op M (List AuthorizedMemoryStore)) := by
  induction stores with
  | nil => exact within_pure trivial
  | cons store stores ih =>
    unfold Subject.admitStores
    split
    · exact ih
    · refine within_read.bind fun grants _ => ?_
      split
      · exact ih
      · exact ih.bind fun _ _ => within_pure trivial

/-- A snapshot of what an actor may access is only read. -/
theorem within_buildAuthorizationSnapshot {actor : ActorId} {effect : MemoryAccessEffect}
    {namespaces : Option (List String)} {at' : UInt64} :
    Within C Z call (fun _ => True)
      (buildAuthorizationSnapshot Z.platform actor effect namespaces at' :
        Op M AuthorizationSnapshot) := by
  unfold buildAuthorizationSnapshot
  refine within_resolveActorProfile.bind fun binding _ => within_read.bind fun stores _ => ?_
  exact (within_admitStores stores).bind fun _ _ => within_pure trivial

/-- A search for the profile of an actor that the request may act as. -/
theorem within_routedSearchForProfile {actor : Actor} (hwho : C.Acts Z.platform call.headers actor)
    {search : AuthorizedMemoryStore → Proc (MnemesStore M) Choice Event (StoreAnswer S)}
    (hsearch : ∀ store, (search store).Keeps C.Covers (Effect C Z call) fun _ => True)
    {authKey : Bytes32} {receiptId recordedAt : String} {request : RoutingSearchRequest}
    {at' : UInt64} :
    Within C Z call (fun _ => True)
      (routedSearchForProfile Z.platform authKey receiptId recordedAt search actor.actorId request
        at') := by
  unfold routedSearchForProfile searchStores
  refine within_buildAuthorizationSnapshot.bind fun snapshot _ => ?_
  refine (within_mapM (fun store => (within_liftProc (hsearch store)).bind fun _ _ =>
    within_pure trivial) _).bind fun executions _ => ?_
  refine within_value.bind fun merged _ => within_value.bind fun _ _ => ?_
  exact (within_persistProfileRoutingReceipt hwho rfl).bind fun _ _ => within_pure trivial

end

end Mnemes
