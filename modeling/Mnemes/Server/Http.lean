import Mnemes.Registration
import Mnemes.RunPack.Import
import Mnemes.Search.Profile

/-!
# The HTTP routes

The handlers of the routes (`server.rs`): what each of them reads of a request, how it authenticates
the caller, which methods of the store it calls, and what it responds. Bodies are modelled as they
are decoded; the identities, secrets and times that a handler draws come with the request. The
branch for a legacy store, which opening refuses, and the rendering of search items are left out.
-/

namespace Mnemes

open Concurrency Relational

/-! ## Requests -/

/-- `ActorId::parse`. -/
def ActorId.parse (P : Platform) (value : String) : Except MemoryError ActorId :=
  match P.uuidParseStr value with
  | .error error => .error (.invalidKey s!"invalid ActorId '{value}': {error}")
  | .ok parsed =>
    if !parsed.random || !parsed.rfc4122 then
      .error (.invalidKey s!"invalid ActorId '{value}': expected an RFC 4122 UUID v4")
    else .ok ⟨parsed.hyphenated⟩

/-- `parse_device_id`. -/
def parseDeviceId (P : Platform) (raw : String) : Except MnemesError DeviceId :=
  (DeviceId.parse P raw).mapError fun _ => .deviceNotFound raw

/-- `parse_actor_id`. -/
def parseActorId (P : Platform) (raw : String) : Except MnemesError ActorId :=
  (ActorId.parse P raw).mapError fun _ => .invalidAsOf "invalid actor id"

/-- `parse_id`. -/
def parseId (P : Platform) (raw : String) : Option OperationId := (OperationId.parse P raw).toOption

/-- `ToolProfile::parse`. -/
def ToolProfile.parse (value : String) : Option ToolProfile :=
  if value = "agent" then some .agent
  else if value = "operator" then some .operator
  else none

/-- `ToolProfile::as_str`. -/
def ToolProfile.asStr : ToolProfile → String
  | .agent => "agent"
  | .operator => "operator"

/-- The profile of a registration: what was asked for, if it is a profile, and the default else. -/
def requestedProfile (toolProfile : Option String) : ToolProfile :=
  (toolProfile.bind ToolProfile.parse).getD .agent

/-- `OperationKind::as_str`. -/
def OperationKind.asStr : OperationKind → String
  | .observe => "observe"
  | .assert => "assert"
  | .supersede => "supersede"
  | .revoke => "revoke"
  | .redact => "redact"
  | .adjudicate => "adjudicate"

/-- `parse_operation_kind`. -/
def parseOperationKind (value : String) : Except MnemesError OperationKind :=
  okOr ([.observe, .assert, .supersede, .revoke, .redact, .adjudicate].find? fun kind =>
    OperationKind.asStr kind = value) (.invalidAsOf "invalid operation kind")

/-- `RegisterActorRequest`. -/
structure RegisterActorRequest where
  deviceId : String
  actorKind : String
  providerModel : Option String
  toolProfile : Option String
  deriving DecidableEq, Repr

/-- `OperationFilterQuery`. -/
structure OperationFilterQuery where
  deviceId : Option String
  actorId : Option String
  limit : Option Nat
  deriving DecidableEq, Repr

/-- `OperationSubmitRequest`. -/
structure OperationSubmitRequest where
  idempotencyKey : String
  requestingDeviceId : String
  requestingActorId : String
  operationKind : String
  targetKind : String
  targetId : String
  contentDigest : String
  recordingDeviceId : Option String
  recordingServerId : Option String
  observedAt : Option String
  validTime : Option String
  deriving DecidableEq, Repr

/-- `McpSearchRequest`, and `WitnessedSearchRequest`, which has the same fields. -/
structure McpSearchRequest where
  query : String
  namespaces : Option (List String)
  sourceTypes : Option (List String)
  limit : Option Nat
  deriving DecidableEq, Repr

/-- `ProfileWitnessedSearchRequest`; of the unexpected fields, their names. -/
structure ProfileWitnessedSearchRequest where
  actorId : String
  search : McpSearchRequest
  unexpected : List String
  deriving DecidableEq, Repr

/-- The actor that a registration asks for. -/
def RegisterActorRequest.actor (payload : RegisterActorRequest) (deviceId : DeviceId)
    (actorId : ActorId) : Actor where
  actorId := actorId
  deviceId := deviceId
  toolProfile := requestedProfile payload.toolProfile
  actorKind := payload.actorKind
  providerModel := payload.providerModel
  recordedAt := ""

/-- The operation that a request submits for an actor of a device. -/
def OperationSubmitRequest.envelope (payload : OperationSubmitRequest) (P : Platform)
    (operationId : OperationId) (deviceId : DeviceId) (actorId : ActorId) :
    Except MnemesError OperationEnvelope := do
  let recordingDeviceId ← (payload.recordingDeviceId.map (parseDeviceId P)).getD (.ok deviceId)
  let recordingServerId ← (payload.recordingServerId.map (parseDeviceId P)).getD (.ok deviceId)
  let operationKind ← parseOperationKind payload.operationKind
  return {
    operationId
    idempotencyKey := payload.idempotencyKey
    requestingDeviceId := deviceId
    requestingActorId := actorId
    recordingDeviceId
    recordingServerId
    operationKind
    targetKind := payload.targetKind
    targetId := payload.targetId
    contentDigest := payload.contentDigest
    observedAt := payload.observedAt
    validTime := payload.validTime
    recordedAt := ""
    receiptId := none }

/-- The routing request of a search. -/
def McpSearchRequest.routing (request : McpSearchRequest)
    (sourceTypes : Option (List SearchSourceType)) : RoutingSearchRequest where
  query := request.query
  topK := request.limit.getD 10
  namespaces := request.namespaces
  sourceTypes := sourceTypes

/-- The identities, secrets and times that the handling of a request draws. -/
structure Drawn where
  deviceId : DeviceId
  secret : String
  actorId : ActorId
  operationId : OperationId
  minted : Minted
  receiptId : String
  auditId : String
  now : String
  seconds : UInt64
  shardLatency : DeviceId → UInt64
  storeLatency : String → UInt64

/-! ## Responses -/

/-- What a response carries: a JSON value, or the results of a search, which are rendered as
`WitnessedSearchItem`s. -/
inductive Payload (S : SearchSources) where
  | json (value : Json.Value)
  | results (results : List (RoutedSearchResult S))
  | profileResults (results : List (ProfileRoutedSearchResult S)) (receipt : ProfileRoutingReceipt)

/-- The body of a response: of a route, of an error, of a replication route, or of a call of a
tool. -/
inductive Body (S : SearchSources) where
  | payload (payload : Payload S)
  | error (text : String)
  | replication (body : Ack ⊕ String)
  | rpc (id : Option Json.Value) (outcome : Except (Int × String) (Payload S))

/-- A response: a status code and a body. -/
structure Reply (S : SearchSources) where
  status : Nat
  body : Body S

/-- The response of a handler: of its own code where it succeeds, `error_response` else. -/
def Reply.of {S : SearchSources} (code : Nat) : Except MnemesError (Payload S) → Reply S
  | .ok payload => ⟨code, .payload payload⟩
  | .error error => ⟨(mapStoreError error).1, .error (mapStoreError error).2⟩

section
open Json

/-- `DeviceInfo`. -/
def Device.info (device : Device) : Value :=
  .object [("device_id", .string device.deviceId.text), ("label", .string device.label),
    ("platform", .string device.platform), ("hostname", .string device.hostname),
    ("status", .string device.status.asStr), ("first_seen_at", .string device.firstSeenAt),
    ("last_seen_at", .string device.lastSeenAt)]

/-- `ActorInfo`. -/
def Actor.info (actor : Actor) : Value :=
  .object [("actor_id", .string actor.actorId.text), ("device_id", .string actor.deviceId.text),
    ("actor_kind", .string actor.actorKind), ("tool_profile", .string actor.toolProfile.asStr),
    ("provider_model", optionJson actor.providerModel), ("recorded_at", .string actor.recordedAt)]

/-- `OperationInfo`, and `OperationListItem`, which has the same fields. -/
def OperationEnvelope.info (operation : OperationEnvelope) : Value :=
  .object [("operation_id", .string operation.operationId.text),
    ("requesting_device_id", .string operation.requestingDeviceId.text),
    ("requesting_actor_id", .string operation.requestingActorId.text),
    ("operation_kind", .string operation.operationKind.asStr),
    ("target_kind", .string operation.targetKind), ("target_id", .string operation.targetId),
    ("content_digest", .string operation.contentDigest),
    ("observed_at", optionJson operation.observedAt),
    ("valid_time", optionJson operation.validTime), ("recorded_at", .string operation.recordedAt),
    ("idempotency_key", .string operation.idempotencyKey),
    ("receipt_id", optionJson operation.receiptId)]

/-- The response of `get_receipt_handler`, whose second `receipt_id` replaces the first. -/
def OperationEnvelope.receiptInfo (operation : OperationEnvelope) : Value :=
  .object [("receipt_id", optionJson operation.receiptId),
    ("operation_id", .string operation.operationId.text),
    ("idempotency_key", .string operation.idempotencyKey),
    ("requesting_device_id", .string operation.requestingDeviceId.text),
    ("requesting_actor_id", .string operation.requestingActorId.text),
    ("recording_device_id", .string operation.recordingDeviceId.text),
    ("recording_server_id", .string operation.recordingServerId.text),
    ("operation_kind", .string operation.operationKind.asStr),
    ("target_kind", .string operation.targetKind), ("target_id", .string operation.targetId),
    ("content_digest", .string operation.contentDigest),
    ("observed_at", optionJson operation.observedAt),
    ("valid_time", optionJson operation.validTime), ("recorded_at", .string operation.recordedAt)]

/-- `RegisterDeviceResponse`. -/
def RegisterDeviceResponse.json (response : RegisterDeviceResponse) : Value :=
  .object [("device_id", .string response.deviceId), ("credential", .string response.credential),
    ("first_seen_at", .string response.firstSeenAt), ("last_seen_at", .string response.lastSeenAt),
    ("status", .string response.status)]

/-- The text of an audit event's outcome. -/
def AuditOutcome.asStr : AuditOutcome → String
  | .ok => "ok"
  | .denied => "denied"
  | .error => "error"

/-- The JSON of `AuditEvent`. -/
def AuditEvent.json (event : AuditEvent) : Value :=
  .object [("event_id", .string event.eventId),
    ("device_id", optionJson (event.deviceId.map (·.text))),
    ("actor_id", optionJson (event.actorId.map (·.text))), ("endpoint", .string event.endpoint),
    ("method", .string event.method), ("outcome", .string event.outcome.asStr),
    ("detail", optionJson event.detail), ("created_at", .string event.createdAt)]

/-- `OperationEnvelopeResponse`. -/
def operationResponse (operation : OperationEnvelope) (receiptId : String) : Value :=
  .object [("operation_id", .string operation.operationId.text), ("receipt_id", .string receiptId),
    ("idempotency_key", .string operation.idempotencyKey),
    ("recorded_at", .string operation.recordedAt)]

/-- `RunPackObservationResponse`. -/
def RunPackObservationReceipt.json (receipt : RunPackObservationReceipt) : Value :=
  .object [("receipt_id", .string receipt.receiptId),
    ("operation_id", .string receipt.operationId.text), ("recorded_at", .string receipt.recordedAt)]

end

/-! ## The store's reads -/

/-- The devices in the order of `list_devices`. -/
def PooledDb.listDevices (db : PooledDb) : List Device :=
  db.devices.rows.insertionSort fun a b => textLe a.firstSeenAt b.firstSeenAt

/-- The actors in the order of `list_actors`. -/
def PooledDb.listActors (db : PooledDb) : List Actor :=
  db.actors.rows.insertionSort fun a b => textLe a.recordedAt b.recordedAt

/-- The limit that `list_operations` binds. -/
def operationLimit (limit : Nat) : Nat :=
  if limit = 0 then 100 else if limit < 2 ^ 63 then limit else 100

/-- `list_operations`: the operations that match, the last recorded first. -/
def PooledDb.listOperations (db : PooledDb) (deviceId : Option DeviceId) (actorId : Option ActorId)
    (limit : Nat) : List OperationEnvelope :=
  ((db.operations.rows.filter fun operation =>
      deviceId.all (operation.requestingDeviceId = ·) &&
        actorId.all (operation.requestingActorId = ·)).insertionSort
    fun a b => textLe b.recordedAt a.recordedAt).take (operationLimit limit)

/-- `list_audit_events`, whose limit is bound as a text: the last events, the newest first. Where
times are equal, the index is read backwards. -/
def PooledDb.listAuditEvents (db : PooledDb) (limit : Nat) :
    Except MnemesError (List AuditEvent) :=
  let effectiveLimit := if limit = 0 then 100 else limit
  if effectiveLimit < 2 ^ 63 then
    .ok ((db.auditEvents.rows.reverse.insertionSort fun a b =>
      textLe b.createdAt a.createdAt).take effectiveLimit)
  else .error (.database "datatype mismatch")

/-- `has_registered_shards`. -/
def PooledDb.hasRegisteredShards (db : PooledDb) : Bool :=
  db.deviceShards.rows.any (·.state = .active)

/-- `u64::saturating_add`. -/
def saturatingAdd (a b : UInt64) : UInt64 := UInt64.ofNat (min (a.toNat + b.toNat) (2 ^ 64 - 1))

/-- The totals of `shard_stats` over a catalog. -/
def catalogStats (shards : List (DeviceShard × DeviceStatus)) : MemoryStats :=
  shards.foldl (fun stats entry =>
    { totalFacts := saturatingAdd stats.totalFacts entry.1.counts.totalFacts
      totalDocuments := saturatingAdd stats.totalDocuments entry.1.counts.totalDocuments
      totalChunks := saturatingAdd stats.totalChunks entry.1.counts.totalChunks
      totalMessages := saturatingAdd stats.totalMessages entry.1.counts.totalMessages })
    ⟨0, 0, 0, 0⟩

/-- `SearchContext`, of a search that asks for a receipt: the time, the identity of the request,
under which the shard stores the receipt, and the digest of the query. -/
structure SearchContext where
  now : String
  requestId : String
  queryTextDigest : String
  deriving DecidableEq, Repr

/-- A search of a shard counts in its row. -/
def DeviceShard.observe (row : DeviceShard) (latencyMs : UInt64) : DeviceShard :=
  { row with searchLatencies := row.searchLatencies ++ [latencyMs] }

/-- What is on disk and in the embedder: the files that are read past the owner, and what a shard
answers to a search, which it records, and to a check of its integrity. -/
structure Disk (M : SemanticMemory) (S : SearchSources) where
  embedding : List (String × Json.Value)
  embeddingModel : String
  embeddingDimensions : Nat
  fileSize : DeviceId → Except String UInt64
  searchWithContext : M.Store → SearchContext → RoutingSearchRequest →
    Except MemoryError (SearchResponse S) × M.Store
  verifyIntegrity : M.Store → Except MemoryError (Bool × String)
  stores : StoreFiles S

/-- What the server was built with, besides its database, and how it writes errors and reports. -/
structure ServerState (M : SemanticMemory) (S : SearchSources) where
  serverId : String
  bootstrapSecret : EnvVar
  runPackAttestationKey : Option Bytes
  receiptAuthKey : Bytes32
  platform : Platform
  chrono : Chrono
  json : SerdeJson
  receiptJson : ReceiptJson
  wire : Wire
  runPackFromSlice : Bytes → Except String RunPackAdmissionEnvelope
  toLowercase : String → String
  memoryText : MemoryError → String
  reportsText : List (DeviceShard × String × String) → String
  disk : Disk M S

section
variable {M : SemanticMemory} {S : SearchSources} {α : Type}

/-- The result of a call, failures included. -/
def attempted (t : Op M α) : Op M (Except MnemesError α) := liftM t.run

/-- `list_devices`. -/
def listDevices : Op M (List Device) := poolRead fun db => .ok db.listDevices

/-- `list_actors`. -/
def listActors : Op M (List Actor) := poolRead fun db => .ok db.listActors

/-- `count_actors`. -/
def countActors : Op M Nat := poolRead fun db => .ok db.actors.rows.length

/-- `count_operations`. -/
def countOperations : Op M Nat := poolRead fun db => .ok db.operations.rows.length

/-- `quick_check`, whose failing query reads as `error`. -/
def quickCheck : Op M String :=
  ExceptT.mk (Proc.atomic fun s x => (.ok (x.fault.elim "ok" fun _ => "error"), s, []))

namespace ServerState

variable (Z : ServerState M S)

/-- `shard_stats`: the totals of the catalog and the size of the database files. -/
def shardStats : Op M (MemoryStats × UInt64) := do
  let shards ← poolRead fun db => .ok db.listShards
  return (catalogStats shards,
    (shards.filterMap fun entry => (Z.disk.fileSize entry.1.deviceId).toOption).foldl
      saturatingAdd 0)

/-- A call of the owner that only reads a device's shard. -/
def readShard (device : DeviceId) (f : M.Store → Except MemoryError α) :
    Op M (Except MemoryError α) :=
  ExceptT.mk (Proc.atomic fun s x =>
    (.ok (x.fault.elim (f (s.shards device)) (.error <| .other ·)), s, []))

/-- The status of one shard in `verify_all_shards`, with its detail. -/
def verifyShard (shard : DeviceShard) : Op M (String × String) := do
  match Z.disk.fileSize shard.deviceId with
  | .error error => return ("failed", s!"cataloged shard database unavailable: {error}")
  | .ok _ =>
    match ← attempted (deviceMemory shard.deviceId) with
    | .error error => return ("failed", error.display Z.memoryText)
    | .ok () =>
      match ← readShard shard.deviceId Z.disk.verifyIntegrity with
      | .ok (true, report) => return ("ok", report)
      | .ok (false, report) => return ("degraded", s!"issues: {report}")
      | .error error => return ("failed", Z.memoryText error)

/-- `verify_all_shards`. -/
def verifyAllShards : Op M (List (DeviceShard × String × String)) := do
  let shards ← poolRead fun db => .ok db.listShards
  shards.mapM fun entry => do
    let status ← Z.verifyShard entry.1
    return (entry.1, status)

/-- `search_with_context` of a device's shard. -/
def searchWithContext (device : DeviceId) (context : SearchContext)
    (request : RoutingSearchRequest) :
    Proc (MnemesStore M) Choice Event (Except MemoryError (SearchResponse S)) :=
  Proc.atomic fun s x =>
    match x.fault with
    | some error => (.error (.other error), s, [])
    | none =>
      let (response, shard) := Z.disk.searchWithContext (s.shards device) context request
      (response, { s with shards := Function.update s.shards device shard }, [])

/-- The shard of a device is opened and searched. -/
def openAndSearch (device : DeviceId) (context : SearchContext) (request : RoutingSearchRequest) :
    Proc (MnemesStore M) Choice Event (Except String (SearchResponse S)) := do
  match ← (deviceMemory device : Op M Unit).run with
  | .error error => return .error (error.display Z.memoryText)
  | .ok () =>
    let response ← Z.searchWithContext device context request
    return response.mapError Z.memoryText

/-- `record_shard_search_observation`. -/
def recordShardSearchObservation (device : DeviceId) (latencyMs : UInt64) : Op M Unit :=
  poolConn fun db _ => .ok ((), { db with
    deviceShards := db.deviceShards.update (·.deviceId = device) (·.observe latencyMs)
      fun _ => rfl }, [])

/-- `search_one_shard`, up to its statistics: however the search ends, its latency is recorded; a
failure to record it is dropped. -/
def searchDeviceShard (drawn : Drawn) (request : RoutingSearchRequest) (shard : DeviceShard) :
    Proc (MnemesStore M) Choice Event (ShardAnswer S) := do
  let context : SearchContext := {
    now := drawn.now
    requestId := s!"{drawn.receiptId}:{shard.deviceId.text}"
    queryTextDigest := sha256Hex Z.platform request.query }
  let latencyMs := drawn.shardLatency shard.deviceId
  let response ← Z.openAndSearch shard.deviceId context request
  let _ ← (recordShardSearchObservation shard.deviceId latencyMs : Op M Unit).run
  return ⟨latencyMs, response⟩

/-! ## The handlers -/

variable (headers : Request) (drawn : Drawn)

/-- `log_audit`, of a device and the actor that it authenticated; a failure to log is dropped. -/
def logAudit (device : DeviceId) (actor : Option ActorId) (endpoint method : String)
    (outcome : AuditOutcome) (detail : String) : Op M Unit := do
  let _ ← attempted (poolConn fun db x => do
    let auditEvents ← okOr (db.auditEvents.insert? {
      eventId := drawn.auditId
      deviceId := some device
      actorId := actor
      endpoint
      method
      outcome
      detail := some detail
      createdAt := x.now }) (.database "UNIQUE constraint failed: audit_events.event_id")
    return ((), { db with auditEvents }, []))

/-- An error of a call is logged before it is responded to. -/
def orAudit (audit : Op M Unit) (t : Op M α) : Op M α := do
  match ← attempted t with
  | .ok a => return a
  | .error error =>
    audit
    throw error

/-- `authorize`: the authenticated device, and its actor if one is named. -/
def authorizeAs (actorId : Option ActorId) : Op M (Device × Option Actor) := do
  let token ← liftM (bearerToken headers)
  authenticateRequest Z.platform token actorId

/-- The beginning of the handlers that are about the caller's own device. -/
def ownDevice (raw : String) : Op M DeviceId := do
  let deviceId ← liftM (parseDeviceId Z.platform raw)
  let device ← authorize Z.platform headers
  if device.deviceId ≠ deviceId then throw (.authorizationDenied "device mismatch")
  return deviceId

/-- `health_handler`. -/
def healthHandler : Op M (Payload S) := do
  let device ← authorize Z.platform headers
  logAudit drawn device.deviceId none "/v1/health" "GET" .ok "health read"
  return .json (.object [("service_id", .string Z.serverId),
    ("schema_version", .string "mnemes.server.v1"), ("server_time", .string drawn.now),
    ("ready", .bool (device.status = .active)), ("embedding", .object Z.disk.embedding)])

/-- The JSON of `ShardIntegrityStatus`. -/
def integrityJson (status : DeviceShard × String × String) : Json.Value :=
  .object [("device_id", .string status.1.deviceId.text),
    ("relative_path", .string status.1.relativePath), ("status", .string status.2.1),
    ("detail", .string status.2.2)]

/-- `integrity_handler`. -/
def integrityHandler : Op M (Payload S) := do
  let device ← authorize Z.platform headers
  let audit := logAudit drawn device.deviceId none "/v1/integrity" "GET"
  let reports ← orAudit (audit .error "verify failed") Z.verifyAllShards
  audit .ok "integrity report read"
  return .json (.object [("service_id", .string Z.serverId),
    ("schema_version", .string "mnemes.server.v1"), ("checked_at", .string drawn.now),
    ("report", .array (reports.map integrityJson))])

/-- `register_device_handler`, with its audit event and its response. -/
def registrationHandler (payload : RegisterDeviceRequest) : Op M (Payload S) := do
  let response ← registerDeviceHandler Z.platform Z.bootstrapSecret headers payload drawn.deviceId
    drawn.secret
  logAudit drawn drawn.deviceId none "/v1/devices/register" "POST" .ok "device registered"
  return .json response.json

/-- `list_devices_handler`. -/
def listDevicesHandler : Op M (Payload S) := do
  let device ← authorize Z.platform headers
  let devices ← listDevices
  logAudit drawn device.deviceId none "/v1/devices" "GET" .ok "devices listed"
  return .json (.array (devices.map Device.info))

/-- `heartbeat_handler`. -/
def heartbeatHandler (raw : String) : Op M (Payload S) := do
  let deviceId ← Z.ownDevice headers raw
  let audit := logAudit drawn deviceId none "/v1/devices/{id}/heartbeat" "POST"
  orAudit (audit .error "heartbeat failed") (heartbeatDevice deviceId).op
  audit .ok "heartbeat accepted"
  return .json (.object [("ok", .bool true)])

/-- `rotate_device_handler`. -/
def rotateDeviceHandler (raw : String) : Op M (Payload S) := do
  let deviceId ← Z.ownDevice headers raw
  let audit := logAudit drawn deviceId none "/v1/devices/{id}/rotate" "POST"
  let credential := DeviceCredential.new Z.platform deviceId drawn.secret
  orAudit (audit .error "rotate failed") (rotateDeviceCredential deviceId credential.digest).op
  audit .ok "device credential rotated"
  return .json (.object [("device_id", .string deviceId.text),
    ("credential", .string credential.token)])

/-- `revoke_device_handler`. -/
def revokeDeviceHandler (raw : String) : Op M (Payload S) := do
  let deviceId ← Z.ownDevice headers raw
  let audit := logAudit drawn deviceId none "/v1/devices/{id}/revoke" "POST"
  orAudit (audit .error "revoke failed") (setDeviceStatus deviceId .revoked)
  audit .ok "device revoked"
  return .json (.object [("status", .string "revoked"), ("device_id", .string deviceId.text)])

/-- `quarantine_device_handler`. -/
def quarantineDeviceHandler (raw : String) : Op M (Payload S) := do
  let deviceId ← Z.ownDevice headers raw
  let audit := logAudit drawn deviceId none "/v1/devices/{id}/quarantine" "POST"
  orAudit (audit .error "quarantine failed") (setDeviceStatus deviceId .quarantined)
  audit .ok "device quarantined"
  return .json (.object [("status", .string "quarantined"), ("device_id", .string deviceId.text)])

/-- `list_actors_handler`. -/
def listActorsHandler (deviceId : Option String) : Op M (Payload S) := do
  let device ← authorize Z.platform headers
  let actors ←
    match deviceId with
    | some raw => do
      let deviceId ← liftM (parseDeviceId Z.platform raw)
      poolRead fun db => .ok (db.listActorsForDevice deviceId)
    | none => listActors
  logAudit drawn device.deviceId none "/v1/actors" "GET" .ok "actors listed"
  return .json (.array (actors.map Actor.info))

/-- `register_actor_handler`. No profile of the caller is asked for. -/
def registerActorHandler (payload : RegisterActorRequest) : Op M (Payload S) := do
  let deviceId ← Z.ownDevice headers payload.deviceId
  let actorId ← (registerActor (payload.actor deviceId drawn.actorId)).op
  logAudit drawn deviceId none "/v1/actors" "POST" .ok "actor registered"
  return .json (.object [("actor_id", .string actorId.text)])

/-- `ensure_operator`. -/
def ensureOperator (actor : Option Actor) : Except MnemesError Unit := do
  let actor ← okOr actor (.authorizationDenied "actor required")
  if actor.toolProfile ≠ .operator then throw (.authorizationDenied "operator profile required")

/-- The operation that is found under the key of a submission. -/
def readSubmitted (idempotencyKey : String) : Op M OperationEnvelope := do
  match ← getOperationByIdempotencyKey idempotencyKey with
  | none => throw (.invalidAsOf "operation not found")
  | some operation => return operation

/-- `submit_operation_handler`. -/
def submitOperationHandler (payload : OperationSubmitRequest) : Op M (Payload S) := do
  let deviceId ← liftM (parseDeviceId Z.platform payload.requestingDeviceId)
  let actorId ← liftM (parseActorId Z.platform payload.requestingActorId)
  let (device, actor) ← Z.authorizeAs headers (some actorId)
  if device.deviceId ≠ deviceId then throw (.authorizationDenied "device mismatch")
  liftM (ensureOperator actor)
  let envelope ← liftM (payload.envelope Z.platform drawn.operationId deviceId actorId)
  let audit := logAudit drawn device.deviceId (actor.map (·.actorId)) "/v1/operations" "POST"
  let receiptId ← orAudit (audit .error "submit failed") (submitOperation envelope)
  let operation ← readSubmitted payload.idempotencyKey
  audit .ok "operation submitted"
  return .json (operationResponse operation receiptId)

/-- `import_run_pack_observation_handler`. -/
def importRunPackObservationHandler : Op M (Payload S) := do
  let device ← authorize Z.platform headers
  let token ← liftM (bearerToken headers)
  let receipt ← importRunPackObservation Z.platform Z.chrono Z.json Z.runPackFromSlice
    ⟨token, headers.body, Z.runPackAttestationKey⟩ drawn.operationId drawn.minted
  logAudit drawn device.deviceId none "/v1/run-pack-observations" "POST" .ok
    "run-pack observation imported"
  return .json receipt.json

/-- `list_operations_handler`. -/
def listOperationsHandler (query : OperationFilterQuery) : Op M (Payload S) := do
  let actorFilter ← liftM (query.actorId.mapM (parseActorId Z.platform))
  let (device, actor) ← Z.authorizeAs headers actorFilter
  let deviceFilter ← liftM (query.deviceId.mapM (parseDeviceId Z.platform))
  let operations ← poolRead fun db =>
    .ok (db.listOperations deviceFilter actorFilter (query.limit.getD 100))
  logAudit drawn device.deviceId (actor.map (·.actorId)) "/v1/operations" "GET" .ok
    "operations listed"
  return .json (.array (operations.map OperationEnvelope.info))

/-- `get_operation_handler`. -/
def getOperationHandler (raw : String) : Op M (Payload S) := do
  let operationId ← liftM (okOr (parseId Z.platform raw)
    (MnemesError.invalidAsOf "invalid operation id"))
  let device ← authorize Z.platform headers
  match ← getOperation operationId with
  | none => throw (.invalidAsOf "operation not found")
  | some operation =>
    logAudit drawn device.deviceId none "/v1/operations/{operation_id}" "GET" .ok "operation read"
    return .json operation.info

/-- `get_receipt_handler`. -/
def getReceiptHandler (receiptId : String) : Op M (Payload S) := do
  let device ← authorize Z.platform headers
  match ← getOperationByReceipt receiptId with
  | none => throw (.invalidAsOf "receipt not found")
  | some operation =>
    logAudit drawn device.deviceId none "/v1/receipts/{receipt_id}" "GET" .ok "receipt read"
    return .json operation.receiptInfo

/-- `parse_operation_source_types`. -/
def parseOperationSourceTypes (raw : List String) : Except MnemesError (List SearchSourceType) :=
  raw.mapM fun value =>
    match Z.toLowercase value with
    | "facts" | "fact" => .ok .facts
    | "chunks" | "chunk" => .ok .chunks
    | "messages" | "message" => .ok .messages
    | "episodes" | "episode" => .ok .episodes
    | _ => .error (.invalidAsOf s!"unsupported source_type {value}")

/-- `run_witnessed_search`: the device that is listed first is the requester. -/
def runWitnessedSearch (request : McpSearchRequest) : Op M (Payload S) := do
  let sourceTypes ← liftM (request.sourceTypes.mapM Z.parseOperationSourceTypes)
  let hasShards ← poolRead fun db => .ok db.hasRegisteredShards
  if hasShards then
    let routing := request.routing sourceTypes
    let devices ← listDevices
    let requester := (devices.head?.map (·.deviceId)).getD drawn.deviceId
    let routed ← routedSearch Z.platform Z.receiptAuthKey drawn.receiptId drawn.now
      (Z.searchDeviceShard drawn routing) requester routing
    return .results routed.results
  else return .results []

/-- `run_profile_witnessed_search`: the receipt in the response is the one read back. -/
def runProfileWitnessedSearch (actorId : ActorId) (request : McpSearchRequest) :
    Op M (Payload S) := do
  let sourceTypes ← liftM (request.sourceTypes.mapM Z.parseOperationSourceTypes)
  let routing := request.routing sourceTypes
  let routed ← routedSearchForProfile Z.platform Z.receiptAuthKey drawn.receiptId drawn.now
    (searchProfileStore Z.disk.stores Z.memoryText drawn.storeLatency routing) actorId routing
    drawn.seconds
  match ← (getProfileRoutingReceipt Z.platform Z.receiptJson Z.receiptAuthKey
      routed.routingReceipt.receiptId).op with
  | none => throw (.authorizationSnapshotInvalid "profile routing receipt was not persisted")
  | some receipt => return .profileResults routed.results receipt

/-- `search_witnessed_handler`. -/
def searchWitnessedHandler (payload : McpSearchRequest) : Op M (Payload S) := do
  let _ ← authorize Z.platform headers
  Z.runWitnessedSearch drawn payload

/-- `search_profile_witnessed_handler`, which responds to unexpected fields as to any invalid
request. -/
def searchProfileWitnessedHandler (payload : ProfileWitnessedSearchRequest) :
    Op M (Payload S) := do
  if !payload.unexpected.isEmpty then throw (.invalidAsOf "invalid request")
  let actorId ← liftM (parseActorId Z.platform payload.actorId)
  let (_, actor) ← Z.authorizeAs headers (some actorId)
  let actor ← liftM (okOr actor (MnemesError.authorizationDenied "actor required"))
  Z.runProfileWitnessedSearch drawn actor.actorId payload.search

/-- `list_audit_events_handler`. -/
def listAuditEventsHandler (limit : Option Nat) : Op M (Payload S) := do
  let device ← authorize Z.platform headers
  let events ← poolRead fun db => db.listAuditEvents (limit.getD 100)
  logAudit drawn device.deviceId none "/v1/audit/events" "GET" .ok "audit events listed"
  return .json (.array (events.map AuditEvent.json))

end ServerState

/-! ## The routes -/

/-- The routes, with what each of them decodes. The fact-supersede route is served by the staged
router only. -/
inductive Endpoint where
  | livez
  | health
  | integrity
  | registerDevice (payload : RegisterDeviceRequest)
  | listDevices
  | heartbeat (deviceId : String)
  | rotateDevice (deviceId : String)
  | revokeDevice (deviceId : String)
  | quarantineDevice (deviceId : String)
  | listActors (deviceId : Option String)
  | registerActor (payload : RegisterActorRequest)
  | submitOperation (payload : OperationSubmitRequest)
  | listOperations (query : OperationFilterQuery)
  | getOperation (operationId : String)
  | importRunPackObservation
  | searchWitnessed (payload : McpSearchRequest)
  | searchProfileWitnessed (payload : ProfileWitnessedSearchRequest)
  | factCreate
  | factSupersede
  | legacySync
  | getReceipt (receiptId : String)
  | listAuditEvents (limit : Option Nat)
  deriving DecidableEq

/-- The response of a replication route. -/
def Response.reply (response : Response) : Reply S := ⟨response.status, .replication response.body⟩

/-- The process that serves a request. -/
def Endpoint.handler (Z : ServerState M S) (i : Tid) (headers : Request) (drawn : Drawn) :
    Endpoint → Proc (MnemesStore M) Choice Event (Reply S)
  | .livez => .done ⟨200, .payload (.json (.object [("service", .string "up")]))⟩
  | .health => Reply.of 200 <$> (Z.healthHandler headers drawn).run
  | .integrity => Reply.of 200 <$> (Z.integrityHandler headers drawn).run
  | .registerDevice payload => Reply.of 201 <$> (Z.registrationHandler headers drawn payload).run
  | .listDevices => Reply.of 200 <$> (Z.listDevicesHandler headers drawn).run
  | .heartbeat deviceId => Reply.of 200 <$> (Z.heartbeatHandler headers drawn deviceId).run
  | .rotateDevice deviceId => Reply.of 200 <$> (Z.rotateDeviceHandler headers drawn deviceId).run
  | .revokeDevice deviceId => Reply.of 200 <$> (Z.revokeDeviceHandler headers drawn deviceId).run
  | .quarantineDevice deviceId =>
    Reply.of 200 <$> (Z.quarantineDeviceHandler headers drawn deviceId).run
  | .listActors deviceId => Reply.of 200 <$> (Z.listActorsHandler headers drawn deviceId).run
  | .registerActor payload => Reply.of 201 <$> (Z.registerActorHandler headers drawn payload).run
  | .submitOperation payload =>
    Reply.of 201 <$> (Z.submitOperationHandler headers drawn payload).run
  | .listOperations query => Reply.of 200 <$> (Z.listOperationsHandler headers drawn query).run
  | .getOperation operationId =>
    Reply.of 200 <$> (Z.getOperationHandler headers drawn operationId).run
  | .importRunPackObservation =>
    Reply.of 201 <$> (Z.importRunPackObservationHandler headers drawn).run
  | .searchWitnessed payload =>
    Reply.of 200 <$> (Z.searchWitnessedHandler headers drawn payload).run
  | .searchProfileWitnessed payload =>
    Reply.of 200 <$> (Z.searchProfileWitnessedHandler headers drawn payload).run
  | .factCreate => Response.reply <$> factCreateHandler Z.platform Z.wire i headers
  | .factSupersede => Response.reply <$> factSupersedeHandler Z.platform Z.wire i headers
  | .legacySync => .done ⟨501, .payload (.json (.object [("error", .string "SYNC_DISABLED"),
      ("message", .string
        "Legacy synchronization is disabled; typed signed replication is required")]))⟩
  | .getReceipt receiptId => Reply.of 200 <$> (Z.getReceiptHandler headers drawn receiptId).run
  | .listAuditEvents limit => Reply.of 200 <$> (Z.listAuditEventsHandler headers drawn limit).run

end

end Mnemes
