import Mnemes.Server.Http

/-!
# The tools

The JSON-RPC endpoint (`server.rs`): the tools that an actor is listed, the gate in front of a call,
the arguments and the code of each tool, and the requests of the server as a whole. The descriptions
and schemas of the tools, which no code reads, are left out.
-/

namespace Json

/-- `Value::as_object`. -/
def Value.asObject : Value → Option (List (String × Value))
  | .object fields => some fields
  | _ => none

/-- `Value::as_str`. -/
def Value.asStr : Value → Option String
  | .string s => some s
  | _ => none

/-- `Map::get`. -/
def get (fields : List (String × Value)) (key : String) : Option Value :=
  (fields.find? (·.1 = key)).map (·.2)

/-- `Map::insert`. -/
def insert (fields : List (String × Value)) (field : String × Value) : List (String × Value) :=
  fields.filter (·.1 ≠ field.1) ++ [field]

/-- A member that has to be a string. -/
def getString (fields : List (String × Value)) (key : String) : Option String :=
  (get fields key).bind Value.asStr

/-- An optional member: what is read of it, if it is there and not null. -/
def getOption {α : Type} (read : Value → Option α) (fields : List (String × Value)) (key : String) :
    Option (Option α) :=
  match get fields key with
  | none => some none
  | some .null => some none
  | some value => (read value).map some

/-- A list of strings. -/
def Value.asStrings : Value → Option (List String)
  | .array items => items.mapM Value.asStr
  | _ => none

/-- A `usize`. -/
def Value.asUsize : Value → Option Nat
  | .number n => if n < 2 ^ 64 then some n else none
  | _ => none

end Json

namespace Mnemes

open Concurrency Relational

/-! ## Requests and arguments -/

/-- `JsonRpcRequest`. -/
structure JsonRpcRequest where
  id : Option Json.Value
  method : String
  params : Option Json.Value

/-- A tool that is called: the actor that is named, the tool, and its arguments. -/
structure ToolCall where
  actorId : Option String
  name : String
  args : List (String × Json.Value)

/-- `parse_tool_call`. Members next to the name and the actor count as arguments, and replace those
of the same name. -/
def parseToolCall (params : Option Json.Value) : Except MnemesError ToolCall := do
  let paramsObj ← okOr (params.bind Json.Value.asObject) (.invalidAsOf "params must be object")
  let name ← okOr (Json.getString paramsObj "name") (.invalidAsOf "missing tool name")
  let arguments := ((Json.get paramsObj "arguments").bind Json.Value.asObject).getD []
  let others := paramsObj.filter fun field => field.1 ∉ ["arguments", "name", "actor_id"]
  return {
    actorId := Json.getString paramsObj "actor_id"
    name
    args := (arguments ++ others).foldl Json.insert [] }

/-- `parse_actor_id_param`. -/
def parseActorIdParam (P : Platform) (params : Option Json.Value) :
    Except MnemesError (Option ActorId) :=
  match (params.bind Json.Value.asObject).bind fun fields => Json.getString fields "actor_id" with
  | none => .ok none
  | some raw => (parseActorId P raw).map some

/-- `McpRegisterActorRequest`, which has the fields of `RegisterActorRequest`. -/
def RegisterActorRequest.fromArgs (args : List (String × Json.Value)) :
    Option RegisterActorRequest := do
  let deviceId ← Json.getString args "device_id"
  let actorKind ← Json.getString args "actor_kind"
  let providerModel ← Json.getOption Json.Value.asStr args "provider_model"
  let toolProfile ← Json.getOption Json.Value.asStr args "tool_profile"
  return { deviceId, actorKind, providerModel, toolProfile }

/-- The arguments of `sm_register_device`. -/
def RegisterDeviceRequest.fromArgs (args : List (String × Json.Value)) :
    Option RegisterDeviceRequest := do
  let label ← Json.getString args "label"
  let platform ← Json.getString args "platform"
  let hostname ← Json.getString args "hostname"
  return { label, platform, hostname }

/-- The arguments of `sm_submit_operation`. -/
def OperationSubmitRequest.fromArgs (args : List (String × Json.Value)) :
    Option OperationSubmitRequest := do
  let idempotencyKey ← Json.getString args "idempotency_key"
  let requestingDeviceId ← Json.getString args "requesting_device_id"
  let requestingActorId ← Json.getString args "requesting_actor_id"
  let operationKind ← Json.getString args "operation_kind"
  let targetKind ← Json.getString args "target_kind"
  let targetId ← Json.getString args "target_id"
  let contentDigest ← Json.getString args "content_digest"
  let recordingDeviceId ← Json.getOption Json.Value.asStr args "recording_device_id"
  let recordingServerId ← Json.getOption Json.Value.asStr args "recording_server_id"
  let observedAt ← Json.getOption Json.Value.asStr args "observed_at"
  let validTime ← Json.getOption Json.Value.asStr args "valid_time"
  return {
    idempotencyKey, requestingDeviceId, requestingActorId, operationKind, targetKind, targetId,
    contentDigest, recordingDeviceId, recordingServerId, observedAt, validTime }

/-- The arguments of `sm_search_witnessed`. -/
def McpSearchRequest.fromArgs (args : List (String × Json.Value)) : Option McpSearchRequest := do
  let query ← Json.getString args "query"
  let namespaces ← Json.getOption Json.Value.asStrings args "namespaces"
  let sourceTypes ← Json.getOption Json.Value.asStrings args "source_types"
  let limit ← Json.getOption Json.Value.asUsize args "limit"
  return { query, namespaces, sourceTypes, limit }

/-- The arguments of `sm_search_profile_witnessed`, where no other members are allowed. -/
def McpSearchRequest.fromKnownArgs (args : List (String × Json.Value)) : Option McpSearchRequest :=
  if args.all fun field => field.1 ∈ ["query", "namespaces", "source_types", "limit"] then
    McpSearchRequest.fromArgs args
  else none

/-! ## The gate -/

/-- `read_tool`. -/
def readTool (name : String) : Bool :=
  name ∈ ["sm_get_device", "sm_list_devices", "sm_get_actor", "sm_get_operation",
    "sm_search_witnessed", "sm_search_profile_witnessed", "sm_stats", "sm_health", "sm_heartbeat"]

/-- `operator_tool`. -/
def operatorTool (name : String) : Bool :=
  name ∈ ["sm_register_device", "sm_revoke_device", "sm_rotate_device_key", "sm_register_actor",
    "sm_submit_operation", "sm_verify_integrity"]

/-- `hidden_tool`. -/
def hiddenTool (name : String) : Bool :=
  name ∈ ["devices.list", "actors.list", "operations.list", "health.check", "operations.submit"]

/-- An actor is there, and its profile is the operator's. -/
def isOperator (actor : Option Actor) : Bool := actor.any (·.toolProfile = .operator)

/-- `tools_for_actor`: the names of the tools. -/
def toolsForActor (actor : Option Actor) : List String :=
  ["sm_get_device", "sm_list_devices", "sm_get_actor", "sm_get_operation", "sm_search_witnessed",
    "sm_search_profile_witnessed", "sm_stats", "sm_health", "sm_heartbeat"] ++
  if isOperator actor then
    ["sm_register_device", "sm_revoke_device", "sm_rotate_device_key", "sm_register_actor",
      "sm_submit_operation", "sm_verify_integrity"]
  else []

/-- What a call has to pass before its tool runs. -/
def toolGate (actor : Option Actor) (name : String) : Except MnemesError Unit := do
  if hiddenTool name then throw (.authorizationDenied "tool is not available")
  if operatorTool name && !isOperator actor then
    throw (.authorizationDenied "operator profile required")
  if !readTool name && !operatorTool name then throw (.invalidAsOf "unsupported tool")

section
variable {M : SemanticMemory} {S : SearchSources}

/-- The arguments of a tool. -/
def decodeArgs {α : Type} (tool : String) (args : Option α) : Op M α :=
  liftM (okOr args (MnemesError.invalidAsOf s!"invalid {tool} args"))

namespace ServerState

variable (Z : ServerState M S) (headers : Request) (drawn : Drawn)

/-! ## The tools -/

/-- The device that a tool is about. -/
def argDevice (tool : String) (args : List (String × Json.Value)) : Op M DeviceId := do
  let raw ← decodeArgs tool (Json.getString args "device_id")
  liftM (parseDeviceId Z.platform raw)

/-- `sm_get_device`. -/
def smGetDevice (device : Device) (actor : Option Actor) (args : List (String × Json.Value)) :
    Op M (Payload S) := do
  let raw ← decodeArgs "sm_get_device" (Json.getString args "device_id")
  let deviceId ← liftM (parseDeviceId Z.platform raw)
  if deviceId ≠ device.deviceId && !isOperator actor then
    throw (.authorizationDenied "device mismatch")
  match ← getDevice deviceId with
  | none => throw (.deviceNotFound raw)
  | some device => return .json device.info

/-- `sm_list_devices`. -/
def smListDevices : Op M (Payload S) := do
  let devices ← listDevices
  return .json (.array (devices.map Device.info))

/-- `sm_get_actor`. -/
def smGetActor (device : Device) (args : List (String × Json.Value)) : Op M (Payload S) := do
  let raw ← decodeArgs "sm_get_actor" (Json.getString args "actor_id")
  let actorId ← liftM (parseActorId Z.platform raw)
  match ← getActor actorId with
  | none => throw (.actorNotFound raw)
  | some actor =>
    if actor.deviceId ≠ device.deviceId then
      throw (.authorizationDenied "actor does not belong to device")
    return .json actor.info

/-- `sm_get_operation`. -/
def smGetOperation (device : Device) (actor : Option Actor) (args : List (String × Json.Value)) :
    Op M (Payload S) := do
  let raw ← decodeArgs "sm_get_operation" (Json.getString args "operation_id")
  let operationId ← liftM (okOr (parseId Z.platform raw)
    (MnemesError.invalidAsOf "invalid operation id"))
  match ← getOperation operationId with
  | none => throw (.invalidAsOf "operation not found")
  | some operation =>
    if operation.requestingDeviceId ≠ device.deviceId then
      throw (.authorizationDenied "operation does not belong to device")
    if !actor.any (·.actorId = operation.requestingActorId) then
      throw (.authorizationDenied "actor mismatch")
    return .json operation.info

/-- `sm_search_witnessed`. -/
def smSearchWitnessed (args : List (String × Json.Value)) : Op M (Payload S) := do
  let request ← decodeArgs "sm_search_witnessed" (McpSearchRequest.fromArgs args)
  Z.runWitnessedSearch drawn request

/-- `sm_search_profile_witnessed`. -/
def smSearchProfileWitnessed (actor : Option Actor) (args : List (String × Json.Value)) :
    Op M (Payload S) := do
  let request ← decodeArgs "sm_search_profile_witnessed" (McpSearchRequest.fromKnownArgs args)
  let actor ← liftM (okOr actor (MnemesError.authorizationDenied "actor required"))
  Z.runProfileWitnessedSearch drawn actor.actorId request

/-- `sm_stats`. -/
def smStats : Op M (Payload S) := do
  let devices ← countDevices
  let actors ← countActors
  let operations ← countOperations
  let (stats, size) ← Z.shardStats
  return .json (.object [("pooled", .object [("devices", .number devices),
      ("actors", .number actors), ("operations", .number operations)]),
    ("semantic", .object [("total_facts", .number stats.totalFacts.toNat),
      ("total_documents", .number stats.totalDocuments.toNat),
      ("total_chunks", .number stats.totalChunks.toNat), ("total_sessions", .number 0),
      ("total_messages", .number stats.totalMessages.toNat),
      ("database_size_bytes", .number size.toNat),
      ("embedding_model", .string Z.disk.embeddingModel),
      ("embedding_dimensions", .number Z.disk.embeddingDimensions)])])

/-- `sm_health`, the payload of `build_health_payload`. -/
def smHealth : Op M (Payload S) := do
  let status ← quickCheck
  return .json (.object [("service_id", .string Z.serverId),
    ("schema_version", .string "mnemes.server.v1"), ("server_time", .string drawn.now),
    ("ready", .bool (status = "ok")), ("embedding", .object Z.disk.embedding)])

/-- `sm_heartbeat`: of the caller's own device, named or not. -/
def smHeartbeat (device : Device) (args : List (String × Json.Value)) : Op M (Payload S) := do
  if (Json.get args "device_id").isSome then
    let deviceId ← Z.argDevice "sm_heartbeat" args
    if deviceId ≠ device.deviceId then throw (.authorizationDenied "device mismatch")
  (heartbeatDevice device.deviceId).op
  return .json (.object [("ok", .bool true), ("device_id", .string device.deviceId.text)])

/-- `sm_register_device`. -/
def smRegisterDevice (args : List (String × Json.Value)) : Op M (Payload S) := do
  let request ← decodeArgs "sm_register_device" (RegisterDeviceRequest.fromArgs args)
  let newDevice := Device.new drawn.deviceId request.label request.platform request.hostname
  let (deviceId, credential) ←
    registerDeviceWithGeneratedCredential Z.platform newDevice drawn.secret
  match ← getDevice deviceId with
  | none => throw (.deviceNotFound deviceId.text)
  | some device =>
    return .json (RegisterDeviceResponse.json {
      deviceId := device.deviceId.text
      credential := credential
      firstSeenAt := device.firstSeenAt
      lastSeenAt := device.lastSeenAt
      status := device.status.asStr })

/-- `sm_revoke_device`: of any device. -/
def smRevokeDevice (args : List (String × Json.Value)) : Op M (Payload S) := do
  let deviceId ← Z.argDevice "sm_revoke_device" args
  setDeviceStatus deviceId .revoked
  return .json (.object [("status", .string "revoked"), ("device_id", .string deviceId.text)])

/-- `sm_rotate_device_key`: of any device. -/
def smRotateDeviceKey (args : List (String × Json.Value)) : Op M (Payload S) := do
  let deviceId ← Z.argDevice "sm_rotate_device_key" args
  let credential := DeviceCredential.new Z.platform deviceId drawn.secret
  (rotateDeviceCredential deviceId credential.digest).op
  return .json (.object [("device_id", .string deviceId.text),
    ("credential", .string credential.token)])

/-- `sm_register_actor`: for any device. -/
def smRegisterActor (args : List (String × Json.Value)) : Op M (Payload S) := do
  let request ← decodeArgs "sm_register_actor" (RegisterActorRequest.fromArgs args)
  let deviceId ← liftM (parseDeviceId Z.platform request.deviceId)
  let actorId ← (registerActor (request.actor deviceId drawn.actorId)).op
  return .json (.object [("actor_id", .string actorId.text)])

/-- `sm_submit_operation`: of the caller's own device and actor. -/
def smSubmitOperation (device : Device) (actor : Option Actor) (args : List (String × Json.Value)) :
    Op M (Payload S) := do
  let request ← decodeArgs "sm_submit_operation" (OperationSubmitRequest.fromArgs args)
  let deviceId ← liftM (parseDeviceId Z.platform request.requestingDeviceId)
  let actorId ← liftM (parseActorId Z.platform request.requestingActorId)
  if deviceId ≠ device.deviceId then throw (.authorizationDenied "device mismatch")
  if !actor.any (·.actorId = actorId) then throw (.authorizationDenied "actor mismatch")
  let envelope ← liftM (request.envelope Z.platform drawn.operationId deviceId actorId)
  let receiptId ← submitOperation envelope
  let operation ← readSubmitted request.idempotencyKey
  return .json (operationResponse operation receiptId)

/-- The status of the shards in `sm_verify_integrity`, with its detail. -/
def shardsReport (reports : Except MnemesError (List (DeviceShard × String × String))) :
    String × String :=
  match reports with
  | .error error => ("failed", s!"error: {error.display Z.memoryText}")
  | .ok reports =>
    if reports.all (·.2.1 = "ok") then ("ok", Z.reportsText reports)
    else if reports.any (·.2.1 = "failed") then ("failed", Z.reportsText reports)
    else ("degraded", Z.reportsText reports)

/-- `sm_verify_integrity`. -/
def smVerifyIntegrity : Op M (Payload S) := do
  let pooled ← quickCheck
  let reports ← attempted Z.verifyAllShards
  let (status, detail) := Z.shardsReport reports
  return .json (.object [("pooled_sqlite", .object [
      ("status", .string (if pooled = "ok" then "ok" else "degraded")),
      ("detail", .string pooled)]),
    ("semantic_memory", .object [("status", .string status), ("detail", .string detail)])])

/-- The code of a tool that the gate lets pass. -/
def runTool (device : Device) (actor : Option Actor) (name : String)
    (args : List (String × Json.Value)) : Op M (Payload S) :=
  if name = "sm_get_device" then Z.smGetDevice device actor args
  else if name = "sm_list_devices" then smListDevices
  else if name = "sm_get_actor" then Z.smGetActor device args
  else if name = "sm_get_operation" then Z.smGetOperation device actor args
  else if name = "sm_search_witnessed" then Z.smSearchWitnessed drawn args
  else if name = "sm_search_profile_witnessed" then Z.smSearchProfileWitnessed drawn actor args
  else if name = "sm_stats" then Z.smStats
  else if name = "sm_health" then Z.smHealth drawn
  else if name = "sm_heartbeat" then Z.smHeartbeat device args
  else if name = "sm_register_device" then Z.smRegisterDevice drawn args
  else if name = "sm_revoke_device" then Z.smRevokeDevice args
  else if name = "sm_rotate_device_key" then Z.smRotateDeviceKey drawn args
  else if name = "sm_register_actor" then Z.smRegisterActor drawn args
  else if name = "sm_submit_operation" then Z.smSubmitOperation drawn device actor args
  else if name = "sm_verify_integrity" then Z.smVerifyIntegrity
  else throw (.invalidAsOf "unsupported tool")

/-- The call of a tool. -/
def callTool (params : Option Json.Value) : Op M (Payload S) := do
  let call ← liftM (parseToolCall params)
  let raw ← liftM (okOr call.actorId (MnemesError.invalidAsOf "actor_id required"))
  let actorId ← liftM (parseActorId Z.platform raw)
  let (device, actor) ← Z.authorizeAs headers (some actorId)
  liftM (toolGate actor call.name)
  Z.runTool drawn device actor call.name call.args

/-- The tools of the actor that a request names. -/
def listTools (params : Option Json.Value) : Op M (Payload S) := do
  let actorId ← liftM (parseActorIdParam Z.platform params)
  let actorId ← liftM (okOr actorId (MnemesError.invalidAsOf "actor_id required"))
  let (_, actor) ← Z.authorizeAs headers (some actorId)
  return .json (.object [("tools", .array ((toolsForActor actor).map .string))])

/-- The result of a JSON-RPC request, if its method is one of the endpoint's. -/
def rpcResult (request : JsonRpcRequest) : Op M (Option (Payload S)) := do
  let _ ← authorize Z.platform headers
  if request.method = "initialize" then
    return some (.json (.object [("name", .string "mnemes"),
      ("version", .string "mnemes.server.v1"),
      ("tools", .array ((toolsForActor none).map .string))]))
  else if request.method = "tools/list" then some <$> Z.listTools headers request.params
  else if request.method = "tools/call" then some <$> Z.callTool headers drawn request.params
  else return none

end ServerState

/-- `unauthorized_rpc`. -/
def unauthorizedRpc (error : MnemesError) (id : Option Json.Value) : Reply S :=
  let (status, message) := mapStoreError error
  let code : Int :=
    if status = 401 then -32000
    else if status = 403 then -32001
    else if status = 404 then -32002
    else -32600
  ⟨status, .rpc id (.error (code, message))⟩

/-- `mcp_handler`. -/
def mcpHandler (Z : ServerState M S) (headers : Request) (drawn : Drawn)
    (request : JsonRpcRequest) :
    Proc (MnemesStore M) Choice Event (Reply S) :=
  (Z.rpcResult headers drawn request).run.bind fun
    | .error error => .done (unauthorizedRpc error request.id)
    | .ok none => .done ⟨400, .rpc request.id (.error (-32601, "unsupported method"))⟩
    | .ok (some payload) => .done ⟨200, .rpc request.id (.ok payload)⟩

/-! ## The server -/

/-- What a request asks for. -/
inductive Target where
  | route (endpoint : Endpoint)
  | mcp (request : JsonRpcRequest)

/-- A request of the server, with what its handling draws. -/
structure HttpCall where
  headers : Request
  drawn : Drawn
  target : Target

/-- The process that serves a request. -/
def HttpCall.body (Z : ServerState M S) (i : Tid) (call : HttpCall) :
    Proc (MnemesStore M) Choice Event (Reply S) :=
  match call.target with
  | .route endpoint => endpoint.handler Z i call.headers call.drawn
  | .mcp request => mcpHandler Z call.headers call.drawn request

/-- The server. A request that times out is dropped, and its locks are released. -/
def httpServer (Z : ServerState M S) :
    Service HttpCall (MnemesStore M) Choice Event (Reply S) where
  body i call := call.body Z i
  release := releaseGates

end

end Mnemes
