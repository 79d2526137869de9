import Mnemes.Registry
import Mnemes.Replication.Envelope
import Mnemes.Replication.Requests

/-!
# The replication routes

The HTTP handlers of signed replication (`server.rs`): decode and validate the body, authenticate
the bearer token, compare the batch's home device with the authenticated one, and apply. A request
that times out is a dropped call.
-/

namespace Mnemes

open Concurrency

variable {M : SemanticMemory}

/-- An HTTP request, as far as the handlers read it. -/
structure Request where
  authorization : Option String
  body : Bytes
  deriving DecidableEq

/-- The JSON projections of the batches: `serde_json::from_slice`, with the text of its error. -/
structure Wire where
  factCreateFromSlice : Bytes → Except String SignedFactCreateBatchV1
  factSupersedeFromSlice : Bytes → Except String SignedFactSupersedeBatchV1

/-- `FACT_CREATE_TRANSPORT_MAX_WIRE_BYTES`, which the supersession profile shares. -/
def maxWireBytes : Nat := 4 * 1024 * 1024

/-- The body of an accepted response. -/
structure Ack where
  protocol : String
  record : AckRecord
  deriving DecidableEq

/-- An HTTP response: a status code with an acknowledgement or an error text. -/
structure Response where
  status : Nat
  body : Ack ⊕ String
  deriving DecidableEq

/-- `bearer_token`. -/
def bearerToken (headers : Request) : Except MnemesError String :=
  match headers.authorization with
  | none => .error .invalidCredential
  | some raw =>
    if !("Bearer ".toList.isPrefixOf raw.toList) then .error .invalidCredential
    else
      let token := trim (String.ofList (stripAll raw.toList raw.toList.length))
      if token.isEmpty then .error .invalidCredential else .ok token
where
  /-- `trim_start_matches`: every leading repetition is removed. -/
  stripAll (cs : List Char) : Nat → List Char
    | 0 => cs
    | n + 1 =>
      if "Bearer ".toList.isPrefixOf cs then stripAll (cs.drop "Bearer ".toList.length) n else cs

/-- The device whose token a request carries. -/
def Request.device (P : Platform) (headers : Request) : Option DeviceId :=
  (bearerToken headers).toOption.bind (tokenDevice P)

/-- `authorize` without an actor: the authenticated device. -/
def authorize (P : Platform) (headers : Request) : Op M Device := do
  let token ← liftM (bearerToken headers)
  let (device, _) ← authenticateRequest P token none
  return device

/-- `map_store_error`, without its audit outcome. -/
def mapStoreError : MnemesError → Nat × String
  | .invalidCredential => (401, "invalid credentials")
  | .deviceNotActive _ | .authorizationDenied _ | .memoryGrantDenied _
  | .actorProfileBindingDenied _ => (403, "access denied")
  | .authorizationSnapshotInvalid _ => (409, "authorization snapshot invalid")
  | .deviceNotFound _ | .actorNotFound _ => (404, "not found")
  | _ => (400, "invalid request")

/-- `error_response`. -/
def errorResponse (error : MnemesError) : Response :=
  ⟨(mapStoreError error).1, .inr (mapStoreError error).2⟩

/-- What a route of replication serves: the family, the protocol name, the decoder of its body with
the text for an invalid one, and the status code and text for a failed apply. -/
structure Route where
  family : Family
  protocol : String
  decodeJson : Bytes → Except ReplicationError Submission
  invalid : String
  applyFailed : MnemesError → Nat × String

/-- The handler of a replication route. -/
def Route.handler (P : Platform) (route : Route) (i : Tid) (req : Request) :
    Proc (MnemesStore M) Choice Event Response :=
  match route.decodeJson req.body with
  | .error _ => .done ⟨400, .inr route.invalid⟩
  | .ok b => (authorize P req).run.bind fun
    | .error e => .done (errorResponse e)
    | .ok device =>
      if b.homeDeviceId ≠ device.deviceId.text then .done ⟨403, .inr "home device mismatch"⟩
      else (applyRequest P route.family i b (hex (P.sha256 req.body).toList)).run.bind fun
        | .error e => .done ⟨(route.applyFailed e).1, .inr (route.applyFailed e).2⟩
        | .ok ack => .done ⟨200, .inl ⟨route.protocol, ack⟩⟩

/-- `SignedFactCreateBatchV1::decode_json`. -/
def SignedFactCreateBatchV1.decodeJson (P : Platform) (M : SemanticMemory) (W : Wire)
    (bytes : Bytes) : Except ReplicationError SignedFactCreateBatchV1 := do
  if maxWireBytes < bytes.length then
    throw (.fieldExceedsMaxLength "wire_body" bytes.length maxWireBytes)
  let batch ← (W.factCreateFromSlice bytes).mapError fun error =>
    .preCollisionValidation s!"fact-create transport JSON decode failed: {error}"
  batch.validate P M
  return batch

/-- `SignedFactSupersedeBatchV1::decode_json`. -/
def SignedFactSupersedeBatchV1.decodeJson (P : Platform) (M : SemanticMemory) (W : Wire)
    (bytes : Bytes) : Except ReplicationError SignedFactSupersedeBatchV1 := do
  if maxWireBytes < bytes.length then
    throw (.fieldExceedsMaxLength "wire_body" bytes.length maxWireBytes)
  let batch ← (W.factSupersedeFromSlice bytes).mapError fun error =>
    .preCollisionValidation s!"fact-supersede transport JSON decode failed: {error}"
  let _ ← batch.semanticEnvelope P M
  return batch

/-- The route of `fact_create_handler`. -/
def factCreateRoute (P : Platform) (M : SemanticMemory) (W : Wire) : Route where
  family := .factCreate
  protocol := "mnemes.fact-create.v1"
  decodeJson bytes :=
    (SignedFactCreateBatchV1.decodeJson P M W bytes).map (·.submission P M)
  invalid := "invalid fact-create envelope"
  applyFailed
    | .factCreateRejected reason =>
      if contains reason "conflict" || contains reason "collision" then
        (409, "fact-create conflict")
      else (403, "fact-create admission rejected")
    | error => mapStoreError error

/-- The route of `fact_supersede_handler`. -/
def factSupersedeRoute (P : Platform) (M : SemanticMemory) (W : Wire) : Route where
  family := .factSupersede
  protocol := "mnemes.fact-supersede.v1"
  decodeJson bytes :=
    (SignedFactSupersedeBatchV1.decodeJson P M W bytes).map (·.submission P M)
  invalid := "invalid fact-supersede envelope"
  applyFailed
    | .factSupersedeSemanticConflict => (409, "fact-supersede conflict")
    | .factSupersedeRejected reason =>
      if reason = "batch id digest collision" then (409, "fact-supersede conflict")
      else (403, "fact-supersede admission rejected")
    | error => mapStoreError error

/-- `fact_create_handler`. -/
def factCreateHandler (P : Platform) (W : Wire) (i : Tid) (req : Request) :
    Proc (MnemesStore M) Choice Event Response :=
  (factCreateRoute P M W).handler P i req

/-- `fact_supersede_handler`. -/
def factSupersedeHandler (P : Platform) (W : Wire) (i : Tid) (req : Request) :
    Proc (MnemesStore M) Choice Event Response :=
  (factSupersedeRoute P M W).handler P i req

/-! ## The service -/

/-- The calls of the replication service. -/
inductive Call where
  | admitFactCreateKey (a : FactCreateAdmission)
  | revokeFactCreateKey (device : DeviceId) (storeId ns principalId : String) (keyVersion : UInt64)
  | applyFactCreateRequest (b : SignedFactCreateBatchV1) (requestDigest : String)
  | admitFactSupersedeKey (a : FactSupersedeAdmission)
  | revokeFactSupersedeKey (device : DeviceId) (storeId ns principalId : String)
    (keyVersion : UInt64)
  | applyFactSupersedeRequest (b : SignedFactSupersedeBatchV1) (requestDigest : String)
  | setDeviceStatus (device : DeviceId) (status : DeviceStatus)
  | authenticateRequest (token : String) (actorId : Option ActorId)
  | factCreateHandler (req : Request)
  | factSupersedeHandler (req : Request)
  deriving DecidableEq

/-- The result of a call. -/
inductive Result where
  | unit (r : Except MnemesError Unit)
  | ack (r : Except MnemesError AckRecord)
  | authenticated (r : Except MnemesError (Device × Option Actor))
  | response (r : Response)
  deriving DecidableEq

/-- The process of a call. -/
def Call.body (P : Platform) (W : Wire) (i : Tid) :
    Call → Proc (MnemesStore M) Choice Event Result
  | .admitFactCreateKey a => Result.unit <$> (Mnemes.admitFactCreateKey i a).run
  | .revokeFactCreateKey device storeId ns principalId keyVersion =>
    Result.unit <$> (Mnemes.revokeFactCreateKey i device storeId ns principalId keyVersion).run
  | .applyFactCreateRequest b requestDigest =>
    Result.ack <$> (Mnemes.applyFactCreateRequest P i b requestDigest).run
  | .admitFactSupersedeKey a => Result.unit <$> (Mnemes.admitFactSupersedeKey i a).run
  | .revokeFactSupersedeKey device storeId ns principalId keyVersion =>
    Result.unit <$> (Mnemes.revokeFactSupersedeKey i device storeId ns principalId keyVersion).run
  | .applyFactSupersedeRequest b requestDigest =>
    Result.ack <$> (Mnemes.applyFactSupersedeRequest P i b requestDigest).run
  | .setDeviceStatus device status => Result.unit <$> (Mnemes.setDeviceStatus device status).run
  | .authenticateRequest token actorId =>
    Result.authenticated <$> (Mnemes.authenticateRequest P token actorId).run
  | .factCreateHandler req => Result.response <$> Mnemes.factCreateHandler P W i req
  | .factSupersedeHandler req => Result.response <$> Mnemes.factSupersedeHandler P W i req

/-- The replication service. -/
def service (P : Platform) (M : SemanticMemory) (W : Wire) :
    Service Call (MnemesStore M) Choice Event Result where
  body i call := call.body P W i
  release := releaseGates

/-! ## A deployment

Two active devices, each with one signed batch of one record and a credential. The key, the
signatures and the digests are the true ones; runs of the service over this deployment are
evaluated where an input is exhibited. -/

namespace Sample

def deviceA : DeviceId := ⟨"7c9e6679-7425-40de-944b-e07fc1f90ae7"⟩

def deviceB : DeviceId := ⟨"550e8400-e29b-41d4-a716-446655440000"⟩

/-- The public key of both writers. -/
def publicKey : Bytes32 := envelope.signerPublicKey

/-- The first record of a device's journal. -/
def entry : FactCreateTransportEntryV1 where
  sequence := 1
  payload := [0x7B, 0x7D]
  payloadDigest := Vector.replicate 32 1
  predecessorDigest := Vector.replicate 32 0
  journalEnvelopeDigest := Vector.replicate 32 2

/-- The batch of a device, with a signature. -/
def batch (device : DeviceId) (signature : Bytes64) : SignedFactCreateBatchV1 where
  protocolVersion := 1
  batchId := "d0c4e8f2-5b1a-4c6d-9e3f-2a7b8c9d0e1f"
  homeDeviceId := device.text
  storeId := "store"
  streamEpoch := 1
  startSequence := 1
  entries := [entry]
  signerPrincipalId := "writer"
  signerRole := .deviceWriter
  signerKeyVersion := 1
  observedAt := 5
  fencingToken := "fence"
  signerPublicKey := publicKey
  signature := signature

def batchA : SignedFactCreateBatchV1 := batch deviceA
  #v[183, 59, 134, 121, 153, 146, 208, 180, 219, 149, 60, 58, 95, 72, 117, 37, 198, 131, 218, 208,
    136, 193, 230, 14, 239, 223, 234, 246, 152, 32, 125, 142, 140, 179, 232, 21, 121, 4, 144, 17,
    240, 44, 123, 83, 112, 9, 6, 199, 192, 196, 82, 20, 195, 137, 51, 178, 154, 212, 189, 161, 115,
    107, 155, 1]

def batchB : SignedFactCreateBatchV1 := batch deviceB
  #v[152, 85, 11, 180, 250, 228, 11, 172, 100, 157, 33, 38, 102, 106, 147, 195, 164, 136, 57, 77,
    97, 173, 187, 184, 70, 212, 28, 57, 183, 241, 74, 174, 33, 16, 178, 206, 87, 135, 244, 94, 14,
    66, 9, 247, 113, 213, 149, 48, 0, 170, 203, 207, 132, 253, 106, 206, 250, 228, 81, 194, 170, 4,
    70, 4]

/-- The decimal digits of a byte. -/
def digits (b : UInt8) : Bytes :=
  if b < 10 then [48 + b]
  else if b < 100 then [48 + b / 10, 48 + b % 10]
  else [48 + b / 100, 48 + b / 10 % 10, 48 + b % 10]

/-- A byte string in JSON. -/
def jsonBytes (bytes : Bytes) : Bytes :=
  [0x5B] ++ List.intercalate [0x2C] (bytes.map digits) ++ [0x5D]

/-- A member of a JSON object. -/
def jsonField (name : String) (value : Bytes) : Bytes :=
  [0x22] ++ utf8 name ++ [0x22, 0x3A] ++ value

/-- A text without characters to escape, in JSON. -/
def jsonText (value : String) : Bytes := [0x22] ++ utf8 value ++ [0x22]

/-- A JSON object. -/
def jsonObject (fields : List Bytes) : Bytes :=
  [0x7B] ++ List.intercalate [0x2C] fields ++ [0x7D]

/-- The body that carries a batch of this deployment. -/
def body (b : SignedFactCreateBatchV1) : Bytes :=
  jsonObject [jsonField "protocol_version" (utf8 "1"), jsonField "batch_id" (jsonText b.batchId),
    jsonField "home_device_id" (jsonText b.homeDeviceId), jsonField "store_id" (jsonText b.storeId),
    jsonField "stream_epoch" (utf8 "1"), jsonField "start_sequence" (utf8 "1"),
    jsonField "entries" ([0x5B] ++ jsonObject [jsonField "sequence" (utf8 "1"),
      jsonField "payload" (jsonBytes entry.payload),
      jsonField "payload_digest" (jsonBytes entry.payloadDigest.toList),
      jsonField "predecessor_digest" (jsonBytes entry.predecessorDigest.toList),
      jsonField "journal_envelope_digest" (jsonBytes entry.journalEnvelopeDigest.toList)] ++ [0x5D]),
    jsonField "signer_principal_id" (jsonText b.signerPrincipalId),
    jsonField "signer_role" (jsonText "DeviceWriter"), jsonField "signer_key_version" (utf8 "1"),
    jsonField "observed_at" (utf8 "5"), jsonField "fencing_token" (jsonText b.fencingToken),
    jsonField "signer_public_key" (jsonBytes b.signerPublicKey.toList),
    jsonField "signature" (jsonBytes b.signature.toList)]

/-- The credential of a device. -/
def credential (device : DeviceId) : String := device.text ++ ":secret"

def digestBodyA : Bytes32 :=
  #v[229, 203, 194, 189, 232, 128, 133, 122, 67, 231, 89, 210, 95, 161, 247, 113, 221, 72, 1, 254,
    152, 148, 74, 51, 124, 200, 155, 141, 89, 56, 249, 9]

def digestBodyB : Bytes32 :=
  #v[201, 152, 234, 122, 112, 187, 205, 129, 89, 21, 126, 71, 39, 154, 126, 35, 229, 65, 182, 136,
    0, 124, 219, 214, 16, 72, 193, 74, 125, 69, 155, 145]

def digestCredentialA : Bytes32 :=
  #v[19, 242, 33, 147, 250, 112, 230, 29, 216, 129, 130, 103, 13, 29, 115, 180, 106, 181, 147, 92,
    45, 237, 98, 238, 229, 81, 209, 140, 199, 25, 192, 106]

def digestCredentialB : Bytes32 :=
  #v[68, 175, 80, 86, 154, 90, 194, 111, 70, 239, 170, 146, 66, 169, 112, 44, 246, 24, 244, 172,
    202, 123, 111, 234, 193, 139, 253, 101, 246, 253, 0, 197]

/-- The other crates, on what this deployment asks of them. -/
def platform : Platform where
  uuidParseStr value :=
    if value = deviceA.text ∨ value = deviceB.text then .ok ⟨value, true, true⟩
    else .error "invalid character"
  uuid_canonical h := by split at h <;> cases h; simp [*]
  sha256 bytes :=
    if bytes = utf8 (credential deviceA) then digestCredentialA
    else if bytes = utf8 (credential deviceB) then digestCredentialB
    else if bytes = body batchA then digestBodyA
    else if bytes = body batchB then digestBodyB
    else Vector.replicate 32 0
  verifyingKey _ := .ok ()
  verify key message signature :=
    if [batchA, batchB].any fun b => key = publicKey && b.signingPreimage.toOption = some message &&
        signature = b.signature then .ok ()
    else .error "Verification equation was not satisfied"
  verifyingKeyOf _ := publicKey
  sign _ message :=
    if batchA.signingPreimage.toOption = some message then batchA.signature else batchB.signature

def memory : SemanticMemory := journalMemory "notes"

/-- Each body carries its batch. -/
def wire : Wire where
  factCreateFromSlice bytes :=
    if bytes = body batchA then .ok batchA
    else if bytes = body batchB then .ok batchB
    else .error "expected value at line 1 column 1"
  factSupersedeFromSlice _ := .error "expected value at line 1 column 1"

def device (device : DeviceId) (digest : Bytes32) : Device where
  deviceId := device
  label := "laptop"
  platform := "linux"
  hostname := "host"
  credentialFingerprint := some ("sha256:" ++ hex digest.toList)
  firstSeenAt := "now"
  lastSeenAt := "now"
  status := .active

def shard (device : DeviceId) : DeviceShard where
  deviceId := device
  relativePath := shardRelativePath device
  state := .active
  generation := 0
  counts := ⟨0, 0, 0, 0⟩
  lastRefreshedAt := none

/-- The admission of a device's writer. -/
def admission (device : DeviceId) : FactCreateAdmission where
  deviceId := device
  storeId := "store"
  «namespace» := "notes"
  principalId := "writer"
  keyVersion := 1
  publicKey := publicKey
  activatedAt := 0
  cutoffAt := 10
  streamEpoch := 1
  fencingToken := "fence"

/-- The row of an admission. -/
def admissionRow (device : DeviceId) : AdmissionRow where
  scope := ⟨device, "store", "notes", "writer", 1⟩
  publicKey := publicKey
  activatedAt := 0
  cutoffAt := 10
  revoked := false
  epochs := [1]
  fencingToken := "fence"

/-- Both devices with their shards and admissions, and nothing applied. -/
def store : MnemesStore memory where
  db :=
    { devices := ⟨[device deviceA digestCredentialA, device deviceB digestCredentialB], by decide⟩
      actors := .empty
      operations := .empty
      deviceShards := ⟨[shard deviceA, shard deviceB], by decide⟩
      replication := fun
        | .factCreate => ⟨⟨[admissionRow deviceA, admissionRow deviceB], by decide⟩, .empty⟩
        | .factSupersede => ⟨.empty, .empty⟩ }
  gate _ := none
  shards _ := []

/-- An action without a fault. -/
def plain : Choice := ⟨none, "now"⟩

/-- An action that fails. -/
def faulty : Choice := ⟨some "fault", "now"⟩

/-- The call `i` and its next `n` actions. -/
def call (i : Tid) (k : Call) (n : Nat) : List (Command Call Choice) :=
  .start i k :: List.replicate n (.run i plain)

/-- A request of a device with its batch. -/
def request (device : DeviceId) (b : SignedFactCreateBatchV1) : Request :=
  ⟨some ("Bearer " ++ credential device), body b⟩

end Sample

end Mnemes
