import Mnemes.SemanticMemory

/-!
# The signed fact-create batch

The transport profile of `replication/fact_create.rs`: a batch of one verified journal record,
signed by the device writer over a fixed-order, length-prefixed preimage. Validation is local:
structure, the owner's check of each record, and the signature. The server checks the admission of
the key separately. The field checks and the length-prefixed encoding serve the supersession
profile as well.
-/

namespace Mnemes

/-! ## What the transport profiles share -/

/-- Longest accepted identifier, in bytes. -/
def maxIdBytes : Nat := 128

/-- Longest accepted fencing token, in bytes. -/
def maxFencingTokenBytes : Nat := 256

/-- The checks of one text field of a batch of the profile `profile`. -/
def checkField (profile field value : String) (max : Nat) : Except ReplicationError Unit :=
  if value.isEmpty then .error (.emptyField field)
  else if trim value != value || value.toList.any isControl then
    .error (.preCollisionValidation
      s!"{profile} batch field '{field}' must be trimmed and contain no control characters")
  else if max < value.utf8ByteSize then
    .error (.fieldExceedsMaxLength field value.utf8ByteSize max)
  else .ok ()

/-- `encode_bytes`: a big-endian 32-bit length, and the bytes. -/
def encodeBytes (value : Bytes) (field : String) : Except ReplicationError Bytes :=
  if value.length < 2 ^ 32 then .ok (toBeBytes 4 value.length ++ value)
  else .error (.fieldTooLong field value.length)

/-- `encode_string`. -/
def encodeString (value field : String) : Except ReplicationError Bytes :=
  encodeBytes (utf8 value) field

/-! ## Batches -/

/-- `FACT_CREATE_OPERATION`. -/
def factCreateOperation : String := "fact.create"

/-- `FACT_CREATE_PAYLOAD_SCHEMA`. -/
def factCreatePayloadSchema : String := "semantic_memory.fact.create.v1"

/-- One journal record as transported. -/
structure FactCreateTransportEntryV1 where
  sequence : Int64
  payload : Bytes
  payloadDigest : Bytes32
  predecessorDigest : Bytes32
  journalEnvelopeDigest : Bytes32
  deriving DecidableEq

/-- The owner's envelope of a transported record. -/
def FactCreateTransportEntryV1.toSemanticEnvelope (entry : FactCreateTransportEntryV1)
    (homeDeviceId storeId : String) (streamEpoch : UInt64) : ReplicaEnvelopeV1 where
  homeDeviceId := homeDeviceId
  storeId := storeId
  streamEpoch := streamEpoch
  sequence := entry.sequence
  operationKind := factCreateOperation
  payloadSchema := factCreatePayloadSchema
  payload := entry.payload
  payloadDigest := entry.payloadDigest
  predecessorDigest := entry.predecessorDigest
  envelopeDigest := entry.journalEnvelopeDigest

/-- One signed batch of contiguous fact-create records. -/
structure SignedFactCreateBatchV1 where
  protocolVersion : UInt16
  batchId : String
  homeDeviceId : String
  storeId : String
  streamEpoch : UInt64
  startSequence : Int64
  entries : List FactCreateTransportEntryV1
  signerPrincipalId : String
  signerRole : SignerRole
  signerKeyVersion : UInt64
  observedAt : UInt64
  fencingToken : String
  signerPublicKey : Bytes32
  signature : Bytes64
  deriving DecidableEq

namespace SignedFactCreateBatchV1

/-- `FACT_CREATE_TRANSPORT_MAX_ENTRIES`. -/
def maxEntries : Nat := 1

/-- `FACT_CREATE_TRANSPORT_SIGNATURE_DOMAIN`. -/
def signatureDomain : Bytes := utf8 "mnemes/fact-create-batch/signature/v1" ++ [0]

/-- The check that the records number consecutively from `expected` on. The sum of the start and an
offset wraps as `i64` does in a release build; a batch of one record has offset zero only. -/
def checkSequences (expected : Int64) :
    List FactCreateTransportEntryV1 → Except ReplicationError Unit
  | [] => .ok ()
  | entry :: entries =>
    if entry.sequence ≠ expected then
      .error (.preCollisionValidation
        s!"fact-create batch sequence mismatch: expected {expected.toInt}, got {entry.sequence.toInt}")
    else checkSequences (expected + 1) entries

/-- `validate_structure`. -/
def validateStructure (b : SignedFactCreateBatchV1) : Except ReplicationError Unit := do
  if b.protocolVersion ≠ 1 then throw (.unsupportedProtocolVersion b.protocolVersion)
  if b.signerRole ≠ .deviceWriter then throw (.roleArtifactMismatch b.signerRole)
  checkField "fact-create" "batch_id" b.batchId maxIdBytes
  checkField "fact-create" "home_device_id" b.homeDeviceId maxIdBytes
  checkField "fact-create" "store_id" b.storeId maxIdBytes
  checkField "fact-create" "signer_principal_id" b.signerPrincipalId maxIdBytes
  checkField "fact-create" "fencing_token" b.fencingToken maxFencingTokenBytes
  if b.streamEpoch = 0 then
    throw (.preCollisionValidation "fact-create stream_epoch must be positive")
  if b.startSequence < 1 then
    throw (.preCollisionValidation "fact-create start_sequence must be positive")
  if b.entries.isEmpty then throw (.emptyField "entries")
  if maxEntries < b.entries.length then
    throw (.fieldExceedsMaxLength "entries" b.entries.length maxEntries)
  checkSequences b.startSequence b.entries

/-- The preimage of one record. -/
def encodeEntry (entry : FactCreateTransportEntryV1) : Except ReplicationError Bytes := do
  let payload ← encodeBytes entry.payload "payload"
  return toBeBytes 8 entry.sequence.toUInt64.toNat ++ payload ++ entry.payloadDigest.toList ++
    entry.predecessorDigest.toList ++ entry.journalEnvelopeDigest.toList

/-- `signing_preimage`. -/
def signingPreimage (b : SignedFactCreateBatchV1) : Except ReplicationError Bytes := do
  let batchId ← encodeString b.batchId "batch_id"
  let homeDeviceId ← encodeString b.homeDeviceId "home_device_id"
  let storeId ← encodeString b.storeId "store_id"
  let entries ← b.entries.mapM encodeEntry
  let signerPrincipalId ← encodeString b.signerPrincipalId "signer_principal_id"
  let fencingToken ← encodeString b.fencingToken "fencing_token"
  return signatureDomain ++ toBeBytes 2 b.protocolVersion.toNat ++ batchId ++ homeDeviceId ++
    storeId ++ toBeBytes 8 b.streamEpoch.toNat ++ toBeBytes 8 b.startSequence.toUInt64.toNat ++
    toBeBytes 4 b.entries.length ++ entries.flatten ++ signerPrincipalId ++
    [b.signerRole.toUInt8] ++ toBeBytes 8 b.signerKeyVersion.toNat ++
    toBeBytes 8 b.observedAt.toNat ++ fencingToken

/-- The envelope of one record of a batch. -/
def toSemanticEnvelope (b : SignedFactCreateBatchV1) (entry : FactCreateTransportEntryV1) :
    ReplicaEnvelopeV1 :=
  entry.toSemanticEnvelope b.homeDeviceId b.storeId b.streamEpoch

/-- The owner's check of every record of a batch. -/
def validateEntries (M : SemanticMemory) (b : SignedFactCreateBatchV1) :
    List FactCreateTransportEntryV1 → Except ReplicationError Unit
  | [] => .ok ()
  | entry :: entries =>
    match M.validateFactCreateReplicaEnvelope (b.toSemanticEnvelope entry) with
    | .error error => .error (.preCollisionValidation ("semantic-memory fact-create validation " ++
        s!"failed at sequence {entry.sequence.toInt}: {error}"))
    | .ok _ => validateEntries M b entries

/-- `validate`: structure, the owner's records and the signature. -/
def validate (P : Platform) (M : SemanticMemory) (b : SignedFactCreateBatchV1) :
    Except ReplicationError Unit := do
  b.validateStructure
  validateEntries M b b.entries
  (P.verifyingKey b.signerPublicKey).mapError .invalidPublicKey
  let preimage ← b.signingPreimage
  (P.verify b.signerPublicKey preimage b.signature).mapError .signatureVerification

/-- The signature of a valid batch verifies, over the preimage of the batch. -/
theorem validate_signature {P : Platform} {M : SemanticMemory} {b : SignedFactCreateBatchV1}
    (h : b.validate P M = .ok ()) :
    ∃ preimage, b.signingPreimage = .ok preimage ∧
      P.verify b.signerPublicKey preimage b.signature = .ok () := by
  obtain ⟨_, -, h⟩ := bind_eq_ok.1 h
  obtain ⟨_, -, h⟩ := bind_eq_ok.1 h
  obtain ⟨_, -, h⟩ := bind_eq_ok.1 h
  obtain ⟨preimage, hpre, h⟩ := bind_eq_ok.1 h
  exact ⟨preimage, hpre, mapError_eq_ok.1 h⟩

/-- `semantic_envelopes`. -/
def semanticEnvelopes (P : Platform) (M : SemanticMemory) (b : SignedFactCreateBatchV1) :
    Except ReplicationError (List ReplicaEnvelopeV1) := do
  b.validate P M
  return b.entries.map b.toSemanticEnvelope

/-- `new`: an unsigned batch, if its structure is valid. -/
def new (batchId homeDeviceId storeId : String) (streamEpoch : UInt64) (startSequence : Int64)
    (entries : List FactCreateTransportEntryV1) (signerPrincipalId : String)
    (signerKeyVersion observedAt : UInt64) (fencingToken : String) :
    Except ReplicationError SignedFactCreateBatchV1 := do
  let batch : SignedFactCreateBatchV1 :=
    { protocolVersion := 1, batchId, homeDeviceId, storeId, streamEpoch, startSequence, entries,
      signerPrincipalId, signerRole := .deviceWriter, signerKeyVersion, observedAt, fencingToken,
      signerPublicKey := Vector.replicate 32 0, signature := Vector.replicate 64 0 }
  batch.validateStructure
  return batch

/-- `sign` with the key of the seed `seed`. -/
def sign (P : Platform) (seed : Bytes32) (b : SignedFactCreateBatchV1) :
    Except ReplicationError SignedFactCreateBatchV1 := do
  b.validateStructure
  let preimage ← b.signingPreimage
  return { b with signerPublicKey := P.verifyingKeyOf seed, signature := P.sign seed preimage }

end SignedFactCreateBatchV1

end Mnemes
