import Mnemes.Replication.FactCreate

/-!
# The signed fact-supersede batch

The transport profile of `replication/fact_supersede.rs`: one owner-produced supersession, carried
verbatim, under a signature that also covers the writer's generations. The only projection of the
payload is the namespace of the replacement.
-/

namespace Mnemes

/-- One signed admission request for one owner-produced supersession. An entry is the owner's
envelope, verbatim. -/
structure SignedFactSupersedeBatchV1 where
  protocolFamily : String
  protocolVersion : UInt16
  batchId : String
  homeDeviceId : String
  storeId : String
  storeEpoch : UInt64
  writerEpoch : UInt64
  ownerStreamEpoch : UInt64
  startSequence : Int64
  entries : List ReplicaEnvelopeV1
  signerPrincipalId : String
  signerRole : SignerRole
  signerKeyVersion : UInt64
  observedAt : UInt64
  fencingToken : String
  signerPublicKey : Bytes32
  signature : Bytes64
  deriving DecidableEq

namespace SignedFactSupersedeBatchV1

/-- `FACT_SUPERSEDE_TRANSPORT_PROTOCOL_FAMILY`. -/
def transportProtocolFamily : String := "mnemes.fact-supersede.v1"

/-- `FACT_SUPERSEDE_TRANSPORT_MAX_ENTRIES`. -/
def maxEntries : Nat := 1

/-- `FACT_SUPERSEDE_TRANSPORT_SIGNATURE_DOMAIN`. -/
def signatureDomain : Bytes := utf8 "mnemes/fact-supersede-batch/signature/v1" ++ [0]

/-- The transported envelope has the identity the batch names. -/
def bindsIdentity (b : SignedFactSupersedeBatchV1) (envelope : ReplicaEnvelopeV1) : Bool :=
  envelope.homeDeviceId = b.homeDeviceId && envelope.storeId = b.storeId &&
    envelope.streamEpoch = b.ownerStreamEpoch && envelope.sequence = b.startSequence

/-- `validate_structure`; the owner's envelope of an accepted batch is its result. -/
def validateStructure (b : SignedFactSupersedeBatchV1) :
    Except ReplicationError ReplicaEnvelopeV1 := do
  if b.protocolFamily ≠ transportProtocolFamily then
    throw (.preCollisionValidation "fact-supersede protocol family mismatch")
  if b.protocolVersion ≠ 1 then throw (.unsupportedProtocolVersion b.protocolVersion)
  if b.signerRole ≠ .deviceWriter then throw (.roleArtifactMismatch b.signerRole)
  checkField "fact-supersede" "batch_id" b.batchId maxIdBytes
  checkField "fact-supersede" "home_device_id" b.homeDeviceId maxIdBytes
  checkField "fact-supersede" "store_id" b.storeId maxIdBytes
  checkField "fact-supersede" "signer_principal_id" b.signerPrincipalId maxIdBytes
  checkField "fact-supersede" "fencing_token" b.fencingToken maxFencingTokenBytes
  if b.storeEpoch = 0 ∨ b.writerEpoch = 0 ∨ b.ownerStreamEpoch = 0 then
    throw (.preCollisionValidation "fact-supersede transport generation fields must be positive")
  if b.startSequence < 1 then
    throw (.preCollisionValidation "fact-supersede start_sequence must be positive")
  match b.entries with
  | [envelope] =>
    if b.bindsIdentity envelope then return envelope
    else throw (.preCollisionValidation
      "fact-supersede transport does not exactly bind owner envelope identity")
  | entries => throw (.fieldExceedsMaxLength "entries" entries.length maxEntries)

/-- The preimage of one transported envelope. -/
def encodeEntry (envelope : ReplicaEnvelopeV1) : Except ReplicationError Bytes := do
  let homeDeviceId ← encodeString envelope.homeDeviceId "owner_home_device_id"
  let storeId ← encodeString envelope.storeId "owner_store_id"
  let operationKind ← encodeString envelope.operationKind "owner_operation_kind"
  let payloadSchema ← encodeString envelope.payloadSchema "owner_payload_schema"
  let payload ← encodeBytes envelope.payload "owner_payload"
  return homeDeviceId ++ storeId ++ toBeBytes 8 envelope.streamEpoch.toNat ++
    toBeBytes 8 envelope.sequence.toUInt64.toNat ++ operationKind ++ payloadSchema ++ payload ++
    envelope.payloadDigest.toList ++ envelope.predecessorDigest.toList ++
    envelope.envelopeDigest.toList

/-- `signing_preimage`. -/
def signingPreimage (b : SignedFactSupersedeBatchV1) : Except ReplicationError Bytes := do
  let protocolFamily ← encodeString b.protocolFamily "protocol_family"
  let batchId ← encodeString b.batchId "batch_id"
  let homeDeviceId ← encodeString b.homeDeviceId "home_device_id"
  let storeId ← encodeString b.storeId "store_id"
  let entries ← b.entries.mapM encodeEntry
  let signerPrincipalId ← encodeString b.signerPrincipalId "signer_principal_id"
  let fencingToken ← encodeString b.fencingToken "fencing_token"
  return signatureDomain ++ protocolFamily ++ toBeBytes 2 b.protocolVersion.toNat ++ batchId ++
    homeDeviceId ++ storeId ++ toBeBytes 8 b.storeEpoch.toNat ++ toBeBytes 8 b.writerEpoch.toNat ++
    toBeBytes 8 b.ownerStreamEpoch.toNat ++ toBeBytes 8 b.startSequence.toUInt64.toNat ++
    toBeBytes 4 b.entries.length ++ entries.flatten ++ signerPrincipalId ++
    [b.signerRole.toUInt8] ++ toBeBytes 8 b.signerKeyVersion.toNat ++
    toBeBytes 8 b.observedAt.toNat ++ fencingToken

/-- `validate` and `semantic_envelope`: the owner's envelope, byte for byte as transported, once
protocol, envelope and signature are valid. -/
def semanticEnvelope (P : Platform) (M : SemanticMemory) (b : SignedFactSupersedeBatchV1) :
    Except ReplicationError ReplicaEnvelopeV1 := do
  let envelope ← b.validateStructure
  let _ ← (M.validateFactSupersedeReplicaEnvelope envelope).mapError fun error =>
    .preCollisionValidation s!"semantic-memory fact-supersede validation failed: {error}"
  (P.verifyingKey b.signerPublicKey).mapError .invalidPublicKey
  let preimage ← b.signingPreimage
  (P.verify b.signerPublicKey preimage b.signature).mapError .signatureVerification
  return envelope

/-- A batch whose structure is valid carries one envelope. -/
theorem validateStructure_entries {b : SignedFactSupersedeBatchV1} {envelope : ReplicaEnvelopeV1}
    (h : b.validateStructure = .ok envelope) : b.entries = [envelope] := by
  unfold validateStructure at h
  simp only [guard_eq_ok, bind_eq_ok] at h
  obtain ⟨-, -, -, -, -, -, -, -, -, -, -, -, -, -, -, h⟩ := h
  split at h
  · next envelope' hentries =>
    split at h
    · cases h; exact hentries
    · cases h
  · cases h

/-- The signature of a valid batch verifies, over the preimage of the batch. -/
theorem semanticEnvelope_signature {P : Platform} {M : SemanticMemory}
    {b : SignedFactSupersedeBatchV1} {envelope : ReplicaEnvelopeV1}
    (h : b.semanticEnvelope P M = .ok envelope) :
    b.entries = [envelope] ∧ ∃ preimage, b.signingPreimage = .ok preimage ∧
      P.verify b.signerPublicKey preimage b.signature = .ok () := by
  obtain ⟨envelope', hstructure, h⟩ := bind_eq_ok.1 h
  obtain ⟨_, -, h⟩ := bind_eq_ok.1 h
  obtain ⟨_, -, h⟩ := bind_eq_ok.1 h
  obtain ⟨preimage, hpre, h⟩ := bind_eq_ok.1 h
  obtain ⟨_, hverify, h⟩ := bind_eq_ok.1 h
  cases h
  exact ⟨validateStructure_entries hstructure, preimage, hpre, mapError_eq_ok.1 hverify⟩

/-- `replacement_namespace`, of the envelope the batch carries. -/
def replacementNamespace (M : SemanticMemory) (envelope : ReplicaEnvelopeV1) :
    Except ReplicationError String := do
  let payload ← (M.validateFactSupersedeReplicaEnvelope envelope).mapError .preCollisionValidation
  let replacement ← (M.factCreatePayloadFromSlice payload.replacementPayload).mapError fun error =>
    .preCollisionValidation
      s!"owner-validated replacement payload cannot project namespace: {error}"
  return replacement.namespace

/-- `new`: an unsigned batch, if its structure is valid. -/
def new (batchId homeDeviceId storeId : String) (storeEpoch writerEpoch ownerStreamEpoch : UInt64)
    (startSequence : Int64) (entries : List ReplicaEnvelopeV1) (signerPrincipalId : String)
    (signerKeyVersion observedAt : UInt64) (fencingToken : String) :
    Except ReplicationError SignedFactSupersedeBatchV1 := do
  let batch : SignedFactSupersedeBatchV1 :=
    { protocolFamily := transportProtocolFamily, protocolVersion := 1, batchId, homeDeviceId,
      storeId, storeEpoch, writerEpoch, ownerStreamEpoch, startSequence, entries, signerPrincipalId,
      signerRole := .deviceWriter, signerKeyVersion, observedAt, fencingToken,
      signerPublicKey := Vector.replicate 32 0, signature := Vector.replicate 64 0 }
  let _ ← batch.validateStructure
  return batch

/-- `sign` with the key of the seed `seed`. -/
def sign (P : Platform) (seed : Bytes32) (b : SignedFactSupersedeBatchV1) :
    Except ReplicationError SignedFactSupersedeBatchV1 := do
  let _ ← b.validateStructure
  let preimage ← b.signingPreimage
  return { b with signerPublicKey := P.verifyingKeyOf seed, signature := P.sign seed preimage }

end SignedFactSupersedeBatchV1

end Mnemes
