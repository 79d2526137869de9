import Mathlib.Data.Set.Function
import Mnemes.Lib.Commitment
import Mnemes.Replication.FactCreate

/-!
# The mutation envelope

The envelope of governed operator mutations (`replication/types.rs`, `replication/canonical.rs`):
its signing preimage, its canonical digest and its validation. The preimage is a sequence of codes
of fixed length and of length-prefixed bytes, so it is read back field by field
(`signingPreimage_unambiguous`); the payload is not part of it, but its digest is
(`mutation_envelope_binding`).
-/

namespace Mnemes

open Commitment

/-! ## The codes of fields -/

section
variable {α : Type}

/-- Numbers that fit their bytes. -/
theorem unambiguous_toBeBytes (n : Nat) (f : α → Nat) (hlt : ∀ a, f a < 256 ^ n)
    (hinj : ∀ {a b}, f a = f b → a = b) : Unambiguous fun a x => x = toBeBytes n (f a) := by
  refine unambiguous_of_length (n := n) ?_ ?_
  · rintro a x rfl
    exact length_toBeBytes n (f a)
  · rintro a b x rfl h
    have hmod := toBeBytes_mod h
    rw [Nat.mod_eq_of_lt (hlt a), Nat.mod_eq_of_lt (hlt b)] at hmod
    exact hinj hmod

/-- Two bytes are read as one number. -/
theorem unambiguous_u16 : Unambiguous fun (v : UInt16) x => x = toBeBytes 2 v.toNat :=
  unambiguous_toBeBytes 2 _ UInt16.toNat_lt UInt16.toNat_inj.1

/-- Eight bytes are read as one number. -/
theorem unambiguous_u64 : Unambiguous fun (v : UInt64) x => x = toBeBytes 8 v.toNat :=
  unambiguous_toBeBytes 8 _ UInt64.toNat_lt UInt64.toNat_inj.1

/-- So they are as a signed number. -/
theorem unambiguous_i64 : Unambiguous fun (v : Int64) x => x = toBeBytes 8 v.toUInt64.toNat :=
  unambiguous_toBeBytes 8 _ (fun v => v.toUInt64.toNat_lt) fun h => by
    simpa using congrArg UInt64.toInt64 (UInt64.toNat_inj.1 h)

/-- Thirty-two bytes are read as one digest. -/
theorem unambiguous_digest : Unambiguous fun (d : Bytes32) x => x = d.toList := by
  refine unambiguous_of_length (n := 32) ?_ ?_
  · rintro d x rfl
    exact Vector.length_toList
  · rintro d e x rfl h
    exact Vector.toList_inj.1 h

/-- A byte is read as one role. -/
theorem unambiguous_role : Unambiguous fun (role : SignerRole) x => x = [role.toUInt8] := by
  refine unambiguous_of_length (n := 1) ?_ ?_
  · rintro role x rfl
    rfl
  · rintro a b x rfl h
    cases a <;> cases b <;> first | rfl | exact absurd h (by decide)

/-- A byte is read as one kind of artifact. -/
theorem unambiguous_artifact : Unambiguous fun (kind : ArtifactKind) x => x = [kind.toU8] := by
  refine unambiguous_of_length (n := 1) ?_ ?_
  · rintro kind x rfl
    rfl
  · rintro a b x rfl h
    cases a <;> cases b <;> first | rfl | exact absurd h (by decide)

/-- A 32-bit count. -/
theorem unambiguous_count :
    Unambiguous fun (count : Nat) x => count < 2 ^ 32 ∧ x = toBeBytes 4 count := by
  refine unambiguous_of_length (n := 4) ?_ ?_
  · rintro count x ⟨-, rfl⟩
    exact length_toBeBytes 4 count
  · rintro a b x ⟨ha, rfl⟩ ⟨hb, h⟩
    have hmod := toBeBytes_mod h
    have ha' : a < 256 ^ 4 := ha
    have hb' : b < 256 ^ 4 := hb
    rwa [Nat.mod_eq_of_lt ha', Nat.mod_eq_of_lt hb'] at hmod

/-- Length-prefixed bytes, under any name of their field. -/
theorem unambiguous_bytes :
    Unambiguous fun (value : Bytes) x => ∃ field, encodeBytes value field = .ok x := by
  intro a b x y r s ⟨field, ha⟩ ⟨field', hb⟩ h
  have hsized : ∀ {value : Bytes} {field x}, encodeBytes value field = .ok x →
      ∃ l, (value.length < 2 ^ 32 ∧ l = toBeBytes 4 value.length) ∧ x = l ++ value := by
    intro value field x h
    unfold encodeBytes at h
    split at h
    · next hlt =>
      cases h
      exact ⟨_, ⟨hlt, rfl⟩, rfl⟩
    · cases h
  exact unambiguous_count.sized (hsized ha) (hsized hb) h

/-- A text is read up to the length in front of it. -/
theorem unambiguous_string :
    Unambiguous fun (value : String) x => ∃ field, encodeString value field = .ok x :=
  unambiguous_bytes.comap utf8_inj.1

end

/-! ## Envelopes -/

/-- `SIGNATURE_DOMAIN_TAG`. -/
def signatureDomainTag : Bytes := utf8 "mnemes/mutation-envelope/signature/v1" ++ [0]

/-- `DIGEST_DOMAIN_TAG`. -/
def digestDomainTag : Bytes := utf8 "mnemes/mutation-envelope/v1" ++ [0]

/-- The versioned envelope of one mutation. -/
structure MemoryMutationEnvelopeV1 where
  protocolVersion : UInt16
  artifactKind : ArtifactKind
  operationSchemaVersion : UInt16
  semanticSchemaGeneration : UInt16
  operationId : String
  idempotencyKey : String
  homeDeviceId : String
  storeId : String
  actorId : String
  storeEpoch : UInt64
  writerEpoch : UInt64
  sequence : UInt64
  previousEnvelopeDigest : Bytes32
  fencingToken : String
  «namespace» : String
  operationKind : String
  canonicalPayload : Bytes
  payloadDigest : Bytes32
  payloadLength : UInt64
  requestedEffectDigest : Bytes32
  policyVersion : UInt64
  authorizationSnapshotId : Bytes
  authorizationSnapshotDigest : Bytes32
  authorityReceiptDigest : Bytes32
  signerPrincipalId : String
  signerRole : SignerRole
  signerKeyVersion : UInt64
  observedAt : UInt64
  validFrom : UInt64
  validTo : UInt64
  signerPublicKey : Bytes32
  signature : Bytes64
  deriving DecidableEq

namespace MemoryMutationEnvelopeV1

/-- `signing_preimage`. -/
def signingPreimage (e : MemoryMutationEnvelopeV1) : Except ReplicationError Bytes := do
  let operationId ← encodeString e.operationId "operation_id"
  let idempotencyKey ← encodeString e.idempotencyKey "idempotency_key"
  let homeDeviceId ← encodeString e.homeDeviceId "home_device_id"
  let storeId ← encodeString e.storeId "store_id"
  let actorId ← encodeString e.actorId "actor_id"
  let fencingToken ← encodeString e.fencingToken "fencing_token"
  let namespaceBytes ← encodeString e.namespace "namespace"
  let operationKind ← encodeString e.operationKind "operation_kind"
  let authorizationSnapshotId ← encodeBytes e.authorizationSnapshotId "authorization_snapshot_id"
  let signerPrincipalId ← encodeString e.signerPrincipalId "signer_principal_id"
  return signatureDomainTag ++ toBeBytes 2 e.protocolVersion.toNat ++ [e.artifactKind.toU8] ++
    toBeBytes 2 e.operationSchemaVersion.toNat ++ toBeBytes 2 e.semanticSchemaGeneration.toNat ++
    operationId ++ idempotencyKey ++ homeDeviceId ++ storeId ++ actorId ++
    toBeBytes 8 e.storeEpoch.toNat ++ toBeBytes 8 e.writerEpoch.toNat ++
    toBeBytes 8 e.sequence.toNat ++ e.previousEnvelopeDigest.toList ++ fencingToken ++
    namespaceBytes ++ operationKind ++ e.payloadDigest.toList ++ toBeBytes 8 e.payloadLength.toNat ++
    e.requestedEffectDigest.toList ++ toBeBytes 8 e.policyVersion.toNat ++
    authorizationSnapshotId ++ e.authorizationSnapshotDigest.toList ++
    e.authorityReceiptDigest.toList ++ signerPrincipalId ++ [e.signerRole.toUInt8] ++
    toBeBytes 8 e.signerKeyVersion.toNat ++ toBeBytes 8 e.observedAt.toNat ++
    toBeBytes 8 e.validFrom.toNat ++ toBeBytes 8 e.validTo.toNat

/-- `canonical_digest`: the preimage under the domain of digests. -/
def canonicalDigest (P : Platform) (e : MemoryMutationEnvelopeV1) :
    Except ReplicationError Bytes32 := do
  let preimage ← e.signingPreimage
  if preimage.length < signatureDomainTag.length then
    throw (.digestComputation "preimage shorter than signature domain tag")
  return P.sha256 (digestDomainTag ++ preimage.drop signatureDomainTag.length)

/-- The text fields in the order of the checks, with their names and the most bytes they may
have. -/
def textFields (e : MemoryMutationEnvelopeV1) : List (String × String × Nat) :=
  [("operation_id", e.operationId, 128), ("idempotency_key", e.idempotencyKey, 128),
    ("home_device_id", e.homeDeviceId, 64), ("store_id", e.storeId, 64),
    ("actor_id", e.actorId, 64), ("namespace", e.namespace, 256),
    ("fencing_token", e.fencingToken, 128), ("operation_kind", e.operationKind, 64),
    ("signer_principal_id", e.signerPrincipalId, 128)]

/-- `MAX_PAYLOAD_LEN`. -/
def maxPayloadLen : Nat := 1048576

/-- The check that no text field is blank. -/
def checkPresent (field : String × String × Nat) : Except ReplicationError Unit :=
  if (trim field.2.1).isEmpty then .error (.emptyField field.1) else .ok ()

/-- The check that a text field holds no ASCII control character. -/
def checkControl (field : String × String × Nat) : Except ReplicationError Unit :=
  match (utf8 field.2.1).zipIdx.find? fun (byte, _) => byte < 0x20 || byte = 0x7f with
  | some (byte, pos) => .error (.controlCharacterInField field.1 byte pos)
  | none => .ok ()

/-- The check of the length of a text field. -/
def checkLength (field : String × String × Nat) : Except ReplicationError Unit :=
  if field.2.2 < field.2.1.utf8ByteSize then
    .error (.fieldExceedsMaxLength field.1 field.2.1.utf8ByteSize field.2.2)
  else .ok ()

/-- `validate_envelope`. The lengths of key and signature are those of their types. -/
def validate (P : Platform) (e : MemoryMutationEnvelopeV1) : Except ReplicationError Unit := do
  if e.protocolVersion ≠ 1 then throw (.unsupportedProtocolVersion e.protocolVersion)
  if (ArtifactKind.fromU8 e.artifactKind.toU8).isNone then
    throw (.unknownArtifactKind e.artifactKind.toU8)
  if (SignerRole.fromU8 e.signerRole.toUInt8).isNone then
    throw (.unknownSignerRole e.signerRole.toUInt8)
  e.textFields.forM checkPresent
  if e.canonicalPayload.isEmpty then throw .emptyPayload
  e.textFields.forM checkControl
  e.textFields.forM checkLength
  if maxPayloadLen < e.canonicalPayload.length then
    throw (.fieldExceedsMaxLength "canonical_payload" e.canonicalPayload.length maxPayloadLen)
  if e.validTo < e.validFrom then throw (.invalidTemporalInterval e.validFrom e.validTo)
  if e.payloadLength ≠ .ofNat e.canonicalPayload.length then
    throw (.payloadLengthMismatch e.payloadLength (.ofNat e.canonicalPayload.length))
  if P.sha256 e.canonicalPayload ≠ e.payloadDigest then throw .payloadDigestMismatch
  if e.authorizationSnapshotId.length ≠ 16 then
    throw (.wrongSnapshotIdLength e.authorizationSnapshotId.length)
  if !e.signerRole.maySign e.artifactKind then
    throw (.roleArtifactMismatch e.signerRole e.artifactKind)
  (P.verifyingKey e.signerPublicKey).mapError .invalidPublicKey
  let preimage ← e.signingPreimage
  (P.verify e.signerPublicKey preimage e.signature).mapError .signatureVerification

/-- Envelopes with the same signed fields: all but the payload, the key and the signature. -/
def SameSigned (a b : MemoryMutationEnvelopeV1) : Prop :=
  { a with
    canonicalPayload := b.canonicalPayload
    signerPublicKey := b.signerPublicKey
    signature := b.signature } = b

/-- Envelopes that are signed alike have one payload digest. -/
theorem SameSigned.payloadDigest {a b : MemoryMutationEnvelopeV1} (h : a.SameSigned b) :
    a.payloadDigest = b.payloadDigest := by
  rw [← h]

/-- Envelopes that are signed alike have one predecessor. -/
theorem SameSigned.previousEnvelopeDigest {a b : MemoryMutationEnvelopeV1} (h : a.SameSigned b) :
    a.previousEnvelopeDigest = b.previousEnvelopeDigest := by
  rw [← h]

/-- In front of any rest, a preimage determines the signed fields of its envelope. -/
theorem signingPreimage_unambiguous {a b : MemoryMutationEnvelopeV1} {x y r s : Bytes}
    (ha : a.signingPreimage = .ok x) (hb : b.signingPreimage = .ok y) (h : x ++ r = y ++ s) :
    a.SameSigned b ∧ r = s := by
  simp only [signingPreimage, bind_eq_ok] at ha hb
  obtain ⟨x₁, hx₁, x₂, hx₂, x₃, hx₃, x₄, hx₄, x₅, hx₅, x₆, hx₆, x₇, hx₇, x₈, hx₈, x₉, hx₉, x₁₀,
    hx₁₀, hx⟩ := ha
  obtain ⟨y₁, hy₁, y₂, hy₂, y₃, hy₃, y₄, hy₄, y₅, hy₅, y₆, hy₆, y₇, hy₇, y₈, hy₈, y₉, hy₉, y₁₀,
    hy₁₀, hy⟩ := hb
  obtain rfl := Except.ok.inj hx
  obtain rfl := Except.ok.inj hy
  simp only [List.append_assoc] at h
  have h := List.append_cancel_left h
  obtain ⟨hprotocolVersion, h⟩ := unambiguous_u16 rfl rfl h
  obtain ⟨hartifactKind, h⟩ := unambiguous_artifact rfl rfl h
  obtain ⟨hoperationSchemaVersion, h⟩ := unambiguous_u16 rfl rfl h
  obtain ⟨hsemanticSchemaGeneration, h⟩ := unambiguous_u16 rfl rfl h
  obtain ⟨hoperationId, h⟩ := unambiguous_string ⟨_, hx₁⟩ ⟨_, hy₁⟩ h
  obtain ⟨hidempotencyKey, h⟩ := unambiguous_string ⟨_, hx₂⟩ ⟨_, hy₂⟩ h
  obtain ⟨hhomeDeviceId, h⟩ := unambiguous_string ⟨_, hx₃⟩ ⟨_, hy₃⟩ h
  obtain ⟨hstoreId, h⟩ := unambiguous_string ⟨_, hx₄⟩ ⟨_, hy₄⟩ h
  obtain ⟨hactorId, h⟩ := unambiguous_string ⟨_, hx₅⟩ ⟨_, hy₅⟩ h
  obtain ⟨hstoreEpoch, h⟩ := unambiguous_u64 rfl rfl h
  obtain ⟨hwriterEpoch, h⟩ := unambiguous_u64 rfl rfl h
  obtain ⟨hsequence, h⟩ := unambiguous_u64 rfl rfl h
  obtain ⟨hprevious, h⟩ := unambiguous_digest rfl rfl h
  obtain ⟨hfencingToken, h⟩ := unambiguous_string ⟨_, hx₆⟩ ⟨_, hy₆⟩ h
  obtain ⟨hnamespace, h⟩ := unambiguous_string ⟨_, hx₇⟩ ⟨_, hy₇⟩ h
  obtain ⟨hoperationKind, h⟩ := unambiguous_string ⟨_, hx₈⟩ ⟨_, hy₈⟩ h
  obtain ⟨hpayloadDigest, h⟩ := unambiguous_digest rfl rfl h
  obtain ⟨hpayloadLength, h⟩ := unambiguous_u64 rfl rfl h
  obtain ⟨heffect, h⟩ := unambiguous_digest rfl rfl h
  obtain ⟨hpolicyVersion, h⟩ := unambiguous_u64 rfl rfl h
  obtain ⟨hsnapshotId, h⟩ := unambiguous_bytes ⟨_, hx₉⟩ ⟨_, hy₉⟩ h
  obtain ⟨hsnapshotDigest, h⟩ := unambiguous_digest rfl rfl h
  obtain ⟨hreceiptDigest, h⟩ := unambiguous_digest rfl rfl h
  obtain ⟨hsigner, h⟩ := unambiguous_string ⟨_, hx₁₀⟩ ⟨_, hy₁₀⟩ h
  obtain ⟨hsignerRole, h⟩ := unambiguous_role rfl rfl h
  obtain ⟨hsignerKeyVersion, h⟩ := unambiguous_u64 rfl rfl h
  obtain ⟨hobservedAt, h⟩ := unambiguous_u64 rfl rfl h
  obtain ⟨hvalidFrom, h⟩ := unambiguous_u64 rfl rfl h
  obtain ⟨hvalidTo, h⟩ := unambiguous_u64 rfl rfl h
  refine ⟨?_, h⟩
  cases a
  cases b
  unfold SameSigned
  congr 1

/-! ## Digests -/

/-- The bytes that the canonical digest of an envelope hashes. -/
def digestInput (e : MemoryMutationEnvelopeV1) : Except ReplicationError Bytes := do
  let preimage ← e.signingPreimage
  return digestDomainTag ++ preimage.drop signatureDomainTag.length

/-- A preimage begins with the tag of its domain. -/
theorem signingPreimage_eq_append {e : MemoryMutationEnvelopeV1} {x : Bytes}
    (h : e.signingPreimage = .ok x) : ∃ fields, x = signatureDomainTag ++ fields := by
  simp only [signingPreimage, bind_eq_ok] at h
  obtain ⟨_, -, _, -, _, -, _, -, _, -, _, -, _, -, _, -, _, -, _, -, h⟩ := h
  obtain rfl := Except.ok.inj h
  simp only [List.append_assoc]
  exact ⟨_, rfl⟩

/-- The canonical digest always is the digest of its input. -/
theorem canonicalDigest_eq_ok {P : Platform} {e : MemoryMutationEnvelopeV1} {d : Bytes32} :
    e.canonicalDigest P = .ok d ↔ ∃ input, e.digestInput = .ok input ∧ d = P.sha256 input := by
  simp only [canonicalDigest, digestInput, bind_eq_ok, guard_eq_ok]
  constructor
  · rintro ⟨preimage, hpreimage, -, h⟩
    exact ⟨_, ⟨preimage, hpreimage, rfl⟩, (Except.ok.inj h).symm⟩
  · rintro ⟨input, ⟨preimage, hpreimage, hinput⟩, rfl⟩
    obtain ⟨fields, rfl⟩ := signingPreimage_eq_append hpreimage
    refine ⟨_, hpreimage, ?_, ?_⟩
    · rw [List.length_append]
      omega
    · rw [← Except.ok.inj hinput]
      rfl

/-- Envelopes whose digests hash the same bytes have the same signed fields. -/
theorem sameSigned_of_digestInput {a b : MemoryMutationEnvelopeV1} {input : Bytes}
    (ha : a.digestInput = .ok input) (hb : b.digestInput = .ok input) : a.SameSigned b := by
  simp only [digestInput, bind_eq_ok] at ha hb
  obtain ⟨x, hx, ha⟩ := ha
  obtain ⟨y, hy, hb⟩ := hb
  obtain ⟨fields, rfl⟩ := signingPreimage_eq_append hx
  obtain ⟨fields', rfl⟩ := signingPreimage_eq_append hy
  have heq := (Except.ok.inj ha).trans (Except.ok.inj hb).symm
  rw [List.drop_left, List.drop_left] at heq
  obtain rfl := List.append_cancel_left heq
  exact (signingPreimage_unambiguous hx hy (r := []) rfl).1

/-- What SHA-256 hashes for an envelope, its payload and the input of its digest, is among the given
inputs. -/
structure Hashed (inputs : Set Bytes) (e : MemoryMutationEnvelopeV1) : Prop where
  payload : e.canonicalPayload ∈ inputs
  digest : ∀ input, e.digestInput = .ok input → input ∈ inputs

/-- Where SHA-256 does not collide, a digest determines the signed fields of its envelope. -/
theorem sameSigned_of_canonicalDigest {P : Platform} {inputs : Set Bytes}
    (hinj : Set.InjOn P.sha256 inputs) {a b : MemoryMutationEnvelopeV1} (ha : a.Hashed inputs)
    (hb : b.Hashed inputs) {d : Bytes32} (hda : a.canonicalDigest P = .ok d)
    (hdb : b.canonicalDigest P = .ok d) : a.SameSigned b := by
  obtain ⟨input, hinput, rfl⟩ := canonicalDigest_eq_ok.1 hda
  obtain ⟨input', hinput', heq⟩ := canonicalDigest_eq_ok.1 hdb
  obtain rfl := hinj (ha.digest _ hinput) (hb.digest _ hinput') heq
  exact sameSigned_of_digestInput hinput hinput'

/-- A valid envelope carries the digest of its payload. -/
theorem validate_payload {P : Platform} {e : MemoryMutationEnvelopeV1}
    (h : e.validate P = .ok ()) : P.sha256 e.canonicalPayload = e.payloadDigest := by
  simp only [validate, bind_eq_ok, guard_eq_ok] at h
  obtain ⟨-, -, -, -, -, -, -, -, -, -, -, -, -, hpayload, -⟩ := h
  exact Classical.not_not.1 hpayload

/-- Where SHA-256 does not collide, valid envelopes of one digest have the same signed fields and
the same payload. -/
theorem sameContent_of_canonicalDigest {P : Platform} {inputs : Set Bytes}
    (hinj : Set.InjOn P.sha256 inputs) {a b : MemoryMutationEnvelopeV1} (ha : a.Hashed inputs)
    (hb : b.Hashed inputs) (hva : a.validate P = .ok ()) (hvb : b.validate P = .ok ()) {d : Bytes32}
    (hda : a.canonicalDigest P = .ok d) (hdb : b.canonicalDigest P = .ok d) :
    a.SameSigned b ∧ a.canonicalPayload = b.canonicalPayload := by
  have hsame := sameSigned_of_canonicalDigest hinj ha hb hda hdb
  refine ⟨hsame, hinj ha.payload hb.payload ?_⟩
  rw [validate_payload hva, validate_payload hvb, hsame.payloadDigest]

/-- Equal preimages are of envelopes with the same signed fields; where SHA-256 does not collide,
valid envelopes of one digest have the same payload as well. -/
theorem mutation_envelope_binding (P : Platform) :
    (∀ (a b : MemoryMutationEnvelopeV1) x, a.signingPreimage = .ok x → b.signingPreimage = .ok x →
      a.SameSigned b) ∧
    ∀ inputs : Set Bytes, Set.InjOn P.sha256 inputs → ∀ a b : MemoryMutationEnvelopeV1,
      a.Hashed inputs → b.Hashed inputs → a.validate P = .ok () → b.validate P = .ok () →
      ∀ d, a.canonicalDigest P = .ok d → b.canonicalDigest P = .ok d →
        a.SameSigned b ∧ a.canonicalPayload = b.canonicalPayload := by
  refine ⟨fun a b x ha hb => (signingPreimage_unambiguous ha hb (r := []) rfl).1, ?_⟩
  intro inputs hinj a b ha hb hva hvb d hda hdb
  exact sameContent_of_canonicalDigest hinj ha hb hva hvb hda hdb

end MemoryMutationEnvelopeV1

namespace Sample

def payloadSha256 : Bytes32 :=
  #v[35, 159, 89, 237, 85, 231, 55, 199, 113, 71, 207, 85, 173, 12, 27, 3, 11, 109, 126, 231, 72,
    167, 66, 105, 82, 249, 184, 82, 213, 169, 53, 229]

/-- The first envelope of a device, under its first key. -/
def envelope : MemoryMutationEnvelopeV1 where
  protocolVersion := 1
  artifactKind := .mutation
  operationSchemaVersion := 1
  semanticSchemaGeneration := 1
  operationId := "operation-1"
  idempotencyKey := "idem-1"
  homeDeviceId := "device-1"
  storeId := "store-1"
  actorId := "actor-1"
  storeEpoch := 1
  writerEpoch := 1
  sequence := 1
  previousEnvelopeDigest := .replicate 32 0
  fencingToken := "fence-1"
  «namespace» := "default"
  operationKind := "fact_append"
  canonicalPayload := utf8 "payload"
  payloadDigest := payloadSha256
  payloadLength := 7
  requestedEffectDigest := .replicate 32 2
  policyVersion := 1
  authorizationSnapshotId := .replicate 16 0
  authorizationSnapshotDigest := .replicate 32 3
  authorityReceiptDigest := .replicate 32 4
  signerPrincipalId := "operator-1"
  signerRole := .deviceWriter
  signerKeyVersion := 1
  observedAt := 1000000
  validFrom := 1000000
  validTo := 2000000
  signerPublicKey :=
    #v[234, 74, 108, 99, 226, 156, 82, 10, 190, 245, 80, 123, 19, 46, 197, 249, 149, 71, 118, 174,
      190, 190, 123, 146, 66, 30, 234, 105, 20, 70, 210, 44]
  signature :=
    #v[30, 4, 212, 55, 250, 151, 244, 32, 24, 128, 169, 47, 37, 66, 46, 148, 33, 100, 183, 214, 255,
      51, 71, 206, 100, 189, 202, 123, 116, 232, 65, 57, 52, 179, 84, 221, 139, 223, 15, 106, 248,
      103, 222, 169, 206, 149, 207, 191, 44, 27, 233, 159, 177, 247, 85, 144, 192, 185, 200, 119,
      166, 208, 170, 9]

/-- The same envelope under its second key. -/
def rekeyed : MemoryMutationEnvelopeV1 :=
  { envelope with
    signerPublicKey :=
      #v[253, 23, 36, 56, 90, 160, 199, 91, 100, 251, 120, 205, 96, 47, 161, 217, 145, 253, 235,
        247, 107, 19, 197, 142, 215, 2, 234, 200, 53, 233, 246, 24]
    signature :=
      #v[133, 218, 160, 59, 61, 196, 216, 20, 65, 62, 216, 33, 227, 196, 57, 148, 176, 234, 72, 97,
        96, 106, 40, 81, 30, 82, 217, 204, 102, 162, 247, 180, 146, 185, 57, 122, 192, 19, 47, 157,
        202, 160, 154, 179, 176, 168, 59, 223, 121, 4, 184, 76, 102, 249, 82, 145, 0, 131, 230, 211,
        131, 207, 13, 15] }

def envelopeSha256 : Bytes32 :=
  #v[96, 72, 247, 140, 193, 202, 247, 53, 235, 117, 228, 141, 59, 222, 94, 250, 167, 3, 12, 26, 85,
    45, 238, 45, 155, 42, 172, 41, 2, 64, 28, 188]

/-- The crates, on what these envelopes ask of them. -/
def envelopePlatform : Platform where
  uuidParseStr _ := .error "invalid character"
  uuid_canonical h := nomatch h
  sha256 bytes :=
    if bytes = utf8 "payload" then payloadSha256
    else if envelope.digestInput.toOption = some bytes then envelopeSha256
    else Vector.replicate 32 0
  verifyingKey _ := .ok ()
  verify key message signature :=
    if envelope.signingPreimage.toOption = some message ∧
        (key = envelope.signerPublicKey ∧ signature = envelope.signature ∨
          key = rekeyed.signerPublicKey ∧ signature = rekeyed.signature) then .ok ()
    else .error "Verification equation was not satisfied"
  verifyingKeyOf _ := envelope.signerPublicKey
  sign _ _ := envelope.signature

/-- What is hashed for the two envelopes. -/
def envelopeInputs : Set Bytes := fun x => x = utf8 "payload" ∨ envelope.digestInput = .ok x

/-- The digests of the sample are distinct. -/
theorem envelopeInputs_injOn : Set.InjOn envelopePlatform.sha256 envelopeInputs := by
  have hpayload : envelopePlatform.sha256 (utf8 "payload") = payloadSha256 := rfl
  have hdigest :
      ∀ {x}, envelope.digestInput = .ok x → envelopePlatform.sha256 x = envelopeSha256 := by
    intro x hx
    have hne : x ≠ utf8 "payload" := by
      rintro rfl
      exact absurd hx (by decide +kernel)
    have hsome : envelope.digestInput.toOption = some x := by rw [hx]; rfl
    simp only [envelopePlatform, if_neg hne, hsome, if_pos]
  have hne : payloadSha256 ≠ envelopeSha256 := by decide
  rintro x (rfl | hx) y (rfl | hy) h
  · rfl
  · rw [hpayload, hdigest hy] at h
    exact absurd h hne
  · rw [hpayload, hdigest hx] at h
    exact absurd h.symm hne
  · exact Except.ok.inj (hx.symm.trans hy)

end Sample

open Sample MemoryMutationEnvelopeV1 in
/-- The envelope under both keys. -/
theorem mutation_envelope_binding_sample :
    envelope.SameSigned rekeyed ∧ envelope.canonicalPayload = rekeyed.canonicalPayload := by
  refine (mutation_envelope_binding envelopePlatform).2 envelopeInputs envelopeInputs_injOn envelope
    rekeyed ⟨.inl rfl, fun _ h => .inr h⟩ ⟨.inl rfl, fun _ h => .inr h⟩ (by decide +kernel)
    (by decide +kernel) envelopeSha256 (by decide +kernel) (by decide +kernel)

end Mnemes
