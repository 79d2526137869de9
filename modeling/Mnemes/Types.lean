import Mathlib.Algebra.Group.Int.Defs
import Mathlib.Algebra.Group.Nat.Defs
import Mathlib.Data.List.Infix

/-!
# Identities, texts and errors

The types that the control plane shares (`types.rs`, `error.rs`, `replication/error.rs`): the
opaque UUID identities, the lifecycle of a device, byte strings, the text predicates of the Rust
standard library that the code calls, and the error types with the texts they carry.

The crates the code calls enter as a parameter, `Platform`: parsing a UUID, SHA-256 and Ed25519.
-/

namespace Mnemes

/-! ## Bytes and text -/

/-- A byte string of any length. -/
abbrev Bytes := List UInt8

/-- `[u8; 32]`: a SHA-256 digest or an Ed25519 public key. -/
abbrev Bytes32 := Vector UInt8 32

/-- `[u8; 64]`: an Ed25519 signature. -/
abbrev Bytes64 := Vector UInt8 64

/-- The UTF-8 bytes of a text (`str::as_bytes`). -/
def utf8 (s : String) : Bytes := s.toUTF8.data.toList

/-- `char::is_whitespace`: the Unicode property `White_Space`. -/
def isWhitespace (c : Char) : Bool :=
  (0x9 ≤ c.val && c.val ≤ 0xD) || c.val = 0x20 || c.val = 0x85 || c.val = 0xA0 ||
    c.val = 0x1680 || (0x2000 ≤ c.val && c.val ≤ 0x200A) || c.val = 0x2028 || c.val = 0x2029 ||
    c.val = 0x202F || c.val = 0x205F || c.val = 0x3000

/-- `char::is_control`: the Unicode category `Cc`. -/
def isControl (c : Char) : Bool := c.val ≤ 0x1F || (0x7F ≤ c.val && c.val ≤ 0x9F)

/-- `str::trim`. -/
def trim (s : String) : String :=
  String.ofList (((s.toList.dropWhile isWhitespace).reverse.dropWhile isWhitespace).reverse)

/-- `str::contains` of a text. -/
def contains (s part : String) : Bool := decide (part.toList <:+: s.toList)

/-- `u64::to_be_bytes` and its narrower relatives: the low `n` bytes, the most significant first. -/
def toBeBytes : Nat → Nat → Bytes
  | 0, _ => []
  | n + 1, v => toBeBytes n (v / 256) ++ [UInt8.ofNat v]

/-- A text is determined by its UTF-8 bytes. -/
theorem utf8_inj {a b : String} : utf8 a = utf8 b ↔ a = b := by
  unfold utf8
  constructor
  · intro h
    refine String.toByteArray_inj.1 (ByteArray.ext (Array.toList_inj.1 h))
  · rintro rfl
    rfl

/-- The bytes of a text are those of its characters. -/
theorem utf8_ofList (chars : List Char) :
    utf8 (String.ofList chars) = chars.flatMap String.utf8EncodeChar := by
  unfold utf8
  simp [List.utf8Encode]

/-- A text has as many bytes as its size in UTF-8 says. -/
theorem length_utf8 (a : String) : (utf8 a).length = a.utf8ByteSize := by
  rw [← String.size_toByteArray]
  rfl

/-- A number is written in as many bytes as asked for. -/
theorem length_toBeBytes (n v : Nat) : (toBeBytes n v).length = n := by
  induction n generalizing v with
  | zero => rfl
  | succ n ih => simp [toBeBytes, ih]

/-- The decimal text of a number determines it. -/
theorem eq_of_repr_eq {a b : Nat} (h : Nat.repr a = Nat.repr b) : a = b := by
  have hdigits := congrArg String.toList h
  rw [Nat.toList_repr, Nat.toList_repr] at hdigits
  have hread := congrArg (Nat.ofDigitChars 10 · 0) hdigits
  rwa [Nat.ofDigitChars_ten_toDigits, Nat.ofDigitChars_ten_toDigits] at hread

/-- The low bytes of a number determine it modulo their range. -/
theorem toBeBytes_mod {n v w : Nat} (h : toBeBytes n v = toBeBytes n w) :
    v % 256 ^ n = w % 256 ^ n := by
  induction n generalizing v w with
  | zero => rw [Nat.pow_zero, Nat.mod_one, Nat.mod_one]
  | succ n ih =>
    obtain ⟨hhigh, hlow⟩ := List.append_inj' h rfl
    have hhigh := ih hhigh
    have hlow : v % 256 = w % 256 := by
      have := congrArg UInt8.toNat (List.singleton_inj.1 hlow)
      simpa using this
    rw [Nat.pow_succ', Nat.mod_mul, Nat.mod_mul, hhigh, hlow]

/-- One hexadecimal digit, `{:x}`. -/
def hexDigit (n : Nat) : Char := if n < 10 then Char.ofNat (48 + n) else Char.ofNat (87 + n)

/-- Bytes in lower-case hexadecimal, two digits each. -/
def hex (bytes : Bytes) : String :=
  String.ofList (bytes.flatMap fun b => [hexDigit (b.toNat / 16), hexDigit (b.toNat % 16)])

/-- Hexadecimal digits tell the numbers below 16 apart. -/
theorem hexDigit_inj : ∀ a < 16, ∀ b < 16, hexDigit a = hexDigit b → a = b := by decide

/-- Bytes are read back from their hexadecimal form. -/
theorem hex_inj {as bs : Bytes} (h : hex as = hex bs) : as = bs := by
  replace h := String.ofList_injective h
  induction as generalizing bs with
  | nil =>
    cases bs with
    | nil => rfl
    | cons b bs => simp at h
  | cons a as ih =>
    cases bs with
    | nil => simp at h
    | cons b bs =>
      simp only [List.flatMap_cons, List.cons_append, List.nil_append, List.cons.injEq] at h
      obtain ⟨hhigh, hlow, h⟩ := h
      have hhigh := hexDigit_inj _ (by have := a.toNat_lt; omega) _ (by have := b.toNat_lt; omega)
        hhigh
      have hlow := hexDigit_inj _ (by omega) _ (by omega) hlow
      have hab : a = b := UInt8.toNat_inj.1 (by omega)
      rw [hab, ih h]

/-- `i64::try_from(u64)`. -/
def i64TryFrom (v : UInt64) : Option Int64 := if v.toNat < 2 ^ 63 then some v.toInt64 else none

/-- `u64::try_from(i64)`. -/
def u64TryFrom (v : Int64) : Option UInt64 := if 0 ≤ v then some v.toUInt64 else none

/-! ## Results -/

/-- A computation returns when its first step does and the rest returns for that result. -/
theorem bind_eq_ok {ε α β : Type} {x : Except ε α} {f : α → Except ε β} {b : β} :
    (x >>= f) = .ok b ↔ ∃ a, x = .ok a ∧ f a = .ok b := by
  cases x <;> simp [bind, Except.bind]

/-- A computation goes on with a value. -/
theorem ok_bind {ε α β : Type} (a : α) (f : α → Except ε β) : (Except.ok a >>= f) = f a := rfl

/-- A guard in front of a computation. -/
theorem guard_eq_ok {ε β : Type} {c : Prop} [Decidable c] {e : ε} {k : Unit → Except ε β} {b : β} :
    (if c then do let r ← throw e; k r else k ()) = .ok b ↔ ¬ c ∧ k () = .ok b := by
  split
  · next h => simp [h, throw, throwThe, MonadExceptOf.throw, bind, Except.bind]
  · next h => simp [h]

/-- `Option::ok_or`. -/
def okOr {ε α : Type} (value : Option α) (error : ε) : Except ε α :=
  match value with
  | some value => .ok value
  | none => .error error

@[simp] theorem okOr_eq_ok {ε α : Type} {value : Option α} {error : ε} {a : α} :
    okOr value error = .ok a ↔ value = some a := by
  cases value <;> simp [okOr]

@[simp] theorem mapError_eq_ok {ε ε' α : Type} {x : Except ε α} {f : ε → ε'} {a : α} :
    x.mapError f = .ok a ↔ x = .ok a := by
  cases x <;> simp [Except.mapError]

/-! ## Identities -/

/-- What the `uuid` crate reports of a text it parsed: the canonical hyphenated form, and whether
the version is random and the variant RFC 4122. -/
structure Uuid where
  hyphenated : String
  random : Bool
  rfc4122 : Bool
  deriving DecidableEq, Repr

/-- The functions of other crates that the modelled code calls. -/
structure Platform where
  /-- `Uuid::parse_str`, with the text of its error. -/
  uuidParseStr : String → Except String Uuid
  /-- The hyphenated form of a UUID parses back to it. -/
  uuid_canonical {value : String} {parsed : Uuid} :
    uuidParseStr value = .ok parsed → uuidParseStr parsed.hyphenated = .ok parsed
  /-- `Sha256::digest`. -/
  sha256 : Bytes → Bytes32
  /-- `VerifyingKey::from_bytes`, with the text of its error. -/
  verifyingKey : Bytes32 → Except String Unit
  /-- `VerifyingKey::verify` of a message and a signature, with the text of its error. -/
  verify : Bytes32 → Bytes → Bytes64 → Except String Unit
  /-- `SigningKey::from_bytes` of a seed, then `verifying_key`. -/
  verifyingKeyOf : Bytes32 → Bytes32
  /-- `SigningKey::from_bytes` of a seed, then `sign` of a message. -/
  sign : Bytes32 → Bytes → Bytes64

/-- An opaque, validated UUID v4 identifying a device, in its canonical spelling. -/
structure DeviceId where
  text : String
  deriving DecidableEq, Repr

/-- An opaque, validated UUID v4 identifying an actor, in its canonical spelling. -/
structure ActorId where
  text : String
  deriving DecidableEq, Repr

/-- An opaque, validated UUID v4 identifying an idempotent operation, in its canonical spelling. -/
structure OperationId where
  text : String
  deriving DecidableEq, Repr

/-- An opaque, validated UUID v4 identifying a provenance edge, in its canonical spelling. -/
structure ProvenanceEdgeId where
  text : String
  deriving DecidableEq, Repr

/-! ## Errors -/

/-- `semantic_memory::MemoryError`, as far as the modelled code looks into it. -/
inductive MemoryError where
  | invalidKey (detail : String)
  | corruptData (table rowId detail : String)
  | other (text : String)
  deriving DecidableEq, Repr

/-- The replication artifacts, a closed enumeration. -/
inductive ArtifactKind where
  | mutation
  | promotion
  | bootstrap
  | ack
  | grant
  | proposal
  | routingReceipt
  deriving DecidableEq, Repr

namespace ArtifactKind

/-- `ArtifactKind::to_u8`. -/
def toU8 : ArtifactKind → UInt8
  | mutation => 1
  | promotion => 2
  | bootstrap => 3
  | ack => 4
  | grant => 5
  | proposal => 6
  | routingReceipt => 7

/-- `ArtifactKind::from_u8`. -/
def fromU8 (v : UInt8) : Option ArtifactKind :=
  [mutation, promotion, bootstrap, ack, grant, proposal, routingReceipt].find? (·.toU8 = v)

/-- The derived `Debug` text. -/
def debug : ArtifactKind → String
  | mutation => "Mutation"
  | promotion => "Promotion"
  | bootstrap => "Bootstrap"
  | ack => "Ack"
  | grant => "Grant"
  | proposal => "Proposal"
  | routingReceipt => "RoutingReceipt"

end ArtifactKind

/-- Who signs a replication artifact. -/
inductive SignerRole where
  | operatorRoot
  | deviceWriter
  | semanticAuthorityIssuer
  | syncService
  | grantAuthority
  | proposalIssuer
  | recoveryAuthority
  | routingService
  deriving DecidableEq, Repr

namespace SignerRole

/-- The discriminant, `role as u8`. -/
def toUInt8 : SignerRole → UInt8
  | operatorRoot => 1
  | deviceWriter => 2
  | semanticAuthorityIssuer => 3
  | syncService => 4
  | grantAuthority => 5
  | proposalIssuer => 6
  | recoveryAuthority => 7
  | routingService => 8

/-- `SignerRole::from_u8`. -/
def fromU8 (v : UInt8) : Option SignerRole :=
  [operatorRoot, deviceWriter, semanticAuthorityIssuer, syncService, grantAuthority, proposalIssuer,
    recoveryAuthority, routingService].find? (·.toUInt8 = v)

/-- The closed matrix of who signs what, `may_sign`. -/
def maySign : SignerRole → ArtifactKind → Bool
  | deviceWriter, .mutation => true
  | semanticAuthorityIssuer, .mutation => true
  | recoveryAuthority, .promotion => true
  | recoveryAuthority, .bootstrap => true
  | syncService, .ack => true
  | grantAuthority, .grant => true
  | operatorRoot, .grant => true
  | proposalIssuer, .proposal => true
  | routingService, .routingReceipt => true
  | _, _ => false

/-- The derived `Debug` text. -/
def debug : SignerRole → String
  | operatorRoot => "OperatorRoot"
  | deviceWriter => "DeviceWriter"
  | semanticAuthorityIssuer => "SemanticAuthorityIssuer"
  | syncService => "SyncService"
  | grantAuthority => "GrantAuthority"
  | proposalIssuer => "ProposalIssuer"
  | recoveryAuthority => "RecoveryAuthority"
  | routingService => "RoutingService"

end SignerRole

/-- `ReplicationError`, the variants that the signed transport profiles, the mutation envelope and
the registry of trusted keys produce. In the transport profiles a role mismatch is always about the
artifact `Mutation`. -/
inductive ReplicationError where
  | unsupportedProtocolVersion (version : UInt16)
  | unknownArtifactKind (kind : UInt8)
  | unknownSignerRole (role : UInt8)
  | emptyField (field : String)
  | roleArtifactMismatch (role : SignerRole) (artifact : ArtifactKind := .mutation)
  | invalidPublicKey (detail : String)
  | signatureVerification (detail : String)
  | fieldTooLong (field : String) (len : Nat)
  | wrongSnapshotIdLength (len : Nat)
  | emptyPayload
  | digestComputation (detail : String)
  | preCollisionValidation (detail : String)
  | identityCollision
  | payloadLengthMismatch (declared actual : UInt64)
  | payloadDigestMismatch
  | controlCharacterInField (field : String) (byte : UInt8) (pos : Nat)
  | invalidTemporalInterval (validFrom validTo : UInt64)
  | fieldExceedsMaxLength (field : String) (len max : Nat)
  | signerNotAdmitted (principalId : String) (keyVersion : UInt64)
  | keyMismatch (principalId : String) (keyVersion : UInt64)
  | roleMismatch (admittedRole envelopeRole : SignerRole)
  | artifactPermissionMismatch (admittedArtifact envelopeArtifact : ArtifactKind)
  | duplicateTrustedKey (principalId : String) (keyVersion : UInt64)
  | keyRevoked (principalId : String) (keyVersion : UInt64)
  | keyLifecycleOutsideWindow (principalId : String)
    (keyVersion observedAt activatedAt cutoffAt : UInt64)
  | keyScopeMismatch (principalId : String) (keyVersion : UInt64)
    (field envelopeValue keyScope : String)
  deriving DecidableEq, Repr

/-- The `Display` text of a replication error. -/
def ReplicationError.display : ReplicationError → String
  | unsupportedProtocolVersion v => s!"unsupported protocol version: {v.toNat}"
  | unknownArtifactKind kind => s!"unknown artifact kind: {kind.toNat}"
  | unknownSignerRole role => s!"unknown signer role: {role.toNat}"
  | emptyField field => s!"empty required field: {field}"
  | roleArtifactMismatch role artifact =>
    s!"signer role {role.debug} may not sign artifact {artifact.debug}"
  | invalidPublicKey detail => s!"invalid Ed25519 public key: {detail}"
  | signatureVerification detail => s!"signature verification failed: {detail}"
  | fieldTooLong field len => s!"field too long for u32 length prefix: {field} ({len} bytes)"
  | wrongSnapshotIdLength len =>
    s!"authorization_snapshot_id must be 16 bytes (UUID), got {len}"
  | emptyPayload => "canonical payload is empty"
  | digestComputation detail => s!"canonical digest computation failed: {detail}"
  | preCollisionValidation detail =>
    s!"envelope validation failed before collision check: {detail}"
  | identityCollision => "identity collision with different content"
  | payloadLengthMismatch declared actual =>
    s!"payload length mismatch: declared {declared.toNat}, actual {actual.toNat}"
  | payloadDigestMismatch =>
      "payload digest mismatch: SHA-256(canonical_payload) does not match " ++
      "declared payload_digest"
  | controlCharacterInField field byte pos =>
    s!"control character (0x{hex [byte]}) in field '{field}' at position {pos}"
  | invalidTemporalInterval validFrom validTo =>
    s!"invalid temporal interval: valid_from ({validFrom.toNat}) > valid_to ({validTo.toNat})"
  | fieldExceedsMaxLength field len max =>
    s!"field '{field}' exceeds maximum length: {len} > {max}"
  | signerNotAdmitted principalId keyVersion =>
    s!"signer principal {principalId} key version {keyVersion.toNat} not found in trusted registry"
  | keyMismatch principalId keyVersion =>
    s!"embedded public key for {principalId} (v{keyVersion.toNat}) does not match admitted key"
  | roleMismatch admittedRole envelopeRole =>
    s!"admitted key for signer role {admittedRole.debug} does not match envelope role " ++
      envelopeRole.debug
  | artifactPermissionMismatch admittedArtifact envelopeArtifact =>
    s!"admitted key permission {admittedArtifact.debug} does not match envelope artifact " ++
      envelopeArtifact.debug
  | duplicateTrustedKey principalId keyVersion =>
    s!"duplicate trusted key for principal {principalId} key version {keyVersion.toNat}"
  | keyRevoked principalId keyVersion =>
    s!"admitted key for {principalId} (v{keyVersion.toNat}) has been revoked"
  | keyLifecycleOutsideWindow principalId keyVersion observedAt activatedAt cutoffAt =>
    s!"admitted key for {principalId} (v{keyVersion.toNat}) observed_at {observedAt.toNat} outside " ++
      s!"lifecycle window [{activatedAt.toNat}, {cutoffAt.toNat}]"
  | keyScopeMismatch principalId keyVersion field envelopeValue keyScope =>
    s!"admitted key for {principalId} (v{keyVersion.toNat}) scope mismatch: envelope " ++
      s!"{field}={envelopeValue}, key scope={keyScope}"

/-- `MnemesError`, the variants the modelled functions produce. -/
inductive MnemesError where
  | deviceNotFound (detail : String)
  | deviceNotActive (detail : String)
  | invalidCredential
  | authorizationDenied (detail : String)
  | invalidMemoryScope (detail : String)
  | memoryGrantDenied (detail : String)
  | actorProfileBindingDenied (detail : String)
  | authorizationSnapshotInvalid (detail : String)
  | bootstrapRejected (detail : String)
  | actorNotFound (detail : String)
  | idempotencyConflict (detail : String)
  | database (detail : String)
  | provenanceEdgeNotFound (detail : String)
  | invalidProvenance (detail : String)
  | invalidAsOf (detail : String)
  | invalidShardCatalog (detail : String)
  | conflictingShardItem (itemId : String)
  | legacyGlobalStorePresent (path : String)
  | io (detail : String)
  | replication (detail : String)
  | factCreateRejected (detail : String)
  | factSupersedeRejected (detail : String)
  | factSupersedeSemanticConflict
  | memory (error : MemoryError)
  deriving DecidableEq, Repr

/-- The `Display` text of an error, given that of the memory crate's errors. -/
def MnemesError.display (memoryText : MemoryError → String) : MnemesError → String
  | .deviceNotFound detail => s!"device not found: {detail}"
  | .deviceNotActive detail => s!"device is not active: {detail}"
  | .invalidCredential => "invalid device credential"
  | .authorizationDenied detail => s!"authorization denied: {detail}"
  | .invalidMemoryScope detail => s!"invalid memory scope: {detail}"
  | .memoryGrantDenied detail => s!"memory grant denied: {detail}"
  | .actorProfileBindingDenied detail => s!"actor profile binding denied: {detail}"
  | .authorizationSnapshotInvalid detail =>
    s!"authorization snapshot is stale or invalid: {detail}"
  | .bootstrapRejected detail => s!"bootstrap rejected: {detail}"
  | .actorNotFound detail => s!"actor not found: {detail}"
  | .idempotencyConflict detail =>
    s!"idempotency conflict: operation with key {detail} already exists"
  | .database detail => s!"database error: {detail}"
  | .provenanceEdgeNotFound detail => s!"provenance edge not found: {detail}"
  | .invalidProvenance detail => s!"invalid provenance request: {detail}"
  | .invalidAsOf detail => s!"invalid as-of filter: {detail}"
  | .invalidShardCatalog detail => s!"invalid shard catalog: {detail}"
  | .conflictingShardItem itemId => s!"conflicting content for canonical shard item {itemId}"
  | .legacyGlobalStorePresent path =>
    s!"legacy global memory store present in active runtime tree: {path}"
  | .io detail => s!"io error: {detail}"
  | .replication detail => s!"replication error: {detail}"
  | .factCreateRejected detail => s!"fact-create admission rejected: {detail}"
  | .factSupersedeRejected detail => s!"fact-supersede admission rejected: {detail}"
  | .factSupersedeSemanticConflict => "fact-supersede semantic conflict"
  | .memory error => s!"underlying memory error: {memoryText error}"

/-- `DeviceId::parse`. -/
def DeviceId.parse (P : Platform) (value : String) : Except MemoryError DeviceId :=
  match P.uuidParseStr value with
  | .error error => .error (.invalidKey s!"invalid DeviceId '{value}': {error}")
  | .ok parsed =>
    if !parsed.random || !parsed.rfc4122 then
      .error (.invalidKey s!"invalid DeviceId '{value}': expected an RFC 4122 UUID v4")
    else .ok ⟨parsed.hyphenated⟩

/-- The canonical spelling of a parsed identity parses to it. -/
theorem DeviceId.parse_text {P : Platform} {value : String} {device : DeviceId}
    (h : DeviceId.parse P value = .ok device) : DeviceId.parse P device.text = .ok device := by
  unfold DeviceId.parse at h
  split at h
  · cases h
  · next parsed hp =>
    split at h
    · cases h
    · next hv =>
      cases h
      simp only [DeviceId.parse, P.uuid_canonical hp, hv]
      rfl

/-! ## Lifecycle -/

/-- Lifecycle status of a registered device. -/
inductive DeviceStatus where
  | active
  | revoked
  | quarantined
  deriving DecidableEq, Repr

/-- The stored text of a device status. -/
def DeviceStatus.asStr : DeviceStatus → String
  | active => "active"
  | revoked => "revoked"
  | quarantined => "quarantined"

/-- Lifecycle state of one cataloged shard. -/
inductive ShardState where
  | active
  | quarantined
  | revoked
  deriving DecidableEq, Repr

/-- `ShardState::from(DeviceStatus)`. -/
def ShardState.ofDeviceStatus : DeviceStatus → ShardState
  | .active => .active
  | .quarantined => .quarantined
  | .revoked => .revoked

/-! ## Integer casts -/

/-- `as i64` is injective: it forgets nothing of an unsigned value. -/
theorem toInt64_inj {a b : UInt64} : a.toInt64 = b.toInt64 ↔ a = b := by
  constructor
  · intro h
    simpa using congrArg Int64.toUInt64 h
  · rintro rfl
    rfl

/-- A number below 2^63 converts. -/
theorem i64TryFrom_of_lt {v : UInt64} (hv : v.toNat < 2 ^ 63) : i64TryFrom v = some v.toInt64 :=
  if_pos hv

/-- What converts is below 2^63, and keeps its value. -/
theorem i64TryFrom_eq_some {v : UInt64} {x : Int64} (h : i64TryFrom v = some x) :
    v.toNat < 2 ^ 63 ∧ x = v.toInt64 := by
  unfold i64TryFrom at h
  split at h
  · next hv => cases h; exact ⟨hv, rfl⟩
  · cases h

/-- A value that fits SQLite's `INTEGER` keeps its value there. -/
theorem toInt_toInt64 {v : UInt64} (h : v.toNat < 2 ^ 63) : v.toInt64.toInt = v.toNat := by
  show v.toBitVec.toInt = _
  rw [BitVec.toInt_eq_toNat_of_lt (by rw [UInt64.toNat_toBitVec]; omega)]
  rfl

/-- A sum with one that wraps is only smaller. -/
theorem toInt_add_one_le (v : Int64) : (v + 1).toInt ≤ v.toInt + 1 := by
  rw [Int64.toInt_add]
  have := v.toInt_lt
  have := v.le_toInt
  rw [show (1 : Int64).toInt = 1 from rfl, Int.bmod_eq_emod]
  split <;> omega

/-- Below the greatest integer, the successor is one more. -/
theorem toInt_add_one {v : Int64} (h : v.toInt + 1 < 2 ^ 63) : (v + 1).toInt = v.toInt + 1 := by
  rw [Int64.toInt_add]
  have := v.le_toInt
  rw [show (1 : Int64).toInt = 1 from rfl, Int.bmod_eq_emod]
  split <;> omega

/-- A value that fits SQLite's `INTEGER` reads back as itself. -/
theorem u64TryFrom_toInt64 {v : UInt64} (h : v.toNat < 2 ^ 63) :
    u64TryFrom v.toInt64 = some v := by
  have h0 : (0 : Int64) ≤ v.toInt64 := by
    rw [Int64.le_iff_toInt_le, toInt_toInt64 h]
    exact Int.natCast_nonneg _
  simp [u64TryFrom, h0]

end Mnemes
