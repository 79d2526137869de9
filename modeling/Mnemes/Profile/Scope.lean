import Mnemes.Types

/-!
# Memory profiles, stores and grants

The contracts of `profile_store.rs`: which independently addressable store belongs to which memory
profile, who may access an exact namespace for which effect and how long, and which profile an actor
acts for. The decision `authorizeMemoryAccess` is pure; its inputs are read from the control plane.

An identity is stored as its text and read back by its parse function, which gives it again; here
the identity itself is stored.
-/

namespace Mnemes

/-! ## Texts -/

/-- `MAX_ID_BYTES`. -/
def maxScopeIdBytes : Nat := 128

/-- `MAX_LABEL_BYTES`. -/
def maxScopeLabelBytes : Nat := 256

/-- `MAX_PATH_BYTES`. -/
def maxScopePathBytes : Nat := 512

/-- `validate_text`. -/
def validateText (value field : String) (maxBytes : Nat) : Except MnemesError Unit :=
  if value.isEmpty then .error (.invalidMemoryScope s!"{field} cannot be empty")
  else if maxBytes < value.utf8ByteSize then
    .error (.invalidMemoryScope s!"{field} exceeds {maxBytes} bytes")
  else if value.toList.any isControl then
    .error (.invalidMemoryScope s!"{field} contains a control character")
  else .ok ()

/-- The characters of a profile or store identity: ASCII letters, digits, `.`, `_` and `-`. -/
def isIdChar (c : Char) : Bool := c.isAlphanum || c = '.' || c = '_' || c = '-'

/-- Stable identity of a memory profile. -/
structure MemoryProfileId where
  text : String
  deriving DecidableEq, Repr

/-- `MemoryProfileId::parse`. -/
def MemoryProfileId.parse (value : String) : Except MnemesError MemoryProfileId := do
  let value := trim value
  validateText value "profile_id" maxScopeIdBytes
  if !value.toList.all isIdChar then
    throw (.invalidMemoryScope
      "profile_id must contain only ASCII letters, digits, '.', '_', or '-'")
  return ⟨value⟩

/-- `canonical_memory_store_relative_path`. -/
def canonicalMemoryStoreRelativePath (profileId : MemoryProfileId) (storeId : String) :
    Except MnemesError String := do
  validateText storeId "store_id" maxScopeIdBytes
  if !storeId.toList.all isIdChar then
    throw (.invalidMemoryScope
      "store_id must contain only ASCII letters, digits, '.', '_', or '-'")
  return s!"memory/profiles/{profileId.text}/{storeId}"

/-- The texts between the separators of a path. `Path::components` leaves out the empty ones and
`.`, and takes `..` for the parent directory. -/
def pathPieces (path : String) : List String := (path.toList.splitOn '/').map String.ofList

/-- `Path::is_absolute`. -/
def isAbsolutePath (path : String) : Bool := path.toList.head? = some '/'

/-! ## Profiles and stores -/

/-- Lifecycle of a memory profile. -/
inductive MemoryProfileStatus where
  | active
  | revoked
  deriving DecidableEq, Repr

/-- Identity and owner of a memory profile, a row of `memory_profiles`. -/
structure MemoryProfile where
  profileId : MemoryProfileId
  ownerDeviceId : DeviceId
  label : String
  status : MemoryProfileStatus
  createdAt : String
  deriving DecidableEq, Repr

/-- `MemoryProfile::validate`. -/
def MemoryProfile.validate (profile : MemoryProfile) : Except MnemesError Unit :=
  validateText profile.label "profile label" maxScopeLabelBytes

/-- Lifecycle of a memory store. -/
inductive MemoryStoreStatus where
  | active
  | quarantined
  | revoked
  deriving DecidableEq, Repr

/-- Control-plane identity of a profile-owned store, a row of `memory_stores`. -/
structure MemoryStoreIdentity where
  storeId : String
  profileId : MemoryProfileId
  ownerDeviceId : DeviceId
  «namespace» : String
  relativePath : String
  status : MemoryStoreStatus
  createdAt : String
  deriving DecidableEq, Repr

/-- The checks that `MemoryStoreIdentity::new` and `validate` share; they differ in the text for a
path that is not the canonical one. -/
def MemoryStoreIdentity.check (store : MemoryStoreIdentity) (mismatch : String → String) :
    Except MnemesError Unit := do
  validateText store.storeId "store_id" maxScopeIdBytes
  validateText store.namespace "namespace" maxScopeIdBytes
  validateText store.relativePath "relative_path" maxScopePathBytes
  if isAbsolutePath store.relativePath || (pathPieces store.relativePath).contains ".." then
    throw (.invalidMemoryScope "relative_path must be relative and may not contain '..'")
  let expectedPath ← canonicalMemoryStoreRelativePath store.profileId store.storeId
  if store.relativePath ≠ expectedPath then
    throw (.invalidMemoryScope (mismatch expectedPath))

/-- `MemoryStoreIdentity::new`. -/
def MemoryStoreIdentity.new (storeId : String) (profileId : MemoryProfileId)
    (ownerDeviceId : DeviceId) («namespace» relativePath : String) :
    Except MnemesError MemoryStoreIdentity := do
  let store : MemoryStoreIdentity :=
    { storeId, profileId, ownerDeviceId, «namespace», relativePath, status := .active,
      createdAt := "" }
  store.check fun expectedPath =>
    s!"relative_path must equal the canonical profile store path {expectedPath}"
  return store

/-- `MemoryStoreIdentity::validate`. -/
def MemoryStoreIdentity.validate (store : MemoryStoreIdentity) : Except MnemesError Unit :=
  store.check fun _ => "relative_path does not match the canonical profile store path"

/-! ## Grants -/

/-- Purpose granted for one exact store namespace. -/
inductive MemoryAccessEffect where
  | search
  | read
  | write
  deriving DecidableEq, Repr

/-- `MemoryAccessEffect::as_str`. -/
def MemoryAccessEffect.asStr : MemoryAccessEffect → String
  | search => "search"
  | read => "read"
  | write => "write"

/-- UUID identity of a grant. -/
structure MemoryGrantId where
  text : String
  deriving DecidableEq, Repr

/-- Explicit, bounded authorization of one profile for another profile's store. -/
structure MemoryAccessGrant where
  grantId : MemoryGrantId
  granteeProfileId : MemoryProfileId
  storeId : String
  «namespace» : String
  effect : MemoryAccessEffect
  issuedByActorId : ActorId
  validFrom : UInt64
  expiresAt : UInt64
  revokedAt : Option UInt64
  createdAt : String
  deriving DecidableEq, Repr

namespace MemoryAccessGrant

/-- `MemoryAccessGrant::validate`. -/
def validate (grant : MemoryAccessGrant) : Except MnemesError Unit := do
  validateText grant.storeId "store_id" maxScopeIdBytes
  validateText grant.namespace "namespace" maxScopeIdBytes
  if grant.expiresAt ≤ grant.validFrom then
    throw (.invalidMemoryScope "grant expires_at must be after valid_from")
  if grant.revokedAt.any (· < grant.validFrom) then
    throw (.invalidMemoryScope "grant revoked_at cannot precede valid_from")

/-- `MemoryAccessGrant::allows`. -/
def allows (grant : MemoryAccessGrant) (effect : MemoryAccessEffect) («namespace» : String)
    (at' : UInt64) : Bool :=
  grant.revokedAt.isNone && grant.effect = effect && grant.namespace = «namespace» &&
    grant.validFrom ≤ at' && at' < grant.expiresAt

end MemoryAccessGrant

/-- `authorize_memory_access`: the decision, from what was read. -/
def authorizeMemoryAccess (requesterProfileId : MemoryProfileId) (profile : MemoryProfile)
    (store : MemoryStoreIdentity) (grants : List MemoryAccessGrant) (effect : MemoryAccessEffect)
    («namespace» : String) (at' : UInt64) : Except MnemesError Unit :=
  if profile.profileId ≠ requesterProfileId then
    .error (.memoryGrantDenied
      "requesting profile identity does not match the authorization subject")
  else if profile.status ≠ .active then
    .error (.memoryGrantDenied "requesting profile is not active")
  else if store.status ≠ .active then
    .error (.memoryGrantDenied "target store is not active")
  else if store.namespace ≠ «namespace» then
    .error (.memoryGrantDenied "requested namespace is not the store namespace")
  else if store.profileId = requesterProfileId then .ok ()
  else if grants.any fun grant => grant.granteeProfileId = requesterProfileId &&
      grant.storeId = store.storeId && grant.allows effect «namespace» at' then .ok ()
  else .error (.memoryGrantDenied
    "no active grant covers the requested profile, store, namespace, effect, and time")

/-! ## Bindings -/

/-- UUID identity of an actor's binding to a profile. -/
structure ActorProfileBindingId where
  text : String
  deriving DecidableEq, Repr

/-- The profile an actor acts for, over a window of time. -/
structure ActorProfileBinding where
  bindingId : ActorProfileBindingId
  actorId : ActorId
  profileId : MemoryProfileId
  ownerDeviceId : DeviceId
  issuedByActorId : ActorId
  validFrom : UInt64
  expiresAt : UInt64
  revokedAt : Option UInt64
  bindingEpoch : UInt64
  bindingDigest : String
  recordedAt : String
  deriving DecidableEq, Repr

/-- The bytes that `digest_fields` hashes: the domain and the fields, each after its length. -/
def digestPreimage (domain : String) (fields : List String) : Bytes :=
  (domain :: fields).flatMap fun field => toBeBytes 8 field.utf8ByteSize ++ utf8 field

/-- `digest_fields`. -/
def digestFields (P : Platform) (domain : String) (fields : List String) : String :=
  hex (P.sha256 (digestPreimage domain fields)).toList

namespace ActorProfileBinding

/-- `ActorProfileBinding::expected_digest`. -/
def expectedDigest (P : Platform) (binding : ActorProfileBinding) : String :=
  digestFields P "mnemes.actor-profile-binding.v1" [binding.bindingId.text, binding.actorId.text,
    binding.profileId.text, binding.ownerDeviceId.text, binding.issuedByActorId.text,
    toString binding.validFrom.toNat, toString binding.expiresAt.toNat,
    toString binding.bindingEpoch.toNat]

/-- `ActorProfileBinding::validate`. -/
def validate (P : Platform) (binding : ActorProfileBinding) : Except MnemesError Unit := do
  if binding.expiresAt ≤ binding.validFrom then
    throw (.actorProfileBindingDenied "binding expires_at must be after valid_from")
  if binding.bindingEpoch = 0 then
    throw (.actorProfileBindingDenied "binding_epoch must be positive")
  if binding.revokedAt.any (· < binding.validFrom) then
    throw (.actorProfileBindingDenied "binding revoked_at cannot precede valid_from")
  if binding.bindingDigest.utf8ByteSize ≠ 64 ||
      binding.bindingDigest ≠ binding.expectedDigest P then
    throw (.actorProfileBindingDenied "binding digest does not match immutable issuance fields")

end ActorProfileBinding

/-! ## Stored windows -/

/-- The window of a stored grant or binding, with the `CHECK`s of its table. -/
structure Window where
  validFrom : Int64
  expiresAt : Int64
  revokedAt : Option Int64
  starts : 0 ≤ validFrom
  ends : validFrom < expiresAt
  revokedAfter : revokedAt.all (validFrom ≤ ·) = true
  deriving DecidableEq

namespace Window

/-- The `CHECK`s on an insertion. -/
def check? (validFrom expiresAt : Int64) (revokedAt : Option Int64) : Option Window :=
  if h : 0 ≤ validFrom ∧ validFrom < expiresAt ∧ revokedAt.all (validFrom ≤ ·) = true then
    some ⟨validFrom, expiresAt, revokedAt, h.1, h.2.1, h.2.2⟩
  else none

/-- The `CHECK`s on setting `revoked_at`. -/
def revoke? (w : Window) (revokedAt : Int64) : Option Window :=
  check? w.validFrom w.expiresAt (some revokedAt)

end Window

end Mnemes
