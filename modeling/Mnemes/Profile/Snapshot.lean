import Mathlib.Data.List.Destutter
import Mathlib.Data.List.Sort
import Mnemes.Lib.Lists
import Mnemes.Profile.Scope

/-!
# Authorization snapshots

The request-time projection of a binding, the lifecycles and the grants (`AuthorizationSnapshot`)
with the digest of its authorization material, and the permits derived from it. The random
identities of a snapshot and a permit are left out: no digest covers them, and no check reads them.
-/

namespace Mnemes

/-- `slice::join`. -/
def joinTexts (separator : String) (texts : List String) : String :=
  String.ofList (List.intercalate separator.toList (texts.map String.toList))

/-- The order of texts: that of their UTF-8 bytes, which is that of their code points. -/
def textLe (a b : String) : Bool := Lists.lexLe Char.toNat a.toList b.toList

/-- Any two texts are comparable. -/
theorem textLe_total (a b : String) : textLe a b = true ∨ textLe b a = true := Lists.lexLe_total _ _

/-- The order of texts is transitive. -/
theorem textLe_trans {a b c : String} (h : textLe a b = true) (h' : textLe b c = true) :
    textLe a c = true := Lists.lexLe_trans h h'

/-- Texts that are each at most the other one are the same. -/
theorem textLe_antisymm {a b : String} (h : textLe a b = true) (h' : textLe b a = true) : a = b :=
  String.toList_inj.1 (Lists.lexLe_antisymm (fun _ _ he => Char.toNat_inj.1 he) h h')

/-- `sort`, then `dedup`. -/
def sortDedup (texts : List String) : List String :=
  (texts.insertionSort (textLe · ·)).destutter (· ≠ ·)

/-- One store admitted to a snapshot. -/
structure AuthorizedMemoryStore where
  storeId : String
  profileId : MemoryProfileId
  ownerDeviceId : DeviceId
  «namespace» : String
  relativePath : String
  grantIds : List MemoryGrantId
  authorizationExpiresAt : UInt64
  deriving DecidableEq, Repr

/-- The line of an admitted store in the digest's material. -/
def AuthorizedMemoryStore.line (store : AuthorizedMemoryStore) : String :=
  let grants := joinTexts "," (store.grantIds.map (·.text))
  s!"{store.storeId}|{store.profileId.text}|{store.ownerDeviceId.text}|{store.namespace}|" ++
    s!"{store.relativePath}|{grants}|" ++ toString store.authorizationExpiresAt.toNat

/-- Request-time projection of the current binding, lifecycles and grants. -/
structure AuthorizationSnapshot where
  actorId : ActorId
  actorDeviceId : DeviceId
  subjectProfileId : MemoryProfileId
  bindingId : ActorProfileBindingId
  bindingDigest : String
  effect : MemoryAccessEffect
  namespaces : List String
  authorizedStores : List AuthorizedMemoryStore
  evaluatedAt : UInt64
  policyVersion : String
  snapshotDigest : String
  deriving DecidableEq, Repr

namespace AuthorizationSnapshot

/-- `AUTHORIZATION_POLICY_VERSION`. -/
def currentPolicyVersion : String := "mnemes.profile-authz.v1"

/-- The texts the digest covers. -/
def material (snapshot : AuthorizationSnapshot) : List String :=
  [snapshot.actorId.text, snapshot.actorDeviceId.text, snapshot.subjectProfileId.text,
    snapshot.bindingId.text, snapshot.bindingDigest, snapshot.effect.asStr,
    joinTexts "," snapshot.namespaces, joinTexts "\n" (snapshot.authorizedStores.map (·.line)),
    toString snapshot.evaluatedAt.toNat, snapshot.policyVersion]

/-- `AuthorizationSnapshot::expected_digest`. -/
def expectedDigest (P : Platform) (snapshot : AuthorizationSnapshot) : String :=
  digestFields P "mnemes.authorization-snapshot.v1" snapshot.material

/-- The grants of an admitted store in order, each once. -/
def sortGrants (store : AuthorizedMemoryStore) : AuthorizedMemoryStore :=
  { store with grantIds := (sortDedup (store.grantIds.map (·.text))).map MemoryGrantId.mk }

/-- `AuthorizationSnapshot::new`. -/
def new (P : Platform) (binding : ActorProfileBinding) (effect : MemoryAccessEffect)
    (namespaces : List String) (authorizedStores : List AuthorizedMemoryStore)
    (evaluatedAt : UInt64) : AuthorizationSnapshot :=
  let snapshot : AuthorizationSnapshot :=
    { actorId := binding.actorId
      actorDeviceId := binding.ownerDeviceId
      subjectProfileId := binding.profileId
      bindingId := binding.bindingId
      bindingDigest := binding.bindingDigest
      effect := effect
      namespaces := sortDedup namespaces
      authorizedStores :=
        (authorizedStores.insertionSort fun left right => textLe left.storeId right.storeId).map
          sortGrants
      evaluatedAt := evaluatedAt
      policyVersion := currentPolicyVersion
      snapshotDigest := "" }
  { snapshot with snapshotDigest := snapshot.expectedDigest P }

/-- `AuthorizationSnapshot::validate`. -/
def validate (P : Platform) (snapshot : AuthorizationSnapshot) : Except MnemesError Unit :=
  if snapshot.policyVersion ≠ currentPolicyVersion then
    .error (.authorizationSnapshotInvalid "unsupported authorization policy version")
  else if snapshot.snapshotDigest ≠ snapshot.expectedDigest P then
    .error (.authorizationSnapshotInvalid
      "snapshot digest does not match its authorization material")
  else .ok ()

end AuthorizationSnapshot

/-! ## Permits -/

/-- `MAX_PERMIT_QUERY_BUDGET`. -/
def maxPermitQueryBudget : Nat := 100

/-- Short-lived permit derived from a snapshot. -/
structure MemoryAccessPermit where
  subjectProfileId : MemoryProfileId
  actorId : ActorId
  actorDeviceId : DeviceId
  storeId : String
  «namespace» : String
  effect : MemoryAccessEffect
  grantIds : List MemoryGrantId
  authorizationSnapshotDigest : String
  issuedAt : UInt64
  expiresAt : UInt64
  queryBudget : Nat
  policyVersion : String
  permitDigest : String
  deriving DecidableEq, Repr

/-- `MemoryAccessPermit::new`. -/
def MemoryAccessPermit.new (P : Platform) (snapshot : AuthorizationSnapshot)
    (store : AuthorizedMemoryStore) (issuedAt expiresAt : UInt64) (queryBudget : Nat) :
    Except MnemesError MemoryAccessPermit := do
  if expiresAt ≤ issuedAt then
    throw (.authorizationSnapshotInvalid "permit expires_at must be after issued_at")
  if queryBudget = 0 || maxPermitQueryBudget < queryBudget then
    throw (.authorizationSnapshotInvalid
      s!"query budget must be within 1..={maxPermitQueryBudget}")
  let grantTexts := (store.grantIds.map (·.text)).insertionSort (textLe · ·)
  return {
    subjectProfileId := snapshot.subjectProfileId
    actorId := snapshot.actorId
    actorDeviceId := snapshot.actorDeviceId
    storeId := store.storeId
    «namespace» := store.namespace
    effect := snapshot.effect
    grantIds := grantTexts.map MemoryGrantId.mk
    authorizationSnapshotDigest := snapshot.snapshotDigest
    issuedAt := issuedAt
    expiresAt := expiresAt
    queryBudget := queryBudget
    policyVersion := snapshot.policyVersion
    permitDigest := digestFields P "mnemes.memory-access-permit.v1" [
      snapshot.subjectProfileId.text, snapshot.actorId.text, snapshot.actorDeviceId.text,
      store.storeId, store.namespace, snapshot.effect.asStr, joinTexts "," grantTexts,
      snapshot.snapshotDigest, toString issuedAt.toNat, toString expiresAt.toNat,
      toString queryBudget, snapshot.policyVersion] }

end Mnemes
