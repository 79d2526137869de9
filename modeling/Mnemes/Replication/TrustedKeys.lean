import Mnemes.Replication.Envelope

/-!
# Trusted keys

The registry of admitted signer keys (`replication/trusted_key.rs`): a list that only grows, whose
lookup takes the first record of a principal and a key version. An admission never takes a key that
has a record, so a record found once is found ever after, and the verdict on an envelope of an
admitted signer does not change as the registry grows, nor with the order of admission
(`trusted_keys_stable`).
-/

namespace Mnemes

/-- The artifacts that an admitted key may sign. -/
inductive AllowedArtifacts where
  | single (allowed : ArtifactKind)
  | recoveryBootstrapAndPromotion
  deriving DecidableEq

/-- `allows`. -/
def AllowedArtifacts.allows (artifacts : AllowedArtifacts) (artifact : ArtifactKind) : Bool :=
  match artifacts with
  | single allowed => allowed.toU8 = artifact.toU8
  | recoveryBootstrapAndPromotion => artifact = .bootstrap || artifact = .promotion

/-- A key admitted out of band. -/
structure TrustedKeyRecord where
  signerPrincipalId : String
  signerKeyVersion : UInt64
  publicKey : Bytes32
  signerRole : SignerRole
  allowedArtifacts : AllowedArtifacts
  activatedAt : UInt64
  cutoffAt : UInt64
  revoked : Bool
  homeDeviceId : String
  storeId : String
  «namespace» : String
  deriving DecidableEq

/-- What a record is looked up by. -/
def TrustedKeyRecord.key (record : TrustedKeyRecord) : String × UInt64 :=
  (record.signerPrincipalId, record.signerKeyVersion)

/-- The registry in memory. -/
structure TrustedKeyRegistry where
  keys : List TrustedKeyRecord

namespace TrustedKeyRegistry

/-- `new`. -/
def new : TrustedKeyRegistry := ⟨[]⟩

/-- `lookup`. -/
def lookup (registry : TrustedKeyRegistry) (principalId : String) (keyVersion : UInt64) :
    Option TrustedKeyRecord :=
  registry.keys.find? fun k => k.signerPrincipalId = principalId && k.signerKeyVersion = keyVersion

/-- `try_admit`. -/
def tryAdmit (registry : TrustedKeyRegistry) (record : TrustedKeyRecord) :
    Except ReplicationError Unit × TrustedKeyRegistry :=
  if (registry.lookup record.signerPrincipalId record.signerKeyVersion).isSome then
    (.error (.duplicateTrustedKey record.signerPrincipalId record.signerKeyVersion), registry)
  else (.ok (), ⟨registry.keys ++ [record]⟩)

/-- `admit`. -/
def admitRecord (registry : TrustedKeyRegistry) (record : TrustedKeyRecord) :
    Except ReplicationError Unit × TrustedKeyRegistry := registry.tryAdmit record

/-- The registry after admissions, whether accepted or rejected. -/
def admitAll (registry : TrustedKeyRegistry) (records : List TrustedKeyRecord) :
    TrustedKeyRegistry := records.foldl (fun r record => (r.admitRecord record).2) registry

end TrustedKeyRegistry

/-! ## Validation -/

/-- The scope check of one field. -/
def checkScope (e : MemoryMutationEnvelopeV1) (field envelopeValue keyScope : String) :
    Except ReplicationError Unit :=
  if envelopeValue ≠ keyScope then
    .error (.keyScopeMismatch e.signerPrincipalId e.signerKeyVersion field envelopeValue keyScope)
  else .ok ()

/-- `validate_trusted_key`. -/
def validateTrustedKey (e : MemoryMutationEnvelopeV1) (registry : TrustedKeyRegistry) :
    Except ReplicationError Unit :=
  match registry.lookup e.signerPrincipalId e.signerKeyVersion with
  | none => .error (.signerNotAdmitted e.signerPrincipalId e.signerKeyVersion)
  | some record => do
    if record.publicKey ≠ e.signerPublicKey then
      throw (.keyMismatch e.signerPrincipalId e.signerKeyVersion)
    if record.signerRole ≠ e.signerRole then
      throw (.roleMismatch record.signerRole e.signerRole)
    if !record.allowedArtifacts.allows e.artifactKind then
      throw (.artifactPermissionMismatch e.artifactKind e.artifactKind)
    if record.revoked then throw (.keyRevoked e.signerPrincipalId e.signerKeyVersion)
    if e.observedAt < record.activatedAt ∨ record.cutoffAt < e.observedAt then
      throw (.keyLifecycleOutsideWindow e.signerPrincipalId e.signerKeyVersion e.observedAt
        record.activatedAt record.cutoffAt)
    checkScope e "home_device_id" e.homeDeviceId record.homeDeviceId
    checkScope e "store_id" e.storeId record.storeId
    checkScope e "namespace" e.namespace record.namespace

/-- `validate_admitted_envelope`: the envelope first, then its admission. -/
def validateAdmittedEnvelope (P : Platform) (e : MemoryMutationEnvelopeV1)
    (registry : TrustedKeyRegistry) : Except ReplicationError Unit := do
  e.validate P
  validateTrustedKey e registry

/-! ## The registry over its admissions -/

namespace TrustedKeyRegistry

variable {registry : TrustedKeyRegistry} {record : TrustedKeyRecord}

/-- A record that is found is of the registry, under its key. -/
theorem lookup_eq_some {principalId : String} {keyVersion : UInt64}
    (h : registry.lookup principalId keyVersion = some record) :
    record ∈ registry.keys ∧ record.key = (principalId, keyVersion) := by
  refine ⟨List.mem_of_find?_eq_some h, ?_⟩
  have hkey := List.find?_some h
  simp only [Bool.and_eq_true, decide_eq_true_eq] at hkey
  rw [TrustedKeyRecord.key, hkey.1, hkey.2]

/-- No record is found exactly if none has the key. -/
theorem lookup_eq_none {principalId : String} {keyVersion : UInt64} :
    registry.lookup principalId keyVersion = none ↔
      ∀ record ∈ registry.keys, record.key ≠ (principalId, keyVersion) := by
  simp [lookup, TrustedKeyRecord.key]

/-- Where keys are unique, a record is what its key finds. -/
theorem lookup_of_mem (hnodup : (registry.keys.map (·.key)).Nodup) (h : record ∈ registry.keys) :
    registry.lookup record.signerPrincipalId record.signerKeyVersion = some record := by
  cases hfind : registry.lookup record.signerPrincipalId record.signerKeyVersion with
  | none => exact absurd rfl (lookup_eq_none.1 hfind record h)
  | some found =>
    obtain ⟨hfound, hkey⟩ := lookup_eq_some hfind
    rw [List.inj_on_of_nodup_map hnodup hfound h hkey]

/-- What an admission does. -/
theorem admitRecord_cases (registry : TrustedKeyRegistry) (record : TrustedKeyRecord) :
    ((∃ e, (registry.admitRecord record).1 = .error e) ∧
      (registry.admitRecord record).2 = registry) ∨
      registry.lookup record.signerPrincipalId record.signerKeyVersion = none ∧
        registry.admitRecord record = (.ok (), ⟨registry.keys ++ [record]⟩) := by
  unfold admitRecord tryAdmit
  split
  · exact .inl ⟨⟨_, rfl⟩, rfl⟩
  · next h => exact .inr ⟨Option.not_isSome_iff_eq_none.1 h, rfl⟩

/-- An admission leaves no key twice. -/
theorem nodup_admitRecord (hnodup : (registry.keys.map (·.key)).Nodup) :
    ((registry.admitRecord record).2.keys.map (·.key)).Nodup := by
  rcases admitRecord_cases registry record with ⟨-, h⟩ | ⟨hnone, h⟩
  · rw [h]
    exact hnodup
  · rw [h, List.map_append, List.nodup_append]
    refine ⟨hnodup, List.nodup_singleton _, fun a ha b hb hab => ?_⟩
    obtain ⟨other, hother, rfl⟩ := List.mem_map.1 ha
    rw [List.map_singleton, List.mem_singleton] at hb
    exact lookup_eq_none.1 hnone other hother (hab.trans hb)

/-- So do all admissions. -/
theorem nodup_admitAll (hnodup : (registry.keys.map (·.key)).Nodup)
    (records : List TrustedKeyRecord) : ((registry.admitAll records).keys.map (·.key)).Nodup := by
  induction records generalizing registry with
  | nil => exact hnodup
  | cons record records ih => exact ih (nodup_admitRecord hnodup)

/-- The registry only grows. -/
theorem prefix_admitAll (registry : TrustedKeyRegistry) (records : List TrustedKeyRecord) :
    registry.keys <+: (registry.admitAll records).keys := by
  induction records generalizing registry with
  | nil => exact List.prefix_rfl
  | cons record records ih =>
    refine List.IsPrefix.trans ?_ (ih (registry.admitRecord record).2)
    rcases admitRecord_cases registry record with ⟨-, h⟩ | ⟨-, h⟩
    · rw [h]
    · rw [h]
      exact List.prefix_append _ _

/-- A record that is found is found ever after. -/
theorem lookup_admitAll {principalId : String} {keyVersion : UInt64}
    (h : registry.lookup principalId keyVersion = some record) (records : List TrustedKeyRecord) :
    (registry.admitAll records).lookup principalId keyVersion = some record := by
  obtain ⟨later, hlater⟩ := prefix_admitAll registry records
  rw [lookup, ← hlater, List.find?_append, show List.find? _ registry.keys = some record from h]
  rfl

/-- Records of distinct keys are all admitted. -/
theorem admitAll_distinct {records : List TrustedKeyRecord}
    (h : ((registry.keys ++ records).map (·.key)).Nodup) :
    (registry.admitAll records).keys = registry.keys ++ records := by
  induction records generalizing registry with
  | nil => rw [List.append_nil]; rfl
  | cons record records ih =>
    have hnew : registry.lookup record.signerPrincipalId record.signerKeyVersion = none := by
      refine lookup_eq_none.2 fun other hother hkey => ?_
      rw [List.map_append, List.nodup_append] at h
      exact h.2.2 _ (List.mem_map_of_mem hother) _
        (List.mem_map_of_mem List.mem_cons_self) hkey
    rcases admitRecord_cases registry record with ⟨⟨e, he⟩, -⟩ | ⟨-, hadm⟩
    · simp [admitRecord, tryAdmit, hnew] at he
    · change (admitAll (registry.admitRecord record).2 records).keys = _
      rw [hadm, ih (by rwa [List.append_assoc, List.singleton_append]), List.append_assoc,
        List.singleton_append]

/-- Where keys are unique, a lookup depends on the set of the records only. -/
theorem lookup_perm {other : TrustedKeyRegistry} (hperm : registry.keys.Perm other.keys)
    (hnodup : (registry.keys.map (·.key)).Nodup) (principalId : String) (keyVersion : UInt64) :
    registry.lookup principalId keyVersion = other.lookup principalId keyVersion := by
  have hnodup' : (other.keys.map (·.key)).Nodup := ((hperm.map _).nodup_iff).1 hnodup
  cases hfind : other.lookup principalId keyVersion with
  | none =>
    exact lookup_eq_none.2 fun record hrecord =>
      lookup_eq_none.1 hfind record (hperm.subset hrecord)
  | some record =>
    obtain ⟨hrecord, hkey⟩ := lookup_eq_some hfind
    rw [TrustedKeyRecord.key, Prod.mk.injEq] at hkey
    rw [← hkey.1, ← hkey.2]
    exact lookup_of_mem hnodup (hperm.symm.subset hrecord)

end TrustedKeyRegistry

/-- An envelope is validated alike by registries that agree on its key. -/
theorem validateTrustedKey_congr {e : MemoryMutationEnvelopeV1} {r r' : TrustedKeyRegistry}
    (h : r.lookup e.signerPrincipalId e.signerKeyVersion =
      r'.lookup e.signerPrincipalId e.signerKeyVersion) (P : Platform) :
    validateAdmittedEnvelope P e r = validateAdmittedEnvelope P e r' := by
  rw [validateAdmittedEnvelope, validateAdmittedEnvelope, validateTrustedKey, validateTrustedKey, h]

/-- The registry after any admissions: keys are unique, an admission is rejected exactly if its key
has a record, and then changes nothing, and an admitted record is what its key finds ever after. So
the verdict on an envelope whose signer is admitted is that of every extension, and registries of
the same records give one verdict, in whatever order these were admitted; records of distinct keys
are all admitted, and give one verdict in every order. -/
theorem trusted_keys_stable (P : Platform) (records : List TrustedKeyRecord) :
    let registry := TrustedKeyRegistry.new.admitAll records
    (registry.keys.map (·.key)).Nodup ∧
    (∀ record e registry', registry.admitRecord record = (.error e, registry') →
      registry' = registry) ∧
    (∀ record registry', registry.admitRecord record = (.ok (), registry') →
      registry.lookup record.signerPrincipalId record.signerKeyVersion = none ∧ ∀ more,
        (registry'.admitAll more).lookup record.signerPrincipalId record.signerKeyVersion =
          some record) ∧
    (∀ record, registry.lookup record.signerPrincipalId record.signerKeyVersion = none →
      (registry.admitRecord record).1 = .ok ()) ∧
    (∀ record ∈ registry.keys, ∀ more,
      (registry.admitAll more).lookup record.signerPrincipalId record.signerKeyVersion =
        some record) ∧
    (∀ e : MemoryMutationEnvelopeV1,
      (registry.lookup e.signerPrincipalId e.signerKeyVersion).isSome →
      ∀ more, validateAdmittedEnvelope P e (registry.admitAll more) =
        validateAdmittedEnvelope P e registry) ∧
    (∀ records', (TrustedKeyRegistry.new.admitAll records').keys.Perm registry.keys →
      ∀ e, validateAdmittedEnvelope P e (TrustedKeyRegistry.new.admitAll records') =
        validateAdmittedEnvelope P e registry) ∧
    ((records.map (·.key)).Nodup → ∀ records' : List TrustedKeyRecord, records'.Perm records →
      ∀ e, validateAdmittedEnvelope P e (TrustedKeyRegistry.new.admitAll records') =
        validateAdmittedEnvelope P e registry) := by
  intro registry
  have hnew : (TrustedKeyRegistry.new.keys.map (·.key)).Nodup := List.nodup_nil
  have hnodup : (registry.keys.map (·.key)).Nodup :=
    TrustedKeyRegistry.nodup_admitAll hnew records
  have hsame : ∀ records', (TrustedKeyRegistry.new.admitAll records').keys.Perm registry.keys →
      ∀ e, validateAdmittedEnvelope P e (TrustedKeyRegistry.new.admitAll records') =
        validateAdmittedEnvelope P e registry := fun records' hperm e =>
    validateTrustedKey_congr
      (TrustedKeyRegistry.lookup_perm hperm (TrustedKeyRegistry.nodup_admitAll hnew records') _ _) P
  refine ⟨hnodup, ?_, ?_, ?_, ?_, ?_, hsame, ?_⟩
  · intro record e registry' h
    rcases TrustedKeyRegistry.admitRecord_cases registry record with ⟨-, hkept⟩ | ⟨-, hadm⟩
    · rw [← hkept, h]
    · rw [hadm] at h
      cases h
  · intro record registry' h
    rcases TrustedKeyRegistry.admitRecord_cases registry record with ⟨⟨e, he⟩, -⟩ | ⟨hnone, hadm⟩
    · rw [h] at he
      cases he
    · rw [hadm] at h
      cases h
      refine ⟨hnone, fun more => TrustedKeyRegistry.lookup_admitAll ?_ more⟩
      have hnodup' : ((registry.admitRecord record).2.keys.map (·.key)).Nodup :=
        TrustedKeyRegistry.nodup_admitRecord hnodup
      rw [hadm] at hnodup'
      exact TrustedKeyRegistry.lookup_of_mem hnodup'
        (List.mem_append_right _ (List.mem_singleton_self record))
  · intro record hnone
    simp [TrustedKeyRegistry.admitRecord, TrustedKeyRegistry.tryAdmit, hnone]
  · exact fun record hrecord more =>
      TrustedKeyRegistry.lookup_admitAll (TrustedKeyRegistry.lookup_of_mem hnodup hrecord) more
  · intro e hadmitted more
    obtain ⟨record, hrecord⟩ := Option.isSome_iff_exists.1 hadmitted
    exact validateTrustedKey_congr
      ((TrustedKeyRegistry.lookup_admitAll hrecord more).trans hrecord.symm) P
  · intro hdistinct records' hperm e
    have hdistinct' : (records'.map (·.key)).Nodup := ((hperm.map _).nodup_iff).2 hdistinct
    have hkeys' : (TrustedKeyRegistry.new.admitAll records').keys = [] ++ records' :=
      TrustedKeyRegistry.admitAll_distinct hdistinct'
    have hkeys : (TrustedKeyRegistry.new.admitAll records).keys = [] ++ records :=
      TrustedKeyRegistry.admitAll_distinct hdistinct
    refine hsame records' ?_ e
    rw [hkeys', hkeys]
    exact hperm

namespace Sample

/-- The first key of the device. -/
def writerKey : TrustedKeyRecord where
  signerPrincipalId := "operator-1"
  signerKeyVersion := 1
  publicKey := envelope.signerPublicKey
  signerRole := .deviceWriter
  allowedArtifacts := .single .mutation
  activatedAt := 0
  cutoffAt := 2000000
  revoked := false
  homeDeviceId := "device-1"
  storeId := "store-1"
  «namespace» := "default"

/-- The second one, under the version of the first. -/
def shadowKey : TrustedKeyRecord := { writerKey with publicKey := rekeyed.signerPublicKey }

end Sample

open Sample in
/-- A second key under the version of the first is rejected, and the envelope stays admitted. -/
theorem trusted_keys_stable_sample :
    ∃ registry, TrustedKeyRegistry.new.admitRecord writerKey = (.ok (), registry) ∧
      registry.admitRecord shadowKey = (.error (.duplicateTrustedKey "operator-1" 1), registry) ∧
      (registry.admitAll [shadowKey]).lookup "operator-1" 1 = some writerKey ∧
      validateAdmittedEnvelope envelopePlatform envelope (registry.admitAll [shadowKey]) =
        .ok () := by
  obtain ⟨-, -, hadmitted, -⟩ := trusted_keys_stable envelopePlatform []
  obtain ⟨-, hrejected, -, -, -, hverdict, -⟩ := trusted_keys_stable envelopePlatform [writerKey]
  refine ⟨TrustedKeyRegistry.new.admitAll [writerKey], rfl, ?_,
    (hadmitted writerKey _ rfl).2 [shadowKey], ?_⟩
  · exact Prod.ext rfl (hrejected shadowKey _ _ rfl)
  · rw [hverdict envelope rfl [shadowKey]]
    decide +kernel

end Mnemes
