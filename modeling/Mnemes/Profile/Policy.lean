import Mnemes.Profile.Registry

/-!
# The access policy

What a database lets a profile do with a store, stated over the rows (`PooledDb.Authorized`), and
that `authorize_memory_access` decides exactly this. A stored window has nonnegative times, so every
stored grant and binding reads back (`MemoryAccessGrantRow.read_eq`).
-/

namespace Mnemes

open Relational

/-! ## Reading rows back -/

/-- An integer that is not negative converts. -/
theorem u64TryFrom_of_nonneg {v : Int64} (h : 0 ≤ v) : u64TryFrom v = some v.toUInt64 := if_pos h

/-- A nonnegative value keeps its value as an unsigned one. -/
theorem toNat_toUInt64 {v : Int64} (h : 0 ≤ v) : (v.toUInt64.toNat : Int) = v.toInt := by
  have h0 : 0 ≤ v.toBitVec.toInt := by
    rw [Int64.le_iff_toInt_le] at h
    exact h
  show (v.toBitVec.toNat : Int) = v.toBitVec.toInt
  have hlt := v.toBitVec.isLt
  rw [BitVec.toInt_eq_toNat_cond] at h0 ⊢
  split
  · rfl
  · next hn =>
    rw [if_neg hn] at h0
    omega

/-- A cast that is nonnegative has kept the value. -/
theorem toInt_of_nonneg {v : UInt64} (h : 0 ≤ v.toInt64) : v.toInt64.toInt = v.toNat := by
  by_cases hv : v.toNat < 2 ^ 63
  · exact toInt_toInt64 hv
  · have h0 : 0 ≤ v.toBitVec.toInt := by
      rw [Int64.le_iff_toInt_le] at h
      exact h
    have hlt := v.toBitVec.isLt
    rw [BitVec.toInt_eq_toNat_cond, if_neg (by rw [UInt64.toNat_toBitVec]; omega)] at h0
    omega

namespace Window

/-- The end of a window is not negative. -/
theorem expiresAt_nonneg (w : Window) : 0 ≤ w.expiresAt := by
  have h1 := w.starts
  have h2 := w.ends
  rw [Int64.le_iff_toInt_le] at h1 ⊢
  rw [Int64.lt_iff_toInt_lt] at h2
  omega

/-- The revocation of a window is not negative. -/
theorem revokedAt_nonneg (w : Window) {r : Int64} (h : w.revokedAt = some r) : 0 ≤ r := by
  have h1 := w.starts
  have h2 := w.revokedAfter
  simp only [h, Option.all_some, decide_eq_true_eq] at h2
  rw [Int64.le_iff_toInt_le] at h1 h2 ⊢
  omega

/-- Inversion of the `CHECK`s. -/
theorem check?_eq_some {validFrom expiresAt : Int64} {revokedAt : Option Int64} {w : Window} :
    check? validFrom expiresAt revokedAt = some w ↔
      w.validFrom = validFrom ∧ w.expiresAt = expiresAt ∧ w.revokedAt = revokedAt := by
  unfold check?
  constructor
  · intro h
    split at h
    · cases h
      exact ⟨rfl, rfl, rfl⟩
    · cases h
  · rintro ⟨rfl, rfl, rfl⟩
    exact dif_pos ⟨w.starts, w.ends, w.revokedAfter⟩

/-- A window whose times were cast has the times themselves: one that had wrapped would be negative,
and fail a `CHECK`. -/
theorem check?_cast {validFrom expiresAt : UInt64} {revokedAt : Option UInt64} {w : Window}
    (h : check? validFrom.toInt64 expiresAt.toInt64 (revokedAt.map (·.toInt64)) = some w) :
    w.validFrom.toInt = validFrom.toNat ∧ w.expiresAt.toInt = expiresAt.toNat ∧
      ∀ r, w.revokedAt = some r → ∃ t, revokedAt = some t ∧ r.toInt = t.toNat := by
  obtain ⟨hfrom, hto, hrev⟩ := check?_eq_some.1 h
  have h1 := w.starts
  have h2 := w.expiresAt_nonneg
  rw [hfrom] at h1 ⊢
  rw [hto] at h2 ⊢
  refine ⟨toInt_of_nonneg h1, toInt_of_nonneg h2, fun r hr => ?_⟩
  obtain ⟨t, ht, rfl⟩ := Option.map_eq_some_iff.1 (hrev.symm.trans hr)
  exact ⟨t, ht, toInt_of_nonneg (w.revokedAt_nonneg hr)⟩

/-- A revocation keeps the other times, and has not wrapped either. -/
theorem revoke?_cast {w w' : Window} {revokedAt : UInt64}
    (h : w.revoke? revokedAt.toInt64 = some w') :
    w'.validFrom = w.validFrom ∧ w'.expiresAt = w.expiresAt ∧
      w'.revokedAt = some revokedAt.toInt64 ∧ revokedAt.toInt64.toInt = revokedAt.toNat := by
  obtain ⟨hfrom, hto, hrev⟩ := check?_eq_some.1 h
  exact ⟨hfrom, hto, hrev, toInt_of_nonneg (w'.revokedAt_nonneg hrev)⟩

/-- The window is open at a time: it has started, not ended, and not been revoked. -/
def OpenAt (w : Window) (at' : UInt64) : Prop :=
  w.revokedAt = none ∧ w.validFrom.toInt ≤ at'.toNat ∧ (at'.toNat : Int) < w.expiresAt.toInt

instance (w : Window) (at' : UInt64) : Decidable (w.OpenAt at') :=
  inferInstanceAs (Decidable (_ ∧ _))

end Window

namespace MemoryAccessGrantRow

/-- The grant a row is read back as. -/
def grant (row : MemoryAccessGrantRow) : MemoryAccessGrant where
  grantId := row.grantId
  granteeProfileId := row.granteeProfileId
  storeId := row.storeId
  «namespace» := row.namespace
  effect := row.effect
  issuedByActorId := row.issuedByActorId
  validFrom := row.window.validFrom.toUInt64
  expiresAt := row.window.expiresAt.toUInt64
  revokedAt := row.window.revokedAt.map (·.toUInt64)
  createdAt := row.createdAt

/-- Every stored grant reads back. -/
theorem read_eq (row : MemoryAccessGrantRow) : row.read = .ok row.grant := by
  have hrev : row.window.revokedAt.mapM (readGrantTime "revoked_at") =
      .ok (row.window.revokedAt.map (·.toUInt64)) := by
    cases hr : row.window.revokedAt with
    | none => rfl
    | some r =>
      simp [readGrantTime, okOr, u64TryFrom_of_nonneg (row.window.revokedAt_nonneg hr)]
  unfold read
  simp only [readGrantTime, okOr, u64TryFrom_of_nonneg row.window.starts,
    u64TryFrom_of_nonneg row.window.expiresAt_nonneg]
  rw [hrev]
  rfl

/-- The row covers an access to its store. -/
def Covers (row : MemoryAccessGrantRow) (profile : MemoryProfileId) (storeId «namespace» : String)
    (effect : MemoryAccessEffect) (at' : UInt64) : Prop :=
  row.granteeProfileId = profile ∧ row.storeId = storeId ∧ row.namespace = «namespace» ∧
    row.effect = effect ∧ row.window.OpenAt at'

instance (row : MemoryAccessGrantRow) (profile : MemoryProfileId) (storeId ns : String)
    (effect : MemoryAccessEffect) (at' : UInt64) :
    Decidable (row.Covers profile storeId ns effect at') :=
  inferInstanceAs (Decidable (_ ∧ _))

/-- `MemoryAccessGrant::allows` of a stored grant, in terms of the row. -/
theorem grant_allows {row : MemoryAccessGrantRow} {effect : MemoryAccessEffect} {ns : String}
    {at' : UInt64} :
    row.grant.allows effect ns at' = true ↔
      row.namespace = ns ∧ row.effect = effect ∧ row.window.OpenAt at' := by
  have h1 := toNat_toUInt64 row.window.starts
  have h2 := toNat_toUInt64 row.window.expiresAt_nonneg
  simp only [MemoryAccessGrant.allows, Bool.and_eq_true, decide_eq_true_eq, UInt64.le_iff_toNat_le,
    UInt64.lt_iff_toNat_lt, Window.OpenAt]
  simp only [grant, Option.isNone_map, Option.isNone_iff_eq_none]
  constructor
  · rintro ⟨⟨⟨⟨hr, he⟩, hn⟩, hf⟩, hx⟩
    exact ⟨hn, he, hr, by omega, by omega⟩
  · rintro ⟨hn, he, hr, hf, hx⟩
    exact ⟨⟨⟨⟨hr, he⟩, hn⟩, by omega⟩, by omega⟩

end MemoryAccessGrantRow

/-- A traversal whose steps all succeed. -/
theorem mapM_eq_ok {ε α β : Type} {f : α → Except ε β} {g : α → β} (l : List α)
    (h : ∀ a, f a = .ok (g a)) : l.mapM f = .ok (l.map g) := by
  induction l with
  | nil => rfl
  | cons a l ih => rw [List.mapM_cons, h, ih]; rfl

/-- The grants to a profile for a store, in the order they are read. -/
def PooledDb.grantsOf (db : PooledDb) (profile : MemoryProfileId) (storeId : String) :
    List MemoryAccessGrantRow :=
  (db.memoryAccessGrants.rows.filter fun row =>
    row.granteeProfileId = profile ∧ row.storeId = storeId).insertionSort fun a b => a.le b

/-- The grants of a profile on a store are the rows that name both. -/
theorem PooledDb.mem_grantsOf {db : PooledDb} {profile : MemoryProfileId} {storeId : String}
    {row : MemoryAccessGrantRow} :
    row ∈ db.grantsOf profile storeId ↔ row ∈ db.memoryAccessGrants.rows ∧
      row.granteeProfileId = profile ∧ row.storeId = storeId := by
  simp [grantsOf, List.mem_insertionSort, List.mem_filter]

/-- Reading these grants cannot fail. -/
theorem PooledDb.memoryGrants_eq (db : PooledDb) (profile : MemoryProfileId) (storeId : String) :
    db.memoryGrants profile storeId =
      .ok ((db.grantsOf profile storeId).map MemoryAccessGrantRow.grant) :=
  mapM_eq_ok _ MemoryAccessGrantRow.read_eq

/-! ## The decision -/

/-- The store is open to the profile at the time: it is the profile's own, or a grant covers it. -/
def PooledDb.Permits (db : PooledDb) (profile : MemoryProfileId) (store : MemoryStoreIdentity)
    (effect : MemoryAccessEffect) (at' : UInt64) : Prop :=
  store.profileId = profile ∨ ∃ row ∈ db.memoryAccessGrants.rows,
    row.Covers profile store.storeId store.namespace effect at'

/-- The pure decision over the grants of a profile for a store. -/
theorem authorizeMemoryAccess_eq_ok {db : PooledDb} {requester : MemoryProfileId}
    {profile : MemoryProfile} {store : MemoryStoreIdentity} {effect : MemoryAccessEffect}
    {ns : String} {at' : UInt64} :
    authorizeMemoryAccess requester profile store
        ((db.grantsOf requester store.storeId).map MemoryAccessGrantRow.grant) effect ns at' =
      .ok () ↔
    profile.profileId = requester ∧ profile.status = .active ∧ store.status = .active ∧
      store.namespace = ns ∧ db.Permits requester store effect at' := by
  have hany : (((db.grantsOf requester store.storeId).map MemoryAccessGrantRow.grant).any
      fun grant => grant.granteeProfileId = requester && grant.storeId = store.storeId &&
        grant.allows effect ns at') = true ↔
      ∃ row ∈ db.memoryAccessGrants.rows, row.Covers requester store.storeId ns effect at' := by
    simp only [List.any_map, List.any_eq_true, Function.comp_apply, Bool.and_eq_true,
      decide_eq_true_eq, PooledDb.mem_grantsOf, MemoryAccessGrantRow.grant_allows]
    constructor
    · rintro ⟨row, ⟨hrow, hp, hs⟩, -, hallow⟩
      exact ⟨row, hrow, hp, hs, hallow⟩
    · rintro ⟨row, hrow, hp, hs, hallow⟩
      exact ⟨row, ⟨hrow, hp, hs⟩, ⟨hp, hs⟩, hallow⟩
  unfold authorizeMemoryAccess PooledDb.Permits
  split
  · next h => simp [h]
  · next h1 =>
    split
    · next h => simp [h]
    · next h2 =>
      split
      · next h => simp [h]
      · next h3 =>
        split
        · next h => simp [h]
        · next h4 =>
          have h4 : store.namespace = ns := by simpa using h4
          subst h4
          split
          · next h5 => simp_all
          · next h5 =>
            rw [← hany]
            split
            · next h6 => simp_all
            · next h6 => simp_all

/-! ## Stored identities -/

/-- A guard at the end of a computation. -/
theorem throw_guard_eq_ok {ε : Type} {c : Prop} [Decidable c] {e : ε} :
    (if c then throw e else pure PUnit.unit : Except ε PUnit) = .ok PUnit.unit ↔ ¬ c := by
  split
  · next h => simp [h, throw, throwThe, MonadExceptOf.throw]
  · next h => simp [h, pure, Except.pure]

/-- A computation fails when its first step does, or the rest does. -/
theorem bind_eq_error {ε α β : Type} {x : Except ε α} {f : α → Except ε β} {e : ε} :
    (x >>= f) = .error e ↔ x = .error e ∨ ∃ a, x = .ok a ∧ f a = .error e := by
  cases x <;> simp [bind, Except.bind]

/-- A guard that is followed by a call fails with its own error or with that of the call. -/
theorem guard_eq_error {ε β : Type} {c : Prop} [Decidable c] {e e' : ε} {k : Unit → Except ε β} :
    (if c then do let r ← throw e; k r else k ()) = .error e' ↔
      c ∧ e = e' ∨ ¬ c ∧ k () = .error e' := by
  split
  · next h => simp [h, throw, throwThe, MonadExceptOf.throw, bind, Except.bind]
  · next h => simp [h]

/-- A guard fails with its own error, where its condition holds. -/
theorem throw_guard_eq_error {ε : Type} {c : Prop} [Decidable c] {e e' : ε} :
    (if c then throw e else pure PUnit.unit : Except ε PUnit) = .error e' ↔ c ∧ e = e' := by
  split
  · next h => simp [h, throw, throwThe, MonadExceptOf.throw]
  · next h => simp [h, pure, Except.pure]

namespace MemoryStoreIdentity

/-- What the checks of an identity accept: the texts, a path that stays below the base directory,
and the canonical one. -/
theorem check_eq_ok {store : MemoryStoreIdentity} {mismatch : String → String} :
    store.check mismatch = .ok () ↔
      validateText store.storeId "store_id" maxScopeIdBytes = .ok () ∧
      validateText store.namespace "namespace" maxScopeIdBytes = .ok () ∧
      validateText store.relativePath "relative_path" maxScopePathBytes = .ok () ∧
      isAbsolutePath store.relativePath = false ∧ ".." ∉ pathPieces store.relativePath ∧
      canonicalMemoryStoreRelativePath store.profileId store.storeId = .ok store.relativePath := by
  simp only [check, bind_eq_ok, guard_eq_ok, throw_guard_eq_ok, Bool.or_eq_true, not_or,
    Bool.not_eq_true, List.contains_eq_mem, decide_eq_false_iff_not, not_not]
  constructor
  · rintro ⟨⟨⟩, h1, ⟨⟩, h2, ⟨⟩, h3, ⟨h4, h5⟩, path, h6, rfl⟩
    exact ⟨h1, h2, h3, h4, h5, h6⟩
  · rintro ⟨h1, h2, h3, h4, h5, h6⟩
    exact ⟨⟨⟩, h1, ⟨⟩, h2, ⟨⟩, h3, ⟨h4, h5⟩, _, h6, rfl⟩

/-- An identity that passes `validate` is built again by `new`. -/
theorem new_of_validate {store : MemoryStoreIdentity} (h : store.validate = .ok ()) :
    new store.storeId store.profileId store.ownerDeviceId store.namespace store.relativePath =
      .ok { store with status := .active, createdAt := "" } := by
  unfold new
  rw [bind_eq_ok]
  exact ⟨(), check_eq_ok.2 (check_eq_ok.1 h), rfl⟩

end MemoryStoreIdentity

/-! ## The policy of a database -/

namespace PooledDb

variable {db : PooledDb}

/-- A profile may act: it and its device are active. -/
def ProfileLive (db : PooledDb) (profile : MemoryProfileId) : Prop :=
  ∃ p d, db.profileOnDevice profile = some (p, d) ∧ p.status = .active ∧ d.status = .active

/-- A store may be used: it, the profile that owns it and its device are active. -/
def StoreLive (db : PooledDb) (store : MemoryStoreIdentity) : Prop :=
  store.status = .active ∧
    ∃ p d, db.ownersOf store = some (p, d) ∧ p.status = .active ∧ d.status = .active

/-- The access policy: a live profile may have the effect on a live store's own namespace where the
store is its own or a grant covers the access. -/
def Authorized (db : PooledDb) (profile : MemoryProfileId) (storeId «namespace» : String)
    (effect : MemoryAccessEffect) (at' : UInt64) : Prop :=
  db.ProfileLive profile ∧ ∃ store, db.memoryStores.find? storeId = some store ∧
    db.StoreLive store ∧ store.namespace = «namespace» ∧ db.Permits profile store effect at'

/-- Every stored identity passes its checks. -/
def StoresValid (db : PooledDb) : Prop :=
  ∀ store ∈ db.memoryStores.rows, store.validate = .ok ()

/-- A profile is found with its device where both have rows. -/
theorem profileOnDevice_eq_some {profile : MemoryProfileId} {p : MemoryProfile} {d : Device} :
    db.profileOnDevice profile = some (p, d) ↔
      db.memoryProfiles.find? profile = some p ∧ db.devices.find? p.ownerDeviceId = some d := by
  unfold profileOnDevice
  constructor
  · intro h
    obtain ⟨p', hp, h⟩ := Option.bind_eq_some_iff.1 h
    obtain ⟨d', hd, h⟩ := Option.bind_eq_some_iff.1 h
    cases h
    exact ⟨hp, hd⟩
  · rintro ⟨hp, hd⟩
    simp [hp, hd]

/-- The owners of a store are found where both have rows. -/
theorem ownersOf_eq_some {store : MemoryStoreIdentity} {p : MemoryProfile} {d : Device} :
    db.ownersOf store = some (p, d) ↔
      db.memoryProfiles.find? store.profileId = some p ∧
        db.devices.find? store.ownerDeviceId = some d := by
  unfold ownersOf
  constructor
  · intro h
    obtain ⟨p', hp, h⟩ := Option.bind_eq_some_iff.1 h
    obtain ⟨d', hd, h⟩ := Option.bind_eq_some_iff.1 h
    cases h
    exact ⟨hp, hd⟩
  · rintro ⟨hp, hd⟩
    simp [hp, hd]

/-- An actor is found with its device where both have rows. -/
theorem actorOnDevice_eq_some {actor : ActorId} {a : Actor} {d : Device} :
    db.actorOnDevice actor = some (a, d) ↔
      db.actors.find? actor = some a ∧ db.devices.find? a.deviceId = some d := by
  unfold actorOnDevice
  constructor
  · intro h
    obtain ⟨a', ha, h⟩ := Option.bind_eq_some_iff.1 h
    obtain ⟨d', hd, h⟩ := Option.bind_eq_some_iff.1 h
    cases h
    exact ⟨ha, hd⟩
  · rintro ⟨ha, hd⟩
    simp [ha, hd]

/-- The issuer check, in terms of the rows. -/
theorem issuerIsOperator_iff {actor : ActorId} :
    db.issuerIsOperator actor = true ↔ ∃ a d, db.actors.find? actor = some a ∧
      db.devices.find? a.deviceId = some d ∧ a.toolProfile = .operator ∧ d.status = .active := by
  simp only [issuerIsOperator, Option.any_eq_true, Prod.exists, actorOnDevice_eq_some,
    Bool.and_eq_true, decide_eq_true_eq, and_assoc]

/-- `authorize_memory_access` decides the policy. -/
theorem authorizeMemoryAccess_iff (hv : db.StoresValid) {profile : MemoryProfileId}
    {storeId ns : String} {effect : MemoryAccessEffect} {at' : UInt64} :
    db.authorizeMemoryAccess profile storeId ns effect at' = .ok () ↔
      db.Authorized profile storeId ns effect at' := by
  simp only [PooledDb.authorizeMemoryAccess, bind_eq_ok, guard_eq_ok, okOr_eq_ok, memoryGrants_eq,
    not_not, Authorized, ProfileLive, StoreLive, profileOnDevice_eq_some, ownersOf_eq_some]
  constructor
  · rintro ⟨p, hp, d, hd, hda, row, hs, store, hnew, d', hd', hda', p', hp', hpa', grants, hg, hok⟩
    obtain ⟨hmem, rfl⟩ := Table.find?_eq_some.1 hs
    rw [MemoryStoreIdentity.new_of_validate (hv _ hmem)] at hnew
    cases hnew
    cases hg
    obtain ⟨-, hpa, hsa, hns, hpermits⟩ := authorizeMemoryAccess_eq_ok.1 hok
    exact ⟨⟨p, d, ⟨hp, hd⟩, hpa, hda⟩, row, hs, ⟨hsa, p', d', ⟨hp', hd'⟩, hpa', hda'⟩, hns,
      hpermits⟩
  · rintro ⟨⟨p, d, ⟨hp, hd⟩, hpa, hda⟩, row, hs, ⟨hsa, p', d', ⟨hp', hd'⟩, hpa', hda'⟩, hns,
      hpermits⟩
    obtain ⟨hmem, rfl⟩ := Table.find?_eq_some.1 hs
    refine ⟨p, hp, d, hd, hda, row, hs, _, MemoryStoreIdentity.new_of_validate (hv _ hmem), d', hd',
      hda', p', hp', hpa', _, rfl, ?_⟩
    exact authorizeMemoryAccess_eq_ok.2 ⟨(Table.find?_eq_some.1 hp).2, hpa, hsa, hns, hpermits⟩

end PooledDb

end Mnemes
