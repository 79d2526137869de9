import Mnemes.Profile.Decisions

/-!
# What a revocation takes away

A revocation succeeds from the start of the window on: an earlier one fails the `CHECK` of its table
and changes nothing. Once it has succeeded the row stays revoked, and a revoked row is one that no
decision reads: every result is the one on the database without it (`revocation_takes_effect`).
-/

namespace Mnemes

open Concurrency Relational

variable {M : SemanticMemory} {P : Platform}

/-! ## Orders -/

namespace MemoryAccessGrantRow

/-- The order in which grants are read, in terms of the columns. -/
theorem le_iff {a b : MemoryAccessGrantRow} :
    a.le b = true ↔ a.window.validFrom.toInt < b.window.validFrom.toInt ∨
      (a.window.validFrom.toInt = b.window.validFrom.toInt ∧
        textLe a.grantId.text b.grantId.text = true) := by
  simp only [le, Bool.or_eq_true, Bool.and_eq_true, decide_eq_true_eq, Int64.lt_iff_toInt_lt,
    ← Int64.toInt_inj]

instance : IsTrans MemoryAccessGrantRow fun a b => a.le b where
  trans a b c hab hbc := by
    rw [le_iff] at hab hbc ⊢
    rcases hab with hab | ⟨hab, hab'⟩ <;> rcases hbc with hbc | ⟨hbc, hbc'⟩
    · exact .inl (by omega)
    · exact .inl (by omega)
    · exact .inl (by omega)
    · exact .inr ⟨by omega, Lists.lexLe_trans hab' hbc'⟩

instance : Std.Total fun a b : MemoryAccessGrantRow => a.le b where
  total a b := by
    rw [le_iff, le_iff]
    rcases lt_trichotomy a.window.validFrom.toInt b.window.validFrom.toInt with h | h | h
    · exact .inl (.inl h)
    · exact (Lists.lexLe_total _ _).imp (fun hle => .inr ⟨h, hle⟩) fun hle => .inr ⟨h.symm, hle⟩
    · exact .inr (.inl h)

end MemoryAccessGrantRow

/-! ## Databases that decide alike -/

/-- Every authorization, resolution and snapshot has the same result on the two databases. -/
structure SameDecisions (M : SemanticMemory) (P : Platform) (db db' : PooledDb) : Prop where
  authorize : ∀ requester storeId ns effect at',
    db.authorizeMemoryAccess requester storeId ns effect at' =
      db'.authorizeMemoryAccess requester storeId ns effect at'
  resolve : ∀ actor at', db.resolveActorProfile P actor at' = db'.resolveActorProfile P actor at'
  snapshot : ∀ (s : MnemesStore M) (x : Choice), x.fault = none →
    ∀ actor effect namespaces at',
      ((buildAuthorizationSnapshot P actor effect namespaces at').run.alone x { s with db }).1 =
        ((buildAuthorizationSnapshot P actor effect namespaces at').run.alone x
          { s with db := db' }).1

/-- Snapshots agree where the databases resolve, list the live stores and admit alike. -/
theorem snapshot_congr {db db' : PooledDb}
    (hresolve : ∀ actor at', db.resolveActorProfile P actor at' =
      db'.resolveActorProfile P actor at')
    (hlive : db.liveStores = db'.liveStores)
    (hadmits : ∀ (subject : Subject) store, subject.admits db store = subject.admits db' store)
    (s : MnemesStore M) {x : Choice} (hx : x.fault = none) (actor : ActorId)
    (effect : MemoryAccessEffect) (namespaces : Option (List String)) (at' : UInt64) :
    ((buildAuthorizationSnapshot P actor effect namespaces at').run.alone x { s with db }).1 =
      ((buildAuthorizationSnapshot P actor effect namespaces at').run.alone x
        { s with db := db' }).1 := by
  have hsnap : db.snapshot P actor effect namespaces at' =
      db'.snapshot P actor effect namespaces at' := by
    have hadmits : ∀ subject : Subject, subject.admits db = subject.admits db' :=
      fun subject => funext (hadmits subject)
    simp only [PooledDb.snapshot, hresolve, hlive, hadmits]
  rw [← bind_pure (buildAuthorizationSnapshot P actor effect namespaces at')]
  simp only [buildAuthorizationSnapshot_alone hx, hsnap]
  cases db'.snapshot P actor effect namespaces at' <;> rfl

/-! ## Revoked grants -/

/-- The database without a grant. -/
def PooledDb.withoutGrant (db : PooledDb) (grantId : MemoryGrantId) : PooledDb :=
  { db with memoryAccessGrants := db.memoryAccessGrants.delete (·.grantId = grantId) }

/-- A decision uses only grants that allow the access. -/
theorem authorizeMemoryAccess_filter {requester : MemoryProfileId} {profile : MemoryProfile}
    {store : MemoryStoreIdentity} {grants : List MemoryAccessGrant} {effect : MemoryAccessEffect}
    {ns : String} {at' : UInt64} {p : MemoryAccessGrant → Bool}
    (h : ∀ grant ∈ grants, grant.allows effect ns at' = true → p grant = true) :
    authorizeMemoryAccess requester profile store (grants.filter p) effect ns at' =
      authorizeMemoryAccess requester profile store grants effect ns at' := by
  have hany : ((grants.filter p).any fun grant => grant.granteeProfileId = requester &&
      grant.storeId = store.storeId && grant.allows effect ns at') =
      grants.any fun grant => grant.granteeProfileId = requester &&
        grant.storeId = store.storeId && grant.allows effect ns at' := by
    rw [Bool.eq_iff_iff, List.any_eq_true, List.any_eq_true]
    constructor
    · rintro ⟨grant, hgrant, hallow⟩
      exact ⟨grant, (List.mem_filter.1 hgrant).1, hallow⟩
    · rintro ⟨grant, hgrant, hallow⟩
      refine ⟨grant, List.mem_filter.2 ⟨hgrant, h grant hgrant ?_⟩, hallow⟩
      exact (Bool.and_eq_true_iff.1 hallow).2
  unfold authorizeMemoryAccess
  rw [hany]

section
variable {db : PooledDb} {grantId : MemoryGrantId}

/-- The grants of a profile without one of them. -/
theorem PooledDb.grantsOf_withoutGrant (profile : MemoryProfileId) (storeId : String) :
    ((db.withoutGrant grantId).grantsOf profile storeId).map MemoryAccessGrantRow.grant =
      ((db.grantsOf profile storeId).map MemoryAccessGrantRow.grant).filter
        fun grant => !decide (grant.grantId = grantId) := by
  rw [List.filter_map]
  unfold grantsOf
  rw [Lists.filter_insertionSort]
  simp only [withoutGrant, Table.delete, List.filter_filter]
  congr 3
  funext row
  exact Bool.and_comm _ _

variable (hrev : ∀ row ∈ db.memoryAccessGrants.rows, row.grantId = grantId →
  row.window.revokedAt ≠ none)
include hrev

/-- A revoked grant allows nothing. -/
theorem PooledDb.ne_of_allows {profile : MemoryProfileId} {storeId ns : String}
    {effect : MemoryAccessEffect} {at' : UInt64} :
    ∀ grant ∈ (db.grantsOf profile storeId).map MemoryAccessGrantRow.grant,
      grant.allows effect ns at' = true → (!decide (grant.grantId = grantId)) = true := by
  rintro _ hgrant hallow
  obtain ⟨row, hrow, rfl⟩ := List.mem_map.1 hgrant
  obtain ⟨-, -, hopen, -⟩ := MemoryAccessGrantRow.grant_allows.1 hallow
  simp only [Bool.not_eq_true', decide_eq_false_iff_not]
  exact fun hid => hrev row (PooledDb.mem_grantsOf.1 hrow).1 hid hopen

/-- A database decides as without a revoked grant. -/
theorem sameDecisions_withoutGrant : SameDecisions M P db (db.withoutGrant grantId) := by
  refine ⟨fun requester storeId ns effect at' => ?_, fun actor at' => rfl,
    fun s x hx actor effect namespaces at' => ?_⟩
  · have hdecide : ∀ profile store, (db.memoryGrants requester storeId >>= fun grants =>
          authorizeMemoryAccess requester profile store grants effect ns at') =
        (db.withoutGrant grantId).memoryGrants requester storeId >>= fun grants =>
          authorizeMemoryAccess requester profile store grants effect ns at' := by
      intro profile store
      rw [PooledDb.memoryGrants_eq, PooledDb.memoryGrants_eq, PooledDb.grantsOf_withoutGrant]
      exact (authorizeMemoryAccess_filter (PooledDb.ne_of_allows hrev)).symm
    simp only [PooledDb.authorizeMemoryAccess, hdecide]
    rfl
  · have hresolve : ∀ actor at', db.resolveActorProfile P actor at' =
        (db.withoutGrant grantId).resolveActorProfile P actor at' := fun _ _ => rfl
    refine snapshot_congr hresolve rfl (fun subject store => ?_) s hx actor effect namespaces at'
    have hallows : ∀ grant ∈ (db.grantsOf subject.binding.profileId store.storeId).map
        MemoryAccessGrantRow.grant,
        grant.allows subject.effect store.namespace subject.evaluatedAt = true →
          (!decide (grant.grantId = grantId)) = true := PooledDb.ne_of_allows hrev
    have hentry : subject.entry store (((db.grantsOf subject.binding.profileId store.storeId).map
        MemoryAccessGrantRow.grant).filter fun grant => !decide (grant.grantId = grantId)) =
        subject.entry store ((db.grantsOf subject.binding.profileId store.storeId).map
          MemoryAccessGrantRow.grant) := by
      unfold Subject.entry
      rw [List.filter_filter, List.filter_congr fun grant hgrant => ?_]
      cases hallow : grant.allows subject.effect store.namespace subject.evaluatedAt with
      | false => rfl
      | true => rw [hallows grant hgrant hallow]; rfl
    unfold Subject.admits
    simp only [PooledDb.grantsOf_withoutGrant, authorizeMemoryAccess_filter hallows, hentry]

end

/-! ## Revoked bindings -/

/-- The database without a binding. -/
def PooledDb.withoutBinding (db : PooledDb) (bindingId : ActorProfileBindingId) : PooledDb :=
  { db with actorProfileBindings := db.actorProfileBindings.delete (·.bindingId = bindingId) }

/-- A database decides as without a revoked binding: the resolution query leaves it out. -/
theorem sameDecisions_withoutBinding {db : PooledDb} {bindingId : ActorProfileBindingId}
    (hrev : ∀ row ∈ db.actorProfileBindings.rows, row.bindingId = bindingId →
      row.window.revokedAt ≠ none) : SameDecisions M P db (db.withoutBinding bindingId) := by
  have hactive : ∀ actor at', (db.withoutBinding bindingId).activeBindings actor at' =
      db.activeBindings actor at' := by
    intro actor at'
    simp only [PooledDb.activeBindings, PooledDb.withoutBinding, Table.delete,
      List.filterMap_filter]
    refine List.filterMap_congr fun row hrow => ?_
    by_cases hid : row.bindingId = bindingId
    · have hnone : row.window.revokedAt.isNone ≠ true := by
        simpa using hrev row hrow hid
      rw [if_neg (by simp [hid]), if_neg fun h => hnone h.2.1]
    · rw [if_pos (by simp [hid])]
      rfl
  have hresolve : ∀ actor at', db.resolveActorProfile P actor at' =
      (db.withoutBinding bindingId).resolveActorProfile P actor at' := by
    intro actor at'
    simp only [PooledDb.resolveActorProfile, hactive]
  exact ⟨fun _ _ _ _ _ => rfl, hresolve,
    fun s x hx => snapshot_congr hresolve rfl (fun _ _ => rfl) s hx⟩

/-! ## Revocations are for good -/

section
variable {db db' : PooledDb} {call : ControlCall}

/-- A grant that is revoked stays so. -/
theorem ControlCall.Does.keepsRevokedGrant {grantId : MemoryGrantId} (h : call.Does P db db')
    (hrev : ∃ row, db.memoryAccessGrants.find? grantId = some row ∧ row.window.revokedAt ≠ none) :
    ∃ row, db'.memoryAccessGrants.find? grantId = some row ∧ row.window.revokedAt ≠ none := by
  obtain ⟨row, hfind, hrow⟩ := hrev
  cases h with
  | granted _ _ _ _ hins => exact ⟨row, Table.find?_insert_of_some hins hfind, hrow⟩
  | @revoked id revokedAt old window _ _ hwindow =>
    have hset := (Window.revoke?_cast hwindow).2.2.1
    refine ⟨_, by rw [Table.find?_update, hfind]; rfl, ?_⟩
    dsimp only
    split
    · simp [hset]
    · exact hrow
  | _ => exact ⟨row, hfind, hrow⟩

/-- A binding that is revoked stays so. -/
theorem ControlCall.Does.keepsRevokedBinding {bindingId : ActorProfileBindingId}
    (h : call.Does P db db')
    (hrev : ∃ row, db.actorProfileBindings.find? bindingId = some row ∧
      row.window.revokedAt ≠ none) :
    ∃ row, db'.actorProfileBindings.find? bindingId = some row ∧ row.window.revokedAt ≠ none := by
  obtain ⟨row, hfind, hrow⟩ := hrev
  cases h with
  | bound _ _ hins => exact ⟨row, Table.find?_insert_of_some hins hfind, hrow⟩
  | @unbound id revokedAt old window _ _ _ hwindow =>
    have hset := (Window.revoke?_cast hwindow).2.2.1
    refine ⟨_, by rw [Table.find?_update, hfind]; rfl, ?_⟩
    dsimp only
    split
    · simp [hset]
    · exact hrow
  | _ => exact ⟨row, hfind, hrow⟩

end

/-! ## Revoking -/

namespace Window

/-- The `CHECK` on a revocation: not before the window starts. -/
theorem revoke?_isSome {w : Window} {revokedAt : UInt64} (hat : revokedAt.toNat < 2 ^ 63)
    (h : w.validFrom.toInt ≤ revokedAt.toNat) : ∃ w', w.revoke? revokedAt.toInt64 = some w' := by
  unfold revoke? check?
  rw [dif_pos]
  · exact ⟨_, rfl⟩
  · refine ⟨w.starts, w.ends, ?_⟩
    simpa [Int64.le_iff_toInt_le, toInt_toInt64 hat] using h

/-- No window is revoked before it begins. -/
theorem revoke?_eq_none {w : Window} {revokedAt : UInt64} (hat : revokedAt.toNat < 2 ^ 63)
    (h : ¬ w.validFrom.toInt ≤ revokedAt.toNat) : w.revoke? revokedAt.toInt64 = none := by
  unfold revoke? check?
  refine dif_neg fun hchecks => h ?_
  have hle := hchecks.2.2
  rw [Option.all_some, decide_eq_true_eq, Int64.le_iff_toInt_le, toInt_toInt64 hat] at hle
  exact hle

end Window

section
variable {db : PooledDb} {x : Choice} (hx : x.fault = none) {revokedAt : UInt64}
  (hat : revokedAt.toNat < 2 ^ 63)
include hx hat

/-- `revoke_memory_access` of an unrevoked grant. -/
theorem revokeMemoryAccess_exec {grantId : MemoryGrantId} {row : MemoryAccessGrantRow}
    (hfind : db.memoryAccessGrants.find? grantId = some row) (hopen : row.window.revokedAt = none) :
    (row.window.validFrom.toInt ≤ revokedAt.toNat → ∃ db',
      (revokeMemoryAccess grantId revokedAt).exec db x = .ok ((), db') ∧
      ∃ row', db'.memoryAccessGrants.find? grantId = some row' ∧ row'.window.revokedAt ≠ none) ∧
    (¬ row.window.validFrom.toInt ≤ revokedAt.toNat →
      (revokeMemoryAccess grantId revokedAt).exec db x =
        .error (.database "CHECK constraint failed: memory_access_grants")) := by
  have hfilter : (db.memoryAccessGrants.find? grantId).filter (·.window.revokedAt.isNone) =
      some row := by simp [hfind, hopen]
  refine ⟨fun hle => ?_, fun hlt => ?_⟩
  · obtain ⟨window, hwindow⟩ := Window.revoke?_isSome hat hle
    have hset := (Window.revoke?_cast hwindow).2.2.1
    have hid := (Table.find?_eq_some.1 hfind).2
    refine ⟨_, by
      simp only [Method.exec, revokeMemoryAccess, hx, hfilter, hwindow, okOr, bind, Except.bind]
      rfl, { row with window := window }, ?_, by simp [hset]⟩
    rw [Table.find?_update, hfind]
    simp [hid]
  · simp only [Method.exec, revokeMemoryAccess, hx, hfilter, Window.revoke?_eq_none hat hlt, okOr,
      bind, Except.bind]

/-- `revoke_actor_profile_binding` of an unrevoked binding. -/
theorem revokeActorProfileBinding_exec {bindingId : ActorProfileBindingId}
    {row : ActorProfileBindingRow} (hfind : db.actorProfileBindings.find? bindingId = some row)
    (hopen : row.window.revokedAt = none) :
    (row.window.validFrom.toInt ≤ revokedAt.toNat → ∃ db',
      (revokeActorProfileBinding bindingId revokedAt).exec db x = .ok ((), db') ∧
      ∃ row', db'.actorProfileBindings.find? bindingId = some row' ∧
        row'.window.revokedAt ≠ none) ∧
    (¬ row.window.validFrom.toInt ≤ revokedAt.toNat →
      (revokeActorProfileBinding bindingId revokedAt).exec db x =
        .error (.database "CHECK constraint failed: actor_profile_bindings")) := by
  have hfilter : (db.actorProfileBindings.find? bindingId).filter (·.window.revokedAt.isNone) =
      some row := by simp [hfind, hopen]
  refine ⟨fun hle => ?_, fun hlt => ?_⟩
  · obtain ⟨window, hwindow⟩ := Window.revoke?_isSome hat hle
    have hset := (Window.revoke?_cast hwindow).2.2.1
    have hid := (Table.find?_eq_some.1 hfind).2
    refine ⟨_, by
      simp only [Method.exec, revokeActorProfileBinding, bindingInteger, i64TryFrom_of_lt hat, hx,
        hfilter, hwindow, okOr, bind, Except.bind]
      rfl, { row with window := window }, ?_, by simp [hset]⟩
    rw [Table.find?_update, hfind]
    simp [hid]
  · simp only [Method.exec, revokeActorProfileBinding, bindingInteger, i64TryFrom_of_lt hat, hx,
      hfilter, Window.revoke?_eq_none hat hlt, okOr, bind, Except.bind, pure, Except.pure]

end

end Mnemes
