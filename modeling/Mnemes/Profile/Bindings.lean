import Mnemes.Profile.Runs

/-!
# The subject of an actor

`resolve_actor_profile` reads the bindings of an actor that are open at a time, each joined with its
actor, its profile and their devices. In a reachable database at most one is open, so a failure is
never for two of them, and a binding that is returned is one whose rows fit together
(`PooledDb.Resolves`).
-/

namespace Mnemes

open Relational

namespace ActorProfileBindingRow

/-- The binding a row is read back as. -/
def binding (row : ActorProfileBindingRow) : ActorProfileBinding where
  bindingId := row.bindingId
  actorId := row.actorId
  profileId := row.profileId
  ownerDeviceId := row.ownerDeviceId
  issuedByActorId := row.issuedByActorId
  validFrom := row.window.validFrom.toUInt64
  expiresAt := row.window.expiresAt.toUInt64
  revokedAt := row.window.revokedAt.map (·.toUInt64)
  bindingEpoch := row.bindingEpoch.toUInt64
  bindingDigest := row.bindingDigest
  recordedAt := row.recordedAt

/-- Every stored binding reads back. -/
theorem read_eq (row : ActorProfileBindingRow) : row.read = .ok row.binding := by
  have hrev : row.window.revokedAt.mapM (readBindingInteger "revoked_at") =
      .ok (row.window.revokedAt.map (·.toUInt64)) := by
    cases hr : row.window.revokedAt with
    | none => rfl
    | some r =>
      simp [readBindingInteger, okOr, u64TryFrom_of_nonneg (row.window.revokedAt_nonneg hr)]
  have hepoch : 0 ≤ row.bindingEpoch := Int64.le_of_lt row.epoch_pos
  unfold read
  simp only [readBindingInteger, okOr, u64TryFrom_of_nonneg row.window.starts,
    u64TryFrom_of_nonneg row.window.expiresAt_nonneg, u64TryFrom_of_nonneg hepoch]
  rw [hrev]
  rfl

end ActorProfileBindingRow

/-- The comparisons of the resolution query, in terms of the window. -/
theorem Window.openAt_iff {w : Window} {at' : UInt64} (h : at'.toNat < 2 ^ 63) :
    w.revokedAt.isNone = true ∧ w.validFrom ≤ at'.toInt64 ∧ at'.toInt64 < w.expiresAt ↔
      w.OpenAt at' := by
  rw [Int64.le_iff_toInt_le, Int64.lt_iff_toInt_lt, toInt_toInt64 h, Option.isNone_iff_eq_none]
  rfl

namespace PooledDb

variable {P : Platform} {db : PooledDb} {actor : ActorId} {at' : UInt64}

/-- A row the resolution query returns: an open binding of the actor, joined. -/
theorem activeBindings_row {row : ActorProfileBindingRow} {r : ResolvedRow}
    (hat : at'.toNat < 2 ^ 63)
    (h : (if row.actorId = actor ∧ row.window.revokedAt.isNone ∧
        row.window.validFrom ≤ at'.toInt64 ∧ at'.toInt64 < row.window.expiresAt then do
      let (actor, actorDevice) ← db.actorOnDevice row.actorId
      let (profile, profileDevice) ← db.profileOnDevice row.profileId
      return (⟨row, actor, actorDevice, profile, profileDevice⟩ : ResolvedRow)
    else none) = some r) :
    r.binding = row ∧ row.actorId = actor ∧ row.window.OpenAt at' ∧
      db.actorOnDevice actor = some (r.actor, r.actorDevice) ∧
      db.profileOnDevice row.profileId = some (r.profile, r.profileDevice) := by
  split at h
  · next hopen =>
    obtain ⟨rfl, hopen⟩ := hopen
    obtain ⟨⟨a, ad⟩, ha, h⟩ := Option.bind_eq_some_iff.1 h
    obtain ⟨⟨p, pd⟩, hp, h⟩ := Option.bind_eq_some_iff.1 h
    cases h
    exact ⟨rfl, rfl, (Window.openAt_iff hat).1 hopen, ha, hp⟩
  · cases h

/-- At most one binding of an actor is open at a time. -/
theorem BindingsDisjoint.unique (hd : db.BindingsDisjoint) {row row' : ActorProfileBindingRow}
    (h : row ∈ db.actorProfileBindings.rows) (h' : row' ∈ db.actorProfileBindings.rows)
    (ha : row.actorId = actor) (ha' : row'.actorId = actor)
    (ho : row.window.OpenAt at') (ho' : row'.window.OpenAt at') : row = row' := by
  obtain ⟨hr, hf, hx⟩ := ho
  obtain ⟨hr', hf', hx'⟩ := ho'
  refine hd row h row' h' (ha.trans ha'.symm) hr hr' ?_ ?_
  · rw [Int64.lt_iff_toInt_lt]
    omega
  · rw [Int64.lt_iff_toInt_lt]
    omega

/-- The resolution query never returns two rows: their bindings would be open at one time. -/
theorem activeBindings_le_one (hd : db.BindingsDisjoint) (hat : at'.toNat < 2 ^ 63) :
    (db.activeBindings actor at'.toInt64).length ≤ 1 := by
  match hrows : db.activeBindings actor at'.toInt64 with
  | [] => simp
  | [_] => simp
  | first :: second :: rest =>
    unfold activeBindings at hrows
    obtain ⟨before, row, after, hsplit, -, hfirst, hrest⟩ := List.filterMap_eq_cons_iff.1 hrows
    obtain ⟨between, row', after', rfl, -, hsecond, -⟩ := List.filterMap_eq_cons_iff.1 hrest
    obtain ⟨-, ha, ho, -⟩ := activeBindings_row hat hfirst
    obtain ⟨-, ha', ho', -⟩ := activeBindings_row hat hsecond
    have hrow : row ∈ db.actorProfileBindings.rows := by simp [hsplit]
    have hrow' : row' ∈ db.actorProfileBindings.rows := by simp [hsplit]
    have heq := hd.unique hrow hrow' ha ha' ho ho'
    subst heq
    have hnodup := db.actorProfileBindings.nodup
    rw [hsplit] at hnodup
    simp [List.nodup_append] at hnodup

/-- What the resolution of an actor at a time establishes of the binding it returns: it is stored
and open, the actor and the active profile belong to its active owner device, and its digest is that
of its issuance fields. -/
structure Resolves (P : Platform) (db : PooledDb) (actor : ActorId) (at' : UInt64)
    (binding : ActorProfileBinding) : Prop where
  stored : ∃ row ∈ db.actorProfileBindings.rows, row.binding = binding ∧ row.window.OpenAt at'
  subject : binding.actorId = actor
  actorOwner : ∃ a d, db.actorOnDevice actor = some (a, d) ∧
    d.deviceId = binding.ownerDeviceId ∧ d.status = .active
  profileOwner : ∃ p d, db.profileOnDevice binding.profileId = some (p, d) ∧ p.status = .active ∧
    d.deviceId = binding.ownerDeviceId ∧ d.status = .active
  digest : binding.bindingDigest = binding.expectedDigest P

/-- The device a join finds is the one the row names. -/
theorem actorOnDevice_deviceId {a : Actor} {d : Device}
    (h : db.actorOnDevice actor = some (a, d)) : d.deviceId = a.deviceId :=
  (Table.find?_eq_some.1 (actorOnDevice_eq_some.1 h).2).2

/-- The device that a profile is found with is its owner. -/
theorem profileOnDevice_deviceId {profile : MemoryProfileId} {p : MemoryProfile} {d : Device}
    (h : db.profileOnDevice profile = some (p, d)) : d.deviceId = p.ownerDeviceId :=
  (Table.find?_eq_some.1 (profileOnDevice_eq_some.1 h).2).2

/-- A validated binding carries the digest of its fields. -/
theorem validate_digest {binding : ActorProfileBinding} (h : binding.validate P = .ok ()) :
    binding.bindingDigest = binding.expectedDigest P := by
  simp only [ActorProfileBinding.validate, guard_eq_ok, throw_guard_eq_ok, Bool.or_eq_true, not_or,
    decide_eq_true_eq, not_not] at h
  exact h.2.2.2.2

/-- A resolution that succeeds returns a binding that resolves the actor. -/
theorem resolveActorProfile_sound (hat : at'.toNat < 2 ^ 63) {binding : ActorProfileBinding}
    (h : db.resolveActorProfile P actor at'.toInt64 = .ok binding) :
    db.Resolves P actor at' binding := by
  unfold resolveActorProfile at h
  split at h
  · cases h
  · next row hrows =>
    obtain ⟨stored, hstored, hjoin⟩ := List.mem_filterMap.1 (show row ∈
      db.activeBindings actor at'.toInt64 by simp [hrows])
    obtain ⟨hbinding, ha, ho, hactor, hprofile⟩ := activeBindings_row hat hjoin
    simp only [bind_eq_ok, guard_eq_ok, ActorProfileBindingRow.read_eq, Bool.or_eq_true, not_or,
      decide_eq_true_eq, not_not] at h
    obtain ⟨_, hread, ⟨⟩, hvalid, ⟨⟨⟨⟨h1, h2⟩, h3⟩, h4⟩, h5⟩, h⟩ := h
    cases hread
    cases h
    rw [hbinding] at h1 h2 hvalid ⊢
    exact ⟨⟨stored, hstored, rfl, ho⟩, ha,
      ⟨_, _, hactor, (actorOnDevice_deviceId hactor).trans h1, h3⟩,
      ⟨_, _, hprofile, h4, (profileOnDevice_deviceId hprofile).trans h2, h5⟩,
      validate_digest hvalid⟩
  · cases h

/-- A resolution never fails for two open bindings. -/
theorem resolveActorProfile_ne_multiple (hd : db.BindingsDisjoint) (hat : at'.toNat < 2 ^ 63) :
    db.resolveActorProfile P actor at'.toInt64 ≠
      .error (.actorProfileBindingDenied "multiple active bindings exist for this actor") := by
  unfold resolveActorProfile
  split
  · simp
  · intro h
    simp only [ActorProfileBindingRow.read_eq, ActorProfileBinding.validate, bind_eq_error,
      guard_eq_error, throw_guard_eq_error] at h
    simp [pure, Except.pure] at h
  · next rows h0 h1 =>
    have hle : (db.activeBindings actor at'.toInt64).length ≤ 1 := activeBindings_le_one hd hat
    match hrows : db.activeBindings actor at'.toInt64 with
    | [] => exact absurd hrows h0
    | [row] => exact absurd hrows (h1 row)
    | _ :: _ :: _ => simp [hrows] at hle

end PooledDb

/-- In every reachable database at most one unrevoked binding of an actor is open at a time, so
resolving the actor never fails for several of them, and whenever it succeeds it leaves the database
as it is and its binding resolves the actor. -/
theorem unique_subject {P : Platform} {db : PooledDb} (hdb : Reachable P db) (actor : ActorId)
    (at' : UInt64) (x : Choice) :
    (∀ row ∈ db.actorProfileBindings.rows, ∀ row' ∈ db.actorProfileBindings.rows,
      row.actorId = actor → row'.actorId = actor → row.window.OpenAt at' →
      row'.window.OpenAt at' → row = row') ∧
    (resolveActorProfile P actor at').exec db x ≠
      .error (.actorProfileBindingDenied "multiple active bindings exist for this actor") ∧
    ∀ binding db', (resolveActorProfile P actor at').exec db x = .ok (binding, db') →
      db' = db ∧ db.Resolves P actor at' binding := by
  have hd := hdb.bindingsDisjoint
  refine ⟨fun row h row' h' ha ha' ho ho' => hd.unique h h' ha ha' ho ho', fun herr => ?_,
    fun binding db' hok => ?_⟩
  · rcases Method.exec_eq_error herr with hcheck | ⟨error, he⟩ | ⟨hcheck, hbody⟩
    · simp only [resolveActorProfile, bind_eq_error, bindingInteger, okOr] at hcheck
      split at hcheck <;> simp [pure, Except.pure] at hcheck
    · cases he
    · simp only [resolveActorProfile, bind_eq_ok, bindingInteger_eq_ok] at hcheck hbody
      obtain ⟨i, hi, -⟩ := hcheck
      cases hr : db.resolveActorProfile P actor at'.toInt64 with
      | ok binding => simp [hr, Except.map] at hbody
      | error e =>
        simp only [hr, Except.map, Except.error.injEq] at hbody
        exact PooledDb.resolveActorProfile_ne_multiple hd (i64TryFrom_eq_some hi).1
          (hr.trans (congrArg _ hbody))
  · obtain ⟨hcheck, -, es, hbody⟩ := Method.exec_eq_ok.1 hok
    simp only [resolveActorProfile, bind_eq_ok, bindingInteger_eq_ok] at hcheck hbody
    obtain ⟨i, hi, -⟩ := hcheck
    cases hr : db.resolveActorProfile P actor at'.toInt64 with
    | error e => simp [hr, Except.map] at hbody
    | ok b =>
      simp only [hr, Except.map, Except.ok.injEq, Prod.mk.injEq] at hbody
      obtain ⟨rfl, rfl, -⟩ := hbody
      exact ⟨rfl, PooledDb.resolveActorProfile_sound (i64TryFrom_eq_some hi).1 hr⟩

open Sample in
/-- Alice resolves to her profile, and to no other one. -/
theorem unique_subject_sample : ∃ resolved,
    (resolveActorProfile digests alice 50).exec shared step = .ok (resolved, shared) ∧
      shared.Resolves digests alice 50 resolved := by
  have hok : ((resolveActorProfile digests alice 50).exec shared step).toOption.any
      (fun r => r.1.bindingId = binding.bindingId) = true := by decide +kernel
  obtain ⟨⟨resolved, db⟩, hr, -⟩ := ok_of_any hok
  obtain ⟨rfl, hres⟩ := (unique_subject shared_reachable alice 50 step).2.2 resolved db hr
  exact ⟨resolved, hr, hres⟩

end Mnemes
