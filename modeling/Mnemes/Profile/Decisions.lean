import Mnemes.Profile.Authorization
import Mnemes.Profile.Bindings

/-!
# The two ways to an authorization

A snapshot admits a store exactly where `authorize_memory_access` allows the bound profile to use it
(`authorization_paths_agree`), since both decide the access policy. What the policy demands of a
grant was established when the grant was issued, and nothing has changed it since
(`least_privilege`).
-/

namespace Mnemes

open Concurrency Relational

variable {M : SemanticMemory}

/-! ## Snapshots decide the policy -/

namespace PooledDb

variable {P : Platform} {db : PooledDb} {actor : ActorId} {effect : MemoryAccessEffect}
  {namespaces : Option (List String)} {at' : UInt64}

/-- The stores that are listed are the live ones. -/
theorem mem_liveStores {store : MemoryStoreIdentity} :
    store ∈ db.liveStores ↔ store ∈ db.memoryStores.rows ∧ db.StoreLive store := by
  simp only [liveStores, List.mem_insertionSort, List.mem_filter, Bool.and_eq_true,
    decide_eq_true_eq, Option.any_eq_true, Prod.exists, StoreLive]

/-- A resolved profile is live. -/
theorem Resolves.profileLive {binding : ActorProfileBinding} (h : db.Resolves P actor at' binding) :
    db.ProfileLive binding.profileId := by
  obtain ⟨p, d, hp, hpa, -, hda⟩ := h.profileOwner
  exact ⟨p, d, hp, hpa, hda⟩

/-- The loop admits a live store that the request asks for and the policy opens. -/
theorem admits_eq_some {subject : Subject} {store : MemoryStoreIdentity}
    {entry : AuthorizedMemoryStore} :
    subject.admits db store = some entry ↔
      subject.requests store = true ∧ store.status = .active ∧
        db.Permits subject.binding.profileId store subject.effect subject.evaluatedAt ∧
        subject.entry store ((db.grantsOf subject.binding.profileId store.storeId).map
          MemoryAccessGrantRow.grant) = entry := by
  have hdecides := @authorizeMemoryAccess_eq_ok db subject.binding.profileId subject.profile store
    subject.effect store.namespace subject.evaluatedAt
  have hok : ∀ r : Except MnemesError Unit, r.isOk = true ↔ r = .ok () := by
    intro r
    cases r <;> simp [Except.isOk, Except.toBool]
  unfold Subject.admits
  dsimp only
  rw [Option.ite_none_right_eq_some, Bool.and_eq_true, hok, hdecides, Option.some.injEq]
  constructor
  · rintro ⟨⟨hreq, -, -, hactive, -, hpermits⟩, hentry⟩
    exact ⟨hreq, hactive, hpermits, hentry⟩
  · rintro ⟨hreq, hactive, hpermits, hentry⟩
    exact ⟨⟨hreq, rfl, rfl, hactive, rfl, hpermits⟩, hentry⟩

/-- A store passes the filter of a request if its namespace is named, or none is. -/
theorem requests_iff {subject : Subject} {store : MemoryStoreIdentity} :
    subject.requests store = true ↔
      subject.requestedNamespaces = [] ∨ store.namespace ∈ subject.requestedNamespaces := by
  simp [Subject.requests]

/-- The stores of a snapshot: those the request asks for and the policy opens to the bound
profile. -/
theorem snapshot_stores {snapshot : AuthorizationSnapshot} (hat : at'.toNat < 2 ^ 63)
    {binding : ActorProfileBinding} (hb : db.resolveActorProfile P actor at'.toInt64 = .ok binding)
    (h : db.snapshot P actor effect namespaces at' = .ok snapshot) {storeId : String} :
    (∃ entry ∈ snapshot.authorizedStores, entry.storeId = storeId) ↔
      ∃ store, db.memoryStores.find? storeId = some store ∧
        (namespaces.getD [] = [] ∨ store.namespace ∈ namespaces.getD []) ∧
        db.Authorized binding.profileId storeId store.namespace effect at' := by
  have hlive := (resolveActorProfile_sound hat hb).profileLive
  simp only [PooledDb.snapshot, hb, bindingInteger, i64TryFrom_of_lt hat, okOr, bind, Except.bind,
    pure, Except.pure, Except.ok.injEq] at h
  subst h
  simp only [AuthorizationSnapshot.new, List.mem_map, List.mem_insertionSort, List.mem_filterMap,
    mem_liveStores, admits_eq_some]
  constructor
  · rintro ⟨_, ⟨_, ⟨store, ⟨hstore, hstoreLive⟩, hreq, -, hpermits, rfl⟩, rfl⟩, rfl⟩
    have hfind := Table.find?_eq_some.2 ⟨hstore, rfl⟩
    exact ⟨store, hfind, requests_iff.1 hreq, hlive, store, hfind, hstoreLive, rfl, hpermits⟩
  · rintro ⟨store, hfind, hreq, -, store', hfind', hstoreLive, -, hpermits⟩
    cases hfind.symm.trans hfind'
    obtain ⟨hstore, rfl⟩ := Table.find?_eq_some.1 hfind
    exact ⟨_, ⟨_, ⟨store, ⟨hstore, hstoreLive⟩, requests_iff.2 hreq, hstoreLive.1, hpermits, rfl⟩,
      rfl⟩, rfl⟩

end PooledDb

/-! ## The methods of the decision -/

section
variable {P : Platform} {db db' : PooledDb} {x : Choice} (hx : x.fault = none) {at' : UInt64}
include hx

/-- `MnemesStore::authorize_memory_access` decides the policy, and changes nothing. -/
theorem authorizeMemoryAccessMethod_eq_ok (hv : db.StoresValid) {profile : MemoryProfileId}
    {storeId ns : String} {effect : MemoryAccessEffect} :
    (authorizeMemoryAccessMethod profile storeId ns effect at').exec db x = .ok ((), db') ↔
      db' = db ∧ db.Authorized profile storeId ns effect at' := by
  rw [← PooledDb.authorizeMemoryAccess_iff hv]
  simp only [Method.exec_eq_ok, authorizeMemoryAccessMethod, hx, true_and]
  cases db.authorizeMemoryAccess profile storeId ns effect at' with
  | error e => simp [Except.map]
  | ok u => simp [Except.map, eq_comm]

/-- A resolution that succeeds, with the time in the range of the database. -/
theorem resolveActorProfile_eq_ok {actor : ActorId} {binding : ActorProfileBinding} :
    (resolveActorProfile P actor at').exec db x = .ok (binding, db') ↔
      db' = db ∧ at'.toNat < 2 ^ 63 ∧
        db.resolveActorProfile P actor at'.toInt64 = .ok binding := by
  simp only [Method.exec_eq_ok, resolveActorProfile, hx, true_and, bind_eq_ok,
    bindingInteger_eq_ok, i64TryFrom]
  by_cases hat : at'.toNat < 2 ^ 63
  · simp only [hat, if_true]
    cases db.resolveActorProfile P actor at'.toInt64 with
    | error e => simp [Except.map]
    | ok b => simp [Except.map, pure, Except.pure, eq_comm, and_comm]
  · simp only [hat, false_and, and_false, if_false, reduceCtorEq, exists_false]

end

/-- The deployment after the run. -/
def Sample.sharedStore : MnemesStore (journalMemory "notes") where
  db := shared
  gate _ := none
  shards _ := []

section
variable {P : Platform} {db db' : PooledDb} {call : ControlCall}

/-- Only its registration brings a store with its namespace into the database. -/
theorem ControlCall.Does.registers {storeId ns : String} (h : call.Does P db db')
    (hn : ¬ ∃ store, db.memoryStores.find? storeId = some store ∧ store.namespace = ns)
    (hs : ∃ store, db'.memoryStores.find? storeId = some store ∧ store.namespace = ns) :
    ∃ identity, call = .registerMemoryStore identity ∧ identity.storeId = storeId ∧
      identity.namespace = ns := by
  cases h with
  | @registeredStore identity now memoryStores hvalid hins =>
    obtain ⟨store, hfind, hns⟩ := hs
    rw [Table.find?_insert hins] at hfind
    split at hfind
    · next hid =>
      cases hfind
      exact ⟨identity, rfl, hid, hns⟩
    · exact absurd ⟨store, hfind, hns⟩ hn
  | @storeStatusSet id status =>
    obtain ⟨store, hfind, hns⟩ := hs
    simp only [Table.find?_update] at hfind
    obtain ⟨old, hold, rfl⟩ := Option.map_eq_some_iff.1 hfind
    refine absurd ⟨old, hold, ?_⟩ hn
    split at hns
    · exact hns
    · exact hns
  | _ => exact absurd hs hn

/-- Only its issuance by an operator brings an unrevoked grant into the database. -/
theorem ControlCall.Does.grants {row : MemoryAccessGrantRow} (h : call.Does P db db')
    (hrev : row.window.revokedAt = none)
    (hn : ¬ db.memoryAccessGrants.find? row.grantId = some row)
    (hs : db'.memoryAccessGrants.find? row.grantId = some row) :
    ∃ grant now, call = .grantMemoryAccess grant ∧ grant.row? now = some row ∧
      db.issuerIsOperator grant.issuedByActorId = true := by
  cases h with
  | @granted grant store new now grants hissuer hstore hns hnew hins =>
    rw [Table.find?_insert hins] at hs
    split at hs
    · cases hs
      exact ⟨grant, now, rfl, hnew, hissuer⟩
    · exact absurd hs hn
  | @revoked grantId revokedAt old window hfind hopen hwindow =>
    simp only [Table.find?_update] at hs
    obtain ⟨found, hfound, heq⟩ := Option.map_eq_some_iff.1 hs
    split at heq
    · subst heq
      obtain ⟨-, -, hrevoked, -⟩ := Window.revoke?_cast hwindow
      rw [hrevoked] at hrev
      cases hrev
    · subst heq
      exact absurd hfound hn
  | _ => exact absurd hs hn

end

/-- The store was registered with the namespace by a call of the run, and has had it since. -/
def RegisteredWith (P : Platform) (db₀ : PooledDb) (calls : List (ControlCall × Choice))
    (storeId «namespace» : String) : Prop :=
  ∃ pre identity x post, calls = pre ++ (.registerMemoryStore identity, x) :: post ∧
    identity.storeId = storeId ∧ identity.namespace = «namespace» ∧
    ∀ mid, mid <+: post → ∃ store,
      (controlRun P db₀ (pre ++ (.registerMemoryStore identity, x) :: mid)).memoryStores.find?
        storeId = some store ∧ store.namespace = «namespace»

/-- The grant was issued by a call of the run, by an operator on a device that was active then, and
has been stored as it was issued since: in particular it was never revoked. -/
def Issued (P : Platform) (db₀ : PooledDb) (calls : List (ControlCall × Choice))
    (row : MemoryAccessGrantRow) : Prop :=
  ∃ pre grant x post now, calls = pre ++ (.grantMemoryAccess grant, x) :: post ∧
    grant.row? now = some row ∧
    (∃ a d, (controlRun P db₀ pre).actors.find? row.issuedByActorId = some a ∧
      (controlRun P db₀ pre).devices.find? a.deviceId = some d ∧ a.toolProfile = .operator ∧
      d.status = .active) ∧
    ∀ mid, mid <+: post →
      (controlRun P db₀ (pre ++ (.grantMemoryAccess grant, x) :: mid)).memoryAccessGrants.find?
        row.grantId = some row

section
variable {P : Platform} {db₀ : PooledDb} {calls : List (ControlCall × Choice)}

/-- A store of a run was registered by one of its calls. -/
theorem registeredWith_of_run (h₀ : db₀.Fresh) {storeId ns : String}
    (h : ∃ store, (controlRun P db₀ calls).memoryStores.find? storeId = some store ∧
      store.namespace = ns) : RegisteredWith P db₀ calls storeId ns := by
  have hn : ¬ ∃ store, db₀.memoryStores.find? storeId = some store ∧ store.namespace = ns := by
    rintro ⟨store, hfind, -⟩
    have hmem := (Table.find?_eq_some.1 hfind).1
    rw [h₀.stores] at hmem
    cases hmem
  obtain ⟨pre, call, post, rfl, hpre, hpost⟩ := Lists.exists_since
    (Q := fun db : PooledDb =>
      ∃ store, db.memoryStores.find? storeId = some store ∧ store.namespace = ns)
    hn h
  have hcall := hpost [] List.nil_prefix
  rw [List.foldl_append] at hcall
  obtain ⟨identity, hidentity, hid, hns⟩ := (call.1.next_does P _ call.2).registers hpre hcall
  obtain ⟨_, x⟩ := call
  cases hidentity
  exact ⟨pre, identity, x, post, rfl, hid, hns, hpost⟩

/-- A grant that is not revoked was issued by a call of the run. -/
theorem issued_of_run (h₀ : db₀.Fresh) {row : MemoryAccessGrantRow}
    (hrow : row ∈ (controlRun P db₀ calls).memoryAccessGrants.rows)
    (hrev : row.window.revokedAt = none) : Issued P db₀ calls row := by
  have hn : ¬ db₀.memoryAccessGrants.find? row.grantId = some row := by
    intro hfind
    have hmem := (Table.find?_eq_some.1 hfind).1
    rw [h₀.grants] at hmem
    cases hmem
  obtain ⟨pre, call, post, rfl, hpre, hpost⟩ := Lists.exists_since
    (Q := fun db : PooledDb => db.memoryAccessGrants.find? row.grantId = some row) hn
    (Table.find?_eq_some.2 ⟨hrow, rfl⟩)
  have hcall := hpost [] List.nil_prefix
  rw [List.foldl_append] at hcall
  obtain ⟨grant, now, hgrant, hnew, hissuer⟩ :=
    (call.1.next_does P _ call.2).grants hrev hpre hcall
  obtain ⟨_, x⟩ := call
  cases hgrant
  have hissuedBy : row.issuedByActorId = grant.issuedByActorId := by
    obtain ⟨window, -, rfl⟩ := Option.map_eq_some_iff.1 hnew
    rfl
  exact ⟨pre, grant, x, post, now, rfl, hnew, hissuedBy ▸ PooledDb.issuerIsOperator_iff.1 hissuer,
    hpost⟩

end

/-! ## Stored times -/

/-- The times of a stored grant are those of calls of the run, without a wrap: those of the call
that issued it, and where it is revoked, that of this call or of one that revoked it. -/
def GrantTimes (calls : List (ControlCall × Choice)) (row : MemoryAccessGrantRow) : Prop :=
  ∃ grant, .grantMemoryAccess grant ∈ calls.map (·.1) ∧ row.grantId = grant.grantId ∧
    row.window.validFrom.toInt = grant.validFrom.toNat ∧
    row.window.expiresAt.toInt = grant.expiresAt.toNat ∧
    ∀ r, row.window.revokedAt = some r → ∃ t, r.toInt = t.toNat ∧
      (grant.revokedAt = some t ∨ .revokeMemoryAccess row.grantId t ∈ calls.map (·.1))

/-- The times of a stored binding, likewise. -/
def BindingTimes (calls : List (ControlCall × Choice)) (row : ActorProfileBindingRow) : Prop :=
  ∃ binding, .bindActorProfile binding ∈ calls.map (·.1) ∧ row.bindingId = binding.bindingId ∧
    row.window.validFrom.toInt = binding.validFrom.toNat ∧
    row.window.expiresAt.toInt = binding.expiresAt.toNat ∧
    row.bindingEpoch.toInt = binding.bindingEpoch.toNat ∧
    ∀ r, row.window.revokedAt = some r → ∃ t, r.toInt = t.toNat ∧
      .revokeActorProfileBinding row.bindingId t ∈ calls.map (·.1)

section
variable {calls : List (ControlCall × Choice)} {call : ControlCall × Choice}

/-- The times of a grant stay those of a call when another call follows. -/
theorem GrantTimes.append {row : MemoryAccessGrantRow} (h : GrantTimes calls row) :
    GrantTimes (calls ++ [call]) row := by
  obtain ⟨grant, hgrant, hid, hfrom, hto, hrev⟩ := h
  refine ⟨grant, by simp [hgrant], hid, hfrom, hto, fun r hr => ?_⟩
  obtain ⟨t, ht, h⟩ := hrev r hr
  exact ⟨t, ht, h.imp_right fun h => by simp [h]⟩

/-- So do the times of a binding. -/
theorem BindingTimes.append {row : ActorProfileBindingRow} (h : BindingTimes calls row) :
    BindingTimes (calls ++ [call]) row := by
  obtain ⟨binding, hbinding, hid, hfrom, hto, hepoch, hrev⟩ := h
  refine ⟨binding, by simp [hbinding], hid, hfrom, hto, hepoch, fun r hr => ?_⟩
  obtain ⟨t, ht, h⟩ := hrev r hr
  exact ⟨t, ht, by simp [h]⟩

/-- One call keeps the times of the stored grants. -/
theorem ControlCall.Does.grantTimes {P : Platform} {db db' : PooledDb}
    (h : call.1.Does P db db') (hdb : ∀ row ∈ db.memoryAccessGrants.rows, GrantTimes calls row) :
    ∀ row ∈ db'.memoryAccessGrants.rows, GrantTimes (calls ++ [call]) row := by
  obtain ⟨c, x⟩ := call
  cases h with
  | @granted grant store new now grants hissuer hstore hns hnew hins =>
    intro row hrow
    rcases (Table.mem_insert hins).1 hrow with hrow | rfl
    · exact (hdb row hrow).append
    · obtain ⟨window, hwindow, rfl⟩ := Option.map_eq_some_iff.1 hnew
      obtain ⟨hfrom, hto, hrev⟩ := Window.check?_cast hwindow
      refine ⟨grant, by simp, rfl, hfrom, hto, fun r hr => ?_⟩
      obtain ⟨t, ht, h⟩ := hrev r hr
      exact ⟨t, h, .inl ht⟩
  | @revoked grantId revokedAt old window hfind hopen hwindow =>
    intro row hrow
    simp only [Table.mem_update] at hrow
    obtain ⟨found, hfound, rfl⟩ := hrow
    split
    · next hid =>
      have hid : found.grantId = grantId := of_decide_eq_true hid
      obtain ⟨hmem, hkey⟩ := Table.find?_eq_some.1 hfind
      obtain rfl := Table.eq_of_key hmem hfound (hkey.trans hid.symm)
      obtain ⟨grant, hgrant, hgid, hfrom, hto, -⟩ := hdb old hmem
      obtain ⟨hfrom', hto', hrev', hnat⟩ := Window.revoke?_cast hwindow
      refine ⟨grant, by simp [hgrant], hgid, by rw [hfrom', hfrom], by rw [hto', hto],
        fun r hr => ?_⟩
      obtain rfl := Option.some.inj (hrev'.symm.trans hr)
      exact ⟨revokedAt, hnat, .inr (by simp [hid])⟩
    · exact (hdb found hfound).append
  | _ => exact fun row hrow => (hdb row hrow).append

/-- One call keeps the times of the stored bindings. -/
theorem ControlCall.Does.bindingTimes {P : Platform} {db db' : PooledDb}
    (h : call.1.Does P db db')
    (hdb : ∀ row ∈ db.actorProfileBindings.rows, BindingTimes calls row) :
    ∀ row ∈ db'.actorProfileBindings.rows, BindingTimes (calls ++ [call]) row := by
  obtain ⟨c, x⟩ := call
  cases h with
  | @bound binding new now bindings hoverlap hnew hins =>
    intro row hrow
    rcases (Table.mem_insert hins).1 hrow with hrow | rfl
    · exact (hdb row hrow).append
    · obtain ⟨hid, -, -, -, -, hfrom, hto, hrev, hepoch, -⟩ := binding.row?_eq_some hnew
      have h1 := row.window.starts
      have h2 := row.window.expiresAt_nonneg
      have h3 := Int64.le_of_lt row.epoch_pos
      rw [hfrom] at h1
      rw [hto] at h2
      rw [hepoch] at h3
      refine ⟨binding, by simp, hid, by rw [hfrom, toInt_of_nonneg h1],
        by rw [hto, toInt_of_nonneg h2], by rw [hepoch, toInt_of_nonneg h3], fun r hr => ?_⟩
      rw [hrev] at hr
      cases hr
  | @unbound bindingId revokedAt old window hlt hfind hopen hwindow =>
    intro row hrow
    simp only [Table.mem_update] at hrow
    obtain ⟨found, hfound, rfl⟩ := hrow
    split
    · next hid =>
      have hid : found.bindingId = bindingId := of_decide_eq_true hid
      obtain ⟨hmem, hkey⟩ := Table.find?_eq_some.1 hfind
      obtain rfl := Table.eq_of_key hmem hfound (hkey.trans hid.symm)
      obtain ⟨binding, hbinding, hbid, hfrom, hto, hepoch, -⟩ := hdb old hmem
      obtain ⟨hfrom', hto', hrev', hnat⟩ := Window.revoke?_cast hwindow
      refine ⟨binding, by simp [hbinding], hbid, by rw [hfrom', hfrom], by rw [hto', hto], hepoch,
        fun r hr => ?_⟩
      obtain rfl := Option.some.inj (hrev'.symm.trans hr)
      exact ⟨revokedAt, hnat, by simp [hid]⟩
    · exact (hdb found hfound).append
  | _ => exact fun row hrow => (hdb row hrow).append

end

/-- After a run from a fresh database every stored time is one that a call gave. -/
theorem times_of_run {P : Platform} {db₀ : PooledDb} (h₀ : db₀.Fresh)
    (calls : List (ControlCall × Choice)) :
    (∀ row ∈ (controlRun P db₀ calls).memoryAccessGrants.rows, GrantTimes calls row) ∧
      ∀ row ∈ (controlRun P db₀ calls).actorProfileBindings.rows, BindingTimes calls row := by
  induction calls using List.reverseRecOn with
  | nil =>
    refine ⟨fun row hrow => ?_, fun row hrow => ?_⟩
    · rw [show (controlRun P db₀ []).memoryAccessGrants.rows = [] from h₀.grants] at hrow
      cases hrow
    · rw [show (controlRun P db₀ []).actorProfileBindings.rows = [] from h₀.bindings] at hrow
      cases hrow
  | append_singleton calls call ih =>
    have hdoes := call.1.next_does P (controlRun P db₀ calls) call.2
    rw [show controlRun P db₀ (calls ++ [call]) =
      call.1.next P (controlRun P db₀ calls) call.2 by simp [controlRun]]
    exact ⟨hdoes.grantTimes ih.1, hdoes.bindingTimes ih.2⟩

/-- Least privilege. After every run, an access that is allowed is one of a live profile to a live
store in the namespace the store was registered with, and either the store is the profile's own or
a stored, never revoked grant that an operator issued covers it; and no stored time has wrapped. -/
theorem least_privilege {P : Platform} {db₀ : PooledDb} (h₀ : db₀.Fresh)
    (calls : List (ControlCall × Choice)) :
    (∀ profile storeId ns effect at' x db', (authorizeMemoryAccessMethod profile storeId ns effect
        at').exec (controlRun P db₀ calls) x = .ok ((), db') →
      (controlRun P db₀ calls).ProfileLive profile ∧
      ∃ store, (controlRun P db₀ calls).memoryStores.find? storeId = some store ∧
        (controlRun P db₀ calls).StoreLive store ∧ store.namespace = ns ∧
        RegisteredWith P db₀ calls storeId ns ∧
        (store.profileId = profile ∨ ∃ row ∈ (controlRun P db₀ calls).memoryAccessGrants.rows,
          row.Covers profile storeId ns effect at' ∧ Issued P db₀ calls row)) ∧
    (∀ row ∈ (controlRun P db₀ calls).memoryAccessGrants.rows, GrantTimes calls row) ∧
    ∀ row ∈ (controlRun P db₀ calls).actorProfileBindings.rows, BindingTimes calls row := by
  refine ⟨fun profile storeId ns effect at' x db' h => ?_, times_of_run h₀ calls⟩
  have hreach : Reachable P (controlRun P db₀ calls) := ⟨db₀, calls, h₀, rfl⟩
  obtain ⟨-, -, es, hbody⟩ := Method.exec_eq_ok.1 h
  have hok : (controlRun P db₀ calls).authorizeMemoryAccess profile storeId ns effect at' =
      .ok () := by
    simp only [authorizeMemoryAccessMethod] at hbody
    cases hr : (controlRun P db₀ calls).authorizeMemoryAccess profile storeId ns effect at' with
    | error e => simp [hr, Except.map] at hbody
    | ok u => rfl
  obtain ⟨hlive, store, hfind, hstore, rfl, hpermits⟩ :=
    (PooledDb.authorizeMemoryAccess_iff hreach.storesValid).1 hok
  refine ⟨hlive, store, hfind, hstore, rfl, registeredWith_of_run h₀ ⟨store, hfind, rfl⟩, ?_⟩
  obtain ⟨-, rfl⟩ := Table.find?_eq_some.1 hfind
  refine hpermits.imp_right ?_
  rintro ⟨row, hrow, hcovers⟩
  exact ⟨row, hrow, hcovers, issued_of_run h₀ hrow hcovers.2.2.2.2.1⟩

open Sample in
/-- The grant that covers the shared store was issued for it. -/
theorem least_privilege_sample :
    ∃ row ∈ shared.memoryAccessGrants.rows, row.Covers ⟨"alice"⟩ "notes" "shared" .search 50 ∧
      Issued digests registry sharing row := by
  have hallow : ((authorizeMemoryAccessMethod ⟨"alice"⟩ "notes" "shared" .search 50).exec shared
      step).toOption.any (fun _ => true) = true := by decide +kernel
  have howner : (shared.memoryStores.find? "notes").all (·.profileId ≠ ⟨"alice"⟩) = true := by
    decide +kernel
  obtain ⟨⟨⟨⟩, db⟩, ha, -⟩ := ok_of_any hallow
  obtain ⟨-, store, hfind, -, -, -, hown⟩ :=
    (least_privilege registry_fresh sharing).1 _ _ _ _ _ _ _ ha
  rw [show shared.memoryStores.find? "notes" = some store from hfind] at howner
  exact hown.resolve_left (of_decide_eq_true howner)

end Mnemes
