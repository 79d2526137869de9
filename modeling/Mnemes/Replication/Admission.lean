import Mnemes.Conformance

/-!
# Admissions in force

A row of the admissions that is not revoked is the one the last admission of its scope stored, or a
row of the initial store that nothing has touched since (`InForce`). With what the actions say of an
apply (`Action.apply`) this is the soundness of admission: the owner is invoked only for a signed
batch that such a row covers, value for value, and after a revocation only once the scope was
admitted again.
-/

namespace Mnemes

open Concurrency Relational

variable {M : SemanticMemory} {P : Platform} {W : Wire} {F : Family}

/-! ## Stored numbers -/

/-- The scope an admission is stored under. -/
def Admission.scope (a : Admission) : AdmissionScope :=
  ⟨a.deviceId, a.storeId, a.namespace, a.principalId, a.keyVersion.toInt64⟩

/-- An integer that fits is stored as it is. -/
theorem fitInteger_eq {C : FamilyCode M} {name : String} {v : UInt64} {x : Int64}
    (h : fitInteger C name v = .ok x) : x = v.toInt64 := by
  unfold fitInteger at h
  split at h
  · next hx => cases h; exact (i64TryFrom_eq_some hx).2
  · cases h

/-- So are epochs. -/
theorem fitEpochs_eq {C : FamilyCode M} {epochs : List (String × UInt64)} {xs : List Int64}
    (h : fitEpochs C epochs = .ok xs) : xs = epochs.map (·.2.toInt64) := by
  induction epochs generalizing xs with
  | nil => cases h; rfl
  | cons epoch epochs ih =>
    obtain ⟨name, v⟩ := epoch
    obtain ⟨x, hx, h⟩ := bind_eq_ok.1 h
    obtain ⟨ys, hys, h⟩ := bind_eq_ok.1 h
    cases h
    rw [List.map_cons, fitInteger_eq hx, ih hys]

/-- Every number of a stored admission is the cast of the one that was requested. -/
theorem Admission.row_eq {C : FamilyCode M} {a : Admission} {row : AdmissionRow}
    (h : a.row C = .ok row) :
    row = { scope := a.scope, publicKey := a.publicKey, activatedAt := a.activatedAt.toInt64
            cutoffAt := a.cutoffAt.toInt64, revoked := false
            epochs := a.epochs.map (·.2.toInt64), fencingToken := a.fencingToken } := by
  obtain ⟨keyVersion, h1, h⟩ := bind_eq_ok.1 h
  obtain ⟨activatedAt, h2, h⟩ := bind_eq_ok.1 h
  obtain ⟨cutoffAt, h3, h⟩ := bind_eq_ok.1 h
  obtain ⟨epochs, h4, h⟩ := bind_eq_ok.1 h
  cases h
  rw [fitInteger_eq h1, fitInteger_eq h2, fitInteger_eq h3, fitEpochs_eq h4]
  rfl

/-- Equal casts of two lists come from equal lists. -/
theorem map_toInt64_inj {as bs : List UInt64} :
    as.map UInt64.toInt64 = bs.map UInt64.toInt64 ↔ as = bs :=
  (List.map_injective_iff.2 fun _ _ => toInt64_inj.1).eq_iff

/-! ## The last word on a scope -/

/-- The event admits or revokes the scope. -/
def Event.Concerns (F : Family) (scope : AdmissionScope) : Event → Prop
  | .admitted G a => G = F ∧ a.scope = scope
  | .revoked G scope' => G = F ∧ scope' = scope
  | _ => False

/-- A quiet event concerns no scope. -/
theorem Event.not_concerns_of_quiet {e : Event} (h : e.quiet = true) (scope : AdmissionScope) :
    ¬ e.Concerns F scope := by
  cases e <;> first | exact id | cases h

/-- Where the row comes from: the last event that concerns its scope is the admission it stores, or
it was there before the first event and none concerns it. -/
def InForce (F : Family) (s : MnemesStore M) (tr : List (Tid × Event)) (row : AdmissionRow) :
    Prop :=
  (∃ pre j a post, tr = pre ++ (j, .admitted F a) :: post ∧ a.row (F.code M) = .ok row ∧
    ∀ p ∈ post, ¬ p.2.Concerns F row.scope) ∨
  (s.db.replication F).admissions.find? row.scope = some row ∧
    ∀ p ∈ tr, ¬ p.2.Concerns F row.scope

/-- Events about something else leave a row in force. -/
theorem InForce.append {s : MnemesStore M} {tr tr' : List (Tid × Event)} {row : AdmissionRow}
    (h : InForce F s tr row) (hn : ∀ p ∈ tr', ¬ p.2.Concerns F row.scope) :
    InForce F s (tr ++ tr') row := by
  rcases h with ⟨pre, j, a, post, rfl, ha, hpost⟩ | ⟨hrow, htr⟩
  · refine .inl ⟨pre, j, a, post ++ tr', by simp, ha, fun p hp => ?_⟩
    exact (List.mem_append.1 hp).elim (hpost p) (hn p)
  · exact .inr ⟨hrow, fun p hp => (List.mem_append.1 hp).elim (htr p) (hn p)⟩

/-- A row in force whose scope has been revoked was stored by a later admission. -/
theorem InForce.readmitted {s : MnemesStore M} {pre post : List (Tid × Event)} {j : Tid}
    {row : AdmissionRow} (h : InForce F s (pre ++ (j, .revoked F row.scope) :: post) row) :
    ∃ k a, (k, Event.admitted F a) ∈ post ∧ a.row (F.code M) = .ok row := by
  rcases h with ⟨pre', k, a, post', htr, ha, hpost⟩ | ⟨-, htr⟩
  · refine ⟨k, a, ?_, ha⟩
    rcases List.append_eq_append_iff.1 htr with ⟨mid, rfl, hmid⟩ | ⟨mid, rfl, hmid⟩
    · -- the admission stands in `post`
      cases mid with
      | nil => cases hmid
      | cons p mid =>
        rw [List.cons_append, List.cons.injEq] at hmid
        simp [hmid.2]
    · -- the revocation cannot stand after it
      cases mid with
      | nil => cases hmid
      | cons p mid =>
        rw [List.cons_append, List.cons.injEq] at hmid
        refine absurd ⟨rfl, rfl⟩ (hpost (j, .revoked F row.scope) ?_)
        simp [hmid.2]
  · exact absurd ⟨rfl, rfl⟩ (htr (j, .revoked F row.scope) (by simp))

/-- Every admission row that is not revoked is in force. -/
def AllInForce (s : MnemesStore M) (h : Hist (MnemesStore M) Event) : Prop :=
  ∀ F scope row, (h.state.db.replication F).admissions.find? scope = some row →
    row.revoked = false → InForce F s h.trace row

/-- An action keeps every admission row that is not revoked in force. -/
theorem Action.allInForce {s : MnemesStore M} {i : Tid} {h : Hist (MnemesStore M) Event}
    {s' : MnemesStore M} {es : List Event} (ha : Action P i h.trace h.state s' es)
    (hinv : AllInForce s h) : AllInForce s (h.after i (s', es)) := by
  -- an action that leaves the admissions of the row's scope alone
  have hkeep : ∀ F scope row, (h.state.db.replication F).admissions.find? scope = some row →
      row.revoked = false → (∀ e ∈ es, ¬ e.Concerns F row.scope) →
      InForce F s (h.after i (s', es)).trace row := by
    intro F scope row hrow hrev hes
    refine (hinv F scope row hrow hrev).append fun p hp => ?_
    obtain ⟨e, he, rfl⟩ := List.mem_map.1 hp
    exact hes e he
  intro F scope row hrow hrev
  cases ha with
  | quiet hq =>
    exact hkeep F scope row hrow hrev fun e he => Event.not_concerns_of_quiet (hq e he) _
  | check _ _ | read _ | status | refresh =>
    exact hkeep F scope row hrow hrev (by simp [Event.Concerns])
  | take _ | give _ | release => exact hkeep F scope row hrow hrev (by simp)
  | apply _ _ _ _ _ hans =>
    exact hkeep F scope row (by simpa [hans.frame.1] using hrow) hrev (by simp [Event.Concerns])
  | @acknowledge G r acks _ _ _ =>
    refine hkeep F scope row ?_ hrev (by simp [Event.Concerns])
    by_cases hFG : F = G
    · subst hFG; simpa using hrow
    · simpa [hFG] using hrow
  | @admitKey G a r _ _ hr =>
    have hscope : r.scope = a.scope := by rw [Admission.row_eq hr]
    by_cases hFG : F = G
    · subst hFG
      simp only [Hist.after_state, PooledDb.setReplication_replication, if_true,
        Table.find?_upsert] at hrow
      split at hrow
      · cases hrow
        exact .inl ⟨h.trace, i, a, [], rfl, hr, by simp⟩
      · next hne =>
        refine hkeep F scope row hrow hrev ?_
        rw [(Table.find?_eq_some.1 hrow).2]
        simpa [Event.Concerns, ← hscope] using hne
    · refine hkeep F scope row (by simpa [hFG] using hrow) hrev ?_
      simp [Event.Concerns, Ne.symm hFG]
  | @revoke G scope' _ =>
    by_cases hFG : F = G
    · subst hFG
      simp only [Hist.after_state, PooledDb.setReplication_replication, if_true,
        Table.find?_update, Option.map_eq_some_iff] at hrow
      obtain ⟨r, hr, rfl⟩ := hrow
      split at hrev
      · cases hrev
      · next hne =>
        rw [if_neg hne]
        refine hkeep F scope r hr hrev ?_
        simpa [Event.Concerns, eq_comm] using hne
    · refine hkeep F scope row (by simpa [hFG] using hrow) hrev ?_
      simp [Event.Concerns, Ne.symm hFG]

/-! ## Soundness -/

/-- The envelope `e` about the namespace `ns` is what a signed batch of the family carries, and the
batch's signature verifies under its public key. -/
def Signed (P : Platform) (M : SemanticMemory) :
    Family → Submission → ReplicaEnvelopeV1 → String → Prop
  | .factCreate, b, e, ns =>
      ∃ (batch : SignedFactCreateBatchV1) (entry : FactCreateTransportEntryV1)
      (preimage : Bytes), b = batch.submission P M ∧ batch.entries = [entry] ∧
      e = batch.toSemanticEnvelope entry ∧ M.validateFactCreateReplicaEnvelope e = .ok ⟨ns⟩ ∧
      batch.signingPreimage = .ok preimage ∧
      P.verify b.signerPublicKey preimage batch.signature = .ok ()
  | .factSupersede, b, e, ns => ∃ (batch : SignedFactSupersedeBatchV1) (preimage : Bytes),
      b = batch.submission P M ∧ batch.entries = [e] ∧
      SignedFactSupersedeBatchV1.replacementNamespace M e = .ok ns ∧
      batch.signingPreimage = .ok preimage ∧
      P.verify b.signerPublicKey preimage batch.signature = .ok ()

/-- An admission is for the batch: the same scope, key, epochs and fencing token, and a window that
contains the time the batch was observed at. All numbers are unsigned. -/
structure Admission.IsFor (a : Admission) (b : Submission) (device : DeviceId) (ns : String) :
    Prop where
  deviceId : a.deviceId = device
  storeId : a.storeId = b.storeId
  «namespace» : a.namespace = ns
  principalId : a.principalId = b.signerPrincipalId
  keyVersion : a.keyVersion = b.signerKeyVersion
  publicKey : a.publicKey = b.signerPublicKey
  activated : a.activatedAt ≤ b.observedAt
  cutoff : b.observedAt ≤ a.cutoffAt
  epochs : a.epochs.map (·.2) = b.epochs
  fencingToken : a.fencingToken = b.fencingToken

/-- The row of the admissions that the invocation of the owner for a batch rests on. -/
structure AdmittedBy (P : Platform) (F : Family) (s : MnemesStore M) (b : Submission)
    (device : DeviceId) (e : ReplicaEnvelopeV1) (ns : String) (row : AdmissionRow) : Prop where
  signed : Signed P M F b e ns
  parsed : DeviceId.parse P b.homeDeviceId = .ok device
  found : (s.db.replication F).admissions.find?
    ⟨device, b.storeId, ns, b.signerPrincipalId, b.signerKeyVersion.toInt64⟩ = some row
  notRevoked : row.revoked = false
  publicKey : row.publicKey = b.signerPublicKey
  window : 0 ≤ row.activatedAt ∧ row.activatedAt ≤ row.cutoffAt ∧
    row.activatedAt.toUInt64 ≤ b.observedAt ∧ b.observedAt ≤ row.cutoffAt.toUInt64
  fencingToken : row.fencingToken = b.fencingToken
  /-- The stored key version is the cast of the batch's, and of no other value. -/
  keyVersion : ∀ v : UInt64, v.toInt64 = row.scope.keyVersion ↔ v = b.signerKeyVersion
  /-- The stored epochs are the casts of the batch's, and of no other values. -/
  epochs : ∀ vs : List UInt64, vs.map UInt64.toInt64 = row.epochs ↔ vs = b.epochs

/-- A batch that was validated is signed. -/
theorem Submitted.signed {b : Submission} {e : ReplicaEnvelopeV1} {ns : String}
    (hb : Submitted P M F b) (hproj : b.project = .ok (e, ns)) : Signed P M F b e ns := by
  cases F with
  | factCreate =>
    obtain ⟨batch, rfl⟩ := hb
    simp only [SignedFactCreateBatchV1.submission] at hproj
    split at hproj
    · next entry hentries =>
      obtain ⟨envelopes, henv, hproj⟩ := bind_eq_ok.1 hproj
      obtain ⟨payload, hpayload, hproj⟩ := bind_eq_ok.1 hproj
      cases hproj
      obtain ⟨_, hvalid, -⟩ := bind_eq_ok.1 (mapError_eq_ok.1 henv)
      obtain ⟨preimage, hpre, hverify⟩ := SignedFactCreateBatchV1.validate_signature hvalid
      exact ⟨batch, entry, preimage, rfl, hentries, rfl, mapError_eq_ok.1 hpayload, hpre, hverify⟩
    · cases hproj
  | factSupersede =>
    obtain ⟨batch, rfl⟩ := hb
    obtain ⟨envelope, henv, hproj⟩ := bind_eq_ok.1 hproj
    obtain ⟨ns', hns, hproj⟩ := bind_eq_ok.1 hproj
    cases hproj
    obtain ⟨hentries, preimage, hpre, hverify⟩ :=
      SignedFactSupersedeBatchV1.semanticEnvelope_signature (mapError_eq_ok.1 henv)
    exact ⟨batch, preimage, rfl, hentries, mapError_eq_ok.1 hns, hpre, hverify⟩

/-- The row an apply rests on, in full. -/
theorem Admits.admittedBy {s : MnemesStore M} {b : Submission} {device : DeviceId}
    {e : ReplicaEnvelopeV1} (ha : Admits P F s b device e) (hb : Submitted P M F b) :
    ∃ ns row, AdmittedBy P F s b device e ns row := by
  obtain ⟨hdev, ns, row, hproj, hrow, hcov⟩ := ha
  simp only [AdmissionRow.covers, Bool.and_eq_true, decide_eq_true_eq, Bool.not_eq_true'] at hcov
  obtain ⟨⟨⟨⟨⟨⟨⟨hpk, hrev⟩, h0⟩, hle⟩, hact⟩, hcut⟩, hep⟩, hfence⟩ := hcov
  refine ⟨ns, row, hb.signed hproj, mapError_eq_ok.1 hdev, hrow, hrev, hpk, ⟨h0, hle, hact, hcut⟩,
    hfence, fun v => ?_, fun vs => ?_⟩
  · rw [(Table.find?_eq_some.1 hrow).2]
    exact toInt64_inj
  · rw [hep]
    exact map_toInt64_inj

/-- The admission that stored the row of an apply is for the batch. -/
theorem AdmittedBy.isFor {s : MnemesStore M} {b : Submission} {device : DeviceId}
    {e : ReplicaEnvelopeV1} {ns : String} {row : AdmissionRow} {C : FamilyCode M} {a : Admission}
    (h : AdmittedBy P F s b device e ns row) (ha : a.row C = .ok row) : a.IsFor b device ns := by
  have hscope := (Table.find?_eq_some.1 h.found).2
  obtain rfl := Admission.row_eq ha
  simp only [Admission.scope, AdmissionScope.mk.injEq] at hscope
  obtain ⟨h1, h2, h3, h4, h5⟩ := hscope
  have hep : a.epochs.map (·.2) = b.epochs := (h.epochs _).1 (by simp)
  obtain ⟨-, -, hact, hcut⟩ := h.window
  exact ⟨h1, h2, h3, h4, toInt64_inj.1 h5, h.publicKey, by simpa using hact, by simpa using hcut,
    hep, h.fencingToken⟩

/-- Soundness of admission. Whenever a step asks the owner to apply an envelope, a row in place at
that moment admits the batch, unsigned value for unsigned value. The last event about the row's
scope is an admission for the batch, or the row was stored before the first event and none is about
it; in either case an admission for the batch follows every revocation of the scope. -/
theorem admission_sound {s : MnemesStore M} {c c' : Config Call (MnemesStore M) Choice Event Result}
    {cmd : Command Call Choice} {i : Tid} {b : Submission} {device : DeviceId}
    {e : ReplicaEnvelopeV1} {answer : Except MemoryError ReplicaApplyOutcome}
    (hc : Reached P M W s c) (h : (service P M W).exec c cmd = some c')
    (happlied : (i, .ownerApplied F b device e answer) ∈
      c'.hist.trace.drop c.hist.trace.length) :
    ∃ ns row, AdmittedBy P F c.hist.state b device e ns row ∧
      ((∃ pre j a post, c.hist.trace = pre ++ (j, .admitted F a) :: post ∧ a.IsFor b device ns ∧
          ∀ p ∈ post, ¬ p.2.Concerns F row.scope) ∨
        (s.db.replication F).admissions.find? row.scope = some row ∧
          ∀ p ∈ c.hist.trace, ¬ p.2.Concerns F row.scope) ∧
      ∀ pre j post, c.hist.trace = pre ++ (j, .revoked F row.scope) :: post →
        ∃ k a, (k, Event.admitted F a) ∈ post ∧ a.IsFor b device ns := by
  rcases hc.step h with ⟨_, _, -, hh⟩ | ⟨k, t, -, s', es, hact, hh, -⟩
  · simp [hh] at happlied
  · rw [hh, Hist.after_trace, List.drop_left] at happlied
    obtain ⟨ev, hev, heq⟩ := List.mem_map.1 happlied
    cases heq
    obtain ⟨-, hb, hadm, -, -⟩ := hact.of_applied hev
    obtain ⟨ns, row, hby⟩ := hadm.admittedBy hb
    have hforce : InForce F s c.hist.trace row :=
      hc.invariant (I := AllInForce s) (fun _ _ row hrow _ => .inr ⟨?_, by simp⟩)
        (fun _ _ _ _ hI ha => ha.allInForce hI) F _ row hby.found hby.notRevoked
    · refine ⟨ns, row, hby, ?_, fun pre j post htr => ?_⟩
      · rcases hforce with ⟨pre, j, a, post, htr, ha, hpost⟩ | hinit
        · exact .inl ⟨pre, j, a, post, htr, hby.isFor ha, hpost⟩
        · exact .inr hinit
      · rw [htr] at hforce
        obtain ⟨k, a, ha, hrow⟩ := hforce.readmitted
        exact ⟨k, a, ha, hby.isFor hrow⟩
    · rw [(Table.find?_eq_some.1 hrow).2]; exact hrow

/-- A key is revoked and admitted again, and its batch is submitted, up to the call of the owner. -/
def Sample.readmission : List (Command Call Choice) :=
  Sample.call 0 (.revokeFactCreateKey Sample.deviceA "store" "notes" "writer" 1) 3 ++
    Sample.call 1 (.admitFactCreateKey (Sample.admission Sample.deviceA)) 3 ++
    Sample.call 2 (.applyFactCreateRequest Sample.batchA "digest") 5

open Sample in
/-- The owner applies an envelope under an admission that is in place. -/
theorem admission_sound_sample : ∃ c c' ns row, Reached platform memory wire store c ∧
    (service platform memory wire).exec c (.run 2 plain) = some c' ∧
    (2, .ownerApplied .factCreate (batchA.submission platform memory) deviceA
      (batchA.toSemanticEnvelope entry) (.ok (.applied 1))) ∈
        c'.hist.trace.drop c.hist.trace.length ∧
    AdmittedBy platform .factCreate c.hist.state (batchA.submission platform memory) deviceA
      (batchA.toSemanticEnvelope entry) ns row := by
  have hrun : ((service platform memory wire).run (Service.init store) readmission).any (fun c =>
      ((service platform memory wire).exec c (.run 2 plain)).any fun c' =>
        (2, .ownerApplied .factCreate (batchA.submission platform memory) deviceA
          (batchA.toSemanticEnvelope entry) (.ok (.applied 1))) ∈
            c'.hist.trace.drop c.hist.trace.length) = true := by decide +kernel
  obtain ⟨c, hc, h⟩ := (Option.any_eq_true _ _).1 hrun
  obtain ⟨c', hexec, happlied⟩ := (Option.any_eq_true _ _).1 h
  have happlied := of_decide_eq_true happlied
  obtain ⟨ns, row, hby, -⟩ := admission_sound ⟨_, hc⟩ hexec happlied
  exact ⟨c, c', ns, row, ⟨_, hc⟩, hexec, happlied, hby⟩

end Mnemes
