import Mnemes.Conformance

/-!
# Durable acknowledgements

The owner's apply, the refresh of the shard's counters and the insertion of the acknowledgement are
separate commits, and a call may fail or be dropped after any of them. Stored acknowledgements never
change, a request that is acknowledged already is answered from the stored row, and an
acknowledgement is stored only after the owner accepted. A request that the owner accepted and that
failed before its acknowledgement is answered by a retry with the acknowledgement the first attempt
would have stored, provided it is still admitted; the record stays applied once.
-/

namespace Mnemes

open Concurrency Relational

variable {M : SemanticMemory} {P : Platform} {W : Wire} {F : Family} {α β : Type}

/-! ## What the actions preserve -/

section
variable {i : Tid} {tr : List (Tid × Event)} {s s' : MnemesStore M} {es : List Event}

/-- What an action does to the shards is one answer of the owner. -/
theorem Action.shards (ha : Action P i tr s s' es) :
    s'.shards = s.shards ∨ ∃ F b device e answer, es = [.ownerApplied F b device e answer] ∧
      OwnerAnswers F s device e answer s' := by
  cases ha with
  | quiet _ | refresh | check _ _ | read _ | status | take _ | give _ | release | admitKey _ _ _
  | revoke _ | acknowledge _ _ _ => exact .inl rfl
  | apply _ _ _ _ _ hans => exact .inr ⟨_, _, _, _, _, rfl, hans⟩

/-- The answer of the owner changes its device's shard by one apply, or leaves all shards alone. -/
theorem OwnerAnswers.cases {device : DeviceId} {e : ReplicaEnvelopeV1}
    {answer : Except MemoryError ReplicaApplyOutcome} (h : OwnerAnswers F s device e answer s')
    (d : DeviceId) : s'.shards d = s.shards d ∨
      d = device ∧ ∃ o, (F.code M).apply (s.shards d) e = .ok (o, s'.shards d) := by
  cases answer with
  | error error => exact .inl (by rw [show s' = s from h])
  | ok o =>
    obtain ⟨shard, happly, rfl⟩ := h
    by_cases hd : d = device
    · subst hd
      exact .inr ⟨rfl, o, by simpa using happly⟩
    · exact .inl (Function.update_of_ne hd _ _)

/-- Logs only grow. -/
theorem Action.log_prefix (ha : Action P i tr s s' es) (d : DeviceId) (σ : Stream) :
    M.log (s.shards d) σ <+: M.log (s'.shards d) σ := by
  rcases ha.shards with h | ⟨F, b, device, e, answer, -, hans⟩
  · rw [h]
  · rcases hans.cases d with h | ⟨-, o, h⟩
    · rw [h]
    · exact F.code_laws.log_prefix h σ

/-- A chained log stays chained. -/
theorem Action.chained (ha : Action P i tr s s' es) {d : DeviceId} {σ : Stream}
    (hc : Chained M.genesis (M.log (s.shards d) σ)) :
    Chained M.genesis (M.log (s'.shards d) σ) := by
  rcases ha.shards with h | ⟨F, b, device, e, answer, -, hans⟩
  · rwa [h]
  · rcases hans.cases d with h | ⟨-, o, h⟩
    · rwa [h]
    · exact F.code_laws.chained h hc

end

/-- Every envelope the owner accepted is in its log, at the sequence the answer reported, and the
shard is cataloged. -/
def Recorded (h : Hist (MnemesStore M) Event) : Prop :=
  ∀ i F b device e answer q, (i, Event.ownerApplied F b device e (.ok answer)) ∈ h.trace →
    answer.accepted = some q → q = e.sequence ∧ e ∈ M.log (h.state.shards device) e.stream ∧
      h.state.db.shardPath device = some (shardRelativePath device)

/-- An action keeps every accepted envelope in its log. -/
theorem Action.recorded {i : Tid} {h : Hist (MnemesStore M) Event} {s' : MnemesStore M}
    {es : List Event} (ha : Action P i h.trace h.state s' es) (hinv : Recorded h) :
    Recorded (h.after i (s', es)) := by
  intro j F b device e answer q hmem hq
  rcases List.mem_append.1 hmem with hmem | hmem
  · obtain ⟨h1, h2, h3⟩ := hinv j F b device e answer q hmem hq
    refine ⟨h1, (ha.log_prefix device e.stream).subset h2, ?_⟩
    have hpaths := (Acts.rely (Nat.succ_ne_self i).symm ⟨s', es, ha, rfl⟩).paths
    rw [hpaths, h3]
  · obtain ⟨ev, hev, heq⟩ := List.mem_map.1 hmem
    cases heq
    obtain ⟨-, -, -, hpath, shard, happly, rfl⟩ := ha.of_applied hev
    obtain ⟨h1, h2⟩ := F.code_laws.mem_log happly hq
    exact ⟨h1, by simpa using h2, hpath⟩

/-- Where an acknowledgement comes from: it was stored before the first event, or a call stored it
after the owner had accepted the call's batch at the head the row reports. -/
def Written (P : Platform) (F : Family) (s : MnemesStore M) (tr : List (Tid × Event))
    (row : AckRow) : Prop :=
  row ∈ (s.db.replication F).acks.rows ∨
    ∃ pre j post, tr = pre ++ (j, .acknowledged F row) :: post ∧ Accepted P F pre j row

/-- A row that was written stays so in a longer trace. -/
theorem Written.append {s : MnemesStore M} {tr tr' : List (Tid × Event)} {row : AckRow}
    (h : Written P F s tr row) : Written P F s (tr ++ tr') row := by
  rcases h with h | ⟨pre, j, post, rfl, h⟩
  · exact .inl h
  · exact .inr ⟨pre, j, post ++ tr', by simp, h⟩

/-- Every stored acknowledgement was written so. -/
def AllWritten (P : Platform) (s : MnemesStore M) (h : Hist (MnemesStore M) Event) : Prop :=
  ∀ F, ∀ row ∈ (h.state.db.replication F).acks.rows, Written P F s h.trace row

/-- An action writes rows of acknowledgements for what it did only. -/
theorem Action.allWritten {s : MnemesStore M} {i : Tid} {h : Hist (MnemesStore M) Event}
    {s' : MnemesStore M} {es : List Event} (ha : Action P i h.trace h.state s' es)
    (hinv : AllWritten P s h) : AllWritten P s (h.after i (s', es)) := by
  intro F row hrow
  cases ha with
  | quiet _ | refresh | check _ _ | read _ | status | take _ | give _ | release =>
    exact (hinv F row hrow).append
  | apply _ _ _ _ _ hans => exact (hinv F row (by simpa [hans.frame.1] using hrow)).append
  | @admitKey G a r _ _ _ =>
    refine (hinv F row ?_).append
    by_cases hFG : F = G
    · subst hFG; simpa using hrow
    · simpa [hFG] using hrow
  | @revoke G scope _ =>
    refine (hinv F row ?_).append
    by_cases hFG : F = G
    · subst hFG; simpa using hrow
    · simpa [hFG] using hrow
  | @acknowledge G r acks _ hacc hins =>
    by_cases hFG : F = G
    · subst hFG
      simp only [Hist.after_state, PooledDb.setReplication_replication, if_true,
        (Table.insert?_eq_some hins).2, List.mem_append, List.mem_singleton] at hrow
      rcases hrow with hrow | rfl
      · exact (hinv F row hrow).append
      · exact .inr ⟨h.trace, i, [], rfl, hacc⟩
    · exact (hinv F row (by simpa [hFG] using hrow)).append

section
variable {s : MnemesStore M} {c c' : Config Call (MnemesStore M) Choice Event Result}

/-- A stored acknowledgement stays as it is. -/
theorem Reached.acks_persist (hc : Reached P M W s c) {cmds : List (Command Call Choice)}
    (hrun : (service P M W).run c cmds = some c') {batchId : String} {row : AckRow}
    (hrow : (c.hist.state.db.replication F).acks.find? batchId = some row) :
    (c'.hist.state.db.replication F).acks.find? batchId = some row := by
  induction cmds generalizing c with
  | nil => cases hrun; exact hrow
  | cons cmd cmds ih =>
    obtain ⟨m, h1, h2⟩ := ((service P M W).run_cons).1 hrun
    refine ih (hc.exec h1) h2 ?_
    rcases hc.step h1 with ⟨_, _, _, hh⟩ | ⟨_, _, _, s', es, hact, hh, -⟩
    · rw [hh]; exact hrow
    · exact (Acts.rely (Nat.succ_ne_self cmd.tid).symm ⟨s', es, hact, hh⟩).acks F _ row hrow

/-- In a reached configuration, every envelope the owner accepted is in its log. -/
theorem Reached.recorded (hc : Reached P M W s c) : Recorded c.hist :=
  hc.invariant (by simp [Recorded]) fun _ _ _ _ hI ha => ha.recorded hI

/-- In a reached configuration, every new acknowledgement was written by a call. -/
theorem Reached.allWritten (hc : Reached P M W s c) : AllWritten P s c.hist :=
  hc.invariant (fun _ _ h => .inl h) fun _ _ _ _ hI ha => ha.allWritten hI

/-- From a chained log the service reaches chained logs only. -/
theorem Reached.chained (hc : Reached P M W s c) {d : DeviceId} {σ : Stream}
    (h0 : Chained M.genesis (M.log (s.shards d) σ)) :
    Chained M.genesis (M.log (c.hist.state.shards d) σ) :=
  hc.invariant (I := fun h => Chained M.genesis (M.log (h.state.shards d) σ)) h0
    fun _ _ _ _ hI ha => ha.chained hI

end

/-! ## An acknowledged request -/

/-- The apply calls: the family, the batch and the digest they submit. -/
def Call.submits (P : Platform) (M : SemanticMemory) : Call → Option (Family × Submission × String)
  | .applyFactCreateRequest b requestDigest =>
    some (.factCreate, b.submission P M, requestDigest)
  | .applyFactSupersedeRequest b requestDigest =>
    some (.factSupersede, b.submission P M, requestDigest)
  | _ => none

/-- A call that submits a batch runs the request of its family. -/
theorem Call.body_of_submits {call : Call} {b : Submission} {requestDigest : String}
    (h : call.submits P M = some (F, b, requestDigest)) (i : Tid) :
    call.body P W i = Result.ack <$> (applyRequest P F i b requestDigest : Op M AckRecord).run := by
  cases call <;> cases h <;> rfl

/-- A step that changes nothing but who holds the gates. -/
structure GateOnly (h h' : Hist (MnemesStore M) Event) : Prop where
  trace : h'.trace = h.trace
  db : h'.state.db = h.state.db
  shards : h'.state.shards = h.state.shards

/-- How a request is answered whose batch identifier `row` acknowledges: with the stored record if
it has the row's digest, else with a rejection; unless the database fails. -/
def Answered (C : FamilyCode M) (row : AckRow) (requestDigest : String)
    (r : Except MnemesError AckRecord) : Prop :=
  (∃ text, r = .error (.database text)) ∨
    if row.requestDigest = requestDigest then r = row.record
    else r = .error (C.rejected "batch id digest collision")

/-- An acknowledged request only takes and gives back the gate, and is answered from the row. -/
theorem safe_applyRequest_acknowledged {i : Tid} {h : Hist (MnemesStore M) Event} {b : Submission}
    {requestDigest : String} {row : AckRow}
    (hrow : (h.state.db.replication F).acks.find? b.batchId = some row) :
    (applyRequest P F i b requestDigest).run.Safe (terms i GateOnly)
      (fun r _ => Answered (F.code M) row requestDigest r) h := by
  unfold applyRequest underGate
  refine Proc.Safe.locked fun h1 hr1 _ _ => ⟨⟨by simp, rfl, rfl⟩, ?_⟩
  unfold getAckLocked poolRead poolConn
  have hdone : ∀ r (h' : Hist (MnemesStore M) Event), Answered (F.code M) row requestDigest r →
      GateOnly h'
        (h'.after i ({ h'.state with gate := Function.update h'.state.gate F none }, [])) ∧
        ∀ h'', Rely i
          (h'.after i ({ h'.state with gate := Function.update h'.state.gate F none }, [])) h'' →
          True → Answered (F.code M) row requestDigest r :=
    fun r h' hr => ⟨⟨by simp, rfl, rfl⟩, fun _ _ _ => hr⟩
  refine safe_atomic fun h2 x hr2 => ?_
  have hrow2 : (h2.state.db.replication F).acks.find? b.batchId = some row :=
    hr2.acks F _ row (by simpa using hr1.acks F _ row hrow)
  cases hx : x.fault with
  | some error => exact ⟨⟨by simp, rfl, rfl⟩, fun h3 _ => hdone _ h3 (.inl ⟨error, rfl⟩)⟩
  | none =>
    simp only [hrow2]
    cases hrec : row.record with
    | error e =>
      refine ⟨⟨by simp [Except.map], rfl, rfl⟩, fun h3 _ => hdone _ h3 (.inl ?_)⟩
      unfold AckRow.record at hrec
      split at hrec
      · cases hrec
      · cases hrec; exact ⟨_, rfl⟩
    | ok ack =>
      have hdigest : ack.requestDigest = row.requestDigest := by
        unfold AckRow.record at hrec
        split at hrec
        · cases hrec; rfl
        · cases hrec
      refine ⟨⟨by simp [Except.map], rfl, rfl⟩, ?_⟩
      simp only [Except.map]
      split
      · next hne =>
        refine Proc.Safe.done fun h3 _ _ => hdone _ h3 (.inr ?_)
        rw [if_neg (by rwa [← hdigest])]
      · next heq =>
        refine Proc.Safe.done fun h3 _ _ => hdone _ h3 (.inr ?_)
        rw [if_pos (by rw [← hdigest]; exact not_not.1 heq), hrec]

/-! ## A call alone -/

/-- At least `n` choices, none of which is a fault. -/
structure Faultless (n : Nat) (xs : List Choice) : Prop where
  length : n ≤ xs.length
  fault : ∀ x ∈ xs, x.fault = none

/-- Choices without a fault begin with one. -/
theorem Faultless.uncons {n : Nat} {xs : List Choice} (h : Faultless (n + 1) xs) :
    ∃ x xs', xs = x :: xs' ∧ x.fault = none ∧ Faultless n xs' := by
  cases xs with
  | nil => exact absurd h.length (by simp)
  | cons x xs =>
    exact ⟨x, xs, rfl, h.fault x (by simp), by simpa using h.length,
      fun y hy => h.fault y (List.mem_cons_of_mem _ hy)⟩

/-- Run alone from `s` without a fault, the call has its result after at most `n` actions, and `R`
holds of the result and the state. -/
def Returns (n : Nat) (s : MnemesStore M) (t : Op M α)
    (R : Except MnemesError α → MnemesStore M → Prop) : Prop :=
  ∀ m xs, Faultless (m + n) xs →
    ∃ r ys s', t.run.exec xs s = (some (r, ys), s') ∧ Faultless m ys ∧ R r s'

namespace Returns

/-- A call that returns within some actions returns within more. -/
theorem mono {n n' : Nat} {s : MnemesStore M} {t : Op M α}
    {R : Except MnemesError α → MnemesStore M → Prop} (h : Returns n s t R) (hn : n ≤ n') :
    Returns n' s t R := by
  intro m xs hxs
  obtain ⟨r, ys, s', h1, h2, h3⟩ := h m xs ⟨(Nat.add_le_add_left hn m).trans hxs.length, hxs.fault⟩
  exact ⟨r, ys, s', h1, h2, h3⟩

variable {n : Nat} {s : MnemesStore M} {k : α → Op M β} {a : α}
  {R : Except MnemesError β → MnemesStore M → Prop}

/-- A result is returned at once. -/
theorem pure {a : β} (h : R (.ok a) s) : Returns n s (pure a) R :=
  fun _ xs hxs => ⟨.ok a, xs, s, rfl, ⟨(Nat.le_add_right _ _).trans hxs.length, hxs.fault⟩, h⟩

/-- One action that succeeds. -/
theorem atomic {f : MnemesStore M → Choice → Except MnemesError α × MnemesStore M × List Event}
    (hf : ∀ x, x.fault = none → ∃ a, (f s x).1 = .ok a ∧ Returns n (f s x).2.1 (k a) R) :
    Returns (n + 1) s (ExceptT.mk (Proc.atomic f) >>= k) R := by
  intro m xs hxs
  obtain ⟨x, xs, rfl, hx, hxs⟩ := Faultless.uncons (n := m + n) hxs
  obtain ⟨a, ha, hk⟩ := hf x hx
  obtain ⟨r, ys, s', h1, h2⟩ := hk m xs hxs
  refine ⟨r, ys, s', ?_, h2⟩
  rw [← h1, Proc.exec_attempt]
  simp only [ha]

/-- A section that succeeds is one action. -/
theorem poolConn {f : PooledDb → Choice → Except MnemesError (α × PooledDb × List Event)}
    (hf : ∀ x, ∃ a db es, f s.db x = .ok (a, db, es) ∧ Returns n { s with db } (k a) R) :
    Returns (n + 1) s (poolConn f >>= k) R := by
  refine atomic fun x hx => ?_
  obtain ⟨a, db, es, h1, h2⟩ := hf x
  exact ⟨a, by simp only [hx, h1], by simpa only [hx, h1] using h2⟩

/-- So is a section that reads. -/
theorem poolRead {f : PooledDb → Except MnemesError α} (hf : f s.db = .ok a)
    (hk : Returns n s (k a) R) : Returns (n + 1) s (poolRead f >>= k) R :=
  poolConn fun _ => ⟨a, s.db, [], by rw [hf]; rfl, hk⟩

/-- So is a call of the owner. -/
theorem memoryCall {f : MnemesStore M → Except MnemesError α × MnemesStore M × List Event}
    (hf : (f s).1 = .ok a) (hk : Returns n (f s).2.1 (k a) R) :
    Returns (n + 1) s (memoryCall f >>= k) R :=
  atomic fun x hx => ⟨a, by simp only [hx, hf], by simpa only [hx] using hk⟩

/-- A pure step that succeeds. -/
theorem lift {r : Except MnemesError α} (hr : r = .ok a) (hk : Returns n s (k a) R) :
    Returns n s ((liftM r : Op M α) >>= k) R := by
  subst hr
  exact hk

/-- A call under a free gate, which is free again afterwards. -/
theorem underGate {i : Tid} {t : Op M β} (hgate : s.gate F = none)
    (ht : Returns n { s with gate := Function.update s.gate F (some i) } t fun r s' =>
      R r { s' with gate := Function.update s'.gate F none }) :
    Returns (n + 2) s (underGate i F t) R := by
  intro m xs hxs
  obtain ⟨x, xs, rfl, -, hxs⟩ := Faultless.uncons (n := m + n + 1) hxs
  obtain ⟨r, ys, s', h1, h2, h3⟩ := ht (m + 1) xs (by rwa [Nat.add_right_comm])
  obtain ⟨y, ys, rfl, -, h2⟩ := h2.uncons
  refine ⟨r, ys, _, ?_, h2, h3⟩
  show (Proc.locked _ _ _ t.run).exec (x :: xs) s = _
  simp only [Proc.locked, Proc.exec, hgate, Option.isNone_none, if_true, Proc.exec_bind, h1]

/-- The shard of a device opens when its catalog row has the path of the device. -/
theorem deviceMemory {device : DeviceId} {k : Unit → Op M β}
    (hpath : s.db.shardPath device = some (shardRelativePath device)) (hk : Returns n s (k ()) R) :
    Returns (n + 2) s (deviceMemory device >>= k) R := by
  obtain ⟨row, hrow, hrel⟩ := Option.map_eq_some_iff.1 hpath
  unfold Mnemes.deviceMemory
  simp only [bind_assoc]
  refine poolRead (a := row.relativePath) (by simp only [hrow]) ?_
  simp only [hrel, ne_eq, not_true_eq_false, if_false]
  exact memoryCall rfl hk

/-- The counters of a cataloged shard are refreshed when its store reports them. -/
theorem refreshShardCounts {device : DeviceId} {k : Unit → Op M β} {stats : MemoryStats}
    (hpath : s.db.shardPath device = some (shardRelativePath device))
    (hstats : M.stats (s.shards device) = .ok stats)
    (hk : ∀ db, db.replication = s.db.replication → Returns n { s with db } (k ()) R) :
    Returns (n + 4) s (refreshShardCounts device >>= k) R := by
  obtain ⟨row, hrow, -⟩ := Option.map_eq_some_iff.1 hpath
  unfold Mnemes.refreshShardCounts shardStats
  simp only [bind_assoc]
  refine deviceMemory hpath (memoryCall (a := stats) (by simp only [hstats, Except.mapError]) ?_)
  refine poolConn fun x => ?_
  simp only [hrow]
  exact ⟨(), _, _, rfl, hk _ rfl⟩

end Returns

/-! ## A retry -/

/-- The acknowledgement of a batch whose record was accepted at a head. -/
def Submission.ack (b : Submission) (requestDigest : String) (acceptedHead : Int64) : AckRecord :=
  { batchId := b.batchId, requestDigest, homeDeviceId := b.homeDeviceId, storeId := b.storeId
    streamEpoch := b.ownerStreamEpoch, acceptedHead, disposition := "accepted" }

/-- The batch can be submitted in `s`: nobody holds the gate, its identifier is unused, it is
admitted, the shard of its device is cataloged, and its epoch fits its column. -/
structure Pending (P : Platform) (F : Family) (s : MnemesStore M) (b : Submission)
    (device : DeviceId) (e : ReplicaEnvelopeV1) : Prop where
  gate : s.gate F = none
  unused : (s.db.replication F).acks.find? b.batchId = none
  admits : Admits P F s b device e
  epoch : b.ownerStreamEpoch.toNat < 2 ^ 63

/-- The owner would accept the envelope in `s`, leaving `shard`, whose counters it reports. -/
structure Accepting (F : Family) (s : MnemesStore M) (device : DeviceId) (e : ReplicaEnvelopeV1)
    (shard : M.Store) : Prop where
  cataloged : s.db.shardPath device = some (shardRelativePath device)
  apply : ∃ answer, (F.code M).apply (s.shards device) e = .ok (answer, shard) ∧
    answer.accepted = some e.sequence
  stats : (F.code M).refreshes = true → ∃ stats, M.stats shard = .ok stats

/-- What such a call leaves if it meets no fault: its acknowledgement stored and returned,
and the record in the shard. -/
structure Settled (F : Family) (b : Submission) (requestDigest : String) (device : DeviceId)
    (e : ReplicaEnvelopeV1) (shard : M.Store) (s : MnemesStore M)
    (r : Except MnemesError AckRecord) (s' : MnemesStore M) : Prop where
  result : r = .ok (b.ack requestDigest e.sequence)
  stored : ∃ row, (s'.db.replication F).acks.find? b.batchId = some row ∧
    row.record = .ok (b.ack requestDigest e.sequence)
  shards : s'.shards = Function.update s.shards device shard

/-- An acknowledgement under an unused batch identity is stored and returned. -/
theorem returns_persistAck {n : Nat} {s s₀ : MnemesStore M} {b : Submission} {device : DeviceId}
    {e : ReplicaEnvelopeV1} {shard : M.Store} {requestDigest : String}
    (hunused : (s.db.replication F).acks.find? b.batchId = none)
    (hepoch : b.ownerStreamEpoch.toNat < 2 ^ 63)
    (hshards : s.shards = Function.update s₀.shards device shard) :
    Returns (n + 1) s (do
      persistAckLocked F (b.ack requestDigest e.sequence)
      return b.ack requestDigest e.sequence)
      (fun r s' => Settled F b requestDigest device e shard s₀ r
        { s' with gate := Function.update s'.gate F none }) := by
  unfold persistAckLocked
  simp only [bind_assoc]
  have hrow : (b.ack requestDigest e.sequence).row (F.code M) =
      .ok { b.ack requestDigest e.sequence with
        streamEpoch := b.ownerStreamEpoch.toInt64 } := by
    simp [AckRecord.row, Submission.ack, i64TryFrom_of_lt hepoch]
  refine Returns.lift hrow (Returns.poolConn fun x => ?_)
  have hinsert : (s.db.replication F).acks.insert? { b.ack requestDigest e.sequence with
      streamEpoch := b.ownerStreamEpoch.toInt64 } ≠ none := by
    intro h
    obtain ⟨r, hr⟩ := Table.insert?_eq_none.1 h
    exact absurd (hunused.symm.trans hr) nofun
  obtain ⟨acks, hacks⟩ := Option.ne_none_iff_exists'.1 hinsert
  simp only [hacks]
  refine ⟨(), _, _, rfl, Returns.pure ⟨rfl, ⟨_, ?_, (AckRecord.record_row hrow).2⟩, hshards⟩⟩
  simp [Table.find?_insert hacks, Submission.ack]

/-- A pending batch that the owner would accept is settled by a call that runs alone and meets no
fault. -/
theorem Pending.returns {s : MnemesStore M} {b : Submission} {device : DeviceId}
    {e : ReplicaEnvelopeV1} {shard : M.Store} (h : Pending P F s b device e)
    (ho : Accepting F s device e shard) (i : Tid) (requestDigest : String) :
    Returns 12 s (applyRequest P F i b requestDigest)
      (Settled F b requestDigest device e shard s) := by
  obtain ⟨hdev, ns, row, hproj, hrow, hcov⟩ := h.admits
  obtain ⟨answer, happly, hanswer⟩ := ho.apply
  unfold applyRequest
  refine Returns.underGate (n := 10) h.gate ?_
  refine Returns.poolRead (a := none) (by simp only [h.unused]) ?_
  unfold applyNewBatch
  refine Returns.lift hproj ?_
  unfold checkAdmissionLocked
  simp only [bind_assoc]
  refine Returns.lift hdev (Returns.poolRead (a := ()) (by simp only [hrow, hcov, if_true]) ?_)
  refine Returns.lift hdev (Returns.deviceMemory ho.cataloged ?_)
  refine Returns.atomic fun x hx => ⟨answer, ?_⟩
  simp only [hx, Option.elim_none, happly, hanswer, true_and]
  split
  · next hrefresh =>
    obtain ⟨stats, hstats⟩ := ho.stats hrefresh
    refine Returns.refreshShardCounts ho.cataloged (by simpa using hstats) fun db hdb => ?_
    exact returns_persistAck (by rw [hdb]; exact h.unused) h.epoch rfl
  · refine Returns.mono (n := 1) ?_ (by omega)
    exact returns_persistAck h.unused h.epoch rfl

/-- A record that the owner accepted before is accepted again, and its shard stays as it is. -/
theorem Recorded.accepting {h : Hist (MnemesStore M) Event} (hr : Recorded h) {j : Tid}
    {b : Submission} {device : DeviceId} {e : ReplicaEnvelopeV1} {answer : ReplicaApplyOutcome}
    {q : Int64} (hmem : (j, Event.ownerApplied F b device e (.ok answer)) ∈ h.trace)
    (hq : answer.accepted = some q)
    (hstats : (F.code M).refreshes = true → ∃ stats, M.stats (h.state.shards device) = .ok stats) :
    q = e.sequence ∧ Accepting F h.state device e (h.state.shards device) := by
  obtain ⟨h1, h2, h3⟩ := hr j F b device e answer q hmem hq
  exact ⟨h1, h3, ⟨_, F.code_laws.recorded h2, rfl⟩, hstats⟩

/-- Running alone from `c` and meeting no fault, the new call `i` stores and returns the
acknowledgement of the batch at the head `q`, and leaves the shards `shards`. -/
def Converges (P : Platform) (M : SemanticMemory) (W : Wire) (F : Family)
    (c : Config Call (MnemesStore M) Choice Event Result) (i : Tid) (call : Call) (b : Submission)
    (requestDigest : String) (q : Int64) (shards : DeviceId → M.Store) : Prop :=
  ∀ xs, Faultless 12 xs → ∃ used c', used <+: xs ∧
    (service P M W).run c (.start i call :: used.map (.run i)) = some c' ∧
    c'.slots i = .live call (.done (.ack (.ok (b.ack requestDigest q)))) ∧
    (∃ row, (c'.hist.state.db.replication F).acks.find? b.batchId = some row ∧
      row.record = .ok (b.ack requestDigest q)) ∧
    c'.hist.state.shards = shards

/-- A batch that is pending, and that the owner accepts, converges. -/
theorem Pending.converges {c : Config Call (MnemesStore M) Choice Event Result} {i : Tid}
    {call : Call} {b : Submission} {device : DeviceId} {e : ReplicaEnvelopeV1} {shard : M.Store}
    {requestDigest : String} (h : Pending P F c.hist.state b device e)
    (ho : Accepting F c.hist.state device e shard)
    (hcall : call.submits P M = some (F, b, requestDigest)) (hi : c.slots i = .unused) :
    Converges P M W F c i call b requestDigest e.sequence
      (Function.update c.hist.state.shards device shard) := by
  intro xs hxs
  obtain ⟨r, ys, s', h1, -, h2⟩ := h.returns ho i requestDigest 0 xs hxs
  have hstart : (service P M W).exec c (.start i call) =
      some { c with slots := Function.update c.slots i (.live call (call.body P W i)) } := by
    simp only [Service.exec, hi]
    rfl
  have hexec : (call.body P W i : Proc (MnemesStore M) Choice Event Result).exec xs c.hist.state =
      (some (.ack r, ys), s') := by
    rw [Call.body_of_submits hcall, map_eq_pure_bind]
    simp only [Proc.bind_eq, Proc.exec_bind]
    rw [show (applyRequest P F i b requestDigest).run.exec xs c.hist.state = _ from h1]
    rfl
  obtain ⟨used, c', rfl, hrun, hslots, hstate⟩ := (service P M W).run_alone
    (c := { c with slots := Function.update c.slots i (.live call (call.body P W i)) })
    (Function.update_self _ _ _) hexec
  refine ⟨used, c', List.prefix_append _ _, ((service P M W).run_cons).2 ⟨_, hstart, hrun⟩, ?_, ?_,
    ?_⟩
  · rw [hslots, h2.result]; exact Function.update_self _ _ _
  · rw [hstate]; exact h2.stored
  · rw [hstate]; exact h2.shards

/-! ## The discipline -/

section
variable {s : MnemesStore M} {c c' : Config Call (MnemesStore M) Choice Event Result}

/-- A call that starts when its batch identifier is acknowledged changes nothing, and is answered
from the stored row. -/
theorem Reached.acknowledged (hc : Reached P M W s c) {i : Tid} {call : Call} {b : Submission}
    {requestDigest : String} {row : AckRow}
    (hcall : call.submits P M = some (F, b, requestDigest))
    (hrow : (c.hist.state.db.replication F).acks.find? b.batchId = some row)
    {cmds : List (Command Call Choice)}
    (hrun : (service P M W).run c (.start i call :: cmds) = some c') :
    (∀ cmd c'', cmd.tid = i → (service P M W).exec c' cmd = some c'' → GateOnly c'.hist c''.hist) ∧
      ∀ r, c'.slots i = .live call (.done r) →
        ∃ r', r = .ack r' ∧ Answered (F.code M) row requestDigest r' := by
  obtain ⟨c₁, hstart, hrun⟩ := ((service P M W).run_cons).1 hrun
  obtain ⟨-, hh, hs⟩ := (service P M W).exec_start hstart
  have htracks : (discipline P M W).Tracks i call GateOnly
      (fun r _ => ∃ r', r = .ack r' ∧ Answered (F.code M) row requestDigest r') c₁ := by
    refine ⟨by simp [hs], fun k t ht => ?_⟩
    simp only [hs, Function.update_self, Slot.live.injEq] at ht
    obtain ⟨rfl, rfl⟩ := ht
    refine ⟨rfl, ?_⟩
    rw [hh]
    show (call.body P W i).Safe (terms i GateOnly) _ c.hist
    rw [Call.body_of_submits hcall]
    exact safe_map ((safe_applyRequest_acknowledged hrow).mono_post fun r h' _ hr =>
      ⟨r, rfl, hr h' (Rely.refl i h') trivial⟩)
  have hc₁ := (hc.exec hstart).holds
  have htracks := htracks.run discipline_bodies hc₁ hrun
  have hc' := hc₁.run discipline_bodies hrun
  refine ⟨fun cmd c'' hi h => ?_, fun r hr => htracks.result hc' hr⟩
  cases cmd with
  | start j k => exact absurd (hi ▸ ((service P M W).exec_start h).1) htracks.1
  | run j x => exact htracks.exec_guar hc' (show (service P M W).exec c' (.run i x) = _ from hi ▸ h)
  | drop j =>
    obtain ⟨k, t, -, hh', -⟩ := (service P M W).exec_drop h
    rw [hh']
    exact ⟨by simp, rfl, rfl⟩

/-- The discipline of acknowledgements, in every reachable configuration: rows are unique and
permanent; a request that is acknowledged already changes nothing and is answered from its row;
every row was written after the owner had accepted at its head; a request that is retried while it
is admitted, without a fault and with its identifier still unused, ends with the one acknowledgement
of its record, whether the owner accepted the record before or accepts it now, and in the former
case leaves the shards alone; and no log holds a record twice. -/
theorem ack_discipline (hc : Reached P M W s c) :
    (∀ F, ∀ row ∈ (c.hist.state.db.replication F).acks.rows,
      (∀ row' ∈ (c.hist.state.db.replication F).acks.rows, row'.batchId = row.batchId →
        row' = row) ∧
      ∀ cmds c', (service P M W).run c cmds = some c' →
        row ∈ (c'.hist.state.db.replication F).acks.rows) ∧
    (∀ F i call b requestDigest row cmds c', call.submits P M = some (F, b, requestDigest) →
      (c.hist.state.db.replication F).acks.find? b.batchId = some row →
      (service P M W).run c (.start i call :: cmds) = some c' →
      (∀ cmd c'', cmd.tid = i → (service P M W).exec c' cmd = some c'' →
        GateOnly c'.hist c''.hist) ∧
      ∀ r, c'.slots i = .live call (.done r) →
        ∃ r', r = .ack r' ∧ Answered (F.code M) row requestDigest r') ∧
    (∀ F, ∀ row ∈ (c.hist.state.db.replication F).acks.rows, Written P F s c.hist.trace row) ∧
    (∀ F i call b requestDigest device e, call.submits P M = some (F, b, requestDigest) →
      c.slots i = .unused → Pending P F c.hist.state b device e →
      (∀ j answer q, (j, Event.ownerApplied F b device e (.ok answer)) ∈ c.hist.trace →
        answer.accepted = some q →
        ((F.code M).refreshes = true → ∃ stats, M.stats (c.hist.state.shards device) = .ok stats) →
        q = e.sequence ∧
          Converges P M W F c i call b requestDigest q c.hist.state.shards) ∧
      ∀ shard, Accepting F c.hist.state device e shard →
        Converges P M W F c i call b requestDigest e.sequence
          (Function.update c.hist.state.shards device shard)) ∧
    ((∀ d σ, Chained M.genesis (M.log (s.shards d) σ)) →
      ∀ d σ, (M.log (c.hist.state.shards d) σ).Nodup) := by
  refine ⟨fun F row hrow => ⟨fun row' hrow' => Table.eq_of_key hrow' hrow, fun cmds c' hrun => ?_⟩,
    fun F i call b requestDigest row cmds c' hcall hrow hrun => hc.acknowledged hcall hrow hrun,
    hc.allWritten,
    fun F i call b requestDigest device e hcall hi hpending => ⟨fun j answer q hmem hq hstats => ?_,
      fun shard haccepting => hpending.converges haccepting hcall hi⟩,
    fun h0 d σ => (hc.chained (h0 d σ)).nodup⟩
  · exact (Table.find?_eq_some.1 (hc.acks_persist hrun (Table.find?_eq_some.2 ⟨hrow, rfl⟩))).1
  · obtain ⟨rfl, haccepting⟩ := hc.recorded.accepting hmem hq hstats
    have := hpending.converges (W := W) haccepting hcall hi
    rw [Function.update_eq_self] at this
    exact ⟨rfl, this⟩

end

namespace Sample

/-- An apply call that fails right after the owner applied its record. -/
def interrupted : List (Command Call Choice) :=
  call 0 (.applyFactCreateRequest batchA "digest") 6 ++ [.run 0 faulty, .run 0 plain]

/-- The same, then a revocation of the key, and then a retry that meets no fault. -/
def revokedRetry : List (Command Call Choice) :=
  interrupted ++ call 1 (.revokeFactCreateKey deviceA "store" "notes" "writer" 1) 3 ++
    call 2 (.applyFactCreateRequest batchA "digest") 4

end Sample

open Sample in
/-- A fault loses an acknowledgement, and the retry converges to the state before it. -/
theorem ack_discipline_sample : ∃ c, Reached platform memory wire store c ∧
    c.result? 0 = some (.ack (.error (.database "fault"))) ∧
    Converges platform memory wire .factCreate c 1 (.applyFactCreateRequest batchA "digest")
      (batchA.submission platform memory) "digest" 1 c.hist.state.shards := by
  have hrun : ((service platform memory wire).run (Service.init store) interrupted).any (fun c =>
      c.result? 0 = some (.ack (.error (.database "fault"))) ∧
      (0, .ownerApplied .factCreate (batchA.submission platform memory) deviceA
        (batchA.toSemanticEnvelope entry) (.ok (.applied 1))) ∈ c.hist.trace ∧
      c.hist.state.gate .factCreate = none ∧
      (c.hist.state.db.replication .factCreate).acks.find? batchA.batchId = none ∧
      (c.hist.state.db.replication .factCreate).admissions.find? (admissionRow deviceA).scope =
        some (admissionRow deviceA)) = true := by decide +kernel
  have hproject : (batchA.submission platform memory).project =
      .ok (batchA.toSemanticEnvelope entry, "notes") := by decide +kernel
  have hdevice : (batchA.submission platform memory).device platform = .ok deviceA := by
    decide +kernel
  obtain ⟨c, hc, h⟩ := (Option.any_eq_true _ _).1 hrun
  obtain ⟨hresult, hmem, hgate, hunused, hrow⟩ := of_decide_eq_true h
  have hunstarted : c.slots 1 = .unused :=
    (service platform memory wire).run_slots_ne hc (by decide)
  have hpending : Pending platform .factCreate c.hist.state (batchA.submission platform memory)
      deviceA (batchA.toSemanticEnvelope entry) :=
    ⟨hgate, hunused, ⟨hdevice, "notes", _, hproject, hrow, by decide +kernel⟩, by decide⟩
  obtain ⟨-, -, -, hretry, -⟩ := ack_discipline ⟨_, hc⟩
  exact ⟨c, ⟨_, hc⟩, hresult, ((hretry _ 1 _ _ _ _ _ rfl hunstarted hpending).1 0 _ 1 hmem rfl
    fun _ => ⟨_, rfl⟩).2⟩

open Sample in
/-- A retry does not always converge: the key can be revoked in between. -/
theorem retry_rejected : ∃ c,
    (service platform memory wire).run (Service.init store) revokedRetry = some c ∧
    (0, .ownerApplied .factCreate (batchA.submission platform memory) deviceA
      (batchA.toSemanticEnvelope entry) (.ok (.applied 1))) ∈ c.hist.trace ∧
    c.result? 0 = some (.ack (.error (.database "fault"))) ∧
    c.result? 2 = some (.ack (.error (.factCreateRejected
      "key admission, lifecycle, scope, epoch, or fencing token rejected"))) ∧
    (c.hist.state.db.replication .factCreate).acks.rows = [] := by
  have hrun : ((service platform memory wire).run (Service.init store) revokedRetry).any (fun c =>
      (0, .ownerApplied .factCreate (batchA.submission platform memory) deviceA
        (batchA.toSemanticEnvelope entry) (.ok (.applied 1))) ∈ c.hist.trace ∧
      c.result? 0 = some (.ack (.error (.database "fault"))) ∧
      c.result? 2 = some (.ack (.error (.factCreateRejected
        "key admission, lifecycle, scope, epoch, or fencing token rejected"))) ∧
      (c.hist.state.db.replication .factCreate).acks.rows = []) = true := by decide +kernel
  obtain ⟨c, hc, h⟩ := (Option.any_eq_true _ _).1 hrun
  exact ⟨c, hc, of_decide_eq_true h⟩

end Mnemes
