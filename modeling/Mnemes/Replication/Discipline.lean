import Mnemes.Server

/-!
# What an action of the store can do

`Action` lists what one action of a call does to the shared state, with the conditions it is done
under: tables and gates change only as listed, an admission is stored or revoked and a batch applied
and acknowledged only by the call that holds the family's gate, the owner is invoked only with a
matching admission row in place, and an acknowledgement is stored only after the owner accepted.

`discipline` shows by rely–guarantee that every action of every call is one of these, whatever the
interleaving. Invariants of runs then follow from `Action` alone, by induction over the steps.
-/

namespace Mnemes

open Concurrency Relational

variable {M : SemanticMemory} {α β : Type} {P : Platform}

/-! ## Actions -/

/-- The events of actions that change nothing. -/
def Event.quiet : Event → Bool
  | .shardOpened _ | .countsRead _ => true
  | _ => false

/-- The events of an authentication. -/
def Event.Authenticates : Event → Prop
  | .statusChecked _ | .deviceRead _ _ => True
  | _ => False

/-- The events of an apply call of the family `F` for the batch `b` of a device. -/
def Event.Serves (F : Family) (b : Submission) (device : DeviceId) : Event → Prop
  | .shardOpened d | .countsRead d | .countsRefreshed d => d = device
  | .ownerApplied G b' d _ _ => G = F ∧ b' = b ∧ d = device
  | .acknowledged G row => G = F ∧ row.batchId = b.batchId ∧ row.homeDeviceId = b.homeDeviceId
  | _ => False

/-- The owner's answer to the envelope `e` for the device's shard leaves `s'`; a failure leaves the
state as it was. -/
def OwnerAnswers (F : Family) (s : MnemesStore M) (device : DeviceId) (e : ReplicaEnvelopeV1) :
    Except MemoryError ReplicaApplyOutcome → MnemesStore M → Prop
  | .error _, s' => s' = s
  | .ok answer, s' => ∃ shard, (F.code M).apply (s.shards device) e = .ok (answer, shard) ∧
      s' = { s with shards := Function.update s.shards device shard }

/-- The owner's answer concerns the device's shard alone. -/
theorem OwnerAnswers.frame {F : Family} {s s' : MnemesStore M} {device : DeviceId}
    {e : ReplicaEnvelopeV1} {answer : Except MemoryError ReplicaApplyOutcome}
    (h : OwnerAnswers F s device e answer s') :
    s'.db = s.db ∧ s'.gate = s.gate ∧ ∀ d, d ≠ device → s'.shards d = s.shards d := by
  cases answer with
  | error error =>
    obtain rfl : s' = s := h
    exact ⟨rfl, rfl, fun _ _ => rfl⟩
  | ok answer =>
    obtain ⟨shard, -, rfl⟩ := h
    exact ⟨rfl, rfl, fun d hd => Function.update_of_ne hd _ _⟩

/-- The batch an apply call of the family works on is a signed batch of that family. -/
def Submitted (P : Platform) (M : SemanticMemory) : Family → Submission → Prop
  | .factCreate, b => ∃ batch : SignedFactCreateBatchV1, b = batch.submission P M
  | .factSupersede, b => ∃ batch : SignedFactSupersedeBatchV1, b = batch.submission P M

/-- A row of the family's admissions covers the batch, for the device its home identity names and
the namespace of its payload, which was validated. -/
def Admits (P : Platform) (F : Family) (s : MnemesStore M) (b : Submission) (device : DeviceId)
    (e : ReplicaEnvelopeV1) : Prop :=
  b.device P = .ok device ∧ ∃ ns row, b.project = .ok (e, ns) ∧
    (s.db.replication F).admissions.find? (b.scope device ns) = some row ∧ row.covers b = true

/-- The call `i` submitted a batch whose envelope the owner accepted, at the head the
acknowledgement `row` reports. -/
def Accepted (P : Platform) (F : Family) (tr : List (Tid × Event)) (i : Tid) (row : AckRow) :
    Prop :=
  ∃ b device e answer, (i, .ownerApplied F b device e (.ok answer)) ∈ tr ∧
    answer.accepted = some row.acceptedHead ∧ b.device P = .ok device ∧
    row.batchId = b.batchId ∧ row.homeDeviceId = b.homeDeviceId ∧ row.storeId = b.storeId ∧
    row.streamEpoch = b.ownerStreamEpoch.toInt64

/-- What one action of the call `i` may do to the state `s` after the events `tr`. -/
inductive Action (P : Platform) (i : Tid) (tr : List (Tid × Event)) (s : MnemesStore M) :
    MnemesStore M → List Event → Prop where
  /-- Nothing changes. -/
  | quiet {es : List Event} : (∀ e ∈ es, e.quiet = true) → Action P i tr s s es
  /-- An authentication reads an active status. -/
  | check {device : DeviceId} {row : Device} : s.db.devices.find? device = some row →
    row.status = .active → Action P i tr s s [.statusChecked device]
  /-- The row of a device is read. -/
  | read {device : DeviceId} {row : Device} : s.db.devices.find? device = some row →
    Action P i tr s s [.deviceRead device row.status]
  /-- The status of a device changes, and with it the state of its shard. -/
  | status {device : DeviceId} {status : DeviceStatus} {now : String} :
    Action P i tr s { s with db := { s.db with
      devices := s.db.devices.update (·.deviceId = device)
        ({ · with status := status, lastSeenAt := now }) fun _ => rfl
      deviceShards := s.db.deviceShards.update (·.deviceId = device)
        ({ · with state := .ofDeviceStatus status }) fun _ => rfl } } [.statusSet device status]
  | take {F : Family} : s.gate F = none →
    Action P i tr s { s with gate := Function.update s.gate F (some i) } []
  | give {F : Family} : s.gate F = some i →
    Action P i tr s { s with gate := Function.update s.gate F none } []
  /-- A dropped call gives its gates back. -/
  | release : Action P i tr s (releaseGates i s) []
  | admitKey {F : Family} {a : Admission} {row : AdmissionRow} :
      s.gate F = some i → a.valid = true →
    a.row (F.code M) = .ok row →
    Action P i tr s { s with db := s.db.setReplication F { s.db.replication F with
      admissions := (s.db.replication F).admissions.upsert row } } [.admitted F a]
  | revoke {F : Family} {scope : AdmissionScope} : s.gate F = some i →
    Action P i tr s { s with db := s.db.setReplication F { s.db.replication F with
      admissions := (s.db.replication F).admissions.update (·.scope = scope)
        ({ · with revoked := true }) fun _ => rfl } } [.revoked F scope]
  | apply {F : Family} {b : Submission} {device : DeviceId} {e : ReplicaEnvelopeV1}
    {answer : Except MemoryError ReplicaApplyOutcome} {s' : MnemesStore M} : s.gate F = some i →
    Submitted P M F b → (s.db.replication F).acks.find? b.batchId = none →
    Admits P F s b device e → s.db.shardPath device = some (shardRelativePath device) →
    OwnerAnswers F s device e answer s' → Action P i tr s s' [.ownerApplied F b device e answer]
  /-- The catalog row of a device's shard takes over the counters of its store. -/
  | refresh {device : DeviceId} {stats : MemoryStats} {now : String} :
    Action P i tr s { s with db := { s.db with
      deviceShards := s.db.deviceShards.update (·.deviceId = device)
        (fun row => { row with
          counts := stats, generation := row.generation + 1, lastRefreshedAt := some now })
        fun _ => rfl } } [.countsRefreshed device]
  | acknowledge {F : Family} {row : AckRow} {acks : Table AckRow AckRow.batchId} :
    s.gate F = some i → Accepted P F tr i row →
    (s.db.replication F).acks.insert? row = some acks →
    Action P i tr s { s with db := s.db.setReplication F { s.db.replication F with acks } }
      [.acknowledged F row]

/-- Inversion of the action that asks the owner to apply. -/
theorem Action.of_applied {i : Tid} {tr : List (Tid × Event)} {s s' : MnemesStore M}
    {es : List Event} (ha : Action P i tr s s' es) {F : Family} {b : Submission}
    {device : DeviceId} {e : ReplicaEnvelopeV1} {answer : Except MemoryError ReplicaApplyOutcome}
    (hmem : .ownerApplied F b device e answer ∈ es) :
    es = [.ownerApplied F b device e answer] ∧ Submitted P M F b ∧ Admits P F s b device e ∧
      s.db.shardPath device = some (shardRelativePath device) ∧
      OwnerAnswers F s device e answer s' := by
  cases ha with
  | apply _ hb _ hadm hpath hans =>
    cases List.mem_singleton.1 hmem
    exact ⟨rfl, hb, hadm, hpath, hans⟩
  | quiet hq => cases hq _ hmem
  | check _ _ | read _ | status | admitKey _ _ _ | revoke _ | refresh | acknowledge _ _ _ =>
    cases List.mem_singleton.1 hmem
  | take _ | give _ | release => cases hmem

/-- The step of a history by an action of the call `i`. -/
def Acts (P : Platform) (i : Tid) (h h' : Hist (MnemesStore M) Event) : Prop :=
  ∃ s' es, Action P i h.trace h.state s' es ∧ h' = h.after i (s', es)

/-! ## What a call relies on -/

/-- What the other calls leave alone between two actions of the call `i`: the gates it holds and the
tables behind them, stored acknowledgements, and the events recorded so far. -/
structure Rely (i : Tid) (h h' : Hist (MnemesStore M) Event) : Prop where
  gate : ∀ F, h.state.gate F = some i → h'.state.gate F = some i
  tables : ∀ F, h.state.gate F = some i → h'.state.db.replication F = h.state.db.replication F
  acks : ∀ F k row, (h.state.db.replication F).acks.find? k = some row →
    (h'.state.db.replication F).acks.find? k = some row
  paths : h'.state.db.shardPath = h.state.db.shardPath
  trace : h.trace <+: h'.trace

/-- Other calls may do nothing. -/
theorem Rely.refl (i : Tid) (h : Hist (MnemesStore M) Event) : Rely i h h :=
  ⟨fun _ hg => hg, fun _ _ => rfl, fun _ _ _ hr => hr, rfl, List.prefix_rfl⟩

/-- What other calls do twice they may do. -/
theorem Rely.trans {i : Tid} {h₁ h₂ h₃ : Hist (MnemesStore M) Event} (h12 : Rely i h₁ h₂)
    (h23 : Rely i h₂ h₃) : Rely i h₁ h₃ where
  gate F hg := h23.gate F (h12.gate F hg)
  tables F hg := (h23.tables F (h12.gate F hg)).trans (h12.tables F hg)
  acks F k row hr := h23.acks F k row (h12.acks F k row hr)
  paths := h23.paths.trans h12.paths
  trace := h12.trace.trans h23.trace

/-- An action that leaves gates, replication tables and paths alone is within every call's rely. -/
theorem Rely.after_quiet {i j : Tid} {h : Hist (MnemesStore M) Event} {s' : MnemesStore M}
    {es : List Event} (hs : s'.gate = h.state.gate)
    (hr : s'.db.replication = h.state.db.replication)
    (hp : s'.db.shardPath = h.state.db.shardPath) : Rely j h (h.after i (s', es)) :=
  ⟨by simp [hs], by simp [hr], by simp [hr], hp, List.prefix_append _ _⟩

/-- An update of catalog rows that keeps their paths. -/
theorem shardPath_update {db db' : PooledDb} {p : DeviceShard → Bool}
    {f : DeviceShard → DeviceShard}
    (h : db'.deviceShards.rows = db.deviceShards.rows.map fun r => if p r then f r else r)
    (hf : ∀ r, (f r).deviceId = r.deviceId) (hp : ∀ r, (f r).relativePath = r.relativePath) :
    db'.shardPath = db.shardPath := by
  have hrows (k : DeviceId) :
      db'.deviceShards.find? k = (db.deviceShards.update p f hf).find? k := by
    simp only [Table.find?, h, Table.update]
  funext device
  simp only [PooledDb.shardPath, hrows, Table.find?_update, Option.map_map]
  congr 1
  funext r
  simp only [Function.comp_apply]
  split
  · exact hp r
  · rfl

@[simp] theorem PooledDb.setReplication_replication (db : PooledDb) (F G : Family)
    (t : ReplicationTables) :
    (db.setReplication F t).replication G = if G = F then t else db.replication G := by
  simp only [setReplication, Function.update_apply]

/-- The action of another call is within what a call relies on. -/
theorem Acts.rely {i j : Tid} (hij : i ≠ j) {h h' : Hist (MnemesStore M) Event}
    (ha : Acts P i h h') : Rely j h h' := by
  obtain ⟨s', es, hact, rfl⟩ := ha
  have htr : h.trace <+: (h.after i (s', es)).trace := List.prefix_append _ _
  cases hact with
  | quiet _ | check _ _ | read _ => exact .after_quiet rfl rfl rfl
  | status | refresh =>
    exact .after_quiet rfl rfl (shardPath_update rfl (fun _ => rfl) fun _ => rfl)
  | @take F hF =>
    refine ⟨fun G hG => ?_, by simp, by simp, rfl, htr⟩
    have : G ≠ F := by rintro rfl; simp [hF] at hG
    simpa [this] using hG
  | @give F hF =>
    refine ⟨fun G hG => ?_, by simp, by simp, rfl, htr⟩
    have : G ≠ F := by
      rintro rfl
      exact hij (Option.some.inj (hF.symm.trans hG))
    simpa [this] using hG
  | release =>
    refine ⟨fun G hG => ?_, by simp [releaseGates], by simp [releaseGates], rfl, htr⟩
    simp [releaseGates, hG, Ne.symm hij]
  | @admitKey F a row hF _ _ =>
    refine ⟨by simp, fun G hG => ?_, fun G k r hr => ?_, rfl, htr⟩
    · have : G ≠ F := by
        rintro rfl
        exact hij (Option.some.inj (hF.symm.trans hG))
      simp [this]
    · by_cases hGF : G = F
      · subst hGF; simpa using hr
      · simpa [hGF] using hr
  | @revoke F scope hF =>
    refine ⟨by simp, fun G hG => ?_, fun G k r hr => ?_, rfl, htr⟩
    · have : G ≠ F := by
        rintro rfl
        exact hij (Option.some.inj (hF.symm.trans hG))
      simp [this]
    · by_cases hGF : G = F
      · subst hGF; simpa using hr
      · simpa [hGF] using hr
  | apply _ _ _ _ _ hans =>
    obtain ⟨hdb, hgate, -⟩ := hans.frame
    exact .after_quiet hgate (by rw [hdb]) (by rw [hdb])
  | @acknowledge F row acks hF _ hins =>
    refine ⟨by simp, fun G hG => ?_, fun G k r hr => ?_, rfl, htr⟩
    · have : G ≠ F := by
        rintro rfl
        exact hij (Option.some.inj (hF.symm.trans hG))
      simp [this]
    · by_cases hGF : G = F
      · subst hGF; simpa using Table.find?_insert_of_some hins hr
      · simpa [hGF] using hr

/-! ## Every call keeps to the actions -/

/-- The terms of the call `i` under the guarantee `G`. -/
def terms (i : Tid) (G : Hist (MnemesStore M) Event → Hist (MnemesStore M) Event → Prop) :
    Terms (MnemesStore M) Event where
  tid := i
  inv := fun _ => True
  rely := Rely i
  guar := G
  rely_refl := Rely.refl i
  rely_trans := Rely.trans

/-- Once the events `tr` have happened, the actions of the call `i` keep the guarantee `G`, as long
as all their events satisfy `ok`. -/
def Keeps (P : Platform) (i : Tid) (tr : List (Tid × Event)) (ok : Event → Prop)
    (G : Hist (MnemesStore M) Event → Hist (MnemesStore M) Event → Prop) : Prop :=
  ∀ h s' es, tr <+: h.trace → Action P i h.trace h.state s' es → (∀ e ∈ es, ok e) →
    G h (h.after i (s', es))

/-- Since `h₀` the call `i` has kept the gates it held there. -/
structure Holding (i : Tid) (h₀ h : Hist (MnemesStore M) Event) : Prop where
  gate : ∀ F, h₀.state.gate F = some i → h.state.gate F = some i
  trace : h₀.trace <+: h.trace

/-- A call holds what it holds. -/
theorem Holding.refl (i : Tid) (h : Hist (MnemesStore M) Event) : Holding i h h :=
  ⟨fun _ hg => hg, List.prefix_rfl⟩

/-- Other calls leave the gates a call holds alone. -/
theorem Holding.rely {i : Tid} {h₀ h h' : Hist (MnemesStore M) Event} (hh : Holding i h₀ h)
    (hr : Rely i h h') : Holding i h₀ h' :=
  ⟨fun F hF => hr.gate F (hh.gate F hF), hh.trace.trans hr.trace⟩

/-- So does an action of the call itself that is not about gates. -/
theorem Holding.after {i : Tid} {h₀ h : Hist (MnemesStore M) Event} {s' : MnemesStore M}
    {es : List Event} (hh : Holding i h₀ h) (hs : s'.gate = h.state.gate) :
    Holding i h₀ (h.after i (s', es)) :=
  ⟨fun F hF => by simpa [hs] using hh.gate F hF, hh.trace.trans (List.prefix_append _ _)⟩

section
variable {i : Tid} {G : Hist (MnemesStore M) Event → Hist (MnemesStore M) Event → Prop}
  {ok : Event → Prop} {h₀ h : Hist (MnemesStore M) Event}
  {Q : Except MnemesError β → Hist (MnemesStore M) Event → Prop} {k : α → Op M β}

/-- An action that changes nothing keeps every guarantee. -/
theorem Keeps.idle {tr : List (Tid × Event)} (hG : Keeps P i tr ok G) (ht : tr <+: h.trace) :
    G h h := by
  have := hG h h.state [] ht (.quiet (by simp)) (by simp)
  rwa [Hist.after_nil] at this

/-- One action followed by the rest of the call. -/
theorem safe_atomic {f : MnemesStore M → Choice → Except MnemesError α × MnemesStore M × List Event}
    (hf : ∀ h' x, Rely i h h' → G h' (h'.after i (f h'.state x).2) ∧
      match (f h'.state x).1 with
      | .ok a => (k a).run.Safe (terms i G) Q (h'.after i (f h'.state x).2)
      | .error e => ∀ h'', Rely i (h'.after i (f h'.state x).2) h'' → Q (.error e) h'') :
    (ExceptT.mk (Proc.atomic f) >>= k).run.Safe (terms i G) Q h := by
  refine Proc.Safe.attempt_atomic fun h' x hr _ => ?_
  obtain ⟨h1, h2⟩ := hf h' x hr
  refine ⟨h1, ?_⟩
  revert h2
  cases (f h'.state x).1 with
  | ok a => exact id
  | error e => exact fun h2 h₃ hr3 _ => h2 h₃ hr3

variable (hQ : ∀ e h', Holding i h₀ h' → Q (.error e) h')
include hQ

/-- A pure step that may fail. -/
theorem safe_lift (hh : Holding i h₀ h) {r : Except MnemesError α}
    (hk : ∀ a, r = .ok a → (k a).run.Safe (terms i G) Q h) :
    ((liftM r : Op M α) >>= k).run.Safe (terms i G) Q h := by
  cases r with
  | ok a => exact hk a rfl
  | error e => exact Proc.Safe.done fun h' hr _ => hQ e h' (hh.rely hr)

variable (hG : Keeps P i h₀.trace ok G)
include hG

/-- A section under the pool lock. -/
theorem safe_poolConn (hh : Holding i h₀ h)
    {f : PooledDb → Choice → Except MnemesError (α × PooledDb × List Event)}
    (hf : ∀ h' x a db es, Rely i h h' → f h'.state.db x = .ok (a, db, es) →
      Action P i h'.trace h'.state { h'.state with db } es ∧ (∀ e ∈ es, ok e) ∧
        (Holding i h₀ (h'.after i ({ h'.state with db }, es)) →
          (k a).run.Safe (terms i G) Q (h'.after i ({ h'.state with db }, es)))) :
    (poolConn f >>= k).run.Safe (terms i G) Q h := by
  refine safe_atomic fun h' x hr => ?_
  have hh' := hh.rely hr
  have hidle : G h' h' := hG.idle hh'.trace
  cases hx : x.fault with
  | some error => simpa using ⟨hidle, fun h'' hr' => hQ _ _ (hh'.rely hr')⟩
  | none =>
    cases hfx : f h'.state.db x with
    | error e => simpa using ⟨hidle, fun h'' hr' => hQ _ _ (hh'.rely hr')⟩
    | ok r =>
      obtain ⟨a, db, es⟩ := r
      obtain ⟨h1, h2, h3⟩ := hf h' x a db es hr hfx
      exact ⟨hG _ _ _ hh'.trace h1 h2, h3 (hh'.after rfl)⟩

/-- A section that reads only. -/
theorem safe_poolRead (hh : Holding i h₀ h) {f : PooledDb → Except MnemesError α}
    (hf : ∀ h' a, Rely i h h' → Holding i h₀ h' → f h'.state.db = .ok a →
      (k a).run.Safe (terms i G) Q h') :
    (poolRead f >>= k).run.Safe (terms i G) Q h := by
  refine safe_poolConn hQ hG hh fun h' x a db es hr hx => ?_
  cases hfx : f h'.state.db with
  | error e => simp [hfx, Except.map] at hx
  | ok a' =>
    simp only [hfx, Except.map, Except.ok.injEq, Prod.mk.injEq] at hx
    obtain ⟨rfl, rfl, rfl⟩ := hx
    refine ⟨.quiet (by simp), by simp, fun _ => ?_⟩
    rw [show h'.after i ({ h'.state with db := h'.state.db }, []) = h' from Hist.after_nil h' i]
    exact hf h' _ hr (hh.rely hr) hfx

/-- A call of the owner, which leaves the gates alone. -/
theorem safe_memoryCall (hh : Holding i h₀ h)
    {f : MnemesStore M → Except MnemesError α × MnemesStore M × List Event}
    (hgate : ∀ s, (f s).2.1.gate = s.gate)
    (hf : ∀ h', Rely i h h' → Holding i h₀ h' →
      Action P i h'.trace h'.state (f h'.state).2.1 (f h'.state).2.2 ∧
        (∀ e ∈ (f h'.state).2.2, ok e) ∧ ∀ a, (f h'.state).1 = .ok a →
          Holding i h₀ (h'.after i (f h'.state).2) →
          (k a).run.Safe (terms i G) Q (h'.after i (f h'.state).2)) :
    (memoryCall f >>= k).run.Safe (terms i G) Q h := by
  refine safe_atomic fun h' x hr => ?_
  have hh' := hh.rely hr
  cases hx : x.fault with
  | some error => simpa using ⟨hG.idle hh'.trace, fun h'' hr' => hQ _ _ (hh'.rely hr')⟩
  | none =>
    obtain ⟨h1, h2, h3⟩ := hf h' hr hh'
    refine ⟨hG _ _ _ hh'.trace h1 h2, ?_⟩
    have hh2 : Holding i h₀ (h'.after i (f h'.state).2) := hh'.after (hgate _)
    cases hfx : (f h'.state).1 with
    | ok a => exact h3 a hfx hh2
    | error e => exact fun h'' hr' => hQ _ _ (hh2.rely hr')

end

/-- A call under a gate: its body runs with the gate held, and keeps it. -/
theorem safe_underGate {i : Tid} {ok : Event → Prop}
    {G : Hist (MnemesStore M) Event → Hist (MnemesStore M) Event → Prop}
    {h : Hist (MnemesStore M) Event} {Q : Except MnemesError β → Hist (MnemesStore M) Event → Prop}
    (F : Family) {t : Op M β} (hG : Keeps P i h.trace ok G)
    (hQ : ∀ r h' h'', Q r h' → Rely i h' h'' → Q r h'')
    (hb : ∀ h₁, h.trace <+: h₁.trace → h₁.state.gate F = some i →
      t.run.Safe (terms i G) (fun r h' => Holding i h₁ h' ∧
        Q r (h'.after i ({ h'.state with gate := Function.update h'.state.gate F none }, []))) h₁) :
    (underGate i F t).run.Safe (terms i G) Q h := by
  refine Proc.Safe.locked fun h' hr _ hfree => ?_
  have hfree : h'.state.gate F = none := by simpa using hfree
  refine ⟨hG _ _ _ hr.trace (.take hfree) (by simp), ?_⟩
  have hpre (s' : MnemesStore M) : h.trace <+: (h'.after i (s', [])).trace :=
    hr.trace.trans (List.prefix_append _ _)
  refine (hb _ (hpre _) (by simp)).mono_post fun r h₂ _ hq => ?_
  obtain ⟨h1, h2⟩ := hq h₂ (Rely.refl i h₂) trivial
  exact ⟨hG _ _ _ ((hpre _).trans h1.trace) (.give (h1.gate F (by simp))) (by simp),
    fun h₃ hr3 _ => hQ r _ _ h2 hr3⟩

/-! ## The methods -/

/-- A stored acknowledgement reads back as the record it stores. -/
theorem AckRecord.record_row {F : FamilyCode M} {ack : AckRecord} {row : AckRow}
    (h : ack.row F = .ok row) : row.batchId = ack.batchId ∧ row.record = .ok ack := by
  unfold AckRecord.row at h
  split at h
  · next x hx =>
    cases h
    obtain ⟨h1, rfl⟩ := i64TryFrom_eq_some hx
    simp [AckRow.record, u64TryFrom_toInt64 h1]
  · cases h

/-- Of the columns of a stored acknowledgement, the epoch is a cast. -/
theorem AckRecord.row_eq {F : FamilyCode M} {ack : AckRecord} {row : AckRow}
    (h : ack.row F = .ok row) : row = { ack with streamEpoch := ack.streamEpoch.toInt64 } := by
  unfold AckRecord.row at h
  split at h
  · next x hx => cases h; rw [(i64TryFrom_eq_some hx).2]
  · cases h

section
variable {i : Tid} {G : Hist (MnemesStore M) Event → Hist (MnemesStore M) Event → Prop}
  {ok : Event → Prop} {h₀ h : Hist (MnemesStore M) Event}
  {Q : Except MnemesError β → Hist (MnemesStore M) Event → Prop}
  (hQ : ∀ e h', Holding i h₀ h' → Q (.error e) h') (hG : Keeps P i h₀.trace ok G)
include hQ hG

/-- Opening a shard is allowed, and finds its path in the catalog. -/
theorem safe_deviceMemory (hh : Holding i h₀ h) {device : DeviceId} {k : Unit → Op M β}
    (hok : ok (.shardOpened device))
    (hk : ∀ h', Rely i h h' → h'.state.db.shardPath device = some (shardRelativePath device) →
      (k ()).run.Safe (terms i G) Q h') :
    (deviceMemory device >>= k).run.Safe (terms i G) Q h := by
  unfold deviceMemory
  simp only [bind_assoc]
  refine safe_poolRead hQ hG hh fun h1 path hr1 hh1 hpath => ?_
  split
  · exact Proc.Safe.done fun h' hr _ => hQ _ _ (hh1.rely hr)
  · next heq =>
    have hcat : h1.state.db.shardPath device = some (shardRelativePath device) := by
      split at hpath
      · next row hrow => simp [PooledDb.shardPath, hrow, Except.ok.inj hpath, not_not.1 heq]
      · cases hpath
    refine safe_memoryCall hQ hG hh1 (fun _ => rfl) fun h2 hr2 hh2 =>
      ⟨.quiet (by simp [Event.quiet]), by simpa using hok, fun _ _ _ => ?_⟩
    exact hk _ ((hr1.trans hr2).trans (.after_quiet rfl rfl rfl)) (by rw [← hcat, ← hr2.paths]; rfl)

/-- A refresh of the counters is allowed. -/
theorem safe_refreshShardCounts (hh : Holding i h₀ h) {device : DeviceId} {k : Unit → Op M β}
    (hok : ok (.shardOpened device)) (hread : ok (.countsRead device))
    (hok' : ok (.countsRefreshed device))
    (hk : ∀ h', Rely i h h' → (k ()).run.Safe (terms i G) Q h') :
    (refreshShardCounts device >>= k).run.Safe (terms i G) Q h := by
  unfold refreshShardCounts shardStats
  simp only [bind_assoc]
  refine safe_deviceMemory hQ hG hh hok fun h1 hr1 _ => ?_
  refine safe_memoryCall hQ hG (hh.rely hr1) (fun _ => rfl) fun h2 hr2 hh2 =>
    ⟨.quiet (by simp [Event.quiet]), by simpa using hread, fun stats _ hh3 => ?_⟩
  refine safe_poolConn hQ hG hh3 fun h3 x a db es hr3 hf => ?_
  have hr : Rely i h h3 := (hr1.trans hr2).trans ((Rely.after_quiet rfl rfl rfl).trans hr3)
  split at hf
  · cases hf
  · cases hf
    refine ⟨.refresh, by simpa using hok', fun _ => hk _ (hr.trans (.after_quiet rfl rfl ?_))⟩
    exact shardPath_update rfl (fun _ => rfl) fun _ => rfl

/-- After the admission check a covering row is in place, and stays there while the gate is held. -/
theorem safe_checkAdmissionLocked (hh : Holding i h₀ h) {F : Family} {b : Submission}
    {e : ReplicaEnvelopeV1} {ns : String} (hb : b.project = .ok (e, ns)) {k : Unit → Op M β}
    (hk : ∀ h' device, Rely i h h' → Admits P F h'.state b device e →
      (k ()).run.Safe (terms i G) Q h') :
    (checkAdmissionLocked P F b ns >>= k).run.Safe (terms i G) Q h := by
  unfold checkAdmissionLocked
  simp only [bind_assoc]
  refine safe_lift hQ hh fun device hd => ?_
  refine safe_poolRead hQ hG hh fun h1 u hr1 hh1 hf => ?_
  split at hf
  · next row hrow =>
    split at hf
    · next hc => exact hk h1 device hr1 ⟨hd, ns, row, hb, hrow, hc⟩
    · cases hf
  · cases hf

/-- A new acknowledgement: the owner accepted, the gate is held, and the row can be stored. -/
theorem safe_persistAckLocked (hh : Holding i h₀ h) {F : Family} {ack : AckRecord}
    {k : Unit → Op M β} (hgate : h.state.gate F = some i)
    (hacc : Accepted P F h.trace i { ack with streamEpoch := ack.streamEpoch.toInt64 })
    (hok : ok (.acknowledged F { ack with streamEpoch := ack.streamEpoch.toInt64 }))
    (hk : ∀ h' row, Holding i h₀ h' →
      (h'.state.db.replication F).acks.find? ack.batchId = some row →
      row.record = .ok ack → (k ()).run.Safe (terms i G) Q h') :
    (persistAckLocked F ack >>= k).run.Safe (terms i G) Q h := by
  unfold persistAckLocked
  simp only [bind_assoc]
  refine safe_lift hQ hh fun row hrow => ?_
  refine safe_poolConn hQ hG hh fun h1 x a db es hr1 hf => ?_
  split at hf
  · cases hf
  · next acks hacks =>
    cases hf
    obtain ⟨hid, hrec⟩ := AckRecord.record_row hrow
    refine ⟨.acknowledge (hr1.gate F hgate) ?_ hacks, by simpa [AckRecord.row_eq hrow] using hok,
      fun hh1 => hk _ row hh1 ?_ hrec⟩
    · obtain ⟨b, device, e, answer, hmem, hrest⟩ := hacc
      rw [AckRecord.row_eq hrow]
      exact ⟨b, device, e, answer, hr1.trace.subset hmem, hrest⟩
    · simp [Table.find?_insert hacks, hid]

end

/-- The tables of a gate the call holds are still those of an earlier moment, so an admission seen
then is there now. -/
theorem Admits.rely {i : Tid} {F : Family} {h h' : Hist (MnemesStore M) Event} {b : Submission}
    {device : DeviceId} {e : ReplicaEnvelopeV1} (ha : Admits P F h.state b device e)
    (hF : h.state.gate F = some i) (hr : Rely i h h') : Admits P F h'.state b device e := by
  obtain ⟨h1, ns, row, h2, h3, h4⟩ := ha
  exact ⟨h1, ns, row, h2, by rw [hr.tables F hF]; exact h3, h4⟩

/-- The rest of an apply call, under the gate. -/
theorem safe_applyNewBatch {i : Tid} {ok : Event → Prop}
    {G : Hist (MnemesStore M) Event → Hist (MnemesStore M) Event → Prop}
    {h₀ h : Hist (MnemesStore M) Event}
    {Q : Except MnemesError AckRecord → Hist (MnemesStore M) Event → Prop}
    (hQ : ∀ e h', Holding i h₀ h' → Q (.error e) h') (hG : Keeps P i h₀.trace ok G)
    (hh : Holding i h₀ h) {F : Family} (hgate : h.state.gate F = some i) {b : Submission}
    (hb : Submitted P M F b)
    (hok : ∀ device, b.device P = .ok device → ∀ e, e.Serves F b device → ok e)
    (hnew : (h.state.db.replication F).acks.find? b.batchId = none) {requestDigest : String}
    (hack : ∀ ack h' row, Holding i h₀ h' → ack.requestDigest = requestDigest →
      (h'.state.db.replication F).acks.find? b.batchId = some row → row.record = .ok ack →
      ∀ h'', Rely i h' h'' → Q (.ok ack) h'') :
    (applyNewBatch P F b requestDigest).run.Safe (terms i G) Q h := by
  unfold applyNewBatch
  refine safe_lift hQ hh fun ⟨e, ns⟩ hproj => ?_
  refine safe_checkAdmissionLocked hQ hG hh hproj fun h1 device hr1 hadm => ?_
  refine safe_lift hQ (hh.rely hr1) fun device' hdev => ?_
  obtain rfl : device = device' := Except.ok.inj (hadm.1.symm.trans hdev)
  have hok := hok device hdev
  refine safe_deviceMemory hQ hG (hh.rely hr1) (hok _ rfl) fun h2 hr2 hpath2 => ?_
  have hg2 := hr2.gate F (hr1.gate F hgate)
  have hadm2 := hadm.rely (hr1.gate F hgate) hr2
  have hh2 : Holding i h₀ h2 := hh.rely (hr1.trans hr2)
  unfold ownerApply
  refine safe_atomic fun h3 x hr3 => ?_
  have hg3 := hr3.gate F hg2
  have hadm3 := hadm2.rely hg2 hr3
  have hh3 := hh2.rely hr3
  have hnew3 : (h3.state.db.replication F).acks.find? b.batchId = none := by
    rw [(hr1.trans (hr2.trans hr3)).tables F hgate, hnew]
  have hpath3 : h3.state.db.shardPath device = some (shardRelativePath device) := by
    rw [hr3.paths, hpath2]
  have happlied : ∀ answer, ∀ ev ∈ [Event.ownerApplied F b device e answer], ok ev := by
    intro answer ev hev
    cases List.mem_singleton.1 hev
    exact hok _ ⟨rfl, rfl, rfl⟩
  split
  · next error herr =>
    refine ⟨hG _ _ _ hh3.trace (.apply hg3 hb hnew3 hadm3 hpath3 rfl) (happlied _),
      fun h4 hr4 => hQ _ _ ?_⟩
    exact Holding.rely (hh3.after rfl) hr4
  · next answer shard hans =>
    have happly : (F.code M).apply (h3.state.shards device) e = .ok (answer, shard) := by
      cases hx : x.fault with
      | some error => simp [hx] at hans
      | none => simpa [hx] using hans
    refine ⟨hG _ _ _ hh3.trace (.apply hg3 hb hnew3 hadm3 hpath3 ⟨shard, happly, rfl⟩) (happlied _),
      ?_⟩
    set h4 := h3.after i ({ h3.state with shards := Function.update h3.state.shards device shard },
      [.ownerApplied F b device e (.ok answer)]) with h4_def
    have hh4 : Holding i h₀ h4 := hh3.after rfl
    simp only
    split
    · exact Proc.Safe.done fun h' hr _ => hQ _ _ (hh4.rely hr)
    · next head hhead =>
      have hmem : (i, Event.ownerApplied F b device e (.ok answer)) ∈ h4.trace := by simp [h4_def]
      have hpersist : ∀ h5, Rely i h4 h5 → (persistAckLocked F
          { batchId := b.batchId, requestDigest, homeDeviceId := b.homeDeviceId
            storeId := b.storeId, streamEpoch := b.ownerStreamEpoch, acceptedHead := head
            disposition := "accepted" : AckRecord } >>= fun _ => pure
          { batchId := b.batchId, requestDigest, homeDeviceId := b.homeDeviceId
            storeId := b.storeId, streamEpoch := b.ownerStreamEpoch, acceptedHead := head
            disposition := "accepted" : AckRecord }).run.Safe (terms i G) Q h5 := by
        intro h5 hr5
        refine safe_persistAckLocked hQ hG (hh4.rely hr5) (hr5.gate F hg3)
          ⟨b, device, e, answer, hr5.trace.subset hmem, hhead, hdev, rfl, rfl, rfl, rfl⟩
          (hok _ ⟨rfl, rfl, rfl⟩) fun h6 row hh6 hrow hrec => ?_
        exact Proc.Safe.done fun h7 hr7 _ => hack _ h6 row hh6 rfl hrow hrec h7 hr7
      split
      · exact safe_refreshShardCounts hQ hG hh4 (hok _ rfl) (hok _ rfl) (hok _ rfl) hpersist
      · exact hpersist h4 (.refl i h4)

/-- An acknowledgement returned for a batch is stored under the batch's identifier. -/
def Acknowledges (F : Family) (b : Submission) (requestDigest : String) :
    Except MnemesError AckRecord → Hist (MnemesStore M) Event → Prop
  | .error _, _ => True
  | .ok ack, h => ack.requestDigest = requestDigest ∧
      ∃ row, (h.state.db.replication F).acks.find? b.batchId = some row ∧ row.record = .ok ack

section
variable {i : Tid} {ok : Event → Prop}
  {G : Hist (MnemesStore M) Event → Hist (MnemesStore M) Event → Prop}
  {h : Hist (MnemesStore M) Event}

/-- An acknowledgement stays one whatever other calls do. -/
theorem Acknowledges.rely {F : Family} {b : Submission} {requestDigest : String}
    {r : Except MnemesError AckRecord} {h h' : Hist (MnemesStore M) Event}
    (ha : Acknowledges F b requestDigest r h) (hr : Rely i h h') :
    Acknowledges F b requestDigest r h' := by
  cases r with
  | error e => trivial
  | ok ack =>
    obtain ⟨h1, row, h2, h3⟩ := ha
    exact ⟨h1, row, hr.acks F _ row h2, h3⟩

/-- An apply call: its actions, and what its result says. -/
theorem safe_applyRequest {F : Family} {b : Submission} (hb : Submitted P M F b)
    (hok : ∀ device, b.device P = .ok device → ∀ e, e.Serves F b device → ok e)
    (hG : Keeps P i h.trace ok G) {requestDigest : String} :
    (applyRequest P F i b requestDigest).run.Safe (terms i G)
      (Acknowledges F b requestDigest) h := by
  unfold applyRequest
  refine safe_underGate F hG (fun _ _ _ => Acknowledges.rely) fun h1 htr hgate => ?_
  have hG1 : Keeps P i h1.trace ok G := fun h' s' es ht => hG h' s' es (htr.trans ht)
  have hQ : ∀ (e : MnemesError) (h' : Hist (MnemesStore M) Event), Holding i h1 h' →
      Holding i h1 h' ∧ Acknowledges F b requestDigest (.error e)
        (h'.after i ({ h'.state with gate := Function.update h'.state.gate F none }, [])) :=
    fun _ _ hh => ⟨hh, trivial⟩
  refine safe_poolRead hQ hG1 (.refl i h1) fun h2 found hr2 hh2 hfound => ?_
  split
  · next existing =>
    split at hfound
    · simp at hfound
    · next row hrow =>
      have hrec : row.record = .ok existing := by
        cases hrec : row.record with
        | error e => simp [hrec, Except.map] at hfound
        | ok ack => simpa [hrec, Except.map] using hfound
      split
      · exact Proc.Safe.done fun h' hr _ => hQ _ _ (hh2.rely hr)
      · next hdig =>
        refine Proc.Safe.done fun h' hr _ => ⟨hh2.rely hr, by simpa using hdig, row, ?_, hrec⟩
        simpa using hr.acks F _ row hrow
  · have hnew : (h2.state.db.replication F).acks.find? b.batchId = none := by
      split at hfound
      · assumption
      · next row _ => cases hrec : row.record <;> simp [hrec, Except.map] at hfound
    refine safe_applyNewBatch hQ hG1 hh2 (hr2.gate F hgate) hb hok hnew
      fun ack h' row hh' hdig hrow hrec h'' hr => ⟨hh'.rely hr, hdig, row, ?_, hrec⟩
    simpa using hr.acks F _ row hrow

/-- An admission. -/
theorem safe_admitKey {F : Family} {a : Admission} (hG : Keeps P i h.trace ok G)
    (hok : ok (.admitted F a)) :
    (admitKey F i a).run.Safe (terms i G) (fun _ _ => True) h := by
  unfold admitKey
  refine safe_underGate F hG (fun _ _ _ _ _ => trivial) fun h1 htr hgate => ?_
  have hG1 : Keeps P i h1.trace ok G := fun h' s' es ht => hG h' s' es (htr.trans ht)
  split
  · exact Proc.Safe.done fun h' hr _ => ⟨(Holding.refl i h1).rely hr, trivial⟩
  · next hv =>
    refine safe_lift (fun _ _ hh => ⟨hh, trivial⟩) (.refl i h1) fun row hrow => ?_
    rw [← bind_pure (poolConn _)]
    refine safe_poolConn (fun _ _ hh => ⟨hh, trivial⟩) hG1 (.refl i h1)
      fun h2 x a' db es hr2 hf => ?_
    have hf' : db = h2.state.db.setReplication F { h2.state.db.replication F with
        admissions := (h2.state.db.replication F).admissions.upsert row } ∧
        es = [.admitted F a] := by
      split at hf
      · cases hf
      · cases hf; exact ⟨rfl, rfl⟩
    obtain ⟨rfl, rfl⟩ := hf'
    exact ⟨.admitKey (hr2.gate F hgate) (by simpa using hv) hrow, by simpa using hok,
      fun hh => Proc.Safe.done fun h' hr _ => ⟨hh.rely hr, trivial⟩⟩

/-- A revocation. -/
theorem safe_revokeKey {F : Family} {device : DeviceId} {storeId ns principalId : String}
    {keyVersion : UInt64} (hG : Keeps P i h.trace ok G)
    (hok : ok (.revoked F ⟨device, storeId, ns, principalId, keyVersion.toInt64⟩)) :
    (revokeKey F i device storeId ns principalId keyVersion).run.Safe (terms i G)
      (fun _ _ => True) h := by
  unfold revokeKey
  refine safe_underGate F hG (fun _ _ _ _ _ => trivial) fun h1 htr hgate => ?_
  have hG1 : Keeps P i h1.trace ok G := fun h' s' es ht => hG h' s' es (htr.trans ht)
  rw [← bind_pure (poolConn _)]
  refine safe_poolConn (fun _ _ hh => ⟨hh, trivial⟩) hG1 (.refl i h1)
    fun h2 x a' db es hr2 hf => ?_
  cases hf
  exact ⟨.revoke (hr2.gate F hgate), by simpa using hok,
    fun hh => Proc.Safe.done fun h' hr _ => ⟨hh.rely hr, trivial⟩⟩

/-- A change of status. -/
theorem safe_setDeviceStatus {device : DeviceId} {status : DeviceStatus}
    (hG : Keeps P i h.trace ok G) (hok : ok (.statusSet device status)) :
    (setDeviceStatus device status).run.Safe (terms i G) (fun _ _ => True) h := by
  unfold setDeviceStatus
  rw [← bind_pure (poolConn _)]
  refine safe_poolConn (fun _ _ _ => trivial) hG (.refl i h) fun h2 x a' db es hr2 hf => ?_
  split at hf
  · cases hf
  · cases hf
    exact ⟨.status, by simpa using hok, fun _ => Proc.Safe.done fun _ _ _ => trivial⟩

end

end Mnemes
