import Mnemes.Conformance
import Mnemes.Lib.Noninterference

/-!
# Interference between devices

The requests of different devices share the tables and the gate of a family, but what a fact-create
request reads and changes is scoped by its device, with one exception: acknowledgements are keyed by
the batch identifier alone. So the requests of one device are independent of the others as long as
none of the others stores an acknowledgement under one of its identifiers
(`fact_create_noninterference`), and otherwise an admissible batch is rejected
(`batch_id_collision`).
-/

namespace Mnemes

open Concurrency Relational

variable {M : SemanticMemory} {P : Platform} {W : Wire} {α β : Type}

/-! ## Agreement of calls -/

section
variable {R : MnemesStore M → MnemesStore M → Prop} {Q : Except MnemesError β → Prop}
  (hQ : ∀ e, Q (.error e)) {k : α → Op M β}
include hQ

/-- One action followed by the rest of the call. -/
theorem agrees_atomic
    {f : MnemesStore M → Choice → Except MnemesError α × MnemesStore M × List Event}
    (hf : ∀ s s' x, R s s' → (f s' x).1 = (f s x).1 ∧ R (f s x).2.1 (f s' x).2.1 ∧
      (f s' x).2.2 = (f s x).2.2 ∧ ∀ a, (f s x).1 = .ok a → (k a).run.Agrees R Q) :
    (ExceptT.mk (Proc.atomic f) >>= k).run.Agrees R Q := by
  refine Proc.Agrees.bind (Q := fun r => ∀ a, r = .ok a → (k a).run.Agrees R Q)
    (Proc.Agrees.atomic hf) fun r hr => ?_
  cases r with
  | ok a => exact hr a rfl
  | error e => exact Proc.Agrees.done (hQ e)

/-- A pure step. -/
theorem agrees_lift {r : Except MnemesError α}
    (hk : ∀ a, r = .ok a → (k a).run.Agrees R Q) :
    ((liftM r : Op M α) >>= k).run.Agrees R Q := by
  cases r with
  | ok a => exact hk a rfl
  | error e => exact Proc.Agrees.done (hQ e)

/-- A section under the pool lock. -/
theorem agrees_poolConn {f : PooledDb → Choice → Except MnemesError (α × PooledDb × List Event)}
    (hf : ∀ s s' x, R s s' → (∀ e, f s.db x = .error e → f s'.db x = .error e) ∧
      ∀ a db es, f s.db x = .ok (a, db, es) → ∃ db', f s'.db x = .ok (a, db', es) ∧
        R { s with db } { s' with db := db' } ∧ (k a).run.Agrees R Q) :
    (poolConn f >>= k).run.Agrees R Q := by
  refine agrees_atomic hQ fun s s' x hR => ?_
  obtain ⟨herror, hok⟩ := hf s s' x hR
  cases hx : x.fault with
  | some error => exact ⟨rfl, hR, rfl, nofun⟩
  | none =>
    cases hfx : f s.db x with
    | error e =>
      simp only [herror e hfx]
      exact ⟨trivial, hR, trivial, nofun⟩
    | ok r =>
      obtain ⟨a, db, es⟩ := r
      obtain ⟨db', h1, h2, h3⟩ := hok a db es hfx
      simp only [h1]
      exact ⟨trivial, h2, trivial, fun a' ha' => Except.ok.inj ha' ▸ h3⟩

/-- A section that reads only. -/
theorem agrees_poolRead {f : PooledDb → Except MnemesError α}
    (hf : ∀ s s', R s s' → f s'.db = f s.db)
    (hk : ∀ db a, f db = .ok a → (k a).run.Agrees R Q) :
    (poolRead f >>= k).run.Agrees R Q := by
  refine agrees_poolConn hQ fun s s' x hR => ?_
  rw [hf s s' hR]
  cases hfs : f s.db with
  | error e => exact ⟨fun _ he => he, nofun⟩
  | ok a' =>
    refine ⟨nofun, fun a db es hfx => ?_⟩
    simp only [Except.map, Except.ok.injEq, Prod.mk.injEq] at hfx
    obtain ⟨rfl, rfl, rfl⟩ := hfx
    exact ⟨s'.db, rfl, hR, hk _ _ hfs⟩

/-- A query whose failure counts as an empty result. -/
theorem agrees_poolReadOk {f : PooledDb → Option α} {note : α → List Event}
    {k : Option α → Op M β} (hf : ∀ s s', R s s' → f s'.db = f s.db)
    (hnone : (k none).run.Agrees R Q)
    (hk : ∀ db a, f db = some a → (k (some a)).run.Agrees R Q) :
    (poolReadOk f note >>= k).run.Agrees R Q := by
  refine agrees_atomic hQ fun s s' x hR => ?_
  cases hx : x.fault with
  | some error => exact ⟨rfl, hR, rfl, fun a ha => Except.ok.inj ha ▸ hnone⟩
  | none =>
    refine ⟨by simp only [hf s s' hR], hR, by simp only [hf s s' hR], fun a ha => ?_⟩
    obtain rfl := Except.ok.inj ha
    cases hfs : f s.db with
    | none => exact hnone
    | some a => exact hk _ _ hfs

/-- A call of the owner. -/
theorem agrees_memoryCall
    {f : MnemesStore M → Except MnemesError α × MnemesStore M × List Event}
    (hf : ∀ s s', R s s' → (f s').1 = (f s).1 ∧ R (f s).2.1 (f s').2.1 ∧ (f s').2.2 = (f s).2.2)
    (hk : ∀ a, (k a).run.Agrees R Q) :
    (memoryCall f >>= k).run.Agrees R Q := by
  refine agrees_atomic hQ fun s s' x hR => ?_
  cases hx : x.fault with
  | some error => exact ⟨rfl, hR, rfl, nofun⟩
  | none =>
    obtain ⟨h1, h2, h3⟩ := hf s s' hR
    exact ⟨h1, h2, h3, fun a _ => hk a⟩

end

/-! ## What a device sees -/

/-- The part of the state that concerns the device `A`, which is the same in `s` and `s'`. Of the
acknowledgements these are the ones under the identifiers `ids` and the ones of the device. Of the
gate it is whether a `low` call holds it. -/
structure View (A : DeviceId) (low : Tid → Bool) (ids : String → Prop) (s s' : MnemesStore M) :
    Prop where
  devices : s'.db.devices = s.db.devices
  admissions : (s'.db.replication .factCreate).admissions =
    (s.db.replication .factCreate).admissions
  acks : ∀ k, ids k → (s'.db.replication .factCreate).acks.find? k =
    (s.db.replication .factCreate).acks.find? k
  ownAcks : (s'.db.replication .factCreate).acks.rows.filter (·.homeDeviceId = A.text) =
    (s.db.replication .factCreate).acks.rows.filter (·.homeDeviceId = A.text)
  catalog : s'.db.deviceShards.find? A = s.db.deviceShards.find? A
  shard : s'.shards A = s.shards A
  gate : s'.gate .factCreate = (s.gate .factCreate).filter low

section
variable {A : DeviceId} {low : Tid → Bool} {ids : String → Prop}

/-- A step of another device's request does not change what `A` sees, unless it stores an
acknowledgement under one of `A`'s identifiers. -/
theorem Step.view {i : Tid} {req : Request} {h h' : Hist (MnemesStore M) Event}
    {t : MnemesStore M} (hs : Step P M W i (.factCreateHandler req) h h')
    (hdevice : req.device P ≠ some A) (hlow : low i = false)
    (hids : ∀ F row, (i, .acknowledged F row) ∈ h'.trace → ¬ ids row.batchId)
    (hv : View A low ids h.state t) : View A low ids h'.state t := by
  obtain ⟨s', es, hact, rfl, hmay⟩ := hs
  -- the events are about another device
  have hserves : ∀ e ∈ es, ¬ e.Authenticates → ∃ b device, device ≠ A ∧
      b.homeDeviceId = device.text ∧ e.Serves .factCreate b device := by
    intro e he hauth
    rcases hmay e he with h | ⟨b, device, _, -, hreq, hhome, -, hserves⟩
    · exact absurd h hauth
    · refine ⟨b, device, ?_, hhome, hserves⟩
      rintro rfl
      exact hdevice hreq
  cases hact with
  | quiet _ | check _ _ | read _ => exact hv
  | status | admitKey _ _ _ | revoke _ =>
    obtain ⟨_, _, _, _, h⟩ := hserves _ (List.mem_singleton_self _) (by simp [Event.Authenticates])
    exact h.elim
  | @take F hF =>
    refine { hv with gate := ?_ }
    by_cases hFG : F = .factCreate
    · subst hFG; simp [hv.gate, hF, hlow, Option.filter]
    · simpa [Function.update_of_ne (Ne.symm hFG)] using hv.gate
  | @give F hF =>
    refine { hv with gate := ?_ }
    by_cases hFG : F = .factCreate
    · subst hFG; simp [hv.gate, hF, hlow, Option.filter]
    · simpa [Function.update_of_ne (Ne.symm hFG)] using hv.gate
  | release =>
    refine { hv with gate := ?_ }
    show t.gate .factCreate =
      (if h.state.gate .factCreate = some i then none else h.state.gate .factCreate).filter low
    split
    · next hF => simp [hv.gate, hF, hlow, Option.filter]
    · exact hv.gate
  | @apply F b device e answer s' _ _ _ _ _ hans =>
    obtain ⟨b', device', hne, -, -, -, rfl⟩ := hserves _ (List.mem_singleton_self _)
      (by simp [Event.Authenticates])
    obtain ⟨hdb, hgate, hshards⟩ := hans.frame
    exact { devices := by simpa [hdb] using hv.devices
            admissions := by simpa [hdb] using hv.admissions
            acks := by simpa [hdb] using hv.acks
            ownAcks := by simpa [hdb] using hv.ownAcks
            catalog := by simpa [hdb] using hv.catalog
            shard := by simpa [hshards A (Ne.symm hne)] using hv.shard
            gate := by simpa [hgate] using hv.gate }
  | @refresh device stats now =>
    obtain ⟨b', device', hne, -, rfl⟩ := hserves _ (List.mem_singleton_self _)
      (by simp [Event.Authenticates])
    refine { hv with catalog := hv.catalog.trans ?_ }
    simp only [Hist.after_state, Table.find?_update]
    cases hA : h.state.db.deviceShards.find? A with
    | none => rfl
    | some row => simp [(Table.find?_eq_some.1 hA).2, Ne.symm hne]
  | @acknowledge F row acks _ _ hins =>
    obtain ⟨b', device', hne, hhome, rfl, -, hrow⟩ := hserves _ (List.mem_singleton_self _)
      (by simp [Event.Authenticates])
    have hid := hids .factCreate row (by simp)
    refine { hv with admissions := ?_, acks := fun k hk => ?_, ownAcks := ?_ }
    · simpa using hv.admissions
    · have : row.batchId ≠ k := by rintro rfl; exact hid hk
      simpa [Table.find?_insert hins, this] using hv.acks k hk
    · have hneText : row.homeDeviceId ≠ A.text := by
        rw [hrow, hhome]
        intro heq
        exact hne (by cases device'; cases A; exact congrArg DeviceId.mk heq)
      simpa [(Table.insert?_eq_some hins).2, List.filter_append, hneText] using hv.ownAcks

/-- A low call that is dropped gives its gate back in both states. -/
theorem View.release {i : Tid} {s s' : MnemesStore M} (hv : View A low ids s s')
    (hlow : low i = true) : View A low ids (releaseGates i s) (releaseGates i s') := by
  refine { hv with gate := ?_ }
  show (if s'.gate .factCreate = some i then none else s'.gate .factCreate) =
    (if s.gate .factCreate = some i then none else s.gate .factCreate).filter low
  rw [hv.gate]
  cases hs : s.gate .factCreate with
  | none => simp
  | some j =>
    by_cases hj : j = i
    · subst hj; simp [hlow]
    · cases hl : low j <;> simp [Option.filter, hj, hl]

/-! ## The requests of a device -/

variable (A low ids) in
/-- The gate of a call whose identity is low. -/
theorem agrees_underGate {i : Tid} (hi : low i = true) {t : Op M β}
    (ht : t.run.Agrees (View A low ids) fun _ => True) :
    (underGate i .factCreate t).run.Agrees (View A low ids) fun _ => True := by
  refine Proc.Agrees.locked (fun s s' hv hfree => ?_) (fun s s' hv => ?_) ht
  · have hfree : s.gate .factCreate = none := by simpa using hfree
    exact ⟨by simp [hv.gate, hfree], { hv with gate := by simp [Option.filter, hi] }⟩
  · exact { hv with gate := by simp }

/-- The shard of the device is opened alike. -/
theorem agrees_deviceMemory {k : Unit → Op M β}
    (hk : (k ()).run.Agrees (View A low ids) fun _ => True) :
    (deviceMemory A >>= k).run.Agrees (View A low ids) fun _ => True := by
  unfold deviceMemory
  simp only [bind_assoc]
  refine agrees_poolRead (fun _ => trivial) (fun s s' hv => by simp only [hv.catalog])
    fun db path _ => ?_
  split
  · exact Proc.Agrees.done trivial
  · exact agrees_memoryCall (fun _ => trivial) (fun s s' hv => ⟨rfl, hv, rfl⟩) fun _ => hk

/-- Its counters are refreshed alike. -/
theorem agrees_refreshShardCounts {k : Unit → Op M β}
    (hk : (k ()).run.Agrees (View A low ids) fun _ => True) :
    (refreshShardCounts A >>= k).run.Agrees (View A low ids) fun _ => True := by
  unfold refreshShardCounts shardStats
  simp only [bind_assoc]
  refine agrees_deviceMemory ?_
  refine agrees_memoryCall (fun _ => trivial) (fun s s' hv => ⟨by simp only [hv.shard], hv, rfl⟩)
    fun stats => ?_
  refine agrees_poolConn (fun _ => trivial) fun s s' x hv => ?_
  rw [hv.catalog]
  cases hrow : s.db.deviceShards.find? A with
  | none => exact ⟨fun _ he => he, fun _ _ _ hf => by cases hf⟩
  | some row =>
    refine ⟨fun _ he => (by cases he), fun a db es hf => ?_⟩
    cases hf
    refine ⟨_, rfl, { hv with catalog := ?_ }, hk⟩
    simp only [Table.find?_update, hv.catalog]

/-- An acknowledgement under an identity of the device is stored alike. -/
theorem agrees_persistAckLocked {ack : AckRecord} (hid : ids ack.batchId) {k : Unit → Op M β}
    (hk : (k ()).run.Agrees (View A low ids) fun _ => True) :
    (persistAckLocked .factCreate ack >>= k).run.Agrees (View A low ids) fun _ => True := by
  unfold persistAckLocked
  simp only [bind_assoc]
  refine agrees_lift (fun _ => trivial) fun row hrow => ?_
  have hid : ids row.batchId := by rwa [(AckRecord.record_row hrow).1]
  refine agrees_poolConn (fun _ => trivial) fun s s' x hv => ?_
  -- the identifier is free in both states or in neither
  cases hins : (s.db.replication .factCreate).acks.insert? row with
  | none =>
    obtain ⟨r, hr⟩ := Table.insert?_eq_none.1 hins
    rw [← hv.acks _ hid] at hr
    simp only [Table.insert?_eq_none.2 ⟨r, hr⟩]
    exact ⟨fun _ he => he, nofun⟩
  | some acks =>
    have hnone : (s'.db.replication .factCreate).acks.insert? row ≠ none := by
      intro h
      obtain ⟨r, hr⟩ := Table.insert?_eq_none.1 h
      rw [hv.acks _ hid, (Table.insert?_eq_some hins).1] at hr
      cases hr
    obtain ⟨acks', hins'⟩ := Option.ne_none_iff_exists'.1 hnone
    simp only [hins']
    refine ⟨nofun, fun a db es hf => ?_⟩
    cases hf
    refine ⟨_, rfl, { hv with admissions := ?_, acks := fun k hk => ?_, ownAcks := ?_ }, hk⟩
    · simpa using hv.admissions
    · simp [Table.find?_insert hins, Table.find?_insert hins', hv.acks k hk]
    · simpa [(Table.insert?_eq_some hins).2, (Table.insert?_eq_some hins').2, List.filter_append]
        using hv.ownAcks

/-- A new batch of the device is applied alike. -/
theorem agrees_applyNewBatch {b : Submission} (hid : ids b.batchId)
    (hdevice : b.device P = .ok A) {requestDigest : String} :
    (applyNewBatch P .factCreate b requestDigest : Op M AckRecord).run.Agrees (View A low ids)
      fun _ => True := by
  unfold applyNewBatch
  refine agrees_lift (fun _ => trivial) fun projected _ => ?_
  obtain ⟨e, ns⟩ := projected
  unfold checkAdmissionLocked
  simp only [bind_assoc]
  refine agrees_lift (fun _ => trivial) fun device hd => ?_
  obtain rfl : A = device := Except.ok.inj (hdevice.symm.trans hd)
  refine agrees_poolRead (fun _ => trivial) (fun s s' hv => by simp only [hv.admissions])
    fun db u _ => ?_
  refine agrees_lift (fun _ => trivial) fun device hd => ?_
  obtain rfl : A = device := Except.ok.inj (hdevice.symm.trans hd)
  refine agrees_deviceMemory ?_
  have hpersist : ∀ q, (do
      persistAckLocked .factCreate (M := M)
        { batchId := b.batchId, requestDigest, homeDeviceId := b.homeDeviceId
          storeId := b.storeId, streamEpoch := b.ownerStreamEpoch, acceptedHead := q
          disposition := "accepted" }
      return ({ batchId := b.batchId, requestDigest, homeDeviceId := b.homeDeviceId
                storeId := b.storeId, streamEpoch := b.ownerStreamEpoch, acceptedHead := q
                disposition := "accepted" } : AckRecord)).run.Agrees (View A low ids)
        fun _ => True := fun q =>
      agrees_persistAckLocked hid (Proc.Agrees.done trivial)
  unfold ownerApply
  refine agrees_atomic (fun _ => trivial) fun s s' x hv => ?_
  simp only [hv.shard]
  cases x.fault.elim ((Family.factCreate.code M).apply (s.shards A) e) (.error <| .other ·) with
  | error error => exact ⟨rfl, hv, rfl, fun _ ha => by cases ha⟩
  | ok r =>
    obtain ⟨answer, shard⟩ := r
    refine ⟨rfl, { hv with shard := by simp }, rfl, fun a ha => ?_⟩
    obtain rfl := Except.ok.inj ha
    cases answer.accepted with
    | none => exact Proc.Agrees.done trivial
    | some q => exact agrees_refreshShardCounts (hpersist q)

/-- A request of the device is answered alike. -/
theorem agrees_applyRequest {i : Tid} (hi : low i = true) {b : Submission} (hid : ids b.batchId)
    (hdevice : b.device P = .ok A) {requestDigest : String} :
    (applyRequest P .factCreate i b requestDigest : Op M AckRecord).run.Agrees (View A low ids)
      fun _ => True := by
  unfold applyRequest
  refine agrees_underGate A low ids hi ?_
  refine agrees_poolRead (fun _ => trivial) (fun s s' hv => by simp only [hv.acks _ hid])
    fun db found _ => ?_
  cases found with
  | none => exact agrees_applyNewBatch hid hdevice
  | some existing =>
    simp only
    split <;> exact Proc.Agrees.done trivial

/-- A token of the device is looked up alike. -/
theorem agrees_tokenDeviceId {Q : Except MnemesError β → Prop} (hQ : ∀ e, Q (.error e))
    {token : String} {k : Device × Option String → Op M β}
    (hk : ∀ r, tokenDevice P token = some r.1.deviceId →
      DeviceId.parse P r.1.deviceId.text = .ok r.1.deviceId →
      (k r).run.Agrees (View A low ids) Q) :
    (tokenDeviceId P token >>= k).run.Agrees (View A low ids) Q := by
  unfold tokenDeviceId credentialRow getDevice
  simp only [bind_assoc]
  refine agrees_lift hQ fun parsed hparse => ?_
  obtain ⟨device, secret⟩ := parsed
  refine agrees_poolReadOk hQ (fun s s' hv => ?_) ?_ fun db row _ => ?_
  · simp only [hv.devices]
  · exact Proc.Agrees.done (hQ _)
  obtain ⟨fingerprint, status⟩ := row
  simp only
  split
  · exact Proc.Agrees.done (hQ _)
  · split
    · exact Proc.Agrees.done (hQ _)
    · simp only [bind_assoc]
      refine agrees_poolReadOk hQ (fun s s' hv => ?_) ?_ fun db row hrow => ?_
      · simp only [hv.devices]
      · exact Proc.Agrees.done (hQ _)
      obtain rfl : row.deviceId = device := (Table.find?_eq_some.1 hrow).2
      exact hk _ (by simp [tokenDevice, hparse, Except.toOption])
        (parseAuthorizationToken_device hparse)

/-- The handler does the same for a request of the device `A` whatever the other devices do. -/
theorem agrees_factCreateHandler {i : Tid} (hi : low i = true) {req : Request}
    (hdevice : req.device P = some A)
    (hid : ∀ b, (factCreateRoute P M W).decodeJson req.body = .ok b → ids b.batchId) :
    (factCreateHandler P W i req : Proc (MnemesStore M) Choice Event Response).Agrees
      (View A low ids) fun _ => True := by
  unfold factCreateHandler Route.handler
  split
  · exact Proc.Agrees.done trivial
  · next b hb =>
    unfold authorize authenticateRequest
    refine Proc.Agrees.bind (Q := fun r => ∀ device, r = .ok device → device.deviceId = A ∧
      DeviceId.parse P A.text = .ok A) ?_ fun r hr => ?_
    · have herror : ∀ e device, (.error e : Except MnemesError Device) = .ok device →
          device.deviceId = A ∧ DeviceId.parse P A.text = .ok A := fun _ _ h => by cases h
      refine agrees_lift herror fun token htoken => ?_
      simp only [bind_assoc]
      refine agrees_tokenDeviceId herror fun r hnamed hcanonical =>
        Proc.Agrees.done fun device hd => ?_
      obtain rfl : r.1 = device := Except.ok.inj hd
      have : some A = some r.1.deviceId := by
        simp [← hnamed, ← hdevice, Request.device, htoken, Except.toOption]
      rw [Option.some.inj this]
      exact ⟨rfl, hcanonical⟩
    · cases r with
      | error e => exact Proc.Agrees.done trivial
      | ok device =>
        obtain ⟨rfl, hcanonical⟩ := hr device rfl
        simp only
        split
        · exact Proc.Agrees.done trivial
        · next hhome =>
          refine (agrees_applyRequest hi (hid b hb) ?_).bind fun r _ => ?_
          · simp [Submission.device, not_not.1 hhome, hcanonical, Except.mapError]
          · cases r <;> exact Proc.Agrees.done trivial

end

/-! ## Noninterference -/

/-- What a run leaves for the device `A`: the results of its requests, the acknowledgements that
name it, and its shard. -/
structure SameFor (A : DeviceId) (low : Tid → Bool)
    (c c' : Config Call (MnemesStore M) Choice Event Result) : Prop where
  results : ∀ i, low i = true → c'.result? i = c.result? i
  acks : (c'.hist.state.db.replication .factCreate).acks.rows.filter (·.homeDeviceId = A.text) =
    (c.hist.state.db.replication .factCreate).acks.rows.filter (·.homeDeviceId = A.text)
  shard : c'.hist.state.shards A = c.hist.state.shards A

/-- Fact-create requests of other devices do not interfere with those of the device `A`: in a run of
such requests in which no request of another device stores an acknowledgement under a batch
identifier of `A`'s requests, removing all requests of other devices leaves everything of `A` as it
was. -/
theorem fact_create_noninterference {s : MnemesStore M}
    {c : Config Call (MnemesStore M) Choice Event Result} {cmds : List (Command Call Choice)}
    (hgate : s.gate .factCreate = none)
    (hrun : (service P M W).run (Service.init s) cmds = some c) (A : DeviceId) (low : Tid → Bool)
    (hcalls : ∀ i call, .start i call ∈ cmds → ∃ req, call = .factCreateHandler req ∧
      (low i = true ↔ req.device P = some A))
    (hids : ∀ j F row, (j, .acknowledged F row) ∈ c.hist.trace → low j = false →
      ∀ i req b, .start i (.factCreateHandler req) ∈ cmds → low i = true →
        (factCreateRoute P M W).decodeJson req.body = .ok b → row.batchId ≠ b.batchId) :
    ∃ cA, (service P M W).run (Service.init s) (cmds.filter fun cmd => low cmd.tid) = some cA ∧
      SameFor A low c cA := by
  let ids : String → Prop := fun k => ∃ i req b, .start i (.factCreateHandler req) ∈ cmds ∧
    low i = true ∧ (factCreateRoute P M W).decodeJson req.body = .ok b ∧ b.batchId = k
  have hrefl : View A low ids s s := ⟨rfl, rfl, fun _ _ => rfl, rfl, rfl, rfl, by simp [hgate]⟩
  have hbody : ∀ i call, .start i call ∈ cmds → low i = true →
      (((service P M W).body i call).Agrees (View A low ids) fun _ => True) := by
    intro i call hmem hlow
    obtain ⟨req, rfl, hdevice⟩ := hcalls i call hmem
    show (Result.response <$> factCreateHandler P W i req).Agrees _ _
    rw [map_eq_pure_bind]
    exact (agrees_factCreateHandler hlow (hdevice.1 hlow)
      fun b hb => ⟨i, req, b, hmem, hlow, hb, rfl⟩).bind fun _ _ => Proc.Agrees.done trivial
  -- a step of a high call acts for another device
  have hhigh : ∀ pre cmd post c₁ c₂ t, cmds = pre ++ cmd :: post →
      (service P M W).run (Service.init s) pre = some c₁ → (service P M W).exec c₁ cmd = some c₂ →
      low cmd.tid = false → View A low ids c₁.hist.state t → View A low ids c₂.hist.state t := by
    intro pre cmd post c₁ c₂ t hcmds hpre hexec hlow hv
    rcases Reached.step ⟨pre, hpre⟩ hexec with ⟨_, _, _, hh⟩ | ⟨call, rest, hlive, hstep⟩
    · rwa [hh]
    · have hmem : .start cmd.tid call ∈ cmds := by
        rcases (service P M W).run_live hpre hlive with hmem | ⟨_, h⟩
        · simp [hcmds, hmem]
        · cases h
      obtain ⟨req, rfl, hdevice⟩ := hcalls _ _ hmem
      have hne : req.device P ≠ some A := fun h => by simp [hdevice.2 h] at hlow
      refine hstep.view hne hlow (fun F row hrow ⟨i, req', b, hmem', hlow', hb, hid⟩ => ?_) hv
      have htrace : c₂.hist.trace <+: c.hist.trace := by
        rw [hcmds] at hrun
        obtain ⟨m, h1, h2⟩ := (service P M W).run_append.1 hrun
        obtain ⟨m', h3, h4⟩ := (service P M W).run_cons.1 h2
        obtain rfl := Option.some.inj (hpre.symm.trans h1)
        obtain rfl := Option.some.inj (hexec.symm.trans h3)
        exact (service P M W).run_trace h4
      exact hids _ F row (htrace.subset hrow) hlow i req' b hmem' hlow' hb hid.symm
  obtain ⟨cA, hA, hp⟩ := Service.project hrefl hrun hbody
    (fun _ _ _ hlow hv => hv.release hlow) hhigh
  refine ⟨cA, hA, fun i hi => ?_, hp.state.ownAcks, hp.state.shard⟩
  simp only [Config.result?, hp.slots i hi]

namespace Sample

/-- The requests of both devices, which carry one batch identifier. The one of device B fails after
its record was applied, and stores no acknowledgement. -/
def interleaved : List (Command Call Choice) :=
  call 0 (.factCreateHandler (request deviceB batchB)) 2 ++
    call 1 (.factCreateHandler (request deviceA batchA)) 2 ++
    List.replicate 6 (.run 0 plain) ++ [.run 0 faulty, .run 0 plain] ++
    List.replicate 12 (.run 1 plain)

/-- The same requests one after the other, without a failure. -/
def colliding : List (Command Call Choice) :=
  call 0 (.factCreateHandler (request deviceB batchB)) 14 ++
    call 1 (.factCreateHandler (request deviceA batchA)) 5

/-- Without the request of device B, and until the one of device A is finished. -/
def alone : List (Command Call Choice) :=
  (colliding.filter fun cmd => cmd.tid = 1) ++ List.replicate 9 (.run 1 plain)

/-- The response to device A's request when it is accepted. -/
def acceptedA : Result :=
  .response ⟨200, .inl ⟨"mnemes.fact-create.v1",
    ⟨batchA.batchId, hex digestBodyA.toList, deviceA.text, "store", 1, 1, "accepted"⟩⟩⟩

end Sample

open Sample in
/-- Device A is answered the same with and without the requests of device B. -/
theorem fact_create_noninterference_sample : ∃ c cA,
    (service platform memory wire).run (Service.init store) interleaved = some c ∧
    (service platform memory wire).run (Service.init store)
      (interleaved.filter fun cmd => cmd.tid = 1) = some cA ∧
    cA.result? 1 = c.result? 1 ∧ c.result? 1 = some acceptedA := by
  have hrun : ((service platform memory wire).run (Service.init store) interleaved).any (fun c =>
      c.result? 1 = some acceptedA && c.hist.trace.all fun p => match p.2 with
        | .acknowledged _ _ => p.1 = 1
        | _ => true) = true := by decide +kernel
  obtain ⟨c, hc, h⟩ := (Option.any_eq_true _ _).1 hrun
  obtain ⟨hresult, hall⟩ := Bool.and_eq_true_iff.1 h
  have hdeviceA : (request deviceA batchA).device platform = some deviceA := by decide +kernel
  have hdeviceB : (request deviceB batchB).device platform = some deviceB := by decide +kernel
  have hcalls : ∀ i k, .start i k ∈ interleaved → ∃ req, k = .factCreateHandler req ∧
      (decide (i = 1) = true ↔ req.device platform = some deviceA) := by
    intro i k hmem
    have hmem : (i = 0 ∧ k = .factCreateHandler (request deviceB batchB)) ∨
        i = 1 ∧ k = .factCreateHandler (request deviceA batchA) := by
      simpa [interleaved, call, List.mem_replicate] using hmem
    rcases hmem with ⟨rfl, rfl⟩ | ⟨rfl, rfl⟩
    · exact ⟨_, rfl, by rw [hdeviceB]; decide⟩
    · exact ⟨_, rfl, by rw [hdeviceA]; decide⟩
  obtain ⟨cA, hA, hsame⟩ := fact_create_noninterference (s := store) rfl hc deviceA
    (fun i => decide (i = 1)) hcalls fun j F row hmem hlow => by
      have := List.all_eq_true.1 hall _ hmem
      simp only at this hlow
      rw [this] at hlow
      cases hlow
  exact ⟨c, cA, hc, hA, hsame.results 1 rfl, of_decide_eq_true hresult⟩

open Sample in
/-- A device can have the admissible batch of another one rejected, by using its identifier
first. -/
theorem batch_id_collision : ∃ c cA,
    (service platform memory wire).run (Service.init store) colliding = some c ∧
    (service platform memory wire).run (Service.init store) alone = some cA ∧
    c.result? 1 = some (.response ⟨409, .inr "fact-create conflict"⟩) ∧
    cA.result? 1 = some acceptedA ∧
    c.hist.state.shards deviceA = [] ∧ cA.hist.state.shards deviceA ≠ [] := by
  have hrun : ((service platform memory wire).run (Service.init store) colliding).any (fun c =>
      c.result? 1 = some (.response ⟨409, .inr "fact-create conflict"⟩) &&
      (c.hist.state.shards deviceA).isEmpty) = true := by decide +kernel
  have hrunA : ((service platform memory wire).run (Service.init store) alone).any (fun c =>
      c.result? 1 =
        some acceptedA && !(c.hist.state.shards deviceA).isEmpty) = true := by decide +kernel
  obtain ⟨c, hc, h⟩ := (Option.any_eq_true _ _).1 hrun
  obtain ⟨cA, hcA, hA⟩ := (Option.any_eq_true _ _).1 hrunA
  obtain ⟨h1, h2⟩ := Bool.and_eq_true_iff.1 h
  obtain ⟨h3, h4⟩ := Bool.and_eq_true_iff.1 hA
  refine ⟨c, cA, hc, hcA, of_decide_eq_true h1, of_decide_eq_true h3, List.isEmpty_iff.1 h2, ?_⟩
  rintro h
  simp [h] at h4

end Mnemes
