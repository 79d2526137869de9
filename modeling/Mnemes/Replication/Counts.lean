import Mnemes.Server

/-!
# The catalog counts of a device's shard

The catalog row of a device copies the counters of its shard. Applying a fact-create batch and
syncing a fact refresh the copy after they changed the shard; applying a supersession does not, and
a call that fails or is dropped after its change leaves the copy behind, where a later call may be
answered without a refresh. The copy is right in every state in which the last refresh of the row
read the counters after the last change of the shard (`counts_follow_replication`).
-/

namespace Mnemes

open Concurrency Relational

variable {M : SemanticMemory} {P : Platform}

/-! ## Syncing a fact -/

/-- What syncing calls of the owner: the fact of a namespace and content, if the shard's database
has one, and `add_fact`, which returns the identity of the new fact. -/
structure FactShards (M : SemanticMemory) where
  findFact : M.Store → (ns content : String) → Option String
  addFact : M.Store → (ns content : String) → (source metadata : Option String) →
    Except MemoryError (String × M.Store)

/-- `FactSyncOutcome`. -/
inductive FactSyncOutcome where
  | synced (serverFactId : String)
  | skipped
  deriving DecidableEq, Repr

/-- A read of the shard's database file, past the owner. -/
def readShardFile {α : Type} (device : DeviceId) (f : M.Store → α) : Op M α :=
  ExceptT.mk (Proc.atomic fun s x =>
    match x.fault with
    | some error => (.error (.database error), s, [])
    | none => (.ok (f (s.shards device)), s, []))

/-- `MemoryStore::add_fact` of a device's shard. -/
def addFact (W : FactShards M) (device : DeviceId) (ns content : String)
    (source metadata : Option String) : Op M String :=
  memoryCall fun s =>
    match W.addFact (s.shards device) ns content source metadata with
    | .error error => (.error (.memory error), s, [])
    | .ok (id, shard) =>
      (.ok id, { s with shards := Function.update s.shards device shard }, [.factAdded device])

/-- `sync_fact_to_shard`. -/
def syncFactToShard (W : FactShards M) (device : DeviceId) (sourceFactId ns content : String)
    (source metadata : Option String) : Op M FactSyncOutcome := do
  match ← getDevice device with
  | none => throw (.deviceNotFound device.text)
  | some row =>
    if row.status ≠ .active then throw (.deviceNotActive device.text)
    let already ← poolRead fun db => .ok (db.syncedFacts.find? (sourceFactId, device)).isSome
    if already then return .skipped
    let existing ← readShardFile device fun shard => W.findFact shard ns content
    let (serverFactId, outcome) ←
      match existing with
      | some existing => pure (existing, .skipped)
      | none => do
        deviceMemory device
        let id ← addFact W device ns content source metadata
        refreshShardCounts device
        pure (id, .synced id)
    poolConn fun db x => do
      let syncedFacts ← okOr
        (db.syncedFacts.insert?
          { sourceFactId, deviceId := device, serverFactId, syncedAt := x.now })
        (.database "UNIQUE constraint failed: synced_facts")
      return ((), { db with syncedFacts }, [])
    return outcome

/-- The calls that change shards. -/
inductive ShardCall where
  | applyFactCreateRequest (b : SignedFactCreateBatchV1) (requestDigest : String)
  | applyFactSupersedeRequest (b : SignedFactSupersedeBatchV1) (requestDigest : String)
  | syncFactToShard (device : DeviceId) (sourceFactId ns content : String)
    (source metadata : Option String)
  deriving DecidableEq

/-- The device whose shard a call is about. -/
def ShardCall.Affects (device : DeviceId) : ShardCall → Prop
  | .applyFactCreateRequest b _ => b.homeDeviceId = device.text
  | .applyFactSupersedeRequest b _ => b.homeDeviceId = device.text
  | .syncFactToShard d _ _ _ _ _ => d = device

/-- The process of a call, without what it returns. -/
def ShardCall.op (P : Platform) (W : FactShards M) (i : Tid) : ShardCall → Op M Unit
  | .applyFactCreateRequest b requestDigest => do
    let _ ← Mnemes.applyFactCreateRequest P i b requestDigest
    return ()
  | .applyFactSupersedeRequest b requestDigest => do
    let _ ← Mnemes.applyFactSupersedeRequest P i b requestDigest
    return ()
  | .syncFactToShard device sourceFactId ns content source metadata => do
    let _ ← Mnemes.syncFactToShard W device sourceFactId ns content source metadata
    return ()

/-- The calls, in any number and any interleaving. -/
def shardService (P : Platform) (M : SemanticMemory) (W : FactShards M) :
    Service ShardCall (MnemesStore M) Choice Event (Except MnemesError Unit) where
  body i call := (call.op P W i).run
  release := releaseGates

/-! ## Changes and refreshes in a trace -/

/-- The device's shard was changed. -/
def Event.changes (device : DeviceId) : Event → Bool
  | .ownerApplied _ _ d _ (.ok (.applied _)) => d = device
  | .factAdded d => d = device
  | _ => false

/-- The last refresh of the device's catalog row was made by a call after whose reading of the
counters the shard was not changed; or the shard was not changed, and its row not refreshed, at
all. -/
def CountsSettled (device : DeviceId) (tr : List (Tid × Event)) : Prop :=
  (∀ p ∈ tr, p.2.changes device = false ∧ p.2 ≠ .countsRefreshed device) ∨
    ∃ pre i mid post, tr = pre ++ (i, .countsRead device) :: mid ++
        (i, .countsRefreshed device) :: post ∧
      (∀ p ∈ mid ++ post, p.2.changes device = false) ∧ ∀ p ∈ post, p.2 ≠ .countsRefreshed device

/-- The catalog row of a device has the counters of its shard. -/
def InSync (device : DeviceId) (s : MnemesStore M) : Prop :=
  ∀ row, s.db.deviceShards.find? device = some row → M.stats (s.shards device) = .ok row.counts

section
variable {device : DeviceId} {tr more : List (Tid × Event)} {i : Tid} {e : Event}

/-- What neither changes the shard nor refreshes its row settles nothing. -/
theorem CountsSettled.of_append
    (hmore : ∀ p ∈ more, p.2.changes device = false ∧ p.2 ≠ .countsRefreshed device)
    (h : CountsSettled device (tr ++ more)) : CountsSettled device tr := by
  rcases h with h | ⟨pre, i, mid, post, htr, hmid, hpost⟩
  · exact .inl fun p hp => h p (List.mem_append_left _ hp)
  · rcases Hist.append_eq_append_cons htr with ⟨post', hold, rfl⟩ | ⟨mid', hnew, -⟩
    · refine .inr ⟨pre, i, mid, post', hold, fun p hp => hmid p ?_,
        fun p hp => hpost p (List.mem_append_left _ hp)⟩
      rcases List.mem_append.1 hp with hp | hp
      · exact List.mem_append_left _ hp
      · exact List.mem_append_right _ (List.mem_append_left _ hp)
    · exact absurd rfl (hmore _ (hnew ▸ List.mem_append_right _ List.mem_cons_self)).2

/-- After a change the row is not settled. -/
theorem not_countsSettled_of_changes (he : e.changes device = true) :
    ¬ CountsSettled device (tr ++ [(i, e)]) := by
  rintro (h | ⟨pre, j, mid, post, htr, hmid, -⟩)
  · have := (h (i, e) (by simp)).1
    rw [he] at this
    cases this
  · rcases Hist.append_singleton_eq_append_cons htr with ⟨post', -, rfl⟩ | ⟨heq, -, -⟩
    · have := hmid (i, e) (by simp)
      rw [he] at this
      cases this
    · obtain ⟨-, rfl⟩ := Prod.mk.inj heq
      cases he

/-- Where a refresh settles the row, its call had read the counters, and the shard was not changed
since. -/
theorem CountsSettled.of_refresh
    (h : CountsSettled device (tr ++ [(i, .countsRefreshed device)])) :
    ∃ pre mid, tr = pre ++ (i, .countsRead device) :: mid ∧
      ∀ p ∈ mid, p.2.changes device = false := by
  rcases h with h | ⟨pre, j, mid, post, htr, hmid, hpost⟩
  · exact absurd rfl (h (i, .countsRefreshed device) (by simp)).2
  · rcases Hist.append_singleton_eq_append_cons htr with ⟨post', -, rfl⟩ | ⟨heq, hpre, rfl⟩
    · exact absurd rfl (hpost (i, .countsRefreshed device) (by simp))
    · obtain ⟨rfl, -⟩ := Prod.mk.inj heq
      exact ⟨pre, mid, hpre.symm, fun p hp => hmid p (List.mem_append_left _ hp)⟩

/-- The only reading of a call is found at one place of a trace. -/
theorem only_reading {pre pre' mid mid' : List (Tid × Event)}
    (hpre : (i, .countsRead device) ∉ pre ++ mid)
    (h : pre ++ (i, .countsRead device) :: mid = pre' ++ (i, .countsRead device) :: mid') :
    mid = mid' := by
  rcases List.append_eq_append_iff.1 h with ⟨a, -, ha⟩ | ⟨a, hb, ha⟩
  · cases a with
    | nil => exact (List.cons.inj ha).2
    | cons p a =>
      refine absurd (List.mem_append_right pre ?_) hpre
      rw [(List.cons.inj ha).2]
      exact List.mem_append_right _ List.mem_cons_self
  · cases a with
    | nil => exact (List.cons.inj ha).2.symm
    | cons p a =>
      refine absurd (List.mem_append_left mid ?_) hpre
      rw [hb, (List.cons.inj ha).1]
      exact List.mem_append_right _ List.mem_cons_self

end

/-! ## The terms of the calls -/

/-- The catalog row of every device whose row is settled has the counters of its shard. -/
def CountsFollow (h : Hist (MnemesStore M) Event) : Prop :=
  ∀ device, CountsSettled device h.trace → InSync device h.state

/-- What the calls and their interference do to the shards: an event records it. -/
structure ShardsRecorded (more : List (Tid × Event)) (s s' : MnemesStore M) : Prop where
  shard : ∀ device, (∃ p ∈ more, p.2.changes device = true) ∨ s'.shards device = s.shards device

/-- What two traces record of the shards they record together. -/
theorem ShardsRecorded.trans {more more' : List (Tid × Event)} {s s' s'' : MnemesStore M}
    (h : ShardsRecorded more s s') (h' : ShardsRecorded more' s' s'') :
    ShardsRecorded (more ++ more') s s'' := by
  refine ⟨fun device => ?_⟩
  rcases h.shard device with ⟨p, hp, hc⟩ | h1
  · exact .inl ⟨p, List.mem_append_left _ hp, hc⟩
  · rcases h'.shard device with ⟨p, hp, hc⟩ | h2
    · exact .inl ⟨p, List.mem_append_right _ hp, hc⟩
    · exact .inr (h2.trans h1)

/-- No events record no change. -/
theorem ShardsRecorded.refl (s : MnemesStore M) : ShardsRecorded [] s s := ⟨fun _ => .inr rfl⟩

/-- Interference with the call `i`: events of other calls, which record what happens to the
shards. -/
def CountsRely (i : Tid) (h h' : Hist (MnemesStore M) Event) : Prop :=
  ∃ more, h'.trace = h.trace ++ more ∧ (∀ p ∈ more, p.1 ≠ i) ∧ ShardsRecorded more h.state h'.state

/-- The terms: the counts follow, and every action records what it does to the shards. -/
def countsTerms (P : Platform) (M : SemanticMemory) (W : FactShards M) :
    RelyGuarantee (shardService P M W) where
  inv := CountsFollow
  rely := CountsRely
  guar i _ h h' := CountsFollow h' ∧
    ∃ es : List Event, h'.trace = h.trace ++ es.map (i, ·) ∧
      ShardsRecorded (es.map (i, ·)) h.state h'.state
  rely_refl _ h :=
    ⟨[], (List.append_nil _).symm, fun _ hp => absurd hp List.not_mem_nil, .refl _⟩
  rely_trans := by
    rintro i h₁ h₂ h₃ ⟨more, htr, hi, hrec⟩ ⟨more', htr', hi', hrec'⟩
    refine ⟨more ++ more', by rw [htr', htr, List.append_assoc], fun p hp => ?_, hrec.trans hrec'⟩
    exact (List.mem_append.1 hp).elim (hi p) (hi' p)
  guar_rely := by
    rintro i k j h h' hij - ⟨-, es, htr, hrec⟩
    refine ⟨_, htr, fun p hp => ?_, hrec⟩
    obtain ⟨e, -, rfl⟩ := List.mem_map.1 hp
    exact hij
  guar_inv _ hg := hg.1
  release_guar := by
    intro i k h hinv
    refine ⟨fun device hs => hinv device ?_, [], rfl, ⟨fun _ => .inr rfl⟩⟩
    simpa using hs

/-! ## What a call knows of its own reading -/

/-- Steps of the call `i` that read no counters, and interference. -/
def Calm (i : Tid) (h h' : Hist (MnemesStore M) Event) : Prop :=
  ∃ more, h'.trace = h.trace ++ more ∧ (∀ p ∈ more, ∀ device, p ≠ (i, .countsRead device)) ∧
    ShardsRecorded more h.state h'.state

/-- The call has read no counters yet. -/
def NoReading (i : Tid) (h : Hist (MnemesStore M) Event) : Prop :=
  ∀ p ∈ h.trace, ∀ device, p ≠ (i, .countsRead device)

/-- The call has read the counters of the device's shard once, and they are the shard's counters
still, unless the shard was changed since. -/
def HasRead (i : Tid) (device : DeviceId) (stats : MemoryStats)
    (h : Hist (MnemesStore M) Event) : Prop :=
  ∃ pre mid, h.trace = pre ++ (i, .countsRead device) :: mid ∧
    (i, .countsRead device) ∉ pre ++ mid ∧
    ((∃ p ∈ mid, p.2.changes device = true) ∨ M.stats (h.state.shards device) = .ok stats)

section
variable {i : Tid} {device : DeviceId} {stats : MemoryStats}
  {h h' h'' : Hist (MnemesStore M) Event}

/-- What other calls do is calm for a call. -/
theorem CountsRely.calm (hr : CountsRely i h h') : Calm i h h' := by
  obtain ⟨more, htr, hi, hrec⟩ := hr
  exact ⟨more, htr, fun p hp _ he => absurd (congrArg Prod.fst he) (hi p hp), hrec⟩

/-- What is calm twice is calm. -/
theorem Calm.trans (h1 : Calm i h h') (h2 : Calm i h' h'') : Calm i h h'' := by
  obtain ⟨more, htr, hi, hrec⟩ := h1
  obtain ⟨more', htr', hi', hrec'⟩ := h2
  refine ⟨more ++ more', by rw [htr', htr, List.append_assoc], fun p hp => ?_, hrec.trans hrec'⟩
  exact (List.mem_append.1 hp).elim (hi p) (hi' p)

/-- Calm steps add no reading. -/
theorem NoReading.calm (hn : NoReading i h) (hc : Calm i h h') : NoReading i h' := by
  obtain ⟨more, htr, hi, -⟩ := hc
  intro p hp
  rw [htr] at hp
  exact (List.mem_append.1 hp).elim (hn p) (hi p)

/-- A reading stays one through calm steps. -/
theorem HasRead.calm (hq : HasRead i device stats h) (hc : Calm i h h') :
    HasRead i device stats h' := by
  obtain ⟨pre, mid, htr, honly, hread⟩ := hq
  obtain ⟨more, htr', hi, hrec⟩ := hc
  refine ⟨pre, mid ++ more, by rw [htr', htr]; simp, fun hp => ?_, ?_⟩
  · rw [← List.append_assoc] at hp
    exact (List.mem_append.1 hp).elim honly fun hp => hi _ hp device rfl
  · rcases hread with ⟨p, hp, hchange⟩ | hread
    · exact .inl ⟨p, List.mem_append_left _ hp, hchange⟩
    · rcases hrec.shard device with ⟨p, hp, hchange⟩ | hsame
      · exact .inl ⟨p, List.mem_append_right _ hp, hchange⟩
      · exact .inr (hsame ▸ hread)

/-- Counters that are read now. -/
theorem NoReading.read (hn : NoReading i h) (hstats : M.stats (h.state.shards device) = .ok stats) :
    HasRead i device stats (h.after i (h.state, [.countsRead device])) :=
  ⟨h.trace, [], rfl, by simpa using fun hp => hn _ hp device rfl, .inr hstats⟩

end

/-- An event that changes no shard, refreshes no row and reads no counters. -/
def Event.Still (e : Event) : Prop :=
  ∀ device, e.changes device = false ∧ e ≠ .countsRefreshed device ∧ e ≠ .countsRead device

/-! ## The calls keep the terms -/

section
variable {W : FactShards M} {i : Tid} {call : ShardCall} {α β : Type}
  {h : Hist (MnemesStore M) Event}

/-- The rest of a call keeps the counts from here on. -/
def KeepsCounts (P : Platform) (W : FactShards M) (i : Tid) (call : ShardCall)
    (h : Hist (MnemesStore M) Event) (t : Op M β) : Prop :=
  t.run.Safe ((countsTerms P M W).terms i call) (fun _ _ => True) h

/-- A result without an action keeps the counts. -/
theorem keepsCounts_pure {b : β} : KeepsCounts P W i call h (pure b : Op M β) :=
  Proc.Safe.done fun _ _ _ => trivial

/-- An error without an action keeps the counts. -/
theorem keepsCounts_throw {e : MnemesError} : KeepsCounts P W i call h (throw e : Op M β) :=
  Proc.Safe.done fun _ _ _ => trivial

/-- A value goes on, and an error ends the call. -/
theorem keepsCounts_lift {r : Except MnemesError α} {k : α → Op M β}
    (hk : ∀ a, r = .ok a → KeepsCounts P W i call h (k a)) :
    KeepsCounts P W i call h ((liftM r : Op M α) >>= k) := by
  cases r with
  | ok a => exact hk a rfl
  | error e => exact keepsCounts_throw

/-- The state and the counts after an action that neither changes the shards nor touches their
catalog rows. -/
theorem CountsFollow.unchanged {h : Hist (MnemesStore M) Event} (hinv : CountsFollow h)
    {s' : MnemesStore M} {es : List Event} (hshards : s'.shards = h.state.shards)
    (hrows : s'.db.deviceShards = h.state.db.deviceShards)
    (hes : ∀ e ∈ es, ∀ device, e.changes device = false ∧ e ≠ .countsRefreshed device) :
    CountsFollow (h.after i (s', es)) := by
  intro device hs row hrow
  have hold := CountsSettled.of_append (fun p hp => by
    obtain ⟨e, he, rfl⟩ := List.mem_map.1 hp
    exact hes e he device) hs
  simp only [Hist.after_state] at hrow ⊢
  rw [hrows] at hrow
  rw [hshards]
  exact hinv device hold row hrow

/-- The same, with what the call knows of its reading. -/
theorem CountsFollow.still {h : Hist (MnemesStore M) Event} (hinv : CountsFollow h)
    {s' : MnemesStore M} {es : List Event} (hshards : s'.shards = h.state.shards)
    (hrows : s'.db.deviceShards = h.state.db.deviceShards) (hes : ∀ e ∈ es, e.Still) :
    CountsFollow (h.after i (s', es)) ∧ Calm i h (h.after i (s', es)) := by
  refine ⟨hinv.unchanged hshards hrows fun e he d => ⟨(hes e he d).1, (hes e he d).2.1⟩,
    _, rfl, fun p hp device heq => ?_, ⟨fun device => .inr (congrFun hshards device)⟩⟩
  obtain ⟨e, he, rfl⟩ := List.mem_map.1 hp
  exact (hes e he device).2.2 (Prod.mk.inj heq).2

/-- An action of that kind, and the rest of the call. -/
theorem keepsCounts_still
    {f : MnemesStore M → Choice → Except MnemesError α × MnemesStore M × List Event}
    (hf : ∀ s x, (f s x).2.1.shards = s.shards ∧
      (f s x).2.1.db.deviceShards = s.db.deviceShards ∧ ∀ e ∈ (f s x).2.2, e.Still)
    {k : α → Op M β}
    (hk : ∀ a s x, (f s x).1 = .ok a → ∀ h' : Hist (MnemesStore M) Event, Calm i h h' →
      h'.state.shards = s.shards → KeepsCounts P W i call h' (k a)) :
    KeepsCounts P W i call h (ExceptT.mk (Proc.atomic f) >>= k) := by
  refine Proc.Safe.attempt_atomic fun h' x hr hinv => ?_
  obtain ⟨hshards, hrows, hes⟩ := hf h'.state x
  obtain ⟨hfollow, hcalm⟩ := CountsFollow.still (i := i) hinv hshards hrows hes
  refine ⟨⟨hfollow, _, rfl, ⟨fun device => .inr (congrFun hshards device)⟩⟩, ?_⟩
  cases hres : (f h'.state x).1 with
  | ok a => exact hk a h'.state x hres _ ((CountsRely.calm hr).trans hcalm) hshards
  | error e => exact fun _ _ _ => trivial

/-- The refresh of a row whose counters were read. -/
theorem HasRead.refresh {h : Hist (MnemesStore M) Event} {device : DeviceId} {stats : MemoryStats}
    (hread : HasRead i device stats h) (hinv : CountsFollow h) {now : String}
    {hf : ∀ r : DeviceShard, { r with
      counts := stats, generation := r.generation + 1, lastRefreshedAt := some now }.deviceId =
        r.deviceId} :
    CountsFollow (h.after i ({ h.state with db := { h.state.db with
      deviceShards := h.state.db.deviceShards.update (·.deviceId = device)
        (fun row => { row with
          counts := stats, generation := row.generation + 1, lastRefreshedAt := some now }) hf } },
      [.countsRefreshed device])) := by
  intro d hs row hrow
  simp only [Hist.after_trace, Hist.after_state, List.map_singleton, Table.find?_update]
    at hs hrow ⊢
  obtain ⟨old, hold, rfl⟩ := Option.map_eq_some_iff.1 hrow
  have hkey : old.deviceId = d := (Table.find?_eq_some.1 hold).2
  by_cases hd : d = device
  · subst hd
    -- the row is settled only where the shard was not changed since the counters were read
    obtain ⟨pre', mid', htr', hmid'⟩ := hs.of_refresh
    obtain ⟨pre, mid, htr, honly, hchange | hstats⟩ := hread
    · obtain rfl := only_reading honly (htr.symm.trans htr')
      obtain ⟨p, hp, hc⟩ := hchange
      exact absurd hc (by rw [hmid' p hp]; exact Bool.false_ne_true)
    · simpa [hkey] using hstats
  · have hold' := CountsSettled.of_append (fun p hp => by
      rw [List.mem_singleton.1 hp]
      exact ⟨rfl, fun he => hd (Event.countsRefreshed.inj he).symm⟩) hs
    simpa [hkey, hd] using hinv d hold' old hold

/-- A section that leaves the catalog rows alone. -/
theorem keepsCounts_poolConn
    {f : PooledDb → Choice → Except MnemesError (α × PooledDb × List Event)}
    (hf : ∀ db x a db' es, f db x = .ok (a, db', es) →
      db'.deviceShards = db.deviceShards ∧ ∀ e ∈ es, e.Still) {k : α → Op M β}
    (hk : ∀ a (h' : Hist (MnemesStore M) Event), Calm i h h' →
      KeepsCounts P W i call h' (k a)) :
    KeepsCounts P W i call h (poolConn f >>= k) := by
  refine keepsCounts_still (fun s x => ?_) fun a _ _ _ h' hc _ => hk a h' hc
  cases hx : x.fault with
  | some error => exact ⟨rfl, rfl, fun _ he => absurd he List.not_mem_nil⟩
  | none =>
    cases hrun : f s.db x with
    | error e => exact ⟨rfl, rfl, fun _ he => absurd he List.not_mem_nil⟩
    | ok r =>
      obtain ⟨a, db', es⟩ := r
      obtain ⟨hrows, hes⟩ := hf _ _ _ _ _ hrun
      exact ⟨rfl, hrows, hes⟩

/-- A section that reads keeps the counts. -/
theorem keepsCounts_poolRead {f : PooledDb → Except MnemesError α} {k : α → Op M β}
    (hk : ∀ a (h' : Hist (MnemesStore M) Event), Calm i h h' →
      KeepsCounts P W i call h' (k a)) :
    KeepsCounts P W i call h (poolRead f >>= k) := by
  refine keepsCounts_poolConn (fun db x a db' es hrun => ?_) hk
  cases hread : f db with
  | error e => rw [hread] at hrun; cases hrun
  | ok a' => rw [hread] at hrun; cases hrun; exact ⟨rfl, fun _ he => absurd he List.not_mem_nil⟩

/-- So does reading a device. -/
theorem keepsCounts_getDevice {device : DeviceId} {k : Option Device → Op M β}
    (hk : ∀ a (h' : Hist (MnemesStore M) Event), Calm i h h' →
      KeepsCounts P W i call h' (k a)) :
    KeepsCounts P W i call h (getDevice device >>= k) := by
  refine keepsCounts_still (fun s x => ?_) fun a _ _ _ h' hc _ => hk a h' hc
  cases hx : x.fault with
  | some error => exact ⟨rfl, rfl, fun _ he => absurd he List.not_mem_nil⟩
  | none =>
    refine ⟨rfl, rfl, fun e he => ?_⟩
    cases hfind : s.db.devices.find? device with
    | none => simp [hfind] at he
    | some row =>
      simp only [hfind, Option.elim_some, List.mem_singleton] at he
      subst he
      exact fun _ => ⟨rfl, fun h => (by cases h), fun h => (by cases h)⟩

/-- So does reading the file of a shard. -/
theorem keepsCounts_readShardFile {device : DeviceId} {f : M.Store → α} {k : α → Op M β}
    (hk : ∀ a (h' : Hist (MnemesStore M) Event), Calm i h h' →
      KeepsCounts P W i call h' (k a)) :
    KeepsCounts P W i call h (readShardFile device f >>= k) := by
  refine keepsCounts_still (fun s x => ?_) fun a _ _ _ h' hc _ => hk a h' hc
  cases hx : x.fault <;> exact ⟨rfl, rfl, fun _ he => absurd he List.not_mem_nil⟩

/-- So does opening a shard. -/
theorem keepsCounts_deviceMemory {device : DeviceId} {k : Unit → Op M β}
    (hk : ∀ h' : Hist (MnemesStore M) Event, Calm i h h' → KeepsCounts P W i call h' (k ())) :
    KeepsCounts P W i call h (deviceMemory device >>= k) := by
  unfold deviceMemory
  simp only [bind_assoc]
  refine keepsCounts_poolRead fun path h₁ h1 => ?_
  split
  · exact keepsCounts_throw
  · refine keepsCounts_still (fun s x => ?_) fun _ _ _ _ h₂ h2 _ => hk h₂ (h1.trans h2)
    cases hx : x.fault with
    | some error => exact ⟨rfl, rfl, fun _ he => absurd he List.not_mem_nil⟩
    | none =>
      refine ⟨rfl, rfl, fun e he => ?_⟩
      simp only [List.mem_singleton] at he
      subst he
      exact fun _ => ⟨rfl, fun h => (by cases h), fun h => (by cases h)⟩

/-- The counters are copied, by a call that has not read any. -/
theorem keepsCounts_refreshShardCounts {device : DeviceId} (hn : NoReading i h) {k : Unit → Op M β}
    (hk : ∀ h' : Hist (MnemesStore M) Event, KeepsCounts P W i call h' (k ())) :
    KeepsCounts P W i call h (refreshShardCounts device >>= k) := by
  unfold refreshShardCounts shardStats
  simp only [bind_assoc]
  refine keepsCounts_deviceMemory fun h₁ h1 => Proc.Safe.attempt_atomic fun h₂ x hr hinv => ?_
  have hinv : CountsFollow h₂ := hinv
  have hn₂ : NoReading i h₂ := (hn.calm h1).calm (CountsRely.calm hr)
  -- the counters are read
  have hsame : ∀ es : List Event,
      (∀ e ∈ es, ∀ d, e.changes d = false ∧ e ≠ .countsRefreshed d) →
      CountsFollow (h₂.after i (h₂.state, es)) ∧ ∃ es' : List Event,
        (h₂.after i (h₂.state, es)).trace = h₂.trace ++ es'.map (i, ·) ∧
        ShardsRecorded (es'.map (i, ·)) h₂.state (h₂.after i (h₂.state, es)).state :=
    fun es hes => ⟨hinv.unchanged rfl rfl hes, es, rfl, ⟨fun _ => .inr rfl⟩⟩
  cases hx : x.fault with
  | some error =>
    exact ⟨hsame [] fun _ he => absurd he List.not_mem_nil, fun _ _ _ => trivial⟩
  | none =>
    refine ⟨hsame [.countsRead device] fun e he d => ?_, ?_⟩
    · rw [List.mem_singleton.1 he]
      exact ⟨rfl, fun h => by cases h⟩
    cases hstats : M.stats (h₂.state.shards device) with
    | error e =>
      simp only [hstats, Except.mapError]
      exact fun _ _ _ => trivial
    | ok stats =>
      simp only [hstats, Except.mapError]
      have hread := hn₂.read hstats
      -- and copied
      refine Proc.Safe.attempt_atomic fun h₃ x hr hinv => ?_
      have hidle : CountsFollow (h₃.after i (h₃.state, [])) := by rw [Hist.after_nil]; exact hinv
      cases hx : x.fault with
      | some error =>
        exact ⟨⟨hidle, [], by simp, ⟨fun _ => .inr rfl⟩⟩, fun _ _ _ => trivial⟩
      | none =>
        cases hrow : h₃.state.db.deviceShards.find? device with
        | none =>
          simp only [hrow]
          exact ⟨⟨hidle, [], by simp, ⟨fun _ => .inr rfl⟩⟩, fun _ _ _ => trivial⟩
        | some row =>
          simp only [hrow]
          exact ⟨⟨(hread.calm (CountsRely.calm hr)).refresh hinv, [.countsRefreshed device], rfl,
            ⟨fun _ => .inr rfl⟩⟩, hk _⟩

/-- A request to the owner, which an event records: it leaves the catalog alone, and changes the
shards its event says. -/
theorem keepsCounts_request
    {f : MnemesStore M → Choice → Except MnemesError α × MnemesStore M × List Event}
    (hf : ∀ s x, (f s x).2.1.db = s.db ∧ ∀ d,
      (∀ e ∈ (f s x).2.2, e ≠ .countsRefreshed d ∧ e ≠ .countsRead d) ∧
        ((∃ e, (f s x).2.2 = [e] ∧ e.changes d = true) ∨
          (∀ e ∈ (f s x).2.2, e.changes d = false) ∧ (f s x).2.1.shards d = s.shards d))
    {k : α → Op M β}
    (hk : ∀ a (h' : Hist (MnemesStore M) Event), Calm i h h' →
      KeepsCounts P W i call h' (k a)) :
    KeepsCounts P W i call h (ExceptT.mk (Proc.atomic f) >>= k) := by
  refine Proc.Safe.attempt_atomic fun h' x hr hinv => ?_
  have hinv : CountsFollow h' := hinv
  obtain ⟨hdb, hf⟩ := hf h'.state x
  have hrec : ShardsRecorded ((f h'.state x).2.2.map (i, ·)) h'.state (f h'.state x).2.1 := by
    refine ⟨fun d => ?_⟩
    obtain ⟨-, ⟨e, hes, hc⟩ | ⟨-, hsame⟩⟩ := hf d
    · exact .inl ⟨(i, e), by simp [hes], hc⟩
    · exact .inr hsame
  refine ⟨⟨fun d hs row hrow => ?_, _, rfl, hrec⟩, ?_⟩
  · simp only [Hist.after_trace, Hist.after_state] at hs hrow ⊢
    obtain ⟨hnot, ⟨e, hes, hc⟩ | ⟨hquiet, hsame⟩⟩ := hf d
    · rw [hes] at hs
      exact absurd hs (not_countsSettled_of_changes hc)
    · have hold := CountsSettled.of_append (fun p hp => by
        obtain ⟨e, he, rfl⟩ := List.mem_map.1 hp
        exact ⟨hquiet e he, (hnot e he).1⟩) hs
      rw [hdb] at hrow
      rw [hsame]
      exact hinv d hold row hrow
  · cases hres : (f h'.state x).1 with
    | error error => exact fun _ _ _ => trivial
    | ok a =>
      refine hk a _ ((CountsRely.calm hr).trans ⟨_, rfl, fun p hp d heq => ?_, hrec⟩)
      obtain ⟨e, he, rfl⟩ := List.mem_map.1 hp
      exact ((hf d).1 e he).2 (Prod.mk.inj heq).2

/-- The owner's application leaves the counts to be refreshed. -/
theorem keepsCounts_ownerApply {F : Family} {b : Submission} {device : DeviceId}
    {envelope : ReplicaEnvelopeV1} {k : ReplicaApplyOutcome → Op M β}
    (hk : ∀ answer (h' : Hist (MnemesStore M) Event), Calm i h h' →
      KeepsCounts P W i call h' (k answer)) :
    KeepsCounts P W i call h (ownerApply F b device envelope >>= k) := by
  refine keepsCounts_request (fun s x => ?_) hk
  cases hrun : x.fault.elim ((F.code M).apply (s.shards device) envelope) (.error <| .other ·) with
  | error error =>
    refine ⟨rfl, fun d => ⟨fun e he => ?_, .inr ⟨fun e he => ?_, rfl⟩⟩⟩
    · rw [List.mem_singleton.1 he]
      exact ⟨nofun, nofun⟩
    · rw [List.mem_singleton.1 he]
      rfl
  | ok r =>
    obtain ⟨answer, shard⟩ := r
    refine ⟨rfl, fun d => ⟨fun e he => ?_, ?_⟩⟩
    · rw [List.mem_singleton.1 he]
      exact ⟨nofun, nofun⟩
    by_cases hd : d = device
    · subst hd
      have happly : (F.code M).apply (s.shards d) envelope = .ok (answer, shard) := by
        cases hx : x.fault with
        | some error => rw [hx] at hrun; cases hrun
        | none => rw [hx] at hrun; exact hrun
      -- only an envelope that is applied changes the shard
      cases hanswer : answer with
      | applied q => exact .inl ⟨_, rfl, by simp [Event.changes]⟩
      | duplicate q =>
        subst hanswer
        refine .inr ⟨fun e he => by rw [List.mem_singleton.1 he]; rfl, ?_⟩
        rw [((F.code_laws (M := M)).duplicate happly).2.2]
        exact Function.update_self ..
      | _ =>
        subst hanswer
        refine .inr ⟨fun e he => by rw [List.mem_singleton.1 he]; rfl, ?_⟩
        rw [(F.code_laws (M := M)).conflict happly rfl]
        exact Function.update_self ..
    · refine .inr ⟨fun e he => ?_, Function.update_of_ne hd _ _⟩
      rw [List.mem_singleton.1 he]
      cases answer with
      | applied q => exact decide_eq_false fun h => hd h.symm
      | _ => rfl

/-- So does adding a fact. -/
theorem keepsCounts_addFact {device : DeviceId} {ns content : String}
    {source metadata : Option String} {k : String → Op M β}
    (hk : ∀ id (h' : Hist (MnemesStore M) Event), Calm i h h' →
      KeepsCounts P W i call h' (k id)) :
    KeepsCounts P W i call h (addFact W device ns content source metadata >>= k) := by
  refine keepsCounts_request (fun s x => ?_) hk
  have hidle : ∀ d, (∀ e ∈ ([] : List Event), e ≠ .countsRefreshed d ∧ e ≠ .countsRead d) ∧
      ∀ e ∈ ([] : List Event), e.changes d = false :=
    fun d => ⟨fun _ he => absurd he List.not_mem_nil, fun _ he => absurd he List.not_mem_nil⟩
  cases hx : x.fault with
  | some error => exact ⟨rfl, fun d => ⟨(hidle d).1, .inr ⟨(hidle d).2, rfl⟩⟩⟩
  | none =>
    cases hrun : W.addFact (s.shards device) ns content source metadata with
    | error error =>
      simp only [hrun]
      exact ⟨trivial, fun d => ⟨(hidle d).1, .inr ⟨(hidle d).2, trivial⟩⟩⟩
    | ok r =>
      obtain ⟨id, shard⟩ := r
      simp only [hrun]
      refine ⟨trivial, fun d => ⟨fun e he => ?_, ?_⟩⟩
      · rw [List.mem_singleton.1 he]
        exact ⟨nofun, nofun⟩
      by_cases hd : d = device
      · exact .inl ⟨_, rfl, by simp [Event.changes, hd]⟩
      · refine .inr ⟨fun e he => ?_, Function.update_of_ne hd _ _⟩
        rw [List.mem_singleton.1 he]
        exact decide_eq_false fun h => hd h.symm

/-- A call under its gate. -/
theorem keepsCounts_underGate {F : Family} {t : Op M α} {k : α → Op M β}
    (ht : ∀ h' : Hist (MnemesStore M) Event, Calm i h h' → KeepsCounts P W i call h' t)
    (hk : ∀ a (h' : Hist (MnemesStore M) Event), KeepsCounts P W i call h' (k a)) :
    KeepsCounts P W i call h (underGate i F t >>= k) := by
  -- taking and giving the gate is an action that changes no counts
  have hgate : ∀ (h' : Hist (MnemesStore M) Event) (holder : Option Tid), CountsFollow h' →
      CountsFollow (h'.after i ({ h'.state with
        gate := Function.update h'.state.gate F holder }, [])) ∧
      Calm i h' (h'.after i ({ h'.state with
        gate := Function.update h'.state.gate F holder }, [])) :=
    fun h' holder hinv => hinv.still rfl rfl fun _ he => absurd he List.not_mem_nil
  refine Proc.Safe.attempt_bind (Proc.Safe.locked fun h' hr hinv _ => ?_)
  obtain ⟨hfollow, hcalm⟩ := hgate h' (some i) hinv
  refine ⟨⟨hfollow, [], by simp, ⟨fun _ => .inr rfl⟩⟩, ?_⟩
  refine (ht _ ((CountsRely.calm hr).trans hcalm)).mono_post fun r h₂ hinv₂ _ => ?_
  obtain ⟨hfollow₂, -⟩ := hgate h₂ none hinv₂
  refine ⟨⟨hfollow₂, [], by simp, ⟨fun _ => .inr rfl⟩⟩, fun h₃ _ _ => ?_⟩
  cases r with
  | ok a => exact hk a h₃
  | error e => exact fun _ _ _ => trivial

/-- Storing an acknowledgement keeps the counts. -/
theorem keepsCounts_persistAckLocked {F : Family} {ack : AckRecord} {k : Unit → Op M β}
    (hk : ∀ h' : Hist (MnemesStore M) Event, KeepsCounts P W i call h' (k ())) :
    KeepsCounts P W i call h (persistAckLocked F ack >>= k) := by
  unfold persistAckLocked
  simp only [bind_assoc]
  refine keepsCounts_lift fun row _ => keepsCounts_poolConn (fun db x a db' es hrun => ?_)
    fun _ h' _ => hk h'
  split at hrun
  · cases hrun
  · cases hrun
    refine ⟨rfl, fun e he => ?_⟩
    rw [List.mem_singleton.1 he]
    exact fun _ => ⟨rfl, fun h => (by cases h), fun h => (by cases h)⟩

/-- A new batch is applied, and then the counts are refreshed. -/
theorem keepsCounts_applyNewBatch {F : Family} {b : Submission} {requestDigest : String}
    (hn : NoReading i h) :
    KeepsCounts P W i call h (applyNewBatch P F b requestDigest : Op M AckRecord) := by
  unfold applyNewBatch checkAdmissionLocked
  simp only [bind_assoc]
  refine keepsCounts_lift fun p _ => keepsCounts_lift fun _ _ =>
    keepsCounts_poolRead fun _ h₁ h1 => keepsCounts_lift fun device _ =>
      keepsCounts_deviceMemory fun h₂ h2 =>
        keepsCounts_ownerApply fun answer h₃ h3 => ?_
  cases answer.accepted with
  | none => exact keepsCounts_throw
  | some acceptedHead =>
    simp only
    split
    · exact keepsCounts_refreshShardCounts (((hn.calm h1).calm h2).calm h3) fun _ =>
          keepsCounts_persistAckLocked fun _ =>
        keepsCounts_pure
    · exact keepsCounts_persistAckLocked fun _ => keepsCounts_pure

/-- A request keeps the counts, whatever it goes on with. -/
theorem keepsCounts_applyRequest {F : Family} {b : Submission} {requestDigest : String}
    (hn : NoReading i h) {k : AckRecord → Op M β}
    (hk : ∀ a (h' : Hist (MnemesStore M) Event), KeepsCounts P W i call h' (k a)) :
    KeepsCounts P W i call h (applyRequest P F i b requestDigest >>= k) := by
  unfold applyRequest
  refine keepsCounts_underGate (fun h₁ h1 => ?_) hk
  unfold getAckLocked
  refine keepsCounts_poolRead fun found h₂ h2 => ?_
  cases found with
  | none => exact keepsCounts_applyNewBatch ((hn.calm h1).calm h2)
  | some existing =>
    simp only
    split
    · exact keepsCounts_throw
    · exact keepsCounts_pure

/-- So does the synchronisation of a fact. -/
theorem keepsCounts_syncFactToShard {device : DeviceId} {sourceFactId ns content : String}
    {source metadata : Option String} (hn : NoReading i h) {k : FactSyncOutcome → Op M β}
    (hk : ∀ a (h' : Hist (MnemesStore M) Event), KeepsCounts P W i call h' (k a)) :
    KeepsCounts P W i call h
      (syncFactToShard W device sourceFactId ns content source metadata >>= k) := by
  unfold syncFactToShard
  simp only [bind_assoc]
  refine keepsCounts_getDevice fun found h₁ h1 => ?_
  cases found with
  | none => exact keepsCounts_throw
  | some row =>
    simp only
    split
    · exact keepsCounts_throw
    simp only [bind_assoc]
    refine keepsCounts_poolRead fun already h₂ h2 => ?_
    split
    · exact hk _ h₂
    simp only [bind_assoc]
    refine keepsCounts_readShardFile fun existing h₃ h3 => ?_
    -- the row of the fact is written whether the shard had the fact or not
    have hinsert : ∀ (id : String) (outcome : FactSyncOutcome) (h' : Hist (MnemesStore M) Event),
        KeepsCounts P W i call h' (poolConn (fun db x => do
          let syncedFacts ← okOr
            (db.syncedFacts.insert?
              { sourceFactId, deviceId := device, serverFactId := id, syncedAt := x.now })
            (.database "UNIQUE constraint failed: synced_facts")
          return ((), { db with syncedFacts }, [])) >>= fun _ => k outcome) :=
      fun id outcome h' => keepsCounts_poolConn (fun db x a db' es hrun => by
        simp only [bind_eq_ok] at hrun
        obtain ⟨_, _, hrun⟩ := hrun
        cases hrun
        exact ⟨rfl, fun _ he => absurd he List.not_mem_nil⟩) fun _ h'' _ => hk outcome h''
    cases existing with
    | some id =>
      simp only [pure_bind, bind_assoc]
      exact hinsert id .skipped h₃
    | none =>
      simp only [pure_bind, bind_assoc]
      exact keepsCounts_deviceMemory fun h₄ h4 =>
        keepsCounts_addFact fun id h₅ h5 =>
          keepsCounts_refreshShardCounts (((((hn.calm h1).calm h2).calm h3).calm h4).calm h5)
            fun h₆ => hinsert id (.synced id) h₆

/-- Every call that has read no counters yet keeps the terms. -/
theorem ShardCall.keepsCounts (hn : NoReading i h) :
    KeepsCounts P W i call h (call.op P W i) := by
  cases call with
  | applyFactCreateRequest b requestDigest =>
    exact keepsCounts_applyRequest hn fun _ _ => keepsCounts_pure
  | applyFactSupersedeRequest b requestDigest =>
    exact keepsCounts_applyRequest hn fun _ _ => keepsCounts_pure
  | syncFactToShard device sourceFactId ns content source metadata =>
    exact keepsCounts_syncFactToShard hn fun _ _ => keepsCounts_pure

end

/-- In every state that any interleaving of the calls reaches from one whose catalog counts are
right, the catalog counts of every device are those of its shard as long as the device's row is
settled; in particular whenever a call returns. -/
theorem counts_follow_replication {W : FactShards M} {s : MnemesStore M}
    (hs : ∀ device, InSync device s) {cmds : List (Command ShardCall Choice)}
    {c : Config ShardCall (MnemesStore M) Choice Event (Except MnemesError Unit)}
    (hrun : (shardService P M W).run (Service.init s) cmds = some c) {device : DeviceId}
    (hsettled : CountsSettled device c.hist.trace) {row : DeviceShard}
    (hrow : c.hist.state.db.deviceShards.find? device = some row) :
    M.stats (c.hist.state.shards device) = .ok row.counts := by
  have hinit : (countsTerms P M W).inv ⟨s, []⟩ := fun device _ => hs device
  have hbodies : (countsTerms P M W).Bodies fun _ _ _ _ => True := fun i call h _ hunseen =>
    ShardCall.keepsCounts fun p hp _ heq => absurd (congrArg Prod.fst heq) (hunseen p hp)
  have hc := (RelyGuarantee.Holds.init (R := countsTerms P M W) hinit).run hbodies hrun
  exact hc.inv device hsettled row hrow

namespace Sample

/-- A shard of the reference owner that keeps a synced fact as one more entry. -/
def factShards : FactShards memory where
  findFact (shard : List ReplicaEnvelopeV1) _ content :=
    if shard.any (·.payload = utf8 content) then some "fact" else none
  addFact (shard : List ReplicaEnvelopeV1) _ content _ _ :=
    let added := { entry.toSemanticEnvelope "" "" 0 with payload := utf8 content }
    .ok ("fact", (shard ++ [added] : List ReplicaEnvelopeV1))

/-- No shard of the deployment has an entry, and no row counts one. -/
theorem store_inSync (device : DeviceId) : InSync device store := by
  intro row hrow
  have hall : ∀ row ∈ store.db.deviceShards.rows, row.counts = ⟨0, 0, 0, 0⟩ := by decide
  rw [hall row (Table.find?_eq_some.1 hrow).1]
  rfl

/-- A device syncs a fact. -/
def syncCall : ShardCall := .syncFactToShard deviceA "source" "notes" "text" none none

/-- The call that syncs the fact, with the choices of its actions. -/
def syncs (i : Tid) (choices : List Choice) : List (Command ShardCall Choice) :=
  .start i syncCall :: choices.map (.run i ·)

/-- A sync up to its end, and the write of the fact's row. -/
def syncOnce : List (Command ShardCall Choice) := syncs 0 (List.replicate 11 plain)

/-- A sync that fails where it writes the counts, and the retry. -/
def syncRetried : List (Command ShardCall Choice) :=
  syncs 0 (List.replicate 9 plain ++ [faulty]) ++ syncs 1 (List.replicate 4 plain)

end Sample

open Sample in
/-- After a fact is synchronised, the catalog counts it. -/
theorem counts_follow_replication_sample : ∃ c row,
    (shardService platform memory factShards).run (Service.init store) syncOnce = some c ∧
      c.result? 0 = some (.ok ()) ∧
      c.hist.state.db.deviceShards.find? deviceA = some row ∧ row.counts = ⟨1, 0, 0, 0⟩ ∧
      memory.stats (c.hist.state.shards deviceA) = .ok row.counts := by
  have hrun : ((shardService platform memory factShards).run (Service.init store) syncOnce).any
      (fun c => c.result? 0 = some (.ok ()) &&
        (c.hist.state.db.deviceShards.find? deviceA).any (·.counts = ⟨1, 0, 0, 0⟩) &&
        c.hist.trace = [(0, .deviceRead deviceA .active), (0, .shardOpened deviceA),
          (0, .factAdded deviceA), (0, .shardOpened deviceA), (0, .countsRead deviceA),
          (0, .countsRefreshed deviceA)]) = true := by decide +kernel
  obtain ⟨c, hc, h⟩ := (Option.any_eq_true _ _).1 hrun
  simp only [Bool.and_eq_true, decide_eq_true_eq] at h
  obtain ⟨⟨hresult, hany⟩, htrace⟩ := h
  obtain ⟨row, hrow, hcounts⟩ := (Option.any_eq_true _ _).1 hany
  refine ⟨c, row, hc, hresult, hrow, of_decide_eq_true hcounts,
    counts_follow_replication ?_ hc ?_ hrow⟩
  · exact store_inSync
  · exact .inr ⟨[(0, .deviceRead deviceA .active), (0, .shardOpened deviceA),
      (0, .factAdded deviceA), (0, .shardOpened deviceA)], 0, [], [], htrace,
      fun _ hp => absurd hp List.not_mem_nil, fun _ hp => absurd hp List.not_mem_nil⟩

open Sample in
/-- A sync that was answered after its retry leaves the counts of the shard behind. -/
theorem counts_stale_after_retry : ¬ ∀ (s : MnemesStore memory)
    (cmds : List (Command ShardCall Choice)) c, (∀ device, InSync device s) →
    (shardService platform memory factShards).run (Service.init s) cmds = some c →
    ∀ i x call device, c.call? i = some call → call.Affects device →
      cmds.getLast? = some (.run i x) → c.result? i = some (.ok ()) →
        InSync device c.hist.state := by
  intro h
  have hrun : ((shardService platform memory factShards).run (Service.init store) syncRetried).any
      (fun c => (c.call? 1 = some syncCall && c.result? 1 = some (.ok ())) &&
        (c.hist.state.db.deviceShards.find? deviceA).any fun row =>
          memory.stats (c.hist.state.shards deviceA) ≠ .ok row.counts) = true := by decide +kernel
  obtain ⟨c, hc, hrun⟩ := (Option.any_eq_true _ _).1 hrun
  simp only [Bool.and_eq_true, decide_eq_true_eq] at hrun
  obtain ⟨⟨hcall, hresult⟩, hany⟩ := hrun
  obtain ⟨row, hrow, hne⟩ := (Option.any_eq_true _ _).1 hany
  exact of_decide_eq_true hne
    (h store syncRetried c store_inSync hc 1 plain syncCall deviceA hcall rfl rfl hresult row hrow)

end Mnemes
