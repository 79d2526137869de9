import Mnemes.Lib.Steps
import Mnemes.Replication.Counts

/-!
# Syncing source facts

`sync_fact_to_shard` looks the acknowledgement of a source fact up, looks its text up in the shard,
adds the fact and writes the acknowledgement, in four steps on two databases. Two calls for one
source fact can both find nothing and both add it, and the one that acknowledges second then reports
an error after its fact was added (`sync_races`). What goes wrong is at two steps: an addition that
finds the text in the shard, or adds to a source fact that was added with another text, and an
acknowledgement that finds one (`syncs_once_of_fresh`).
-/

namespace Mnemes

open Concurrency Relational

variable {M : SemanticMemory}

/-- A call of `sync_fact_to_shard`. -/
structure FactSyncCall where
  device : DeviceId
  sourceFactId : String
  ns : String
  content : String
  source : Option String
  metadata : Option String
  deriving DecidableEq

/-- The key of the acknowledgement. -/
def FactSyncCall.key (k : FactSyncCall) : String × DeviceId := (k.sourceFactId, k.device)

/-- What the fact is found by in the shard. -/
def FactSyncCall.text (k : FactSyncCall) : DeviceId × String × String :=
  (k.device, k.ns, k.content)

/-- The calls of `sync_fact_to_shard`, in any number and any interleaving. -/
def factSyncService (W : FactShards M) :
    Service FactSyncCall (MnemesStore M) Choice Event (Except MnemesError FactSyncOutcome) where
  body _ k := (syncFactToShard W k.device k.sourceFactId k.ns k.content k.source k.metadata).run
  release := releaseGates

/-- The text of the error of an acknowledgement that finds one. -/
def acknowledgedText : String := "UNIQUE constraint failed: synced_facts"

/-- What the owner's database does with facts: an added one is found, and what was found before an
addition is found after it. -/
structure FactShards.Finds (W : FactShards M) : Prop where
  added : ∀ {shard shard' ns content source metadata id},
    W.addFact shard ns content source metadata = .ok (id, shard') →
    (W.findFact shard' ns content).isSome
  kept : ∀ {shard shard' ns content source metadata id ns' content'},
    W.addFact shard ns content source metadata = .ok (id, shard') →
    (W.findFact shard ns' content').isSome → (W.findFact shard' ns' content').isSome

/-! ## What each step of a call does -/

/-- An action of a call: it adds the fact of the call, or leaves the shards alone; and it fails for
an acknowledgement that is there only as the last action, with the counters refreshed if the fact
was added. -/
structure FactSyncAction (W : FactShards M) (k : FactSyncCall)
    (a : Concurrency.Action (MnemesStore M) Choice Event (Except MnemesError FactSyncOutcome)) :
    Prop where
  adds : ((∀ d, .factAdded d ∉ a.events) ∧ a.left.shards = a.found.shards) ∨
    ∃ id shard, W.addFact (a.found.shards k.device) k.ns k.content k.source k.metadata =
        .ok (id, shard) ∧
      a.left.shards = Function.update a.found.shards k.device shard ∧
      a.events = [.factAdded k.device]
  fails : a.result = some (.error (.database acknowledgedText)) →
    a.choice.fault = some acknowledgedText ∨
      a.choice.fault = none ∧ (a.found.db.syncedFacts.find? k.key).isSome ∧
        (.factAdded k.device ∈ a.past ++ a.events → .countsRefreshed k.device ∈ a.past)

section
variable {W : FactShards M} {k : FactSyncCall} {past : List Event} {α : Type}

/-- The rest of a call, which is not at that error, does only such actions. -/
def Syncs (W : FactShards M) (k : FactSyncCall) (past : List Event)
    (t : Op M FactSyncOutcome) : Prop :=
  t.run.result? ≠ some (.error (.database acknowledgedText)) ∧ t.run.Each (FactSyncAction W k) past

/-- A result ends the call. -/
theorem syncs_pure {outcome : FactSyncOutcome} : Syncs W k past (pure outcome) :=
  ⟨fun h => (by cases h), Proc.each_done⟩

/-- An error ends the call, if it does not look like an acknowledged one. -/
theorem syncs_throw {e : MnemesError} (he : e ≠ .database acknowledgedText) :
    Syncs W k past (throw e) :=
  ⟨fun h => he (Except.error.inj (Option.some.inj h)), Proc.each_done⟩

/-- An action that leaves the shards alone. -/
theorem syncs_still
    {f : MnemesStore M → Choice → Except MnemesError α × MnemesStore M × List Event}
    (hf : ∀ s x, (f s x).2.1.shards = s.shards ∧ (∀ d, .factAdded d ∉ (f s x).2.2) ∧
      ((f s x).1 = .error (.database acknowledgedText) → x.fault = some acknowledgedText))
    {g : α → Op M FactSyncOutcome}
    (hg : ∀ a s x, (f s x).1 = .ok a → Syncs W k (past ++ (f s x).2.2) (g a)) :
    Syncs W k past (ExceptT.mk (Proc.atomic f) >>= g) := by
  refine ⟨fun h => (by cases h), Proc.Each.attempt_atomic fun s x => ?_⟩
  obtain ⟨hshards, hes, herr⟩ := hf s x
  cases hres : (f s x).1 with
  | ok a =>
    obtain ⟨hend, heach⟩ := hg a s x hres
    exact ⟨⟨.inl ⟨hes, hshards⟩, fun h => absurd h hend⟩, heach⟩
  | error e =>
    refine ⟨.inl ⟨hes, hshards⟩, fun h => .inl (herr ?_)⟩
    rw [hres, Except.error.inj (Option.some.inj h)]

/-- A section of the database that adds no fact may come anywhere. -/
theorem syncs_poolConn
    {f : PooledDb → Choice → Except MnemesError (α × PooledDb × List Event)}
    (hf : ∀ db x, f db x ≠ .error (.database acknowledgedText))
    (hes : ∀ db x a db' es, f db x = .ok (a, db', es) → ∀ d, .factAdded d ∉ es)
    {g : α → Op M FactSyncOutcome}
    (hg : ∀ a db x db' es, f db x = .ok (a, db', es) → Syncs W k (past ++ es) (g a)) :
    Syncs W k past (poolConn f >>= g) := by
  refine syncs_still (fun s x => ?_) fun a s x hres => ?_
  · cases hx : x.fault with
    | some error =>
      refine ⟨rfl, fun _ => List.not_mem_nil, fun h => ?_⟩
      rw [MnemesError.database.inj (Except.error.inj h)]
    | none =>
      cases hrun : f s.db x with
      | error e => exact ⟨rfl, fun _ => List.not_mem_nil, fun h => absurd (hrun.trans (by
          rw [Except.error.inj h])) (hf s.db x)⟩
      | ok r => exact ⟨rfl, hes _ _ _ _ _ hrun, fun h => by cases h⟩
  · cases hx : x.fault with
    | some error =>
      simp only [hx] at hres
      cases hres
    | none =>
      cases hrun : f s.db x with
      | error e =>
        simp only [hx, hrun] at hres
        cases hres
      | ok r =>
        simp only [hx, hrun] at hres
        cases hres
        exact hg _ _ _ _ _ hrun

/-- So may a section that reads. -/
theorem syncs_poolRead {f : PooledDb → Except MnemesError α}
    (hf : ∀ db, f db ≠ .error (.database acknowledgedText)) {g : α → Op M FactSyncOutcome}
    (hg : ∀ a, Syncs W k past (g a)) : Syncs W k past (poolRead f >>= g) := by
  have hread : ∀ {db a db' es}, (f db).map (·, db, ([] : List Event)) = .ok (a, db', es) →
      es = [] := by
    intro db a db' es h
    cases hdb : f db <;> rw [hdb] at h <;> cases h
    rfl
  refine syncs_poolConn (fun db _ h => hf db ?_) (fun db _ a db' es h => ?_)
    fun a db _ db' es h => ?_
  · cases hdb : f db <;> rw [hdb] at h <;> cases h
    rfl
  · rw [hread h]
    exact fun _ => List.not_mem_nil
  · rw [hread h, List.append_nil]
    exact hg a

/-- A call of the owner that leaves the shards alone. -/
theorem syncs_memoryCall {f : MnemesStore M → Except MnemesError α × MnemesStore M × List Event}
    (hf : ∀ s, (f s).2.1.shards = s.shards ∧ (∀ d, .factAdded d ∉ (f s).2.2) ∧
      (f s).1 ≠ .error (.database acknowledgedText)) {g : α → Op M FactSyncOutcome}
    (hg : ∀ a s, (f s).1 = .ok a → Syncs W k (past ++ (f s).2.2) (g a)) :
    Syncs W k past (memoryCall f >>= g) := by
  refine syncs_still (fun s x => ?_) fun a s x hres => ?_
  · cases hx : x.fault with
    | some error => exact ⟨rfl, fun _ => List.not_mem_nil, fun h => by cases h⟩
    | none => exact ⟨(hf s).1, (hf s).2.1, fun h => absurd h (hf s).2.2⟩
  · cases hx : x.fault with
    | some error =>
      simp only [hx] at hres
      cases hres
    | none =>
      simp only [hx] at hres
      exact hg a s hres

/-- So may opening a shard, which is recorded. -/
theorem syncs_deviceMemory {device : DeviceId} {g : Unit → Op M FactSyncOutcome}
    (hg : Syncs W k (past ++ [.shardOpened device]) (g ())) :
    Syncs W k past (deviceMemory device >>= g) := by
  unfold deviceMemory
  simp only [bind_assoc]
  refine syncs_poolRead (fun db h => ?_) fun path => ?_
  · cases hrow : db.deviceShards.find? device <;> rw [hrow] at h <;> cases h
  split
  · exact syncs_throw fun h => by cases h
  · refine syncs_memoryCall (fun s => ⟨rfl, fun d h => ?_, fun h => (by cases h)⟩) fun _ _ _ => hg
    cases List.mem_singleton.1 h

/-- The fact is added. -/
theorem syncs_addFact {g : String → Op M FactSyncOutcome}
    (hg : ∀ id, Syncs W k (past ++ [.factAdded k.device]) (g id)) :
    Syncs W k past (addFact W k.device k.ns k.content k.source k.metadata >>= g) := by
  refine ⟨fun h => (by cases h), Proc.Each.attempt_atomic fun s x => ?_⟩
  have hsame : (∀ d, Event.factAdded d ∉ ([] : List Event)) ∧ s.shards = s.shards :=
    ⟨fun _ => List.not_mem_nil, rfl⟩
  cases hx : x.fault with
  | some error => exact ⟨.inl hsame, fun h => by cases h⟩
  | none =>
    cases hadd : W.addFact (s.shards k.device) k.ns k.content k.source k.metadata with
    | error error =>
      simp only [hadd]
      exact ⟨.inl hsame, fun h => by cases h⟩
    | ok r =>
      simp only [hadd]
      obtain ⟨hend, heach⟩ := hg r.1
      exact ⟨⟨.inr ⟨r.1, r.2, hadd, rfl, rfl⟩, fun h => absurd h hend⟩, heach⟩

/-- So may a refresh of the counters, which is recorded if it succeeds. -/
theorem syncs_refreshShardCounts {device : DeviceId} {g : Unit → Op M FactSyncOutcome}
    (hg : ∀ past', .countsRefreshed device ∈ past' → Syncs W k past' (g ())) :
    Syncs W k past (refreshShardCounts device >>= g) := by
  unfold refreshShardCounts shardStats
  simp only [bind_assoc]
  refine syncs_deviceMemory (syncs_memoryCall (fun s => ⟨rfl, fun d h => ?_, fun h => ?_⟩)
    fun stats s _ => syncs_poolConn (fun db x h => ?_) (fun db x _ db' es h => ?_)
      fun _ db x db' es h => hg _ ?_)
  · cases List.mem_singleton.1 h
  · cases hstats : M.stats (s.shards device) <;> rw [hstats] at h <;> cases h
  · cases hrow : db.deviceShards.find? device <;> simp only [hrow] at h <;> cases h
  · cases hrow : db.deviceShards.find? device <;> simp only [hrow] at h <;> cases h
    intro d h
    cases List.mem_singleton.1 h
  · cases hrow : db.deviceShards.find? device <;> simp only [hrow] at h <;> cases h
    simp

/-- The acknowledgement is written. -/
theorem syncs_acknowledge {serverFactId : String} {outcome : FactSyncOutcome}
    (hpast : .factAdded k.device ∈ past → .countsRefreshed k.device ∈ past) :
    Syncs W k past (poolConn (fun db x => do
      let syncedFacts ← okOr
        (db.syncedFacts.insert?
          { sourceFactId := k.sourceFactId, deviceId := k.device, serverFactId, syncedAt := x.now })
        (.database "UNIQUE constraint failed: synced_facts")
      return ((), { db with syncedFacts }, [])) >>= fun _ => pure outcome) := by
  refine ⟨fun h => (by cases h), Proc.Each.attempt_atomic fun s x => ?_⟩
  have hsame : (∀ d, Event.factAdded d ∉ ([] : List Event)) ∧ s.shards = s.shards :=
    ⟨fun _ => List.not_mem_nil, rfl⟩
  cases hx : x.fault with
  | some error =>
    refine ⟨.inl hsame, fun h => .inl ?_⟩
    rw [← MnemesError.database.inj (Except.error.inj (Option.some.inj h))]
    exact hx
  | none =>
    cases hinsert : s.db.syncedFacts.insert?
        { sourceFactId := k.sourceFactId, deviceId := k.device, serverFactId, syncedAt := x.now }
      with
    | none =>
      simp only [hinsert]
      refine ⟨.inl hsame, fun _ => .inr ⟨hx, Option.isSome_iff_exists.2
        (Table.insert?_eq_none.1 hinsert), fun h => hpast ?_⟩⟩
      exact (List.append_nil past) ▸ h
    | some t =>
      simp only [hinsert]
      exact ⟨⟨.inl ⟨fun _ => List.not_mem_nil, rfl⟩, fun h => by cases h⟩, Proc.each_done⟩

/-- The device's row is read, and no fact added. -/
theorem syncs_getDevice {device : DeviceId} {g : Option Device → Op M FactSyncOutcome}
    (hg : ∀ found past', (∀ d, .factAdded d ∈ past' → .factAdded d ∈ past) →
      Syncs W k past' (g found)) : Syncs W k past (getDevice device >>= g) := by
  refine syncs_still (fun s x => ?_) fun found s x _ => hg found _ fun d h => ?_
  · cases hx : x.fault with
    | some error => exact ⟨rfl, fun _ => List.not_mem_nil, fun h => by cases h⟩
    | none =>
      refine ⟨rfl, fun d h => ?_, fun h => by cases h⟩
      cases hfind : s.db.devices.find? device <;> simp [hfind] at h
  · refine (List.mem_append.1 h).resolve_right fun h => ?_
    cases hx : x.fault with
    | some error => simp [hx] at h
    | none => cases hfind : s.db.devices.find? device <;> simp [hx, hfind] at h

/-- So may reading the file of a shard. -/
theorem syncs_readShardFile {device : DeviceId} {f : M.Store → α} {g : α → Op M FactSyncOutcome}
    (hg : ∀ a, Syncs W k past (g a)) : Syncs W k past (readShardFile device f >>= g) := by
  refine syncs_still (fun s x => ?_) fun a s x _ => ?_
  · cases hx : x.fault with
    | some error =>
      refine ⟨rfl, fun _ => List.not_mem_nil, fun h => ?_⟩
      rw [MnemesError.database.inj (Except.error.inj h)]
    | none => exact ⟨rfl, fun _ => List.not_mem_nil, fun h => by cases h⟩
  · cases hx : x.fault <;> simpa using hg a

/-- Every call does only such actions. -/
theorem syncs_syncFactToShard : Syncs W k []
    (syncFactToShard W k.device k.sourceFactId k.ns k.content k.source k.metadata) := by
  unfold syncFactToShard
  refine syncs_getDevice fun found past hpast => ?_
  cases found with
  | none => exact syncs_throw fun h => by cases h
  | some row =>
    simp only
    split
    · exact syncs_throw fun h => by cases h
    refine syncs_poolRead (fun db h => by cases h) fun already => ?_
    split
    · exact syncs_pure
    refine syncs_readShardFile fun existing => ?_
    cases existing with
    | some id =>
      simp only [pure_bind]
      exact syncs_acknowledge fun h => absurd (hpast _ h) List.not_mem_nil
    | none =>
      simp only
      refine syncs_deviceMemory (syncs_addFact fun id => syncs_refreshShardCounts fun past' h => ?_)
      simp only [pure_bind]
      exact syncs_acknowledge fun _ => h

end

/-! ## The runs in which a source fact is added once -/

/-- The event is the addition of a fact by a call that the run admits. -/
def Adds (cmds : List (Command FactSyncCall Choice)) (p : Tid × Event) (k : FactSyncCall) : Prop :=
  .start p.1 k ∈ cmds ∧ p.2 = .factAdded k.device

section
variable (W : FactShards M) (cmds : List (Command FactSyncCall Choice))

/-- Every source fact is added at most once; no two facts of one text are added to one shard; and no
call that added a fact reports that its source fact is acknowledged, unless a fault has that
text. -/
structure SyncsOnce
    (c : Config FactSyncCall (MnemesStore M) Choice Event (Except MnemesError FactSyncOutcome)) :
    Prop where
  sources : c.hist.trace.Pairwise fun p q => ∀ k k', Adds cmds p k → Adds cmds q k' → k.key ≠ k'.key
  texts : c.hist.trace.Pairwise fun p q =>
    ∀ k k', Adds cmds p k → Adds cmds q k' → k.text ≠ k'.text
  reports : ∀ i k, .start i k ∈ cmds → (i, .factAdded k.device) ∈ c.hist.trace →
    c.result? i = some (.error (.database acknowledgedText)) →
    ∃ x, .run i x ∈ cmds ∧ x.fault = some acknowledgedText

/-- A step that adds a fact finds no fact of its text in the shard, and the source fact was added
with the same text only; and where a call that added a fact and refreshed the counters writes its
acknowledgement, without a fault, there is none. -/
structure FreshSync
    (m m' : Config FactSyncCall (MnemesStore M) Choice Event (Except MnemesError FactSyncOutcome))
    (i : Tid) (x : Choice) : Prop where
  adds : ∀ k, .start i k ∈ cmds → m'.hist.trace = m.hist.trace ++ [(i, .factAdded k.device)] →
    W.findFact (m.hist.state.shards k.device) k.ns k.content = none ∧
      ∀ p ∈ m.hist.trace, ∀ k', Adds cmds p k' → k'.key = k.key → k'.text = k.text
  acknowledges : ∀ k, .start i k ∈ cmds → (i, .countsRefreshed k.device) ∈ m.hist.trace →
    x.fault = none → m.hist.state.db.syncedFacts.find? k.key = none

end

section
variable {W : FactShards M} {cmds : List (Command FactSyncCall Choice)}
  {c m m' : Config FactSyncCall (MnemesStore M) Choice Event (Except MnemesError FactSyncOutcome)}

/-- What the steps keep: every added fact is found, and the source facts and the texts of the added
facts differ. -/
structure AddedOnce (W : FactShards M) (cmds : List (Command FactSyncCall Choice))
    (h : Hist (MnemesStore M) Event) : Prop where
  found : ∀ p ∈ h.trace, ∀ k, Adds cmds p k →
    (W.findFact (h.state.shards k.device) k.ns k.content).isSome
  sources : h.trace.Pairwise fun p q => ∀ k k', Adds cmds p k → Adds cmds q k' → k.key ≠ k'.key
  texts : h.trace.Pairwise fun p q => ∀ k k', Adds cmds p k → Adds cmds q k' → k.text ≠ k'.text

/-- What records no addition and leaves the shards alone keeps it. -/
theorem AddedOnce.still {h h' : Hist (MnemesStore M) Event} (hadded : AddedOnce W cmds h)
    {i : Tid} {es : List Event} (htrace : h'.trace = h.trace ++ es.map (i, ·))
    (hes : ∀ d, .factAdded d ∉ es) (hshards : h'.state.shards = h.state.shards) :
    AddedOnce W cmds h' := by
  have hnot : ∀ p ∈ es.map ((i, ·) : Event → Tid × Event), ∀ k, ¬ Adds cmds p k := by
    rintro p hp k ⟨-, hevent⟩
    obtain ⟨e, he, rfl⟩ := List.mem_map.1 hp
    obtain rfl : e = .factAdded k.device := hevent
    exact hes _ he
  refine ⟨fun p hp k hk => ?_, ?_, ?_⟩
  · rw [htrace] at hp
    rw [hshards]
    exact hadded.found p ((List.mem_append.1 hp).resolve_right fun hp => hnot p hp k hk) k hk
  · rw [htrace, List.pairwise_append]
    exact ⟨hadded.sources,
      List.pairwise_of_forall_mem_list fun p hp _ _ k _ hk => absurd hk (hnot p hp k),
      fun _ _ q hq _ k' _ hk' => absurd hk' (hnot q hq k')⟩
  · rw [htrace, List.pairwise_append]
    exact ⟨hadded.texts,
      List.pairwise_of_forall_mem_list fun p hp _ _ k _ hk => absurd hk (hnot p hp k),
      fun _ _ q hq _ k' _ hk' => absurd hk' (hnot q hq k')⟩

/-- The addition of a fact whose text is not found, to a source fact that was added with that text
only. -/
theorem AddedOnce.add (hW : W.Finds) {h h' : Hist (MnemesStore M) Event}
    (hadded : AddedOnce W cmds h) {i : Tid} {k : FactSyncCall} {id : String} {shard : M.Store}
    (hunique : ∀ k', .start i k' ∈ cmds → k' = k)
    (hadd : W.addFact (h.state.shards k.device) k.ns k.content k.source k.metadata =
      .ok (id, shard))
    (hshards : h'.state.shards = Function.update h.state.shards k.device shard)
    (htrace : h'.trace = h.trace ++ [(i, .factAdded k.device)])
    (hnew : W.findFact (h.state.shards k.device) k.ns k.content = none)
    (hsame : ∀ p ∈ h.trace, ∀ k', Adds cmds p k' → k'.key = k.key → k'.text = k.text) :
    AddedOnce W cmds h' := by
  -- no fact of the text was added, since it would be found
  have htext : ∀ p ∈ h.trace, ∀ k', Adds cmds p k' → k'.text ≠ k.text := by
    intro p hp k' hk' heq
    obtain ⟨hdevice, hns, hcontent⟩ : k'.device = k.device ∧ k'.ns = k.ns ∧
        k'.content = k.content := by simpa [FactSyncCall.text] using heq
    have := hadded.found p hp k' hk'
    rw [hdevice, hns, hcontent, hnew] at this
    cases this
  refine ⟨fun p hp k' hk' => ?_, ?_, ?_⟩
  · rw [htrace] at hp
    rcases List.mem_append.1 hp with hp | hp
    · have hold := hadded.found p hp k' hk'
      rw [hshards]
      by_cases hd : k'.device = k.device
      · rw [hd] at hold ⊢
        rw [Function.update_self]
        exact hW.kept hadd hold
      · rw [Function.update_of_ne hd]
        exact hold
    · obtain rfl := List.mem_singleton.1 hp
      obtain rfl := hunique k' hk'.1
      rw [hshards, Function.update_self]
      exact hW.added hadd
  · rw [htrace, List.pairwise_append]
    refine ⟨hadded.sources, List.pairwise_singleton .., fun p hp q hq k₁ k₂ hk₁ hk₂ heq => ?_⟩
    obtain rfl := List.mem_singleton.1 hq
    obtain rfl := hunique k₂ hk₂.1
    exact htext p hp k₁ hk₁ (hsame p hp k₁ hk₁ heq)
  · rw [htrace, List.pairwise_append]
    refine ⟨hadded.texts, List.pairwise_singleton .., fun p hp q hq k₁ k₂ hk₁ hk₂ heq => ?_⟩
    obtain rfl := List.mem_singleton.1 hq
    obtain rfl := hunique k₂ hk₂.1
    exact htext p hp k₁ hk₁ heq

/-- One step keeps it. -/
theorem AddedOnce.exec (hW : W.Finds) (hadded : AddedOnce W cmds m.hist)
    (hsteps : Service.Steps (fun _ k a => FactSyncAction W k a) m)
    {cmd : Command FactSyncCall Choice}
    (hcalls : ∀ i k t, m.slots i = .live k t →
      .start i k ∈ cmds ∧ ∀ k', .start i k' ∈ cmds → k' = k)
    (hfresh : ∀ i x, cmd = .run i x → FreshSync W cmds m m' i x)
    (hstep : (factSyncService W).exec m cmd = some m') : AddedOnce W cmds m'.hist := by
  cases cmd with
  | start i k => rw [((factSyncService W).exec_start hstep).2.1]; exact hadded
  | drop i =>
    obtain ⟨_, _, _, hhist, -⟩ := (factSyncService W).exec_drop hstep
    rw [hhist]
    refine hadded.still (?_ : _ = m.hist.trace ++ ([] : List Event).map (i, ·))
      (fun _ => List.not_mem_nil) rfl
    rfl
  | run i x =>
    obtain ⟨k, t, es, hslot, htrace, ⟨hes, hshards⟩ | ⟨id, shard, hadd, hshards, rfl⟩, -⟩ :=
      hsteps.exec_run hstep
    · exact hadded.still htrace hes hshards
    · obtain ⟨hmem, hunique⟩ := hcalls i k t hslot
      obtain ⟨hnew, hsame⟩ := (hfresh i x rfl).adds k hmem htrace
      exact hadded.add hW hunique hadd hshards htrace hnew hsame

end

/-- In every run of the calls, from any state, whose steps are all fresh, every source fact is
added at most once, no two facts of one text are added to one shard, and no call that added a fact
reports that another acknowledged it. -/
theorem syncs_once_of_fresh {W : FactShards M} (hW : W.Finds) {s : MnemesStore M}
    {cmds : List (Command FactSyncCall Choice)}
    {c : Config FactSyncCall (MnemesStore M) Choice Event (Except MnemesError FactSyncOutcome)}
    (hrun : (factSyncService W).run (Service.init s) cmds = some c)
    (hfresh : ∀ pre i x post m m', cmds = pre ++ .run i x :: post →
      (factSyncService W).run (Service.init s) pre = some m →
      (factSyncService W).exec m (.run i x) = some m' → FreshSync W cmds m m' i x) :
    SyncsOnce cmds c := by
  have hb : ∀ i k, ((factSyncService W).body i k).Each (FactSyncAction W k) [] :=
    fun _ _ => syncs_syncFactToShard.2
  have hsteps : ∀ {pre m}, (factSyncService W).run (Service.init s) pre = some m →
      Service.Steps (fun _ k a => FactSyncAction W k a) m := fun h => Service.Steps.init.run hb h
  have hcalls : ∀ {pre post m}, cmds = pre ++ post →
      (factSyncService W).run (Service.init s) pre = some m → ∀ i k t, m.slots i = .live k t →
      .start i k ∈ cmds ∧ ∀ k', .start i k' ∈ cmds → k' = k := by
    intro pre post m hsplit hpre i k t hslot
    have hmem : .start i k ∈ cmds := by
      rcases (factSyncService W).run_live hpre hslot with hmem | ⟨_, hunused⟩
      · exact hsplit ▸ List.mem_append_left _ hmem
      · cases hunused
    exact ⟨hmem, fun k' hk' => Service.run_start_unique hrun hk' hmem⟩
  have hadded : AddedOnce W cmds c.hist := by
    refine Service.run_invariant (I := fun m => AddedOnce W cmds m.hist) hrun
      ⟨fun p hp => absurd hp List.not_mem_nil, .nil, .nil⟩ ?_
    intro pre cmd post m m' hsplit hpre hstep hm
    refine hm.exec hW (hsteps hpre) (hcalls hsplit hpre) ?_ hstep
    rintro i x rfl
    exact hfresh pre i x post m m' hsplit hpre hstep
  refine ⟨hadded.sources, hadded.texts, fun i k hk htrace hresult => ?_⟩
  -- the error is that of the last step
  rcases Service.run_result (fun _ _ => rfl) hrun hresult with
    h | ⟨pre, x, post, m, m', hsplit, hpre, hstep, hm⟩
  · cases h
  have hpost : (factSyncService W).run m' post = some c := by
    rw [hsplit] at hrun
    obtain ⟨m₁, hpre₁, hrest⟩ := (factSyncService W).run_append.1 hrun
    obtain rfl := Option.some.inj (hpre.symm.trans hpre₁)
    obtain ⟨m₂, hstep₂, hpost⟩ := (factSyncService W).run_cons.1 hrest
    obtain rfl := Option.some.inj (hstep.symm.trans hstep₂)
    exact hpost
  obtain ⟨k', t, es, hslot, hes, hact⟩ := (hsteps hpre).exec_run hstep
  obtain rfl : k = k' := (hcalls hsplit hpre i k' t hslot).2 k hk
  rcases hact.fails hm with hfault | ⟨hfault, hfound, hpast⟩
  · exact ⟨x, hsplit ▸ List.mem_append_right _ List.mem_cons_self, hfault⟩
  · -- the call had added the fact before, and refreshed the counters
    obtain ⟨_, hdone⟩ := Config.result?_eq_some.1 hm
    have hevent : .factAdded k.device ∈ m'.hist.own i := by
      rw [← Service.run_own_of_done hpost hdone]
      exact Hist.mem_own.2 htrace
    have hrefreshed := hpast ?_
    · rw [(hfresh pre i x post m m' hsplit hpre hstep).acknowledges k hk
        (Hist.mem_own.1 hrefreshed) hfault] at hfound
      cases hfound
    · have := Hist.mem_own.1 hevent
      rw [hes] at this
      rcases List.mem_append.1 this with hold | hnew
      · exact List.mem_append_left _ (Hist.mem_own.2 hold)
      · obtain ⟨e, he, heq⟩ := List.mem_map.1 hnew
        exact List.mem_append_right _ ((Prod.mk.inj heq).2 ▸ he)

namespace Sample

/-- A fact is found exactly if the shard has its content. -/
theorem findFact_isSome {shard : List ReplicaEnvelopeV1} {ns content : String} :
    (factShards.findFact shard ns content).isSome ↔ ∃ e ∈ shard, e.payload = utf8 content := by
  simp [factShards]

/-- The reference owner finds what it added. -/
theorem factShards_finds : factShards.Finds where
  added h := by
    cases h
    exact findFact_isSome.2 ⟨_, List.mem_append_right _ List.mem_cons_self, rfl⟩
  kept h hfound := by
    cases h
    obtain ⟨e, he, hpayload⟩ := findFact_isSome.1 hfound
    exact findFact_isSome.2 ⟨e, List.mem_append_left _ he, hpayload⟩

/-- The source fact of a device. -/
def factSync : FactSyncCall := ⟨deviceA, "source", "notes", "text", none, none⟩

/-- The next `n` actions of a call. -/
def acts (i : Tid) (n : Nat) : List (Command FactSyncCall Choice) :=
  List.replicate n (.run i plain)

/-- A call that is dropped when it has added the fact, and its retry. -/
def syncDropped : List (Command FactSyncCall Choice) :=
  .start 0 factSync :: acts 0 6 ++ .drop 0 :: .start 1 factSync :: acts 1 4

/-- Two calls for one source fact that both look it up before one adds it. -/
def syncRaces : List (Command FactSyncCall Choice) :=
  .start 0 factSync :: .start 1 factSync :: acts 0 3 ++ acts 1 3 ++ acts 0 8 ++ acts 1 8

end Sample

open Sample in
/-- A fact whose first synchronisation was dropped is added once. -/
theorem syncs_once_of_fresh_sample : ∃ c,
    (factSyncService factShards).run (Service.init store) syncDropped = some c ∧
      c.result? 1 = some (.ok .skipped) ∧ SyncsOnce syncDropped c := by
  have hrun : ((factSyncService factShards).run (Service.init store) syncDropped).any
      (fun c => c.result? 1 = some (.ok .skipped)) = true := by decide +kernel
  obtain ⟨c, hc, hresult⟩ := (Option.any_eq_true _ _).1 hrun
  refine ⟨c, hc, of_decide_eq_true hresult, syncs_once_of_fresh factShards_finds hc ?_⟩
  intro pre i x post m m' hsplit hpre hstep
  -- every call is the same, and it is acknowledged by the last step only
  have hcall : ∀ i k, .start i k ∈ syncDropped → k = factSync := by
    have : ∀ cmd ∈ syncDropped, ∀ i k, cmd = .start i k → k = factSync := by
      intro cmd hcmd
      simp only [syncDropped, acts, List.cons_append, List.mem_cons, List.mem_append,
        List.mem_replicate] at hcmd
      rcases hcmd with rfl | ⟨-, rfl⟩ | rfl | rfl | ⟨-, rfl⟩ <;> intro i k h <;> cases h <;> rfl
    exact fun i k hk => this _ hk i k rfl
  have hcheck : ∀ n < syncDropped.length,
      ((factSyncService factShards).run (Service.init store) (syncDropped.take n)).all (fun m =>
        decide (m.hist.state.db.syncedFacts.find? factSync.key = none) &&
        (decide (factShards.findFact (m.hist.state.shards deviceA) "notes" "text" = none) &&
            m.hist.trace.all (fun p => p.2 ≠ .factAdded deviceA) ||
          [0, 1].all fun i => ((factSyncService factShards).exec m (.run i plain)).all fun m' =>
            m'.hist.trace ≠ m.hist.trace ++ [(i, .factAdded deviceA)])) = true := by
    decide +kernel
  have hpre' : pre = syncDropped.take pre.length := by rw [hsplit, List.take_left']; rfl
  have hlen : pre.length < syncDropped.length := by rw [hsplit]; simp
  have hi : i ∈ [0, 1] ∧ x = plain := by
    have : ∀ cmd ∈ syncDropped, ∀ i x, cmd = .run i x → i ∈ [0, 1] ∧ x = plain := by
      intro cmd hcmd
      simp only [syncDropped, acts, List.cons_append, List.mem_cons, List.mem_append,
        List.mem_replicate] at hcmd
      rcases hcmd with rfl | ⟨-, rfl⟩ | rfl | rfl | ⟨-, rfl⟩ <;> intro i x h <;> cases h <;> simp
    exact this (.run i x) (hsplit ▸ List.mem_append_right _ List.mem_cons_self) i x rfl
  have hm := hcheck _ hlen
  rw [← hpre', hpre, Option.all_some, Bool.and_eq_true, decide_eq_true_eq] at hm
  refine ⟨fun k hk htrace => ?_, fun k hk _ _ => hcall i k hk ▸ hm.1⟩
  obtain rfl := hcall i k hk
  rcases Bool.or_eq_true_iff.1 hm.2 with hnew | hno
  · rw [Bool.and_eq_true, decide_eq_true_eq] at hnew
    refine ⟨hnew.1, fun p hp k' hk' => absurd hk'.2 ?_⟩
    obtain rfl := hcall _ k' hk'.1
    exact of_decide_eq_true (List.all_eq_true.1 hnew.2 p hp)
  · have := List.all_eq_true.1 hno i hi.1
    rw [← hi.2, hstep, Option.all_some] at this
    exact absurd htrace (of_decide_eq_true this)

open Sample in
/-- Two calls for one source fact both add it, and the second reports that it was acknowledged. -/
theorem sync_races : ¬ ∀ (s : MnemesStore memory) (cmds : List (Command FactSyncCall Choice)) c,
    (factSyncService factShards).run (Service.init s) cmds = some c → SyncsOnce cmds c := by
  intro h
  have hrun : ((factSyncService factShards).run (Service.init store) syncRaces).any (fun c =>
      c.hist.trace.filter (fun p => p.2 = .factAdded deviceA) =
        [(0, .factAdded deviceA), (1, .factAdded deviceA)] ∧
      c.result? 1 = some (.error (.database acknowledgedText))) = true := by decide +kernel
  obtain ⟨c, hc, hadds⟩ := (Option.any_eq_true _ _).1 hrun
  have hpair := (h store syncRaces c hc).sources.filter (fun p => p.2 = .factAdded deviceA)
  rw [(of_decide_eq_true hadds).1] at hpair
  have hne := List.rel_of_pairwise_cons hpair (List.mem_singleton.2 rfl)
  exact hne factSync factSync ⟨by decide, rfl⟩ ⟨by decide, rfl⟩ rfl

end Mnemes
