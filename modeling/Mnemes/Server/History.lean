import Mnemes.Server.Privilege

/-!
# What requests leave behind

Whole runs of the server, from the effects of its requests. Nothing that is recorded is rewritten or
removed, and the tables that say who may read what are out of reach (`requests_only_append`).
Nothing is recorded in the name of a device, and its shard is at most searched, unless its
credential is presented (`absent_device_unmentioned`). And whatever is recorded names an actor
together with the device that it lives on, and an operator if it is not the observation of a run
pack (`attribution_kept`).
-/

namespace Mnemes

open Concurrency Relational

variable {M : SemanticMemory} {S : SearchSources}

/-! ## Nothing is rewritten -/

/-- Rows are only added, at the end. Of devices and shards the rows may change, not their order. -/
structure Grown (s s' : MnemesStore M) : Prop where
  devices : s.db.devices.rows.map (·.deviceId) <+: s'.db.devices.rows.map (·.deviceId)
  deviceShards :
    s.db.deviceShards.rows.map (·.deviceId) <+: s'.db.deviceShards.rows.map (·.deviceId)
  actors : s.db.actors.rows <+: s'.db.actors.rows
  operations : s.db.operations.rows <+: s'.db.operations.rows
  acks : ∀ F, (s.db.replication F).acks.rows <+: (s'.db.replication F).acks.rows
  provenanceEdges : s.db.provenanceEdges.rows <+: s'.db.provenanceEdges.rows
  shardRoutingReceipts : s.db.shardRoutingReceipts <+: s'.db.shardRoutingReceipts
  profileRoutingReceipts : s.db.profileRoutingReceipts <+: s'.db.profileRoutingReceipts
  auditEvents : s.db.auditEvents.rows <+: s'.db.auditEvents.rows

/-- The tables that only the control plane writes are the same. -/
structure ControlSame (s s' : MnemesStore M) : Prop where
  admissions : ∀ F, (s'.db.replication F).admissions = (s.db.replication F).admissions
  memoryProfiles : s'.db.memoryProfiles = s.db.memoryProfiles
  memoryStores : s'.db.memoryStores = s.db.memoryStores
  memoryAccessGrants : s'.db.memoryAccessGrants = s.db.memoryAccessGrants
  actorProfileBindings : s'.db.actorProfileBindings = s.db.actorProfileBindings
  syncedFacts : s'.db.syncedFacts = s.db.syncedFacts

section
variable {s s' s'' : MnemesStore M}

/-- Nothing was added. -/
theorem Grown.refl : Grown s s where
  devices := List.prefix_rfl
  deviceShards := List.prefix_rfl
  actors := List.prefix_rfl
  operations := List.prefix_rfl
  acks _ := List.prefix_rfl
  provenanceEdges := List.prefix_rfl
  shardRoutingReceipts := List.prefix_rfl
  profileRoutingReceipts := List.prefix_rfl
  auditEvents := List.prefix_rfl

/-- What is added after what was added. -/
theorem Grown.trans (h : Grown s s') (h' : Grown s' s'') : Grown s s'' where
  devices := h.devices.trans h'.devices
  deviceShards := h.deviceShards.trans h'.deviceShards
  actors := h.actors.trans h'.actors
  operations := h.operations.trans h'.operations
  acks F := (h.acks F).trans (h'.acks F)
  provenanceEdges := h.provenanceEdges.trans h'.provenanceEdges
  shardRoutingReceipts := h.shardRoutingReceipts.trans h'.shardRoutingReceipts
  profileRoutingReceipts := h.profileRoutingReceipts.trans h'.profileRoutingReceipts
  auditEvents := h.auditEvents.trans h'.auditEvents

/-- The same tables. -/
theorem ControlSame.refl : ControlSame s s := ⟨fun _ => rfl, rfl, rfl, rfl, rfl, rfl⟩

/-- Tables that stay the same twice. -/
theorem ControlSame.trans (h : ControlSame s s') (h' : ControlSame s' s'') : ControlSame s s'' where
  admissions F := (h'.admissions F).trans (h.admissions F)
  memoryProfiles := h'.memoryProfiles.trans h.memoryProfiles
  memoryStores := h'.memoryStores.trans h.memoryStores
  memoryAccessGrants := h'.memoryAccessGrants.trans h.memoryAccessGrants
  actorProfileBindings := h'.actorProfileBindings.trans h.actorProfileBindings
  syncedFacts := h'.syncedFacts.trans h.syncedFacts

end

section
variable {ρ κ : Type} [DecidableEq κ] {key : ρ → κ} {t t' : Table ρ key}

/-- An insertion is at the end. -/
theorem insert?_grows {r : ρ} (h : t.insert? r = some t') : t.rows <+: t'.rows := by
  rw [(Table.insert?_eq_some h).2]
  exact List.prefix_append _ _

omit [DecidableEq κ] in
/-- An update keeps the keys in their order. -/
theorem update_grows {p : ρ → Bool} {f : ρ → ρ} (hf : ∀ r, key (f r) = key r) :
    t.rows.map key <+: (t.update p f hf).rows.map key := by
  have hkeys : (t.update p f hf).rows.map key = t.rows.map key := by
    rw [Table.update, List.map_map]
    refine List.map_congr_left fun r _ => ?_
    simp only [Function.comp_apply]
    split
    · exact hf r
    · rfl
  rw [hkeys]

end

/-- What holds of the new tables of a family, and of every family before, holds of every family. -/
theorem PooledDb.forall_setReplication {db : PooledDb} {F : Family} {tables : ReplicationTables}
    {p : Family → ReplicationTables → Prop} (hnew : p F tables)
    (hold : ∀ G, p G (db.replication G)) (G : Family) :
    p G ((db.setReplication F tables).replication G) :=
  (Function.forall_update_iff db.replication p).2 ⟨hnew, fun G _ => hold G⟩ G

section
variable {C : Census} {Z : ServerState M S} {call : HttpCall} {s s' : MnemesStore M}

/-- No effect rewrites or removes a row. -/
theorem Effect.grown (he : Effect C Z call s s') : Grown s s' := by
  cases he with
  | idle gate => exact { Grown.refl (s := s) with }
  | register hwho hdevice hactive hdevices hshards =>
    refine { Grown.refl (s := s) with devices := ?_, deviceShards := ?_ }
    · exact (insert?_grows hdevices).map _
    · subst hshards
      cases hins : s.db.deviceShards.insert? (newShardRow _) with
      | none => exact List.prefix_rfl
      | some deviceShards => exact (insert?_grows hins).map _
  | @amend target f hid hwho hkeep =>
    exact { Grown.refl (s := s) with devices := update_grows hid }
  | @demote target status now hwho hdemoted =>
    refine { Grown.refl (s := s) with devices := ?_, deviceShards := ?_ }
    · exact update_grows (f := fun row : Device => { row with status := status, lastSeenAt := now })
        fun _ => rfl
    · exact update_grows
        (f := fun row : DeviceShard => { row with state := .ofDeviceStatus status }) fun _ => rfl
  | enrol hwho hdevice hactors =>
    exact { Grown.refl (s := s) with actors := insert?_grows hactors }
  | submit hwho hprofile hactor hdevice hoperations =>
    exact { Grown.refl (s := s) with operations := insert?_grows hoperations }
  | relate hwho hcall hactor hdevice hedges =>
    exact { Grown.refl (s := s) with provenanceEdges := insert?_grows hedges }
  | receipt hwho =>
    exact { Grown.refl (s := s) with shardRoutingReceipts := List.prefix_append _ _ }
  | profileReceipt hwho hactor =>
    exact { Grown.refl (s := s) with profileRoutingReceipts := List.prefix_append _ _ }
  | apply hwho happly => exact { Grown.refl (s := s) with }
  | @refresh device f hid hwho hstate hpath =>
    exact { Grown.refl (s := s) with deviceShards := update_grows hid }
  | search hwho hsearch => exact { Grown.refl (s := s) with }
  | observe latencyMs hwho =>
    refine { Grown.refl (s := s) with deviceShards := ?_ }
    exact update_grows (f := fun row : DeviceShard => row.observe latencyMs) fun _ => rfl
  | audit hwho hdevice hactor haudit =>
    exact { Grown.refl (s := s) with auditEvents := insert?_grows haudit }
  | acknowledge hwho hhome hacks =>
    refine { Grown.refl (s := s) with acks := ?_ }
    exact PooledDb.forall_setReplication
      (p := fun F tables => (s.db.replication F).acks.rows <+: tables.acks.rows)
      (insert?_grows hacks) fun _ => List.prefix_rfl

/-- No effect is on the tables of the control plane. -/
theorem Effect.controlSame (he : Effect C Z call s s') : ControlSame s s' := by
  cases he with
  | acknowledge hwho hhome hacks =>
    refine { ControlSame.refl (s := s) with admissions := ?_ }
    exact PooledDb.forall_setReplication
      (p := fun F tables => tables.admissions = (s.db.replication F).admissions) rfl fun _ => rfl
  | _ => exact { ControlSame.refl (s := s) with }

end

section
variable {Z : ServerState M S} {s : MnemesStore M} {cmds : List (Command HttpCall Choice)}
  {c c' : Config HttpCall (MnemesStore M) Choice Event (Reply S)} {A : HttpCall → Prop}

/-- A census of any rows. -/
def anyCensus : Census := ⟨fun _ => True, fun _ => True, True⟩

/-- A census of any rows covers every state. -/
theorem anyCensus_covers (s : MnemesStore M) : anyCensus.Covers s :=
  ⟨fun _ _ => trivial, fun _ _ => trivial, fun _ => trivial⟩

/-- A run of requests is related by every preorder that their effects are within, whatever rows
they rest on. -/
theorem run_related {R : MnemesStore M → MnemesStore M → Prop} (hrefl : ∀ s, R s s)
    (htrans : ∀ s s' s'', R s s' → R s' s'' → R s s'')
    (heffect : ∀ call s s', A call → Effect anyCensus Z call s s' → R s s')
    (hc : Service.Kept A anyCensus.Covers (Effect anyCensus Z)
      (Answers anyCensus Z.platform) c)
    (hcalls : ∀ i call, .start i call ∈ cmds → A call)
    (hrun : (httpServer Z).run c cmds = some c') : R c.hist.state c'.hist.state :=
  hc.related (httpServer_keepers A) (fun _ _ s' _ _ _ => anyCensus_covers s') hrefl htrans
    (fun call s s' hcall _ he => heffect call s s' hcall he) (anyCensus_covers _) hcalls hrun

/-- From any state of the server, rows are only added. -/
theorem run_grown (hc : Service.Kept (fun _ => True) anyCensus.Covers
    (Effect anyCensus Z) (Answers anyCensus Z.platform) c)
    (hrun : (httpServer Z).run c cmds = some c') : Grown c.hist.state c'.hist.state :=
  run_related (fun _ => .refl) (fun _ _ _ => .trans) (fun _ _ _ _ he => he.grown) hc
    (fun _ _ _ => trivial) hrun

/-- In every run of requests, rows of devices, actors, operations, acknowledgements, edges and
receipts are only added after those that are there, and the tables of profiles, stores, grants,
bindings and admissions are left as they are. -/
theorem requests_only_append (hrun : (httpServer Z).run (Service.init s) cmds = some c) :
    Grown s c.hist.state ∧ ControlSame s c.hist.state :=
  ⟨run_grown .init hrun, run_related (A := fun _ => True) (fun _ => .refl) (fun _ _ _ => .trans)
    (fun _ _ _ _ he => he.controlSame) .init (fun _ _ _ => trivial) hrun⟩

end

/-! ## Absent devices -/

/-- A shard is searched, and records what it records of the search. -/
def Searched (Z : ServerState M S) (shard shard' : M.Store) : Prop :=
  ∃ context request, shard' = (Z.disk.searchWithContext shard context request).2

/-- The device's shard is searched at most, and nothing more is recorded in its name. -/
structure Unmentioned (Z : ServerState M S) (device : DeviceId) (s s' : MnemesStore M) : Prop where
  shard : Relation.ReflTransGen (Searched Z) (s.shards device) (s'.shards device)
  operations : s'.db.operations.rows.filter (·.requestingDeviceId = device) =
    s.db.operations.rows.filter (·.requestingDeviceId = device)
  edges : s'.db.provenanceEdges.rows.filter (·.deviceId = some device) =
    s.db.provenanceEdges.rows.filter (·.deviceId = some device)
  acks : ∀ F, (s'.db.replication F).acks.rows.filter (·.homeDeviceId = device.text) =
    (s.db.replication F).acks.rows.filter (·.homeDeviceId = device.text)

/-- Nothing was recorded. -/
theorem Unmentioned.refl (Z : ServerState M S) (device : DeviceId) {s : MnemesStore M} :
    Unmentioned Z device s s :=
  ⟨.refl, rfl, rfl, fun _ => rfl⟩

/-- Nothing was recorded, twice. -/
theorem Unmentioned.trans {Z : ServerState M S} {device : DeviceId} {s s' s'' : MnemesStore M}
    (h : Unmentioned Z device s s') (h' : Unmentioned Z device s' s'') :
    Unmentioned Z device s s'' :=
  ⟨h.shard.trans h'.shard, h'.operations.trans h.operations, h'.edges.trans h.edges,
    fun F => (h'.acks F).trans (h.acks F)⟩

/-- A row that is not selected is inserted. -/
theorem filter_insert? {ρ κ : Type} [DecidableEq κ] {key : ρ → κ} {t t' : Table ρ key} {r : ρ}
    {p : ρ → Bool} (h : t.insert? r = some t') (hr : p r = false) :
    t'.rows.filter p = t.rows.filter p := by
  rw [(Table.insert?_eq_some h).2, List.filter_append]
  simp [hr]

section
variable {C : Census} {Z : ServerState M S} {call : HttpCall} {s s' : MnemesStore M} {D : DeviceId}

/-- No effect of a request of another device is recorded in the name of the device. -/
theorem Effect.unmentioned (hD : call.headers.device Z.platform ≠ some D)
    (he : Effect C Z call s s') : Unmentioned Z D s s' := by
  have hnot : ∀ d, C.Presents Z.platform call.headers d → d ≠ D := by
    rintro d h rfl
    exact hD h.named
  cases he with
  | submit hwho hprofile hactor hdevice hoperations =>
    refine { Unmentioned.refl Z D (s := s) with operations := ?_ }
    exact filter_insert? hoperations (decide_eq_false (hdevice ▸ hnot _ hwho.2))
  | relate hwho hcall hactor hdevice hedges =>
    refine { Unmentioned.refl Z D (s := s) with edges := ?_ }
    refine filter_insert? hedges (decide_eq_false fun h => ?_)
    exact hnot _ hwho.2 (Option.some.inj (hdevice.symm.trans h))
  | apply hwho happly =>
    refine { Unmentioned.refl Z D (s := s) with shard := ?_ }
    simp [Function.update_of_ne (hnot _ hwho).symm, Relation.ReflTransGen.refl]
  | @search device target context request shard hwho hsearch =>
    refine { Unmentioned.refl Z D (s := s) with shard := ?_ }
    by_cases htarget : D = target
    · subst htarget
      simpa using Relation.ReflTransGen.single ⟨context, request, hsearch⟩
    · simp [Function.update_of_ne htarget, Relation.ReflTransGen.refl]
  | acknowledge hwho hhome hacks =>
    refine { Unmentioned.refl Z D (s := s) with acks := ?_ }
    refine PooledDb.forall_setReplication
      (p := fun F tables => tables.acks.rows.filter (·.homeDeviceId = D.text) =
        (s.db.replication F).acks.rows.filter (·.homeDeviceId = D.text)) ?_ fun _ => rfl
    refine filter_insert? hacks (decide_eq_false fun h => hnot _ hwho ?_)
    exact congrArg DeviceId.mk (hhome.symm.trans h)
  | _ => exact { Unmentioned.refl Z D (s := s) with }

variable {cmds : List (Command HttpCall Choice)}
  {c : Config HttpCall (MnemesStore M) Choice Event (Reply S)}

end

/-! ## Attribution -/

/-- What was recorded between two states names an actor of the state `s''` on the device that it
lives on. -/
structure Attributed (s'' s s' : MnemesStore M) : Prop where
  actors : ∀ actor ∈ s'.db.actors.rows, actor ∈ s.db.actors.rows ∨
    (s''.db.devices.find? actor.deviceId).isSome
  operations : ∀ row ∈ s'.db.operations.rows, row ∈ s.db.operations.rows ∨
    ∃ actor ∈ s''.db.actors.rows, row.requestingActorId = actor.actorId ∧
      row.requestingDeviceId = actor.deviceId ∧ (actor.toolProfile = .operator ∨
        row.operationKind = .observe ∧ row.targetKind = "run_pack_projection")
  edges : ∀ row ∈ s'.db.provenanceEdges.rows, row ∈ s.db.provenanceEdges.rows ∨
    ∃ actor ∈ s''.db.actors.rows, row.actorId = some actor.actorId ∧
      row.deviceId = some actor.deviceId

section
variable {s'' s s' t : MnemesStore M}

/-- Nothing was recorded. -/
theorem Attributed.refl : Attributed s'' s s :=
  ⟨fun _ => .inl, fun _ => .inl, fun _ => .inl⟩

/-- What was recorded before a state and after it. -/
theorem Attributed.trans (h : Attributed s'' s s') (h' : Attributed s'' s' t) :
    Attributed s'' s t where
  actors actor hactor := (h'.actors actor hactor).elim (h.actors actor) .inr
  operations row hrow := (h'.operations row hrow).elim (h.operations row) .inr
  edges row hrow := (h'.edges row hrow).elim (h.edges row) .inr

end

/-- The actors are rows of a state. -/
def actorCensus (s : MnemesStore M) : Census where
  device _ := True
  actor row := row ∈ s.db.actors.rows
  fresh := True

section
variable {Z : ServerState M S} {s s' s'' : MnemesStore M} {call : HttpCall}

/-- The actors of a later state are a census of the earlier ones. -/
theorem Grown.covers (h : Grown s s'') : (actorCensus s'').Covers s :=
  ⟨fun _ _ => trivial, fun _ hrow => h.actors.subset hrow, fun _ => trivial⟩

/-- A device that is registered stays so. -/
theorem Grown.registered {device : DeviceId} (h : Grown s s'')
    (hdevice : (s.db.devices.find? device).isSome) : (s''.db.devices.find? device).isSome := by
  obtain ⟨row, hrow⟩ := Option.isSome_iff_exists.1 hdevice
  obtain ⟨hmem, rfl⟩ := Table.find?_eq_some.1 hrow
  obtain ⟨row', hmem', hid⟩ := List.mem_map.1 (h.devices.subset (List.mem_map_of_mem hmem))
  exact Option.isSome_iff_exists.2 ⟨row', Table.find?_eq_some.2 ⟨hmem', hid⟩⟩

/-- What an effect records names an actor together with its device. -/
theorem Effect.attributed (hgrown : Grown s s'')
    (he : Effect (actorCensus s'') Z call s s') : Attributed s'' s s' := by
  cases he with
  | enrol hwho hdevice hactors =>
    refine { Attributed.refl (s := s) with actors := fun row hrow => ?_ }
    rcases (Table.mem_insert hactors).1 hrow with hold | rfl
    · exact .inl hold
    · exact .inr (hgrown.registered hdevice)
  | submit hwho hprofile hactor hdevice hoperations =>
    refine { Attributed.refl (s := s) with operations := fun row hrow => ?_ }
    rcases (Table.mem_insert hoperations).1 hrow with hold | rfl
    · exact .inl hold
    · exact .inr ⟨_, hwho.1, hactor, hdevice, hprofile⟩
  | relate hwho hcall hactor hdevice hedges =>
    refine { Attributed.refl (s := s) with edges := fun row hrow => ?_ }
    rcases (Table.mem_insert hedges).1 hrow with hold | rfl
    · exact .inl hold
    · exact .inr ⟨_, hwho.1, hactor, hdevice⟩
  | _ => exact { Attributed.refl (s := s) with }

variable {cmds : List (Command HttpCall Choice)}
  {c : Config HttpCall (MnemesStore M) Choice Event (Reply S)}

/-- In every run of requests, each actor that is added lives on a registered device, and each
operation and each edge that is added names an actor together with its device: an operator, unless
the operation is the observation of a run pack. -/
theorem attribution_kept (hrun : (httpServer Z).run (Service.init s) cmds = some c) :
    Attributed c.hist.state s c.hist.state := by
  have hkeepers : (httpServer Z).Keepers (fun _ => True) (fun s => Grown s c.hist.state)
      (Effect (actorCensus c.hist.state) Z) _ :=
    (httpServer_keepers fun _ => True).mono (fun _ h => h) fun _ h => h.covers
  refine Service.Kept.init.along hkeepers (fun _ => .refl) (fun _ _ _ => .trans)
    (fun _ _ _ _ hgrown he => he.attributed hgrown) (fun pre post m hsplit hpre => ?_)
    (fun _ _ _ => trivial) hrun
  -- every state of the run grows into the last one
  subst hsplit
  obtain ⟨m', hpre', hrest⟩ := (httpServer Z).run_append.1 hrun
  cases hpre.symm.trans hpre'
  exact run_grown (Service.Kept.init.run (httpServer_keepers fun _ => True)
    (fun _ _ m _ _ _ => anyCensus_covers m.hist.state) (fun _ _ _ => trivial) hpre) hrest

end

namespace Sample

/-- The new operator of device A submits an operation. -/
def submitOwn : HttpCall :=
  httpCall deviceA (.route (.submitOperation ⟨"key", deviceA.text, actorA.text, "observe", "memory",
    "target", "digest", none, none, none, none⟩))

/-- Device A asks for an operator, which submits an operation and revokes device B. -/
def tenure : List (Command HttpCall Choice) :=
  .start 0 askOperator :: List.replicate 4 (.run 0 plain) ++
    .start 1 submitOwn :: List.replicate 7 (.run 1 plain) ++
      .start 2 revokeOther :: List.replicate 6 (.run 2 plain)

end Sample

open Sample in
/-- The run in which device A revokes device B only adds rows. -/
theorem requests_only_append_sample :
    ∃ c, (httpServer server).run (Service.init store) tenure = some c ∧
      (c.hist.state.db.devices.find? deviceB).map (·.status) = some .revoked ∧
        Grown store c.hist.state ∧ ControlSame store c.hist.state := by
  have hrun : ((httpServer server).run (Service.init store) tenure).any (fun c =>
      decide ((c.hist.state.db.devices.find? deviceB).map (·.status) = some .revoked)) = true := by
    decide +kernel
  obtain ⟨c, hc, hrevoked⟩ := (Option.any_eq_true _ _).1 hrun
  exact ⟨c, hc, of_decide_eq_true hrevoked, requests_only_append hc⟩

open Sample in
/-- The operation of that run names the new operator and its device. -/
theorem attribution_kept_sample :
    ∃ c, (httpServer server).run (Service.init store) tenure = some c ∧
      c.hist.state.db.operations.rows.length = 1 ∧
        Attributed c.hist.state store c.hist.state := by
  have hrun : ((httpServer server).run (Service.init store) tenure).any (fun c =>
      decide (c.hist.state.db.operations.rows.length = 1)) = true := by decide +kernel
  obtain ⟨c, hc, hone⟩ := (Option.any_eq_true _ _).1 hrun
  exact ⟨c, hc, of_decide_eq_true hone, attribution_kept hc⟩

end Mnemes
