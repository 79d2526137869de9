import Mnemes.Server.Effects

/-!
# Every request is within its effects

The handlers of the routes and of the tools, one after the other, and the processes of all requests
together (`HttpCall.body_keeps`, `httpServer_keepers`).
-/

namespace Mnemes

open Concurrency Relational

variable {M : SemanticMemory} {S : SearchSources}

namespace ServerState

variable {Z : ServerState M S} {C : Census} {call : HttpCall}

/-! ## Reads -/

/-- The devices are listed. -/
theorem within_listDevices :
    Within C Z call (fun _ => True) (listDevices : Op M (List Device)) := within_read

/-- Where no devices are counted, there were none. -/
theorem within_countDevices :
    Within C Z call (fun count => count = 0 → C.fresh) (countDevices : Op M Nat) := by
  refine within_poolConn fun s x a db es hs hrun => ?_
  cases hrun
  exact ⟨.refl, fun hnone => hs.fresh (List.length_eq_zero_iff.1 hnone)⟩

/-- The integrity of the database is checked. -/
theorem within_quickCheck :
    Within C Z call (fun _ => True) (quickCheck : Op M String) := by
  unfold Within
  exact Proc.keepsOk_atomic fun _ _ _ => ⟨.refl, fun _ _ => trivial⟩

/-- The integrity of a shard is checked. -/
theorem within_verifyShard {shard : DeviceShard} :
    Within C Z call (fun _ => True) (Z.verifyShard shard : Op M (String × String)) := by
  unfold verifyShard
  split
  · exact within_pure trivial
  · refine (within_attempted within_deviceMemory).bind fun opened _ => ?_
    cases opened with
    | error error => exact within_pure trivial
    | ok _ =>
      have hread : Within C Z call (fun _ => True)
          (readShard shard.deviceId Z.disk.verifyIntegrity : Op M _) := by
        unfold Within
        exact Proc.keepsOk_atomic fun _ _ _ => ⟨.refl, fun _ _ => trivial⟩
      refine hread.bind fun report _ => ?_
      split <;> exact within_pure trivial

/-- The integrity of all shards is checked. -/
theorem within_verifyAllShards :
    Within C Z call (fun _ => True)
      (Z.verifyAllShards : Op M (List (DeviceShard × String × String))) := by
  unfold verifyAllShards
  exact within_read.bind fun shards _ => within_mapM (fun entry =>
    within_verifyShard.bind fun _ _ => within_pure trivial) shards

/-- The shards are counted. -/
theorem within_shardStats :
    Within C Z call (fun _ => True) (Z.shardStats : Op M (MemoryStats × UInt64)) :=
  within_read.bind fun _ _ => within_pure trivial

/-! ## Searches -/

/-- A shard that is searched may record the search. -/
theorem searchWithContext_keeps {device target : DeviceId} {context : SearchContext}
    {request : RoutingSearchRequest} (hwho : C.Presents Z.platform call.headers device) :
    (Z.searchWithContext target context request).Keeps C.Covers (Effect C Z call)
      fun _ => True := by
  unfold searchWithContext
  refine Proc.keeps_atomic fun s x _ => ⟨?_, trivial⟩
  cases x.fault with
  | none => exact .search hwho rfl
  | some error => exact .refl

/-- A shard that is opened for a search may record the search. -/
theorem openAndSearch_keeps {device target : DeviceId} {context : SearchContext}
    {request : RoutingSearchRequest} (hwho : C.Presents Z.platform call.headers device) :
    (Z.openAndSearch target context request).Keeps C.Covers (Effect C Z call) fun _ => True := by
  unfold openAndSearch
  refine Proc.Keeps.bind within_deviceMemory.keeps fun opened _ => ?_
  cases opened with
  | error error => exact Proc.keeps_done trivial
  | ok _ =>
    exact Proc.Keeps.bind (searchWithContext_keeps hwho) fun _ _ => Proc.keeps_done trivial

/-- The catalog notes the latency of a search for whoever searches. -/
theorem within_recordShardSearchObservation {device target : DeviceId} {latencyMs : UInt64}
    (hwho : C.Presents Z.platform call.headers device) :
    Within C Z call (fun _ => True)
      (recordShardSearchObservation target latencyMs : Op M Unit) := by
  refine within_poolConn fun s x a db es _ hrun => ⟨?_, trivial⟩
  cases hrun
  exact .observe latencyMs hwho

/-- The search of one shard, for a device. -/
theorem searchDeviceShard_keeps {device : DeviceId}
    (hwho : C.Presents Z.platform call.headers device) {request : RoutingSearchRequest}
    (shard : DeviceShard) :
    (Z.searchDeviceShard call.drawn request shard).Keeps C.Covers (Effect C Z call)
      fun _ => True :=
  Proc.Keeps.bind (openAndSearch_keeps hwho) fun _ _ =>
    Proc.Keeps.bind (within_recordShardSearchObservation hwho).keeps fun _ _ =>
      Proc.keeps_done trivial

/-- The search of one store changes nothing. -/
theorem searchProfileStore_keeps {request : RoutingSearchRequest} {latency : String → UInt64}
    (store : AuthorizedMemoryStore) :
    (searchProfileStore Z.disk.stores Z.memoryText latency request store :
      Proc (MnemesStore M) Choice Event (StoreAnswer S)).Keeps C.Covers (Effect C Z call)
      fun _ => True := by
  unfold searchProfileStore
  exact Proc.Keeps.bind within_read.keeps fun _ _ => Proc.keeps_done trivial

/-- A witnessed search of the shards, for a device. -/
theorem within_runWitnessedSearch {device : DeviceId}
    (hwho : C.Presents Z.platform call.headers device) {request : McpSearchRequest} :
    Within C Z call (fun _ => True)
      (Z.runWitnessedSearch call.drawn request : Op M (Payload S)) := by
  unfold runWitnessedSearch
  refine within_value.bind fun sourceTypes _ => within_read.bind fun hasShards _ => ?_
  split
  · refine within_listDevices.bind fun devices _ => ?_
    exact (within_routedSearch hwho (searchDeviceShard_keeps hwho)).bind fun _ _ =>
      within_pure trivial
  · exact within_pure trivial

/-- A witnessed search of the stores of an actor's profile. -/
theorem within_runProfileWitnessedSearch {actor : Actor}
    (hwho : C.Acts Z.platform call.headers actor) {request : McpSearchRequest} :
    Within C Z call (fun _ => True)
      (Z.runProfileWitnessedSearch call.drawn actor.actorId request : Op M (Payload S)) := by
  unfold runProfileWitnessedSearch
  refine within_value.bind fun sourceTypes _ => ?_
  refine (within_routedSearchForProfile hwho searchProfileStore_keeps).bind fun routed _ => ?_
  have hread : Within C Z call (fun _ => True)
      ((getProfileRoutingReceipt Z.platform Z.receiptJson Z.receiptAuthKey
        routed.routingReceipt.receiptId).op : Op M _) := by
    refine within_op fun s x a db es _ hrun => ⟨?_, trivial⟩
    unfold getProfileRoutingReceipt at hrun
    simp only at hrun
    split at hrun
    · cases hrun
      exact .refl
    · simp only [bind_eq_ok] at hrun
      obtain ⟨_, -, _, -, _, -, hret⟩ := hrun
      cases hret
      exact .refl
  refine hread.bind fun found _ => ?_
  cases found with
  | none => exact within_throw
  | some receipt => exact within_pure trivial

/-! ## The handlers of the routes -/

/-- The handlers that authenticate the device first. -/
theorem within_authorized {α : Type} {f : Device → Op M α}
    (hf : ∀ device, C.Presents Z.platform call.headers device.deviceId →
      Within C Z call (fun _ => True) (f device)) :
    Within C Z call (fun _ => C.Knows Z.platform call.headers)
      (authorize Z.platform call.headers >>= f : Op M α) :=
  within_authorize.bind fun device hwho => (hf device hwho).given ⟨_, hwho⟩

/-- A reply that is audited in the name of the device. -/
theorem within_audited {device : DeviceId} {endpoint method detail : String} {outcome : AuditOutcome}
    {reply : Payload S} (hwho : C.Presents Z.platform call.headers device) :
    Within C Z call (fun _ => True)
      (do
        logAudit call.drawn device none endpoint method outcome detail
        return reply : Op M (Payload S)) :=
  (within_deviceAudit hwho).bind fun _ _ => within_pure trivial

/-- The health is reported to every device. -/
theorem within_healthHandler :
    Within C Z call (fun _ => C.Knows Z.platform call.headers)
      (Z.healthHandler call.headers call.drawn : Op M (Payload S)) :=
  within_authorized fun _ hwho => within_audited hwho

/-- The integrity is reported to every device. -/
theorem within_integrityHandler :
    Within C Z call (fun _ => C.Knows Z.platform call.headers)
      (Z.integrityHandler call.headers call.drawn : Op M (Payload S)) :=
  within_authorized fun _ hwho =>
    (within_orAudit (within_deviceAudit hwho) within_verifyAllShards).bind fun _ _ =>
      within_audited hwho

/-- The devices are listed to every device. -/
theorem within_listDevicesHandler :
    Within C Z call (fun _ => C.Knows Z.platform call.headers)
      (Z.listDevicesHandler call.headers call.drawn : Op M (Payload S)) :=
  within_authorized fun _ hwho => within_listDevices.bind fun _ _ => within_audited hwho

/-- What a device does to itself is audited, whether it fails or not. -/
theorem within_ownChange {raw endpoint method failed done : String} {change : DeviceId → Op M Unit}
    {reply : DeviceId → Payload S}
    (hchange : ∀ device, C.Presents Z.platform call.headers device →
      Within C Z call (fun _ => True) (change device)) :
    Within C Z call (fun _ => C.Owns Z.platform call.headers raw)
      (do
        let device ← Z.ownDevice call.headers raw
        let audit := logAudit call.drawn device none endpoint method
        orAudit (audit .error failed) (change device)
        audit .ok done
        return reply device : Op M (Payload S)) :=
  within_ownDevice.bind fun device hown =>
    (within_orAudit (within_deviceAudit hown.2) (hchange device hown.2)).bind fun _ _ =>
      (within_deviceAudit hown.2).bind fun _ _ => within_pure ⟨device, hown⟩

/-- A device reports itself only. -/
theorem within_heartbeatHandler {raw : String} :
    Within C Z call (fun _ => C.Owns Z.platform call.headers raw)
      (Z.heartbeatHandler call.headers call.drawn raw : Op M (Payload S)) :=
  within_ownChange fun _ hwho => within_heartbeatDevice (.inl hwho)

/-- A device changes its own credential only. -/
theorem within_rotateDeviceHandler {raw : String} :
    Within C Z call (fun _ => C.Owns Z.platform call.headers raw)
      (Z.rotateDeviceHandler call.headers call.drawn raw : Op M (Payload S)) :=
  within_ownChange fun _ hwho => within_rotateDeviceCredential (.inl hwho)

/-- A device revokes itself only. -/
theorem within_revokeDeviceHandler {raw : String} :
    Within C Z call (fun _ => C.Owns Z.platform call.headers raw)
      (Z.revokeDeviceHandler call.headers call.drawn raw : Op M (Payload S)) :=
  within_ownChange fun _ hwho => within_setDeviceStatus (.inl hwho) (by decide)

/-- A device quarantines itself only. -/
theorem within_quarantineDeviceHandler {raw : String} :
    Within C Z call (fun _ => C.Owns Z.platform call.headers raw)
      (Z.quarantineDeviceHandler call.headers call.drawn raw : Op M (Payload S)) :=
  within_ownChange fun _ hwho => within_setDeviceStatus (.inl hwho) (by decide)

/-- The actors are listed to every device. -/
theorem within_listActorsHandler {deviceId : Option String} :
    Within C Z call (fun _ => C.Knows Z.platform call.headers)
      (Z.listActorsHandler call.headers call.drawn deviceId : Op M (Payload S)) := by
  unfold listActorsHandler
  refine within_authorized fun _ hwho => ?_
  cases deviceId with
  | none =>
    exact within_read.bind fun _ _ => within_audited hwho
  | some raw =>
    exact within_value.bind fun _ _ => within_read.bind fun _ _ => within_audited hwho

/-- A device registers its own actors only, with whatever profile it asks for. -/
theorem within_registerActorHandler {payload : RegisterActorRequest}
    (hcall : call.target = .route (.registerActor payload)) :
    Within C Z call (fun _ => C.Owns Z.platform call.headers payload.deviceId)
      (Z.registerActorHandler call.headers call.drawn payload : Op M (Payload S)) :=
  within_ownDevice.bind fun device hown =>
    (within_registerActor (.inl ⟨hown.2, payload, hcall, rfl⟩)).bind fun _ _ =>
      (within_deviceAudit hown.2).bind fun _ _ => within_pure ⟨device, hown⟩

/-- What an envelope names. -/
theorem envelope_names {payload : OperationSubmitRequest} {P : Platform} {operationId : OperationId}
    {deviceId : DeviceId} {actorId : ActorId} {envelope : OperationEnvelope}
    (h : payload.envelope P operationId deviceId actorId = .ok envelope) :
    envelope.requestingDeviceId = deviceId ∧ envelope.requestingActorId = actorId := by
  simp only [OperationSubmitRequest.envelope, bind_eq_ok] at h
  obtain ⟨_, -, _, -, _, -, hret⟩ := h
  cases hret
  exact ⟨rfl, rfl⟩

/-- A submitted operation is read back. -/
theorem within_readSubmitted {idempotencyKey : String} :
    Within C Z call (fun _ => True) (readSubmitted idempotencyKey : Op M OperationEnvelope) := by
  unfold readSubmitted
  refine within_getOperationByIdempotencyKey.bind fun found _ => ?_
  cases found with
  | none => exact within_throw
  | some operation => exact within_pure trivial

/-- The check for an operator passes operators only. -/
theorem ensureOperator_eq_ok {actor : Option Actor} (h : ensureOperator actor = .ok ()) :
    ∃ a, actor = some a ∧ a.toolProfile = .operator := by
  simp only [ensureOperator, bind_eq_ok, okOr_eq_ok] at h
  obtain ⟨a, rfl, h⟩ := h
  refine ⟨a, rfl, ?_⟩
  by_contra hne
  simp [hne] at h

/-- An operation is submitted by an operator. -/
theorem within_submitOperationHandler {payload : OperationSubmitRequest} :
    Within C Z call (fun _ => ∃ actor,
        C.ActsAs Z.platform call.headers payload.requestingActorId actor ∧
          actor.toolProfile = .operator)
      (Z.submitOperationHandler call.headers call.drawn payload : Op M (Payload S)) := by
  unfold submitOperationHandler
  refine within_value.bind fun deviceId _ => within_ok.bind fun actorId hactorId =>
    within_authorizeAs.bind fun r hr => ?_
  obtain ⟨device, found⟩ := r
  obtain ⟨hwho, hacts, hnamed⟩ := hr
  simp only
  split
  · exact within_throw
  · next hsame =>
    refine within_ok.bind fun _ hoperator => within_ok.bind fun envelope henvelope => ?_
    obtain ⟨actor, rfl, hprofile⟩ := ensureOperator_eq_ok hoperator
    obtain ⟨a, ha, hid⟩ := hnamed actorId rfl
    cases ha
    obtain ⟨hact, hhome⟩ := hacts actor rfl
    obtain ⟨hdevice, hactor⟩ := envelope_names henvelope
    have hsubmit : Within C Z call (fun _ => True) (submitOperation envelope : Op M String) :=
      within_submitOperation hact (.inl hprofile) (hactor.trans hid.symm)
        (by rw [hdevice, hhome, not_not.1 hsame])
    have haudit : ∀ {outcome detail}, Within C Z call (fun _ => True)
        (logAudit call.drawn device.deviceId (some actor.actorId) "/v1/operations" "POST" outcome
          detail : Op M Unit) :=
      within_logAudit (.inl hwho) fun _ h => ⟨actor, hact, Option.some.inj h⟩
    refine (within_orAudit haudit hsubmit).bind fun receiptId _ => ?_
    refine within_readSubmitted.bind fun operation _ => haudit.bind fun _ _ => ?_
    exact within_pure ⟨actor, ⟨hactorId.trans (congrArg Except.ok hid.symm), hact⟩, hprofile⟩

/-- A run pack is imported in the name of an actor of the device. -/
theorem within_importRunPackObservationHandler
    (hcall : call.target = .route .importRunPackObservation) :
    Within C Z call (fun _ => C.Knows Z.platform call.headers)
      (Z.importRunPackObservationHandler call.headers call.drawn : Op M (Payload S)) := by
  unfold importRunPackObservationHandler importRunPackObservation
  simp only [bind_assoc]
  refine within_authorized fun _ hcaller => within_ok.bind fun token htoken =>
    within_tokenDeviceId.bind fun r hr => ?_
  obtain ⟨row, hC, hid, hadmits⟩ := hr
  obtain ⟨device, fingerprint⟩ := r
  refine within_value.bind fun admitted _ => ?_
  have hactor : Within C Z call
      (fun actor => C.actor actor ∧ actor.deviceId = device.deviceId)
      (poolRead fun db => okOr (db.listActorsForDevice device.deviceId).head?
        (.actorNotFound device.deviceId.text) : Op M Actor) := by
    refine within_poolRead fun s actor hs hread => ?_
    have hmem := List.mem_of_head? (okOr_eq_ok.1 hread)
    rw [PooledDb.listActorsForDevice, List.mem_insertionSort, List.mem_filter] at hmem
    exact ⟨hs.actors actor hmem.1, by simpa using hmem.2⟩
  refine hactor.bind fun actor hactor => ?_
  obtain ⟨hCa, hhome⟩ := hactor
  have hwho : C.Acts Z.platform call.headers actor :=
    ⟨hCa, token, row, htoken, hC, hid.trans hhome.symm, hadmits⟩
  unfold RunPackImport.record
  simp only [bind_assoc]
  refine (within_submitOperation hwho (.inr ⟨rfl, rfl⟩) rfl hhome.symm).bind fun receiptId _ => ?_
  refine within_getOperationByReceipt.bind fun found _ => ?_
  cases found with
  | none => exact within_throw
  | some operation =>
    simp only [bind_assoc]
    refine within_value.bind fun _ _ => within_value.bind fun _ _ => ?_
    refine (within_recordProvenanceEdge hwho hcall rfl
      (congrArg some hhome.symm)).bind fun _ _ => ?_
    simp only [pure_bind]
    exact within_audited hcaller

/-- The operations are listed to every device. -/
theorem within_listOperationsHandler {query : OperationFilterQuery} :
    Within C Z call (fun _ => C.Knows Z.platform call.headers)
      (Z.listOperationsHandler call.headers call.drawn query : Op M (Payload S)) := by
  unfold listOperationsHandler
  refine within_value.bind fun _ _ => within_authorizeAs.bind fun r hr => ?_
  obtain ⟨device, actor⟩ := r
  obtain ⟨hwho, hacts, -⟩ := hr
  refine within_value.bind fun _ _ => within_read.bind fun _ _ => ?_
  refine (within_logAudit (.inl hwho) fun id hid => ?_).bind fun _ _ => within_pure ⟨_, hwho⟩
  obtain ⟨a, ha, rfl⟩ := Option.map_eq_some_iff.1 hid
  exact ⟨a, (hacts a ha).1, rfl⟩

/-- An operation is shown to every device. -/
theorem within_getOperationHandler {raw : String} :
    Within C Z call (fun _ => C.Knows Z.platform call.headers)
      (Z.getOperationHandler call.headers call.drawn raw : Op M (Payload S)) := by
  unfold getOperationHandler
  refine within_value.bind fun _ _ => within_authorized fun _ hwho =>
    within_getOperation.bind fun found _ => ?_
  cases found with
  | none => exact within_throw
  | some operation => exact within_audited hwho

/-- A receipt is shown to every device. -/
theorem within_getReceiptHandler {receiptId : String} :
    Within C Z call (fun _ => C.Knows Z.platform call.headers)
      (Z.getReceiptHandler call.headers call.drawn receiptId : Op M (Payload S)) := by
  unfold getReceiptHandler
  refine within_authorized fun _ hwho => within_getOperationByReceipt.bind fun found _ => ?_
  cases found with
  | none => exact within_throw
  | some operation => exact within_audited hwho

/-- Every device searches the shards. -/
theorem within_searchWitnessedHandler {payload : McpSearchRequest} :
    Within C Z call (fun _ => C.Knows Z.platform call.headers)
      (Z.searchWitnessedHandler call.headers call.drawn payload : Op M (Payload S)) :=
  within_authorized fun _ hwho => within_runWitnessedSearch hwho

/-- The stores of a profile are searched in the name of an actor. -/
theorem within_searchProfileWitnessedHandler {payload : ProfileWitnessedSearchRequest} :
    Within C Z call
      (fun _ => ∃ actor, C.ActsAs Z.platform call.headers payload.actorId actor)
      (Z.searchProfileWitnessedHandler call.headers call.drawn payload : Op M (Payload S)) := by
  unfold searchProfileWitnessedHandler
  split
  · exact within_throw
  · refine within_ok.bind fun actorId hactorId => within_authorizeAs.bind fun r hr => ?_
    obtain ⟨device, found⟩ := r
    obtain ⟨-, hacts, hnamed⟩ := hr
    obtain ⟨actor, rfl, rfl⟩ := hnamed actorId rfl
    refine within_ok.bind fun a ha => ?_
    cases okOr_eq_ok.1 ha
    exact (within_runProfileWitnessedSearch (hacts actor rfl).1).given
      ⟨actor, hactorId, (hacts actor rfl).1⟩

/-- The audit events are listed to every device. -/
theorem within_listAuditEventsHandler {limit : Option Nat} :
    Within C Z call (fun _ => C.Knows Z.platform call.headers)
      (Z.listAuditEventsHandler call.headers call.drawn limit : Op M (Payload S)) :=
  within_authorized fun _ hwho => within_read.bind fun _ _ => within_audited hwho

/-- Who passes the check of a registration may register a device. -/
theorem within_checkRegistration {payload : RegisterDeviceRequest}
    (hcall : call.target = .route (.registerDevice payload)) :
    Within C Z call (fun _ => C.Registers Z call)
      (checkRegistration Z.bootstrapSecret call.headers : Op M Unit) := by
  unfold checkRegistration
  cases hsecret : Z.bootstrapSecret with
  | ok secret =>
    cases htoken : bearerToken call.headers with
    | error error => exact within_throw
    | ok token =>
      simp only
      split
      · next hsame => exact within_pure ⟨⟨payload, hcall⟩, .inl ⟨secret, hsecret, hsame ▸ htoken⟩⟩
      · exact within_throw
  | notPresent =>
    refine within_countDevices.bind fun count hcount => ?_
    split
    · exact within_throw
    · next hnone =>
      exact within_pure ⟨⟨payload, hcall⟩, .inr ⟨hsecret, hcount (not_not.1 hnone)⟩⟩
  | notUnicode => exact within_throw

/-- A device is registered by who may register it. -/
theorem within_registrationHandler {payload : RegisterDeviceRequest}
    (hcall : call.target = .route (.registerDevice payload)) :
    Within C Z call (fun _ => True)
      (Z.registrationHandler call.headers call.drawn payload : Op M (Payload S)) := by
  unfold registrationHandler registerDeviceHandler
  simp only [bind_assoc]
  refine (within_checkRegistration hcall).bind fun _ hwho => ?_
  refine (within_registerDevice (.inl hwho) rfl rfl).bind fun r _ => ?_
  refine within_getDevice.any.bind fun found _ => ?_
  cases found with
  | none => exact within_throw
  | some device =>
    simp only [pure_bind]
    exact (within_logAudit (.inr ⟨rfl, hwho⟩) fun _ h => by cases h).bind fun _ _ =>
      within_pure trivial

/-- Errors are responded to as errors. -/
theorem mapStoreError_status (error : MnemesError) : 400 ≤ (mapStoreError error).1 := by
  unfold mapStoreError
  split <;> decide

/-- A replication route serves a device with its credential. -/
theorem routeHandler_keeps {route : Route} {i : Tid} :
    (route.handler Z.platform i call.headers :
      Proc (MnemesStore M) Choice Event Response).Keeps C.Covers (Effect C Z call)
      fun response => response.status < 400 → C.Knows Z.platform call.headers := by
  unfold Route.handler
  split
  · exact Proc.keeps_done fun h : 400 < 400 => absurd h (by decide)
  · next b _ =>
    refine Proc.Keeps.bind within_authorize.keeps fun authorized hauthorized => ?_
    cases authorized with
    | error error => exact Proc.keeps_done fun h => absurd h (mapStoreError_status error).not_gt
    | ok device =>
      have hknows : C.Knows Z.platform call.headers := ⟨_, hauthorized device rfl⟩
      simp only
      split
      · exact Proc.keeps_done fun _ => hknows
      · next hhome =>
        refine Proc.Keeps.bind
          (within_applyRequest (hauthorized device rfl) (not_not.1 hhome)).keeps fun applied _ => ?_
        cases applied <;> exact Proc.keeps_done fun _ => hknows

/-! ## The tools -/

/-- The arguments of a tool are decoded. -/
theorem within_decodeArgs {α : Type} {tool : String} {args : Option α} :
    Within C Z call (fun _ => True) (decodeArgs tool args : Op M α) := within_value

/-- The device among the arguments of a tool is parsed. -/
theorem within_argDevice {tool : String} {args : List (String × Json.Value)} :
    Within C Z call (fun _ => True) (Z.argDevice tool args : Op M DeviceId) :=
  within_decodeArgs.bind fun _ _ => within_value

/-- The tool that shows a device. -/
theorem within_smGetDevice {device : Device} {actor : Option Actor}
    {args : List (String × Json.Value)} :
    Within C Z call (fun _ => True)
      (Z.smGetDevice device actor args : Op M (Payload S)) := by
  unfold smGetDevice
  refine within_decodeArgs.bind fun raw _ => within_value.bind fun deviceId _ => ?_
  split
  · exact within_throw
  · refine within_getDevice.any.bind fun found _ => ?_
    cases found with
    | none => exact within_throw
    | some device => exact within_pure trivial

/-- The tool that shows an actor. -/
theorem within_smGetActor {device : Device} {args : List (String × Json.Value)} :
    Within C Z call (fun _ => True) (Z.smGetActor device args : Op M (Payload S)) := by
  unfold smGetActor
  refine within_decodeArgs.bind fun raw _ => within_value.bind fun actorId _ =>
    within_getActor.any.bind fun found _ => ?_
  cases found with
  | none => exact within_throw
  | some actor =>
    simp only
    split
    · exact within_throw
    · exact within_pure trivial

/-- The tool that shows an operation. -/
theorem within_smGetOperation {device : Device} {actor : Option Actor}
    {args : List (String × Json.Value)} :
    Within C Z call (fun _ => True)
      (Z.smGetOperation device actor args : Op M (Payload S)) := by
  unfold smGetOperation
  refine within_decodeArgs.bind fun raw _ => within_value.bind fun operationId _ =>
    within_getOperation.bind fun found _ => ?_
  cases found with
  | none => exact within_throw
  | some operation =>
    simp only
    split
    · exact within_throw
    · split
      · exact within_throw
      · exact within_pure trivial

/-- The tool that counts the shards. -/
theorem within_smStats :
    Within C Z call (fun _ => True) (Z.smStats : Op M (Payload S)) :=
  within_countDevices.any.bind fun _ _ => within_read.bind fun _ _ => within_read.bind fun _ _ =>
    within_shardStats.bind fun _ _ => within_pure trivial

/-- The tool that reports a device, its own. -/
theorem within_smHeartbeat {device : Device} {args : List (String × Json.Value)}
    (hwho : C.Presents Z.platform call.headers device.deviceId) :
    Within C Z call (fun _ => True) (Z.smHeartbeat device args : Op M (Payload S)) := by
  have hrest : Within C Z call (fun _ => True)
      ((heartbeatDevice device.deviceId).op >>= fun _ => pure (.json (.object [("ok", .bool true),
        ("device_id", .string device.deviceId.text)])) : Op M (Payload S)) :=
    (within_heartbeatDevice (.inl hwho)).bind fun _ _ => within_pure trivial
  unfold smHeartbeat
  simp only
  split
  · refine within_argDevice.bind fun deviceId _ => ?_
    split
    · exact within_throw
    · exact hrest
  · exact hrest

/-- The operator's tool that registers a device. -/
theorem within_smRegisterDevice {args : List (String × Json.Value)}
    (hwho : C.Operates Z.platform call.headers) :
    Within C Z call (fun _ => True)
      (Z.smRegisterDevice call.drawn args : Op M (Payload S)) := by
  unfold smRegisterDevice
  refine within_decodeArgs.bind fun request _ => ?_
  refine (within_registerDevice (.inr hwho) rfl rfl).bind fun r _ => ?_
  refine within_getDevice.any.bind fun found _ => ?_
  cases found with
  | none => exact within_throw
  | some device => exact within_pure trivial

/-- The operator's tool that revokes a device. -/
theorem within_smRevokeDevice {args : List (String × Json.Value)}
    (hwho : C.Operates Z.platform call.headers) :
    Within C Z call (fun _ => True) (Z.smRevokeDevice args : Op M (Payload S)) :=
  within_argDevice.bind fun _ _ =>
    (within_setDeviceStatus (.inr hwho) (by decide)).bind fun _ _ => within_pure trivial

/-- The operator's tool that changes a credential. -/
theorem within_smRotateDeviceKey {args : List (String × Json.Value)}
    (hwho : C.Operates Z.platform call.headers) :
    Within C Z call (fun _ => True)
      (Z.smRotateDeviceKey call.drawn args : Op M (Payload S)) :=
  within_argDevice.bind fun _ _ =>
    (within_rotateDeviceCredential (.inr hwho)).bind fun _ _ => within_pure trivial

/-- The operator's tool that registers an actor. -/
theorem within_smRegisterActor {args : List (String × Json.Value)}
    (hwho : C.Operates Z.platform call.headers) :
    Within C Z call (fun _ => True)
      (Z.smRegisterActor call.drawn args : Op M (Payload S)) :=
  within_decodeArgs.bind fun _ _ => within_value.bind fun _ _ =>
    (within_registerActor (.inr hwho)).bind fun _ _ => within_pure trivial

/-- The operator's tool that submits an operation. -/
theorem within_smSubmitOperation {device : Device} {actor : Actor}
    {args : List (String × Json.Value)} (hwho : C.Acts Z.platform call.headers actor)
    (hhome : actor.deviceId = device.deviceId) (hprofile : actor.toolProfile = .operator) :
    Within C Z call (fun _ => True)
      (Z.smSubmitOperation call.drawn device (some actor) args : Op M (Payload S)) := by
  unfold smSubmitOperation
  refine within_decodeArgs.bind fun request _ => within_value.bind fun deviceId _ =>
    within_value.bind fun actorId _ => ?_
  simp only
  split
  · exact within_throw
  · next hdevice =>
    split
    · exact within_throw
    · next hactor =>
      refine within_ok.bind fun envelope henvelope => ?_
      obtain ⟨hd, ha⟩ := envelope_names henvelope
      have hactor : actor.actorId = actorId := by simpa using hactor
      refine (within_submitOperation hwho (.inl hprofile) (ha.trans hactor.symm) ?_).bind
        fun _ _ => within_readSubmitted.bind fun _ _ => within_pure trivial
      rw [hd, hhome, not_not.1 hdevice]

/-- The tool that checks the integrity. -/
theorem within_smVerifyIntegrity :
    Within C Z call (fun _ => True) (Z.smVerifyIntegrity : Op M (Payload S)) := by
  unfold smVerifyIntegrity
  refine within_quickCheck.bind fun pooled _ =>
    (within_attempted within_verifyAllShards).bind fun reports _ => ?_
  exact within_pure trivial

/-- What the gate lets pass: a tool for reading, or any tool for an operator. -/
theorem toolGate_eq_ok {actor : Option Actor} {name : String} :
    toolGate actor name = .ok () ↔
      readTool name = true ∨ (operatorTool name = true ∧ isOperator actor = true) := by
  have hhidden : hiddenTool name = true → readTool name = false ∧ operatorTool name = false := by
    intro h
    simp only [hiddenTool, decide_eq_true_eq, List.mem_cons, List.not_mem_nil, or_false] at h
    rcases h with rfl | rfl | rfl | rfl | rfl <;> decide
  have hread : readTool name = true → operatorTool name = false := by
    intro h
    simp only [readTool, decide_eq_true_eq, List.mem_cons, List.not_mem_nil, or_false] at h
    rcases h with rfl | rfl | rfl | rfl | rfl | rfl | rfl | rfl | rfl <;> decide
  simp only [toolGate, guard_eq_ok]
  cases hr : readTool name <;> cases ho : operatorTool name <;> cases hi : isOperator actor <;>
    cases hh : hiddenTool name <;> simp_all [pure, Except.pure]

/-- The tools that an actor is listed are those that the gate lets it call. -/
theorem mem_toolsForActor {actor : Option Actor} {name : String} :
    name ∈ toolsForActor actor ↔ toolGate actor name = .ok () := by
  rw [toolGate_eq_ok, toolsForActor, List.mem_append]
  refine or_congr (by simp [readTool]) ?_
  cases isOperator actor <;> simp [operatorTool]

/-- A branch of which the condition is known. -/
theorem within_ite {α : Type} {p : Prop} [Decidable p] {t e : Op M α}
    (ht : p → Within C Z call (fun _ => True) t)
    (he : Within C Z call (fun _ => True) e) :
    Within C Z call (fun _ => True) (if p then t else e) := by
  split
  · next h => exact ht h
  · exact he

/-- A tool that the gate lets pass does what its caller may do. -/
theorem within_runTool {device : Device} {actor : Actor} {name : String}
    {args : List (String × Json.Value)} (hwho : C.Presents Z.platform call.headers device.deviceId)
    (hact : C.Acts Z.platform call.headers actor) (hhome : actor.deviceId = device.deviceId)
    (hgate : toolGate (some actor) name = .ok ()) :
    Within C Z call (fun _ => True)
      (Z.runTool call.drawn device (some actor) name args : Op M (Payload S)) := by
  have hprofile : ∀ tool, name = tool → readTool tool = false → actor.toolProfile = .operator := by
    rintro tool rfl hread
    obtain hr | ⟨-, hoperator⟩ := toolGate_eq_ok.1 hgate
    · rw [hread] at hr
      cases hr
    · simpa [isOperator] using hoperator
  have hoperates : ∀ tool, name = tool → readTool tool = false →
      C.Operates Z.platform call.headers :=
    fun tool htool hread => ⟨actor, hact, hprofile tool htool hread⟩
  unfold runTool
  exact within_ite (fun _ => within_smGetDevice) <|
    within_ite (fun _ => within_listDevices.bind fun _ _ => within_pure trivial) <|
    within_ite (fun _ => within_smGetActor) <|
    within_ite (fun _ => within_smGetOperation) <|
    within_ite (fun _ => within_decodeArgs.bind fun _ _ => within_runWitnessedSearch hwho) <|
    within_ite (fun _ => within_decodeArgs.bind fun _ _ => within_ok.bind fun a ha =>
      Option.some.inj (okOr_eq_ok.1 ha) ▸ within_runProfileWitnessedSearch hact) <|
    within_ite (fun _ => within_smStats) <|
    within_ite (fun _ => within_quickCheck.bind fun _ _ => within_pure trivial) <|
    within_ite (fun _ => within_smHeartbeat hwho) <|
    within_ite (fun h => within_smRegisterDevice (hoperates _ h (by decide))) <|
    within_ite (fun h => within_smRevokeDevice (hoperates _ h (by decide))) <|
    within_ite (fun h => within_smRotateDeviceKey (hoperates _ h (by decide))) <|
    within_ite (fun h => within_smRegisterActor (hoperates _ h (by decide))) <|
    within_ite (fun h => within_smSubmitOperation hact hhome (hprofile _ h (by decide))) <|
    within_ite (fun _ => within_smVerifyIntegrity) within_throw

/-- A tool is called by who may call it. -/
theorem within_callTool {params : Option Json.Value} :
    Within C Z call (fun _ => C.Calls Z.platform call.headers params)
      (Z.callTool call.headers call.drawn params : Op M (Payload S)) := by
  unfold callTool
  refine within_ok.bind fun tool htool => within_ok.bind fun raw hraw =>
    within_ok.bind fun actorId hactorId => within_authorizeAs.bind fun r hr => ?_
  obtain ⟨device, found⟩ := r
  obtain ⟨hwho, hacts, hnamed⟩ := hr
  obtain ⟨actor, rfl, rfl⟩ := hnamed actorId rfl
  obtain ⟨hact, hhome⟩ := hacts actor rfl
  refine within_ok.bind fun _ hgate => (within_runTool hwho hact hhome hgate).given ?_
  refine ⟨tool, raw, actor, htool, okOr_eq_ok.1 hraw, ⟨hactorId, hact⟩, ?_⟩
  rcases toolGate_eq_ok.1 hgate with hread | ⟨hname, hoperator⟩
  · exact .inl hread
  · exact .inr ⟨hname, by simpa [isOperator] using hoperator⟩

/-- The tools are listed. -/
theorem within_listTools {params : Option Json.Value} :
    Within C Z call (fun _ => True)
      (Z.listTools call.headers params : Op M (Payload S)) := by
  unfold listTools
  exact within_value.bind fun actorId _ => within_value.bind fun actorId _ =>
    within_authorizeAs.any.bind fun _ _ => within_pure trivial

/-- A method that is not of the endpoint has no result. -/
theorem within_rpcResult {request : JsonRpcRequest} :
    Within C Z call (fun _ => C.Serves Z.platform call.headers (.mcp request))
      (Z.rpcResult call.headers call.drawn request : Op M (Option (Payload S))) := by
  unfold rpcResult
  refine within_authorize.bind fun device hwho => ?_
  have hknows : C.Knows Z.platform call.headers := ⟨_, hwho⟩
  have hother : request.method ≠ "tools/call" →
      C.Serves Z.platform call.headers (.mcp request) := fun h => ⟨hknows, fun h' => absurd h' h⟩
  split
  · next h => exact within_pure (hother (by rw [h]; decide))
  · split
    · next h =>
      exact within_listTools.bind fun _ _ => within_pure (hother (by rw [h]; decide))
    · split
      · exact within_callTool.bind fun _ hcalls => within_pure ⟨hknows, fun _ => hcalls⟩
      · next h => exact within_pure (hother h)

end ServerState

/-! ## The server -/

section
variable {Z : ServerState M S} {C : Census}

/-- The response of a handler. -/
theorem reply_keeps {call : HttpCall} {code : Nat} {p : Prop} {t : Op M (Payload S)}
    (ht : Within C Z call (fun _ => p) t) :
    (Reply.of code <$> t.run).Keeps C.Covers (Effect C Z call)
      fun reply => reply.status < 400 → p := by
  refine Proc.Keeps.map ht.keeps fun r hr => ?_
  cases r with
  | ok payload => exact fun _ => hr payload rfl
  | error error => exact fun h => absurd h (ServerState.mapStoreError_status error).not_gt

open ServerState in
/-- Every endpoint acts with the authority of its request, and answers who it serves. -/
theorem Endpoint.handler_keeps {call : HttpCall} {endpoint : Endpoint} {i : Tid}
    (hcall : call.target = .route endpoint) :
    (endpoint.handler Z i call.headers call.drawn :
      Proc (MnemesStore M) Choice Event (Reply S)).Keeps C.Covers (Effect C Z call)
      (Answers C Z.platform call) := by
  unfold Answers
  rw [hcall]
  cases endpoint with
  | livez => exact Proc.keeps_done fun _ => trivial
  | health => exact reply_keeps within_healthHandler
  | integrity => exact reply_keeps within_integrityHandler
  | registerDevice payload =>
    exact reply_keeps (within_registrationHandler hcall)
  | listDevices => exact reply_keeps within_listDevicesHandler
  | heartbeat deviceId => exact reply_keeps within_heartbeatHandler
  | rotateDevice deviceId => exact reply_keeps within_rotateDeviceHandler
  | revokeDevice deviceId => exact reply_keeps within_revokeDeviceHandler
  | quarantineDevice deviceId => exact reply_keeps within_quarantineDeviceHandler
  | listActors deviceId => exact reply_keeps within_listActorsHandler
  | registerActor payload => exact reply_keeps (within_registerActorHandler hcall)
  | submitOperation payload => exact reply_keeps within_submitOperationHandler
  | listOperations query => exact reply_keeps within_listOperationsHandler
  | getOperation operationId => exact reply_keeps within_getOperationHandler
  | importRunPackObservation => exact reply_keeps (within_importRunPackObservationHandler hcall)
  | searchWitnessed payload => exact reply_keeps within_searchWitnessedHandler
  | searchProfileWitnessed payload => exact reply_keeps within_searchProfileWitnessedHandler
  | factCreate => exact Proc.Keeps.map routeHandler_keeps fun _ h => h
  | factSupersede => exact Proc.Keeps.map routeHandler_keeps fun _ h => h
  | legacySync => exact Proc.keeps_done fun h : 501 < 400 => absurd h (by decide)
  | getReceipt receiptId => exact reply_keeps within_getReceiptHandler
  | listAuditEvents limit => exact reply_keeps within_listAuditEventsHandler

/-- Under every census, every action of every request is an effect of the request, and what it is
answered is for who its target serves. -/
theorem HttpCall.body_keeps (call : HttpCall) (i : Tid) :
    (call.body Z i : Proc (MnemesStore M) Choice Event (Reply S)).Keeps C.Covers
      (Effect C Z call) (Answers C Z.platform call) := by
  unfold HttpCall.body
  split
  · next endpoint hcall => exact endpoint.handler_keeps hcall
  · next request hcall =>
    refine Proc.Keeps.bind ServerState.within_rpcResult.keeps fun result hresult => ?_
    unfold Answers
    rw [hcall]
    cases result with
    | error error =>
      exact Proc.keeps_done fun h => absurd h (ServerState.mapStoreError_status error).not_gt
    | ok payload =>
      cases payload with
      | none => exact Proc.keeps_done fun _ => hresult none rfl
      | some payload => exact Proc.keeps_done fun _ => hresult (some payload) rfl

/-- The requests of the server, dropped ones included. -/
theorem httpServer_keepers (A : HttpCall → Prop) :
    (httpServer Z).Keepers A C.Covers (Effect C Z) (Answers C Z.platform) where
  body i call _ := call.body_keeps i
  release _ _ _ _ _ := .idle _

end

end Mnemes
