import Mnemes.Provenance.Past
import Mnemes.Server.Requests

/-!
# Who can change what

What follows from the effects of requests for whole runs of the server. Every change a run makes is
authorised by the credentials, statuses and profiles as they stood earlier in the run
(`changes_authorized`), and so is every answer it gives (`answers_authorized`). A device that is not
active never becomes active again, and its credential changes nothing (`inactive_powerless`). A
device without an operator cannot make itself one through the tools; over the actors route it can
(`agent_escalates`), and it is exactly that request which must be absent for the registry of the
others to be safe from it (`no_escalation`).
-/

namespace Mnemes

open Concurrency Relational

variable {M : SemanticMemory} {S : SearchSources}

/-! ## Authority -/

section
variable {C : Census} {P : Platform} {headers : Request}

/-- The device whose credential is presented is the one that the token names. -/
theorem Census.Presents.named {device : DeviceId} (h : C.Presents P headers device) :
    headers.device P = some device := by
  obtain ⟨token, row, htoken, -, rfl, -, secret, hparse, -⟩ := h
  simp [Request.device, htoken, tokenDevice, hparse, Except.toOption]

/-- It has a row that is active. -/
theorem Census.Presents.active {device : DeviceId} (h : C.Presents P headers device) :
    ∃ row, C.device row ∧ row.deviceId = device ∧ row.status = .active := by
  obtain ⟨token, row, -, hC, hid, hactive, -⟩ := h
  exact ⟨row, hC, hid, hactive⟩

end

section
variable {C : Census} {Z : ServerState M S} {call : HttpCall} {s s' : MnemesStore M} {D : DeviceId}

/-- The row of a device stays, is not made active, and is changed with a credential of the device or
by an operator only. -/
theorem Effect.find?_device {row : Device} (he : Effect C Z call s s')
    (hrow : s.db.devices.find? D = some row) :
    ∃ row', s'.db.devices.find? D = some row' ∧ (row'.status = row.status ∨ row'.status ≠ .active) ∧
      (row' = row ∨ C.Presents Z.platform call.headers D ∨ C.Operates Z.platform call.headers) := by
  obtain ⟨-, hid⟩ := Table.find?_eq_some.1 hrow
  cases he with
  | register hwho hdevice hactive hdevices hshards =>
    exact ⟨row, Table.find?_insert_of_some hdevices hrow, .inl rfl, .inl rfl⟩
  | @amend target f hf hwho hkeep =>
    simp only [Table.find?_update, hrow, Option.map_some, Option.some.injEq, exists_eq_left', hid,
      decide_eq_true_eq]
    by_cases htarget : D = target
    · rw [if_pos htarget]
      exact ⟨.inl (hkeep row), .inr (htarget ▸ hwho)⟩
    · rw [if_neg htarget]
      exact ⟨.inl rfl, .inl rfl⟩
  | @demote target status now hwho hdemoted =>
    simp only [Table.find?_update, hrow, Option.map_some, Option.some.injEq, exists_eq_left', hid,
      decide_eq_true_eq]
    by_cases htarget : D = target
    · rw [if_pos htarget]
      exact ⟨.inr hdemoted, .inr (htarget ▸ hwho)⟩
    · rw [if_neg htarget]
      exact ⟨.inl rfl, .inl rfl⟩
  | _ => exact ⟨row, hrow, .inl rfl, .inl rfl⟩

/-- Actors are only added: by their device over the actors route, or by an operator. -/
theorem Effect.actors_added (he : Effect C Z call s s') :
    s'.db.actors = s.db.actors ∨ ∃ actor, s.db.actors.insert? actor = some s'.db.actors ∧
      ((C.Presents Z.platform call.headers actor.deviceId ∧ ∃ payload : RegisterActorRequest,
          call.target = .route (.registerActor payload) ∧
            actor.toolProfile = requestedProfile payload.toolProfile) ∨
        C.Operates Z.platform call.headers) := by
  cases he with
  | enrol hwho hdevice hactors => exact .inr ⟨_, hactors, hwho⟩
  | _ => exact .inl rfl

end

/-! ## Changes are authorised -/

/-- The rows that the tables of devices and actors have held in a run so far; and that there was a
time when no device was registered. -/
def pastCensus (Z : ServerState M S) (s : MnemesStore M) (cmds : List (Command HttpCall Choice)) :
    Census where
  device row := ∃ pre m, pre <+: cmds ∧ (httpServer Z).run (Service.init s) pre = some m ∧
    row ∈ m.hist.state.db.devices.rows
  actor row := ∃ pre m, pre <+: cmds ∧ (httpServer Z).run (Service.init s) pre = some m ∧
    row ∈ m.hist.state.db.actors.rows
  fresh := ∃ pre m, pre <+: cmds ∧ (httpServer Z).run (Service.init s) pre = some m ∧
    m.hist.state.db.devices.rows = []

section
variable {Z : ServerState M S} {s : MnemesStore M} {cmds : List (Command HttpCall Choice)}
  {c c' : Config HttpCall (MnemesStore M) Choice Event (Reply S)} {cmd : Command HttpCall Choice}

/-- The rows so far cover every state so far. -/
theorem pastCensus_covers {pre post : List (Command HttpCall Choice)}
    {m : Config HttpCall (MnemesStore M) Choice Event (Reply S)} (hsplit : cmds = pre ++ post)
    (hpre : (httpServer Z).run (Service.init s) pre = some m) :
    (pastCensus Z s cmds).Covers m.hist.state := by
  subst hsplit
  exact ⟨fun row hrow => ⟨pre, m, List.prefix_append _ _, hpre, hrow⟩,
    fun row hrow => ⟨pre, m, List.prefix_append _ _, hpre, hrow⟩,
    fun hnone => ⟨pre, m, List.prefix_append _ _, hpre, hnone⟩⟩

/-- In every run, whatever a step changes it changes as an effect of its request, with authority
that the tables gave at some time of the run so far; or it registers a device for who presents the
bootstrap secret, or if there is none, after a time when no device was registered. -/
theorem changes_authorized (hrun : (httpServer Z).run (Service.init s) cmds = some c)
    (hstep : (httpServer Z).exec c cmd = some c') :
    c'.hist.state = c.hist.state ∨ ∃ call t, c.slots cmd.tid = .live call t ∧
      Effect (pastCensus Z s cmds) Z call c.hist.state c'.hist.state := by
  rcases (httpServer_keepers fun _ => True).step (fun _ _ _ => pastCensus_covers)
    (fun _ _ _ => trivial) hrun hstep with hidle | ⟨call, t, hslot, -, heffect⟩
  · exact .inl hidle
  · exact .inr ⟨call, t, hslot, heffect⟩

/-- In every run, a request is answered without an error only if its target serves it, by what the
tables held at some time of the run so far. -/
theorem answers_authorized (hrun : (httpServer Z).run (Service.init s) cmds = some c) {i : Tid}
    {call : HttpCall} {reply : Reply S} (hreply : c.slots i = .live call (.done reply)) :
    Answers (pastCensus Z s cmds) Z.platform call reply :=
  (httpServer_keepers fun _ => True).result (fun _ _ _ => pastCensus_covers)
    (fun _ _ _ => trivial) hrun hreply

end

/-! ## A device that is not active -/

/-- The device has a row, and the row is not active. -/
def Inactive (device : DeviceId) (s : MnemesStore M) : Prop :=
  ∃ row, s.db.devices.find? device = some row ∧ row.status ≠ .active

/-- The rows of a device are not active. -/
def inactiveCensus (device : DeviceId) : Census where
  device row := row.deviceId = device → row.status ≠ .active
  actor _ := True
  fresh := True

/-- No step of a request with the credential of the device changes the database or a shard, unless
the request registers a device. -/
def Powerless (Z : ServerState M S) (device : DeviceId)
    (c : Config HttpCall (MnemesStore M) Choice Event (Reply S)) : Prop :=
  ∀ cmd c' call t, (httpServer Z).exec c cmd = some c' → c.slots cmd.tid = .live call t →
    call.headers.device Z.platform = some device →
    (∀ payload, call.target ≠ .route (.registerDevice payload)) →
    c'.hist.state.db = c.hist.state.db ∧ c'.hist.state.shards = c.hist.state.shards

section
variable {Z : ServerState M S} {s s' : MnemesStore M} {D : DeviceId} {call : HttpCall}

/-- While the device is inactive, its rows are. -/
theorem Inactive.covers (h : Inactive D s) : (inactiveCensus D).Covers s := by
  obtain ⟨row, hrow, hstatus⟩ := h
  obtain ⟨hmem, hid⟩ := Table.find?_eq_some.1 hrow
  refine ⟨fun row' hmem' hid' => ?_, fun _ _ => trivial, fun _ => trivial⟩
  rw [s.db.devices.eq_of_key hmem' hmem (hid'.trans hid.symm)]
  exact hstatus

/-- Nobody presents the credential of an inactive device. -/
theorem inactive_not_presents {P : Platform} {headers : Request} {d : DeviceId}
    (h : (inactiveCensus D).Presents P headers d) : d ≠ D := by
  rintro rfl
  obtain ⟨row, hC, hid, hactive⟩ := h.active
  exact hC hid hactive

/-- No request makes the device active. -/
theorem Inactive.effect (h : Inactive D s) (he : Effect (inactiveCensus D) Z call s s') :
    Inactive D s' := by
  obtain ⟨row, hrow, hstatus⟩ := h
  obtain ⟨row', hrow', hstatus', -⟩ := he.find?_device hrow
  refine ⟨row', hrow', ?_⟩
  rcases hstatus' with hsame | hinactive
  · rwa [hsame]
  · exact hinactive

/-- What a request with the credential of the device does: nothing, unless it registers a device. -/
theorem inactive_effect_idle (hD : call.headers.device Z.platform = some D)
    (hcall : ∀ payload, call.target ≠ .route (.registerDevice payload))
    (he : Effect (inactiveCensus D) Z call s s') : ∃ gate, s' = { s with gate } := by
  have hnot : ∀ d, ¬ (inactiveCensus D).Presents Z.platform call.headers d := by
    intro d h
    have hd : D = d := Option.some.inj (hD.symm.trans h.named)
    exact inactive_not_presents h hd.symm
  have hacts : ∀ actor, ¬ (inactiveCensus D).Acts Z.platform call.headers actor :=
    fun actor h => hnot _ h.2
  have hregisters : ¬ (inactiveCensus D).Registers Z call := fun ⟨⟨payload, h⟩, _⟩ =>
    hcall payload h
  have hoperates : ¬ (inactiveCensus D).Operates Z.platform call.headers :=
    fun ⟨actor, h, _⟩ => hacts actor h
  cases he with
  | idle gate => exact ⟨gate, rfl⟩
  | register hwho => exact (hwho.elim hregisters hoperates).elim
  | amend hwho => exact (hwho.elim (hnot _) hoperates).elim
  | demote now hwho => exact (hwho.elim (hnot _) hoperates).elim
  | enrol hwho => exact (hwho.elim (fun h => hnot _ h.1) hoperates).elim
  | submit hwho => exact (hacts _ hwho).elim
  | relate hwho => exact (hacts _ hwho).elim
  | receipt hwho => exact (hnot _ hwho).elim
  | profileReceipt hwho => exact (hacts _ hwho).elim
  | apply hwho => exact (hnot _ hwho).elim
  | refresh hwho => exact (hnot _ hwho).elim
  | search hwho => exact (hnot _ hwho).elim
  | observe latencyMs hwho => exact (hnot _ hwho).elim
  | audit hwho => exact (hwho.elim (hnot _) fun h => hregisters h.2).elim
  | acknowledge hwho => exact (hnot _ hwho).elim

variable {cmds : List (Command HttpCall Choice)}
  {c : Config HttpCall (MnemesStore M) Choice Event (Reply S)}

/-- A device that is registered and not active stays so in every run of the server, whoever makes
which requests, and its credential changes nothing. -/
theorem inactive_powerless (hD : Inactive D s)
    (hrun : (httpServer Z).run (Service.init s) cmds = some c) :
    Inactive D c.hist.state ∧ Powerless Z D c := by
  have hkeepers : (httpServer Z).Keepers (fun _ => True) (Inactive D)
      (Effect (inactiveCensus D) Z) _ :=
    (httpServer_keepers fun _ => True).mono (fun _ h => h) fun _ h => h.covers
  obtain ⟨hkept, hinactive⟩ := Service.Kept.init.invariant hkeepers
    (fun _ _ _ _ h he => h.effect he) hD (fun _ _ _ => trivial) hrun
  refine ⟨hinactive, fun cmd c' call t hstep hslot hcaller hcall => ?_⟩
  rcases hkept.exec_step hkeepers hinactive hstep with hidle | ⟨call', t', hslot', -, heffect⟩
  · rw [hidle]
    exact ⟨rfl, rfl⟩
  · rw [hslot] at hslot'
    cases hslot'
    obtain ⟨gate, hgate⟩ := inactive_effect_idle hcaller hcall heffect
    rw [hgate]
    exact ⟨rfl, rfl⟩

end

/-! ## Escalation -/

/-- No actor of the device is an operator. -/
def NoOperator (device : DeviceId) (s : MnemesStore M) : Prop :=
  ∀ actor ∈ s.db.actors.rows, actor.deviceId = device → actor.toolProfile ≠ .operator

/-- The actors of a device are not operators. -/
def agentCensus (device : DeviceId) : Census where
  device _ := True
  actor row := row.deviceId = device → row.toolProfile ≠ .operator
  fresh := True

/-- A request with no credential but the device's, that does not ask the actors route for an
operator. -/
structure Confined (P : Platform) (device : DeviceId) (call : HttpCall) : Prop where
  only : ∀ d, call.headers.device P = some d → d = device
  agent : ∀ payload : RegisterActorRequest, call.target = .route (.registerActor payload) →
    payload.toolProfile ≠ some "operator"

/-- The rows of the other devices and their actors are the same. -/
structure OthersSame (device : DeviceId) (s s' : MnemesStore M) : Prop where
  devices : ∀ d, d ≠ device → ∀ row, s.db.devices.find? d = some row →
    s'.db.devices.find? d = some row
  actors : ∀ d, d ≠ device →
    s'.db.actors.rows.filter (·.deviceId = d) = s.db.actors.rows.filter (·.deviceId = d)

/-- The profile asked for is the operator's only under that name. -/
theorem requestedProfile_eq_operator {toolProfile : Option String} :
    requestedProfile toolProfile = .operator ↔ toolProfile = some "operator" := by
  cases toolProfile with
  | none => decide
  | some value =>
    simp only [requestedProfile, Option.bind_some, ToolProfile.parse, Option.some.injEq]
    split
    · next h => simp [h]
    · split <;> simp [*]

section
variable {Z : ServerState M S} {s s' : MnemesStore M} {D : DeviceId} {call : HttpCall}

/-- While the device has no operator, none of its actors is one. -/
theorem NoOperator.covers (h : NoOperator D s) : (agentCensus D).Covers s :=
  ⟨fun _ _ => trivial, fun actor hactor => h actor hactor, fun _ => trivial⟩

/-- Nobody acts as an operator. -/
theorem Confined.not_operates (hcall : Confined Z.platform D call) :
    ¬ (agentCensus D).Operates Z.platform call.headers := by
  rintro ⟨actor, ⟨hC, hpresents⟩, hprofile⟩
  exact hC (hcall.only _ hpresents.named) hprofile

/-- An actor that is added is an agent of the device. -/
theorem Confined.actors_added (hcall : Confined Z.platform D call)
    (he : Effect (agentCensus D) Z call s s') :
    s'.db.actors = s.db.actors ∨ ∃ actor, s.db.actors.insert? actor = some s'.db.actors ∧
      actor.deviceId = D ∧ actor.toolProfile ≠ .operator := by
  rcases he.actors_added with hsame | ⟨actor, hins, ⟨hpresents, payload, htarget, hprofile⟩ | hop⟩
  · exact .inl hsame
  · refine .inr ⟨actor, hins, hcall.only _ hpresents.named, ?_⟩
    rw [hprofile, ne_eq, requestedProfile_eq_operator]
    exact hcall.agent payload htarget
  · exact absurd hop hcall.not_operates

/-- A confined request gives the device no operator. -/
theorem NoOperator.effect (h : NoOperator D s) (hcall : Confined Z.platform D call)
    (he : Effect (agentCensus D) Z call s s') : NoOperator D s' := by
  rcases hcall.actors_added he with hsame | ⟨actor, hins, -, hagent⟩
  · rw [NoOperator, hsame]
    exact h
  · intro a ha hid
    rcases (Table.mem_insert hins).1 ha with hold | rfl
    · exact h a hold hid
    · exact hagent

/-- A confined request leaves the other devices and their actors alone. -/
theorem Confined.othersSame (hcall : Confined Z.platform D call)
    (he : Effect (agentCensus D) Z call s s') : OthersSame D s s' := by
  refine ⟨fun d hd row hrow => ?_, fun d hd => ?_⟩
  · obtain ⟨row', hrow', -, rfl | hpresents | hop⟩ := he.find?_device hrow
    · exact hrow'
    · exact absurd (hcall.only d hpresents.named) hd
    · exact absurd hop hcall.not_operates
  · rcases hcall.actors_added he with hsame | ⟨actor, hins, rfl, -⟩
    · rw [hsame]
    · rw [(Table.insert?_eq_some hins).2, List.filter_append]
      simp [hd.symm]

variable {cmds : List (Command HttpCall Choice)}
  {c : Config HttpCall (MnemesStore M) Choice Event (Reply S)}

/-- In every run of requests that present no credential but that of a device without an operator,
and that do not ask the actors route for an operator, the device never gets one, and the rows and
the actors of the other devices stay as they are. -/
theorem no_escalation (hD : NoOperator D s)
    (hcalls : ∀ i call, .start i call ∈ cmds → Confined Z.platform D call)
    (hrun : (httpServer Z).run (Service.init s) cmds = some c) :
    NoOperator D c.hist.state ∧ OthersSame D s c.hist.state := by
  have hkeepers : (httpServer Z).Keepers (Confined Z.platform D) (NoOperator D)
      (Effect (agentCensus D) Z) _ :=
    (httpServer_keepers (Confined Z.platform D)).mono (fun _ h => h) fun _ h => h.covers
  have hpreserve : ∀ (call : HttpCall) (s s' : MnemesStore M), Confined Z.platform D call →
      NoOperator D s → Effect (agentCensus D) Z call s s' → NoOperator D s' :=
    fun _ _ _ hcall h he => h.effect hcall he
  refine ⟨(Service.Kept.init.invariant hkeepers hpreserve hD hcalls hrun).2, ?_⟩
  refine Service.Kept.init.related hkeepers hpreserve
    (fun s => ⟨fun _ _ _ h => h, fun _ _ => rfl⟩) (fun s₁ s₂ s₃ h h' => ?_)
    (fun _ _ _ hcall _ he => hcall.othersSame he) hD hcalls hrun
  exact ⟨fun d hd row hrow => h'.devices d hd row (h.devices d hd row hrow),
    fun d hd => (h'.actors d hd).trans (h.actors d hd)⟩

end

namespace Sample

/-- The other crates, which also know the identity of an actor. -/
def actorPlatform : Platform :=
  { platform with
    uuidParseStr := fun value =>
      if value = deviceA.text ∨ value = deviceB.text ∨ value = actorA.text then
        .ok ⟨value, true, true⟩
      else .error "invalid character"
    uuid_canonical := fun h => by split at h <;> cases h; simp [*] }

/-- A server without a bootstrap secret, with nothing on disk. -/
def server : ServerState memory factSources where
  serverId := "server"
  bootstrapSecret := .notPresent
  runPackAttestationKey := none
  receiptAuthKey := Vector.replicate 32 0
  platform := actorPlatform
  chrono := chrono
  json := json
  receiptJson := ⟨fun _ => .error "", fun _ => .error "", fun _ => .error "", fun _ => .error "",
    fun _ => .error ""⟩
  wire := wire
  runPackFromSlice _ := .error "expected value at line 1 column 1"
  toLowercase := id
  memoryText _ := "memory error"
  reportsText _ := "[]"
  disk := {
    embedding := []
    embeddingModel := "model"
    embeddingDimensions := 768
    fileSize := fun _ => .error "No such file or directory"
    searchWithContext := fun shard _ _ => (.error (.other "no such table"), shard)
    verifyIntegrity := fun _ => .ok (true, "[]")
    stores := factIn "" }

/-- A request with the credential of a device. -/
def httpCall (device : DeviceId) (target : Target) : HttpCall where
  headers := ⟨some ("Bearer " ++ credential device), []⟩
  drawn := {
    deviceId := deviceB
    secret := firstSecret
    actorId := actorA
    operationId := ⟨"operation"⟩
    minted := ⟨⟨"edge"⟩, noon⟩
    receiptId := "receipt"
    auditId := "event"
    now := "now"
    seconds := 0
    shardLatency := fun _ => 0
    storeLatency := fun _ => 0 }
  target := target

/-- Device A, which has no actor, asks the actors route for an operator. -/
def askOperator : HttpCall :=
  httpCall deviceA (.route (.registerActor ⟨deviceA.text, "human", none, some "operator"⟩))

/-- The new operator revokes device B. -/
def revokeOther : HttpCall :=
  httpCall deviceA (.mcp ⟨none, "tools/call", some (.object [("name", .string "sm_revoke_device"),
    ("actor_id", .string actorA.text), ("device_id", .string deviceB.text)])⟩)

def escalation : List (Command HttpCall Choice) :=
  .start 0 askOperator :: List.replicate 4 (.run 0 plain) ++
    .start 1 revokeOther :: List.replicate 6 (.run 1 plain)

/-- Device A asks for an agent, which then asks to revoke device B. -/
def askAgent : HttpCall :=
  httpCall deviceA (.route (.registerActor ⟨deviceA.text, "human", none, none⟩))

def refusal : List (Command HttpCall Choice) :=
  .start 0 askAgent :: List.replicate 4 (.run 0 plain) ++
    .start 1 revokeOther :: List.replicate 5 (.run 1 plain)

/-- The deployment with device B revoked. -/
def revokedStore : MnemesStore memory :=
  { store with db := { store.db with
    devices := ⟨[device deviceA digestCredentialA,
      { device deviceB digestCredentialB with status := .revoked }], by decide⟩ } }

/-- The revoked device is heard of. -/
def heartbeat : HttpCall := httpCall deviceB (.route (.heartbeat deviceB.text))

/-- The device of a request with the credential of device A. -/
theorem httpCall_device (target : Target) :
    (httpCall deviceA target).headers.device server.platform = some deviceA := by
  show (httpCall deviceA (.route .livez)).headers.device server.platform = some deviceA
  decide +kernel

end Sample

open Sample in
/-- The revocation of device B is an effect of the request of the new operator. -/
theorem changes_authorized_sample :
    ∃ c c', (httpServer server).run (Service.init store) escalation.dropLast = some c ∧
      (httpServer server).exec c (.run 1 plain) = some c' ∧
        (c'.hist.state.db.devices.find? deviceB).map (·.status) = some .revoked ∧
        (c'.hist.state = c.hist.state ∨ ∃ call t, c.slots 1 = .live call t ∧
          Effect (pastCensus server store escalation.dropLast) server call c.hist.state
            c'.hist.state) := by
  have hrun : ((httpServer server).run (Service.init store) escalation.dropLast).any (fun c =>
      ((httpServer server).exec c (.run 1 plain)).any fun c' =>
        decide ((c'.hist.state.db.devices.find? deviceB).map (·.status) = some .revoked)) =
          true := by
    decide +kernel
  obtain ⟨c, hc, hstep⟩ := (Option.any_eq_true _ _).1 hrun
  obtain ⟨c', hc', hrevoked⟩ := (Option.any_eq_true _ _).1 hstep
  exact ⟨c, c', hc, hc', of_decide_eq_true hrevoked, changes_authorized hc hc'⟩

open Sample in
/-- The answer to that request is for who may call the tool. -/
theorem answers_authorized_sample :
    ∃ c reply, (httpServer server).run (Service.init store) escalation = some c ∧
      c.slots 1 = .live revokeOther (.done reply) ∧ reply.status = 200 ∧
        (pastCensus server store escalation).Calls server.platform revokeOther.headers
          (some (.object [("name", .string "sm_revoke_device"), ("actor_id", .string actorA.text),
            ("device_id", .string deviceB.text)])) := by
  have hrun : ((httpServer server).run (Service.init store) escalation).any (fun c =>
      decide ((c.result? 1).map (·.status) = some 200)) = true := by decide +kernel
  obtain ⟨c, hc, hstatus⟩ := (Option.any_eq_true _ _).1 hrun
  obtain ⟨reply, hreply, hok⟩ := Option.map_eq_some_iff.1 (of_decide_eq_true hstatus)
  obtain ⟨call, hslot⟩ := Config.result?_eq_some.1 hreply
  have hcall : call = revokeOther := by
    rcases (httpServer server).run_live hc hslot with hstart | ⟨t, ht⟩
    · simpa [escalation] using hstart
    · cases ht
  subst hcall
  exact ⟨c, reply, hc, hslot, hok, (answers_authorized hc hslot (by omega)).2 rfl⟩

open Sample in
/-- The revoked device is refused, and stays revoked. -/
theorem inactive_powerless_sample :
    ∃ c, (httpServer server).run (Service.init revokedStore) [.start 0 heartbeat, .run 0 plain] =
        some c ∧ (c.result? 0).map (·.status) = some 403 ∧ Inactive deviceB c.hist.state ∧
      Powerless server deviceB c := by
  have hrun : ((httpServer server).run (Service.init revokedStore)
      [.start 0 heartbeat, .run 0 plain]).any (fun c =>
        decide ((c.result? 0).map (·.status) = some 403)) = true := by decide +kernel
  obtain ⟨c, hc, hrefused⟩ := (Option.any_eq_true _ _).1 hrun
  exact ⟨c, hc, of_decide_eq_true hrefused,
    inactive_powerless (Z := server) ⟨_, rfl, by decide⟩ hc⟩

open Sample in
/-- The agent of device A is refused, and device B stays as it is. -/
theorem no_escalation_sample :
    ∃ c, (httpServer server).run (Service.init store) refusal = some c ∧
      c.hist.state.db.actors.rows.length = 1 ∧ NoOperator deviceA c.hist.state ∧
        OthersSame deviceA store c.hist.state := by
  have hrun : ((httpServer server).run (Service.init store) refusal).any (fun c =>
      decide (c.hist.state.db.actors.rows.length = 1)) = true := by decide +kernel
  obtain ⟨c, hc, hone⟩ := (Option.any_eq_true _ _).1 hrun
  refine ⟨c, hc, of_decide_eq_true hone, no_escalation (Z := server)
    (fun _ h => absurd h List.not_mem_nil) (fun i call hcall => ?_) hc⟩
  simp only [refusal, List.cons_append, List.mem_cons, List.mem_append, List.mem_replicate,
    reduceCtorEq, and_false, Command.start.injEq, false_or, or_false] at hcall
  rcases hcall with ⟨-, rfl⟩ | ⟨-, rfl⟩
  · refine ⟨fun d hd => ?_, fun payload h => ?_⟩
    · exact (Option.some.inj ((httpCall_device _).symm.trans hd)).symm
    · cases h
      decide
  · refine ⟨fun d hd => ?_, fun payload h => by cases h⟩
    exact (Option.some.inj ((httpCall_device _).symm.trans hd)).symm

open Sample in
/-- A device without an operator registers one for itself over the actors route, and revokes another
device with it. -/
theorem agent_escalates :
    NoOperator deviceA store ∧
      (∀ i call, .start i call ∈ escalation →
        ∀ d, call.headers.device server.platform = some d → d = deviceA) ∧
      ∃ c, (httpServer server).run (Service.init store) escalation = some c ∧
        ¬ NoOperator deviceA c.hist.state ∧ ¬ OthersSame deviceA store c.hist.state := by
  refine ⟨fun _ h => absurd h List.not_mem_nil, fun i call hcall d hd => ?_, ?_⟩
  · simp only [escalation, List.cons_append, List.mem_cons, List.mem_append, List.mem_replicate,
      reduceCtorEq, and_false, Command.start.injEq, false_or, or_false] at hcall
    rcases hcall with ⟨-, rfl⟩ | ⟨-, rfl⟩ <;>
      exact (Option.some.inj ((httpCall_device _).symm.trans hd)).symm
  · have hrun : ((httpServer server).run (Service.init store) escalation).any (fun c =>
        decide (c.hist.state.db.actors.rows.map (fun a => (a.deviceId, a.toolProfile)) =
            [(deviceA, ToolProfile.operator)]) &&
          decide ((c.hist.state.db.devices.find? deviceB).map (·.status) = some .revoked)) =
            true := by
      decide +kernel
    obtain ⟨c, hc, hc'⟩ := (Option.any_eq_true _ _).1 hrun
    simp only [Bool.and_eq_true, decide_eq_true_eq] at hc'
    obtain ⟨hactors, hdevice⟩ := hc'
    refine ⟨c, hc, fun hno => ?_, fun hsame => ?_⟩
    · have hmem : (deviceA, ToolProfile.operator) ∈
          c.hist.state.db.actors.rows.map (fun a => (a.deviceId, a.toolProfile)) := by
        rw [hactors]
        exact List.mem_singleton_self _
      obtain ⟨actor, hactor, heq⟩ := List.mem_map.1 hmem
      exact hno actor hactor (Prod.mk.inj heq).1 (Prod.mk.inj heq).2
    · have hrow : store.db.devices.find? deviceB = some (device deviceB digestCredentialB) := by
        decide +kernel
      rw [hsame.devices deviceB (by decide) _ hrow] at hdevice
      cases hdevice

end Mnemes
