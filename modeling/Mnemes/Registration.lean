import Mnemes.Catalog
import Mnemes.Credentials

/-!
# Closed registration

Without a bootstrap secret a device may register over HTTP only while the registry is empty. The
handler counts the devices in one section and inserts its own in a later one, where bootstrap does
both in one transaction. So at most one device is registered exactly in the runs in which no device
is inserted between the count of a registration and its insertion (`registration_closed_iff`); two
registrations that both count before either inserts are both admitted
(`concurrent_registrations_admitted`).
-/

namespace Mnemes

open Concurrency Relational

variable {M : SemanticMemory}

/-! ## The handler -/

/-- `std::env::var`. -/
inductive EnvVar where
  | ok (value : String)
  | notPresent
  | notUnicode
  deriving DecidableEq, Repr

/-- The body of a registration request. -/
structure RegisterDeviceRequest where
  label : String
  platform : String
  hostname : String
  deriving DecidableEq, Repr

/-- The body of the response to a registration. -/
structure RegisterDeviceResponse where
  deviceId : String
  credential : String
  firstSeenAt : String
  lastSeenAt : String
  status : String
  deriving DecidableEq, Repr

/-- `Device::new`. -/
def Device.new (deviceId : DeviceId) (label platform hostname : String) : Device where
  deviceId := deviceId
  label := label
  platform := platform
  hostname := hostname
  credentialFingerprint := none
  firstSeenAt := ""
  lastSeenAt := ""
  status := .active

/-- A method whose section leaves a note of its result in the trace. -/
def Method.noting {α : Type} (m : Method α) (note : α → List Event) : Method α where
  check := m.check
  body db x := (m.body db x).map fun (a, db, es) => (a, db, es ++ note a)

/-- A method that notes its result does what it does without the note. -/
theorem Method.noting_eq_ok {α : Type} {m : Method α} {note : α → List Event} {db db' : PooledDb}
    {x : Choice} {a : α} {es : List Event} :
    (m.noting note).body db x = .ok (a, db', es) ↔
      ∃ es₀, m.body db x = .ok (a, db', es₀) ∧ es = es₀ ++ note a := by
  cases hbody : m.body db x with
  | error e => simp [Method.noting, hbody, Except.map]
  | ok r =>
    obtain ⟨a', db'', es₀⟩ := r
    simp only [Method.noting, hbody, Except.map, Except.ok.injEq, Prod.mk.injEq]
    constructor
    · rintro ⟨rfl, rfl, rfl⟩
      exact ⟨es₀, ⟨rfl, rfl, rfl⟩, rfl⟩
    · rintro ⟨es₁, ⟨rfl, rfl, rfl⟩, rfl⟩
      exact ⟨rfl, rfl, rfl⟩

/-- `count_devices`. -/
def countDevices : Op M Nat :=
  poolConn fun db _ => .ok (db.devices.rows.length, db, [.registryCounted db.devices.rows.length])

/-- `register_device_with_generated_credential`, with the secret it draws: the identity and the
token of the device. -/
def registerDeviceWithGeneratedCredential (P : Platform) (device : Device) (secret : String) :
    Op M (DeviceId × String) := do
  let credentials := DeviceCredential.new P device.deviceId secret
  fileSystem
  let deviceId ← ((registerDevice { device with
    credentialFingerprint := some credentials.digest }).noting
      fun deviceId => [.deviceRegistered deviceId]).op
  return (deviceId, credentials.token)

/-- The access check of `register_device_handler`. -/
def checkRegistration (bootstrapSecret : EnvVar) (headers : Request) : Op M Unit :=
  match bootstrapSecret with
  | .ok secret =>
    match bearerToken headers with
    | .ok token => if token = secret then return () else throw .invalidCredential
    | .error _ => throw .invalidCredential
  | .notPresent => do
    let count ← countDevices
    if count ≠ 0 then throw (.authorizationDenied "registration closed")
  | .notUnicode => throw .invalidCredential

/-- `register_device_handler`, with the identity and the secret it draws. The error is that of the
error response. -/
def registerDeviceHandler (P : Platform) (bootstrapSecret : EnvVar) (headers : Request)
    (payload : RegisterDeviceRequest) (drawn : DeviceId) (secret : String) :
    Op M RegisterDeviceResponse := do
  checkRegistration bootstrapSecret headers
  let newDevice := Device.new drawn payload.label payload.platform payload.hostname
  let (deviceId, credential) ← registerDeviceWithGeneratedCredential P newDevice secret
  match ← getDevice deviceId with
  | none => throw (.deviceNotFound deviceId.text)
  | some device =>
    return {
      deviceId := device.deviceId.text
      credential := credential
      firstSeenAt := device.firstSeenAt
      lastSeenAt := device.lastSeenAt
      status := device.status.asStr }

/-- The calls that register devices. -/
inductive RegistrationCall where
  /-- `POST /v1/devices/register`. -/
  | register (headers : Request) (payload : RegisterDeviceRequest) (drawn : DeviceId)
    (secret : String)
  | bootstrap (device : Device) (actor : ActorId) (actorKind secret : String)
  deriving DecidableEq

/-- The process of a call, without its response. A bootstrap finds the registry empty in the section
that registers its device. -/
def RegistrationCall.op (P : Platform) (bootstrapSecret : EnvVar) : RegistrationCall → Op M Unit
  | .register headers payload drawn secret => do
    let _ ← registerDeviceHandler P bootstrapSecret headers payload drawn secret
    return ()
  | .bootstrap device actor actorKind secret => do
    fileSystem
    let credentials := DeviceCredential.new P device.deviceId secret
    let _ ← ((Mnemes.bootstrap device actor actorKind credentials.digest).noting
      fun (deviceId, _) => [.registryCounted 0, .deviceRegistered deviceId]).op
    return ()

/-- Concurrent registrations and bootstraps of a server with this bootstrap secret. -/
def registrationService (M : SemanticMemory) (P : Platform) (bootstrapSecret : EnvVar) :
    Service RegistrationCall (MnemesStore M) Choice Event (Except MnemesError Unit) where
  body _ call := (call.op P bootstrapSecret).run
  release _ s := s

/-! ## What the trace says of the registry -/

/-- The devices a trace registered. -/
def registered (tr : List (Tid × Event)) : List DeviceId :=
  tr.filterMap fun
    | (_, .deviceRegistered device) => some device
    | _ => none

@[simp] theorem registered_append (tr tr' : List (Tid × Event)) :
    registered (tr ++ tr') = registered tr ++ registered tr' := List.filterMap_append

@[simp] theorem registered_counted (i : Tid) (count : Nat) (tr : List (Tid × Event)) :
    registered ((i, .registryCounted count) :: tr) = registered tr := rfl

@[simp] theorem registered_cons (i : Tid) (device : DeviceId) (tr : List (Tid × Event)) :
    registered ((i, .deviceRegistered device) :: tr) = device :: registered tr := rfl

/-- A trace with two registrations has one that comes after another. -/
theorem exists_later_registration {tr : List (Tid × Event)} (h : 1 < (registered tr).length) :
    ∃ pre i device post, tr = pre ++ (i, .deviceRegistered device) :: post ∧
      registered pre ≠ [] := by
  induction tr using List.reverseRecOn with
  | nil => simp [registered] at h
  | append_singleton tr p ih =>
    by_cases hold : 1 < (registered tr).length
    · obtain ⟨pre, i, device, post, rfl, hpre⟩ := ih hold
      exact ⟨pre, i, device, post ++ [p], by simp, hpre⟩
    · obtain ⟨i, e⟩ := p
      cases e with
      | deviceRegistered device =>
        refine ⟨tr, i, device, [], rfl, fun hnil => ?_⟩
        rw [registered_append, hnil, registered_cons] at h
        exact absurd h (by simp [registered])
      | _ =>
        rw [registered_append] at h
        exact absurd (by simpa [registered] using h) hold

/-- The accounts of the registry: a row for each registration; a count counts the registrations
before it; and a registration follows a count of its own call that found none. -/
structure RegistryAccounts (h : Hist (MnemesStore M) Event) : Prop where
  rows : h.state.db.devices.rows.length = (registered h.trace).length
  counted : ∀ pre i count post, h.trace = pre ++ (i, .registryCounted count) :: post →
    count = (registered pre).length
  admitted : ∀ pre i device post, h.trace = pre ++ (i, .deviceRegistered device) :: post →
    (i, .registryCounted 0) ∈ pre

/-- No device is registered between the count of a registration and its own. -/
def Undisturbed (tr : List (Tid × Event)) : Prop :=
  ∀ pre i count mid device post,
    tr = pre ++ (i, .registryCounted count) :: mid ++ (i, .deviceRegistered device) :: post →
    registered mid = []

section
variable {h : Hist (MnemesStore M) Event} {i : Tid} {s' : MnemesStore M} {es : List Event}

/-- An action that neither counts nor registers. -/
theorem RegistryAccounts.silent (hacc : RegistryAccounts h)
    (hrows : s'.db.devices.rows.length = h.state.db.devices.rows.length)
    (hes : ∀ e ∈ es, (∀ count, e ≠ .registryCounted count) ∧
      ∀ device, e ≠ .deviceRegistered device) :
    RegistryAccounts (h.after i (s', es)) := by
  have hnone : registered (es.map (i, ·)) = [] := by
    refine List.filterMap_eq_nil_iff.2 fun p hp => ?_
    obtain ⟨e, he, rfl⟩ := List.mem_map.1 hp
    cases e with
    | deviceRegistered device => exact absurd rfl ((hes _ he).2 device)
    | _ => rfl
  refine ⟨?_, fun pre j count post htr => ?_, fun pre j device post htr => ?_⟩
  · simp only [Hist.after_state, Hist.after_trace, registered_append, hnone, List.append_nil, hrows,
      hacc.rows]
  · rcases Hist.append_eq_append_cons htr with ⟨mid, hold, -⟩ | ⟨mid, hnew, -⟩
    · exact hacc.counted pre j count mid hold
    · obtain ⟨e, he, heq⟩ := List.mem_map.1 (hnew ▸ List.mem_append_right _ List.mem_cons_self :
        (j, Event.registryCounted count) ∈ es.map (i, ·))
      exact absurd (Prod.mk.inj heq).2 ((hes e he).1 count)
  · rcases Hist.append_eq_append_cons htr with ⟨mid, hold, -⟩ | ⟨mid, hnew, -⟩
    · exact hacc.admitted pre j device mid hold
    · obtain ⟨e, he, heq⟩ := List.mem_map.1 (hnew ▸ List.mem_append_right _ List.mem_cons_self :
        (j, Event.deviceRegistered device) ∈ es.map (i, ·))
      exact absurd (Prod.mk.inj heq).2 ((hes e he).2 device)

/-- A count. -/
theorem RegistryAccounts.count (hacc : RegistryAccounts h) :
    RegistryAccounts
      (h.after i (h.state, [.registryCounted h.state.db.devices.rows.length])) := by
  refine ⟨?_, fun pre j count post htr => ?_, fun pre j device post htr => ?_⟩
  · simpa [registered] using hacc.rows
  · rcases Hist.append_singleton_eq_append_cons htr with ⟨mid, hold, -⟩ | ⟨heq, rfl, -⟩
    · exact hacc.counted pre j count mid hold
    · cases heq
      exact hacc.rows
  · rcases Hist.append_singleton_eq_append_cons htr with ⟨mid, hold, -⟩ | ⟨heq, -, -⟩
    · exact hacc.admitted pre j device mid hold
    · cases heq

/-- A registration by a call that has counted none. -/
theorem RegistryAccounts.register (hacc : RegistryAccounts h) {device : DeviceId}
    (hrows : s'.db.devices.rows.length = h.state.db.devices.rows.length + 1)
    (hzero : (i, .registryCounted 0) ∈ h.trace) :
    RegistryAccounts (h.after i (s', [.deviceRegistered device])) := by
  refine ⟨?_, fun pre j count post htr => ?_, fun pre j device' post htr => ?_⟩
  · simp [registered, hrows, hacc.rows]
  · rcases Hist.append_singleton_eq_append_cons htr with ⟨mid, hold, -⟩ | ⟨heq, -, -⟩
    · exact hacc.counted pre j count mid hold
    · cases heq
  · rcases Hist.append_singleton_eq_append_cons htr with ⟨mid, hold, -⟩ | ⟨heq, rfl, -⟩
    · exact hacc.admitted pre j device' mid hold
    · cases heq
      exact hzero

end

/-! ## The calls keep the accounts -/

/-- Every action keeps the accounts, and adds to the trace. -/
def registryTerms (M : SemanticMemory) (P : Platform) (bootstrapSecret : EnvVar) :
    RelyGuarantee (registrationService M P bootstrapSecret) where
  inv := RegistryAccounts
  rely _ h h' := h.trace <+: h'.trace
  guar _ _ h h' := RegistryAccounts h' ∧ h.trace <+: h'.trace
  rely_refl _ _ := List.prefix_rfl
  rely_trans h₁ h₂ := h₁.trans h₂
  guar_rely _ _ hg := hg.2
  guar_inv _ hg := hg.1
  release_guar hinv := by
    refine ⟨?_, List.prefix_append _ _⟩
    simpa [registrationService] using hinv

section
variable {P : Platform} {env : EnvVar} {i : Tid} {call : RegistrationCall} {α β : Type}
  {h : Hist (MnemesStore M) Event}

/-- The rest of a call keeps the accounts from here on. -/
def KeepsAccounts (P : Platform) (env : EnvVar) (i : Tid) (call : RegistrationCall)
    (h : Hist (MnemesStore M) Event) (t : Op M β) : Prop :=
  t.run.Safe ((registryTerms M P env).terms i call) (fun _ _ => True) h

/-- A result without an action keeps the accounts. -/
theorem keepsAccounts_pure {b : β} : KeepsAccounts P env i call h (pure b : Op M β) :=
  Proc.Safe.done fun _ _ _ => trivial

/-- An error without an action keeps the accounts. -/
theorem keepsAccounts_throw {e : MnemesError} : KeepsAccounts P env i call h (throw e : Op M β) :=
  Proc.Safe.done fun _ _ _ => trivial

/-- One section of a call, then the rest from where the section left the accounts. -/
theorem keepsAccounts_poolConn
    {f : PooledDb → Choice → Except MnemesError (α × PooledDb × List Event)} {k : α → Op M β}
    (hf : ∀ h' x a db es, h.trace <+: h'.trace → RegistryAccounts h' →
      f h'.state.db x = .ok (a, db, es) →
      RegistryAccounts (h'.after i ({ h'.state with db }, es)) ∧
        KeepsAccounts P env i call (h'.after i ({ h'.state with db }, es)) (k a)) :
    KeepsAccounts P env i call h (poolConn f >>= k) := by
  refine Proc.Safe.attempt_atomic fun h' x hr hinv => ?_
  have hinv : RegistryAccounts h' := hinv
  have hidle : RegistryAccounts (h'.after i (h'.state, [])) := by rwa [Hist.after_nil]
  cases hx : x.fault with
  | some error => exact ⟨⟨hidle, List.prefix_append _ _⟩, fun _ _ _ => trivial⟩
  | none =>
    cases hrun : f h'.state.db x with
    | error e => exact ⟨⟨hidle, List.prefix_append _ _⟩, fun _ _ _ => trivial⟩
    | ok r =>
      obtain ⟨a, db, es⟩ := r
      obtain ⟨hacc, hrest⟩ := hf h' x a db es hr hinv hrun
      exact ⟨⟨hacc, List.prefix_append _ _⟩, hrest⟩

/-- A method without a check. -/
theorem keepsAccounts_op {m : Method α} (hcheck : m.check = .ok ()) {k : α → Op M β}
    (hf : ∀ h' x a db es, h.trace <+: h'.trace → RegistryAccounts h' →
      m.body h'.state.db x = .ok (a, db, es) →
      RegistryAccounts (h'.after i ({ h'.state with db }, es)) ∧
        KeepsAccounts P env i call (h'.after i ({ h'.state with db }, es)) (k a)) :
    KeepsAccounts P env i call h (m.op >>= k) := by
  unfold Method.op
  rw [hcheck, bind_assoc]
  exact keepsAccounts_poolConn hf

/-- The file system keeps no accounts of devices. -/
theorem keepsAccounts_fileSystem {k : Unit → Op M β}
    (hk : ∀ h' : Hist (MnemesStore M) Event, h.trace <+: h'.trace →
      KeepsAccounts P env i call h' (k ())) :
    KeepsAccounts P env i call h (fileSystem >>= k) := by
  refine Proc.Safe.attempt_atomic fun h' x hr hinv => ?_
  have hinv : RegistryAccounts h' := hinv
  have hidle : RegistryAccounts (h'.after i (h'.state, [])) := by rwa [Hist.after_nil]
  cases hx : x.fault with
  | some error => exact ⟨⟨hidle, List.prefix_append _ _⟩, fun _ _ _ => trivial⟩
  | none => exact ⟨⟨hidle, List.prefix_append _ _⟩, hk _ (hr.trans (List.prefix_append _ _))⟩

/-- Reading a device keeps the accounts. -/
theorem keepsAccounts_getDevice {device : DeviceId} {k : Option Device → Op M β}
    (hk : ∀ found (h' : Hist (MnemesStore M) Event), KeepsAccounts P env i call h' (k found)) :
    KeepsAccounts P env i call h (getDevice device >>= k) := by
  refine Proc.Safe.attempt_atomic fun h' x hr hinv => ?_
  have hinv : RegistryAccounts h' := hinv
  cases hx : x.fault with
  | some error =>
    exact ⟨⟨hinv.silent rfl fun _ he => absurd he List.not_mem_nil, List.prefix_append _ _⟩, hk _ _⟩
  | none =>
    refine ⟨⟨hinv.silent rfl fun e he => ?_, List.prefix_append _ _⟩, hk _ _⟩
    cases hfind : h'.state.db.devices.find? device with
    | none => simp [hfind] at he
    | some row =>
      simp only [hfind, Option.elim_some, List.mem_singleton] at he
      subst he
      exact ⟨fun _ h => (by cases h), fun _ h => (by cases h)⟩

/-- A registration whose call has counted none. -/
theorem keepsAccounts_registerDevice {device : Device} {secret : String}
    (hzero : (i, .registryCounted 0) ∈ h.trace) {k : DeviceId × String → Op M β}
    (hk : ∀ r (h' : Hist (MnemesStore M) Event), KeepsAccounts P env i call h' (k r)) :
    KeepsAccounts P env i call h (registerDeviceWithGeneratedCredential P device secret >>= k) := by
  unfold registerDeviceWithGeneratedCredential
  simp only [bind_assoc, pure_bind]
  refine keepsAccounts_fileSystem fun h₁ h1 => keepsAccounts_op rfl
    fun h₂ x a db es h2 hacc hrun => ⟨?_, hk _ _⟩
  obtain ⟨es₀, hbody, rfl⟩ := Method.noting_eq_ok.1 hrun
  simp only [registerDevice, bind_eq_ok, okOr_eq_ok] at hbody
  obtain ⟨devices, hins, hret⟩ := hbody
  cases hret
  refine hacc.register ?_ ((h1.trans h2).subset hzero)
  simp [(Table.insert?_eq_some hins).2]

/-- The access check of a server without a bootstrap secret lets only those pass that counted
none. -/
theorem keepsAccounts_checkRegistration {headers : Request} {k : Unit → Op M β}
    (hk : ∀ h' : Hist (MnemesStore M) Event, (i, .registryCounted 0) ∈ h'.trace →
      KeepsAccounts P env i call h' (k ())) :
    KeepsAccounts P env i call h (checkRegistration .notPresent headers >>= k) := by
  unfold checkRegistration countDevices
  simp only [bind_assoc]
  refine keepsAccounts_poolConn fun h' x count db es _ hacc hrun => ?_
  cases hrun
  refine ⟨hacc.count, ?_⟩
  by_cases hcount : h'.state.db.devices.rows.length = 0
  · simp only [hcount, ne_eq, not_true_eq_false, if_false, pure_bind]
    exact hk _ (by simp)
  · simp only [ne_eq, hcount, not_false_eq_true, if_true]
    exact keepsAccounts_throw

/-- Every call of a server without a bootstrap secret keeps the accounts. -/
theorem RegistrationCall.keepsAccounts :
    KeepsAccounts P .notPresent i call h (call.op P .notPresent) := by
  cases call with
  | register headers payload drawn secret =>
    unfold RegistrationCall.op registerDeviceHandler
    simp only [bind_assoc]
    refine keepsAccounts_checkRegistration fun h' hzero =>
      keepsAccounts_registerDevice hzero fun r h₁ => keepsAccounts_getDevice fun found h₂ => ?_
    cases found with
    | none => exact keepsAccounts_throw
    | some device => exact keepsAccounts_pure
  | bootstrap device actor actorKind secret =>
    unfold RegistrationCall.op
    refine keepsAccounts_fileSystem fun h₁ h1 => keepsAccounts_op rfl
      fun h₂ x a db es h2 hacc hrun => ⟨?_, keepsAccounts_pure⟩
    obtain ⟨es₀, hbody, rfl⟩ := Method.noting_eq_ok.1 hrun
    simp only [Mnemes.bootstrap, guard_eq_ok, bind_eq_ok, okOr_eq_ok] at hbody
    obtain ⟨hempty, devices, hins, actors, -, hret⟩ := hbody
    cases hret
    -- the section counts none, and then registers
    have hrows : h₂.state.db.devices.rows.length = 0 := by simpa using hempty
    have hcount := hacc.count (i := i)
    rw [hrows] at hcount
    have hregister : ∀ s' : MnemesStore M,
        s'.db.devices.rows.length = h₂.state.db.devices.rows.length + 1 →
        RegistryAccounts ((h₂.after i (h₂.state, [.registryCounted 0])).after i
          (s', [.deviceRegistered device.deviceId])) :=
      fun s' hs' => hcount.register hs' (by simp)
    have hstep := hregister
      { h₂.state with
        db := { h₂.state.db with
          devices := devices
          actors := actors
          deviceShards := (h₂.state.db.deviceShards.insert? (newShardRow device)).getD
            h₂.state.db.deviceShards } }
      (by simp [(Table.insert?_eq_some hins).2])
    simpa [Hist.after] using hstep

end

/-! ## When registration is closed -/

/-- No store that the calls of a server without a bootstrap secret reach has two devices exactly
where no device is registered between the count of a registration and its own. -/
theorem RegistryAccounts.closed_iff {h : Hist (MnemesStore M) Event} (hacc : RegistryAccounts h) :
    h.state.db.devices.rows.length ≤ 1 ↔ Undisturbed h.trace := by
  rw [hacc.rows]
  constructor
  · -- a registration between a count and its own makes two
    intro hone pre i count mid device post htr
    rw [htr] at hone
    simp only [List.append_assoc, List.cons_append, registered_append, registered_counted,
      registered_cons, List.length_append, List.length_cons] at hone
    exact List.length_eq_zero_iff.1 (by omega)
  · -- the later of two registrations counted none, so the other one came in between
    intro hun
    by_contra htwo
    obtain ⟨pre, i, device, post, htr, hpre⟩ := exists_later_registration (not_le.1 htwo)
    obtain ⟨before, mid, rfl⟩ := List.append_of_mem (hacc.admitted pre i device post htr)
    have hzero := hacc.counted before i 0 (mid ++ (i, .deviceRegistered device) :: post)
      (by rw [htr]; simp)
    have hbefore : registered before = [] := List.length_eq_zero_iff.1 hzero.symm
    have hmid := hun before i 0 mid device post (by rw [htr])
    rw [registered_append, registered_counted, hbefore, hmid] at hpre
    exact hpre rfl

/-- In every interleaving of registrations and bootstraps on an empty registry without a bootstrap
secret, at most one device is registered exactly where none is registered between the count of a
registration and its own. -/
theorem registration_closed_iff {P : Platform} {s : MnemesStore M} (hempty : s.db.devices.rows = [])
    {cmds : List (Command RegistrationCall Choice)}
    {c : Config RegistrationCall (MnemesStore M) Choice Event (Except MnemesError Unit)}
    (hrun : (registrationService M P .notPresent).run (Service.init s) cmds = some c) :
    c.hist.state.db.devices.rows.length ≤ 1 ↔ Undisturbed c.hist.trace := by
  have hinit : RegistryAccounts (⟨s, []⟩ : Hist (MnemesStore M) Event) :=
    ⟨by simp [hempty, registered], by simp, by simp⟩
  have hbodies : (registryTerms M P .notPresent).Bodies fun _ _ _ _ => True :=
    fun _ _ _ _ _ => RegistrationCall.keepsAccounts
  have hacc : RegistryAccounts c.hist :=
    ((RelyGuarantee.Holds.init (R := registryTerms M P .notPresent) hinit).run hbodies hrun).inv
  exact hacc.closed_iff

namespace Sample

/-- A registration request without a credential. -/
def registration (drawn : DeviceId) (secret : String) : RegistrationCall :=
  .register ⟨none, []⟩ ⟨"laptop", "linux", "host"⟩ drawn secret

/-- A registration, and another one that starts when the first has its response. -/
def registrationsInTurn : List (Command RegistrationCall Choice) :=
  .start 0 (registration deviceA firstSecret) :: List.replicate 4 (.run 0 plain) ++
    [.start 1 (registration deviceB secondSecret), .run 1 plain]

/-- Two registrations that count before either of them inserts its device. -/
def registrationsAtOnce : List (Command RegistrationCall Choice) :=
  [.start 0 (registration deviceA firstSecret), .start 1 (registration deviceB secondSecret),
    .run 0 plain, .run 1 plain] ++
    List.replicate 3 (.run 0 plain) ++ List.replicate 3 (.run 1 plain)

end Sample

open Sample in
/-- Of two registrations in turn, the first one is admitted. -/
theorem registration_closed_iff_sample :
    ∃ c, (registrationService memory credentialPlatform .notPresent).run (Service.init blankStore)
        registrationsInTurn = some c ∧
      c.hist.state.db.devices.rows.map (·.deviceId) = [deviceA] ∧ Undisturbed c.hist.trace := by
  have hrun : ((registrationService memory credentialPlatform .notPresent).run
      (Service.init blankStore) registrationsInTurn).any (fun c =>
        c.hist.state.db.devices.rows.map (·.deviceId) = [deviceA]) = true := by decide +kernel
  obtain ⟨c, hc, hrows⟩ := (Option.any_eq_true _ _).1 hrun
  have hrows : c.hist.state.db.devices.rows.map (·.deviceId) = [deviceA] := by simpa using hrows
  refine ⟨c, hc, hrows, (registration_closed_iff (M := memory) rfl hc).1 ?_⟩
  have := congrArg List.length hrows
  simp only [List.length_map, List.length_singleton] at this
  exact this.le

/-- A result that is good is there. -/
theorem eq_ok_of_any {r : Option (Except MnemesError Unit)} (h : r.any (·.isOk) = true) :
    r = some (.ok ()) := by
  obtain ⟨answer, rfl, hok⟩ := (Option.any_eq_true _ _).1 h
  cases answer with
  | error e => cases hok
  | ok u => rfl

open Sample in
/-- Both devices are registered, and both requests are answered with a credential. -/
theorem concurrent_registrations_admitted :
    blankStore.db.devices.rows = [] ∧
      ∃ c, (registrationService memory credentialPlatform .notPresent).run (Service.init blankStore)
          registrationsAtOnce = some c ∧
        c.result? 0 = some (.ok ()) ∧ c.result? 1 = some (.ok ()) ∧
        c.hist.state.db.devices.rows.map (·.deviceId) = [deviceA, deviceB] := by
  refine ⟨rfl, ?_⟩
  have hrun : ((registrationService memory credentialPlatform .notPresent).run
      (Service.init blankStore) registrationsAtOnce).any (fun c =>
        (c.result? 0).any (·.isOk) && (c.result? 1).any (·.isOk) &&
          c.hist.state.db.devices.rows.map (·.deviceId) = [deviceA, deviceB]) = true := by
    decide +kernel
  obtain ⟨c, hc, hc'⟩ := (Option.any_eq_true _ _).1 hrun
  simp only [Bool.and_eq_true, decide_eq_true_eq] at hc'
  obtain ⟨⟨h0, h1⟩, hrows⟩ := hc'
  refine ⟨c, hc, ?_, ?_, hrows⟩
  · exact eq_ok_of_any h0
  · exact eq_ok_of_any h1

end Mnemes
