import Mnemes.Profile.Runs
import Mnemes.Server

/-!
# Which credentials authenticate

A credential is a token, `device:secret`, of which the store keeps a digest. In a sequential run of
the calls that issue credentials or change devices, the stored digest of a device is always that of
the credential issued to it last (`Session.Accounts`), so a token authenticates a device exactly
where the device is active and the token presents that credential (`credential_validity`). A token
is split at its first colon: its device may be spelled in any form the UUID parser accepts, except
the one that contains colons (`urn_spelling_refused`).
-/

namespace Mnemes

open Relational

variable {M : SemanticMemory} {P : Platform}

/-! ## Credentials -/

/-- `DeviceCredential`: the token handed out, and the digest that is stored. -/
structure DeviceCredential where
  token : String
  digest : String
  deriving DecidableEq, Repr

/-- `DeviceCredential::new`, with the secret it draws. -/
def DeviceCredential.new (P : Platform) (device : DeviceId) (secret : String) : DeviceCredential :=
  let token := device.text ++ ":" ++ secret
  ⟨token, "sha256:" ++ sha256Hex P token⟩

/-- The calls that issue credentials or change what an authentication reads, with the secrets they
draw. -/
inductive CredentialCall where
  | bootstrap (device : Device) (actor : ActorId) (actorKind secret : String)
  | registerDeviceWithGeneratedCredential (device : Device) (secret : String)
  /-- `register_device` of a device that brings no fingerprint. -/
  | registerDevice (device : Device)
  | rotateDeviceCredential (device : DeviceId) (secret : String)
  | setDeviceStatus (device : DeviceId) (status : DeviceStatus)
  | heartbeatDevice (device : DeviceId)
  | registerActor (actor : Actor)
  deriving DecidableEq

/-- The secret a call draws. -/
def CredentialCall.secret? : CredentialCall → Option String
  | .bootstrap _ _ _ secret => some secret
  | .registerDeviceWithGeneratedCredential _ secret => some secret
  | .rotateDeviceCredential _ secret => some secret
  | _ => none

/-- A call on a database: the device and the token it returns, if it issues one, and the database it
leaves. -/
def CredentialCall.exec (P : Platform) (db : PooledDb) (x : Choice) :
    CredentialCall → Except MnemesError (Option (DeviceId × String) × PooledDb)
  | .bootstrap device actor actorKind secret => do
    let credentials := DeviceCredential.new P device.deviceId secret
    let ((deviceId, _), db) ←
      (Mnemes.bootstrap device actor actorKind credentials.digest).exec db x
    return (some (deviceId, credentials.token), db)
  | .registerDeviceWithGeneratedCredential device secret => do
    let credentials := DeviceCredential.new P device.deviceId secret
    let (deviceId, db) ← (Mnemes.registerDevice
      { device with credentialFingerprint := some credentials.digest }).exec db x
    return (some (deviceId, credentials.token), db)
  | .registerDevice device => do
    let (_, db) ← (Mnemes.registerDevice { device with credentialFingerprint := none }).exec db x
    return (none, db)
  | .rotateDeviceCredential device secret => do
    let credentials := DeviceCredential.new P device secret
    let (_, db) ← (Mnemes.rotateDeviceCredential device credentials.digest).exec db x
    return (some (device, credentials.token), db)
  | .setDeviceStatus device status => do
    let (_, db) ← (deviceStatusMethod device status).exec db x
    return (none, db)
  | .heartbeatDevice device => do
    let (_, db) ← (Mnemes.heartbeatDevice device).exec db x
    return (none, db)
  | .registerActor actor => do
    let (_, db) ← (Mnemes.registerActor actor).exec db x
    return (none, db)

/-- The database, and the credentials issued so far, the newest first. -/
structure Session where
  db : PooledDb
  issued : List (DeviceId × String)

namespace Session

/-- One call: a failed one changes nothing and issues nothing. -/
def step (P : Platform) (s : Session) (call : CredentialCall × Choice) : Session :=
  match call.1.exec P s.db call.2 with
  | .ok (credential, db) => ⟨db, credential.toList ++ s.issued⟩
  | .error _ => s

/-- A sequential run. -/
def run (P : Platform) (s : Session) (calls : List (CredentialCall × Choice)) : Session :=
  calls.foldl (step P) s

/-- The credential issued last to a device. -/
def current (s : Session) (device : DeviceId) : Option String :=
  (s.issued.find? (·.1 = device)).map (·.2)

end Session

/-- The secrets a run draws. -/
def secretsOf (calls : List (CredentialCall × Choice)) : List String :=
  calls.filterMap (·.1.secret?)

/-- `Alphanumeric.sample_string(…, 64)`, without a repetition. -/
structure Generated (secrets : List String) : Prop where
  distinct : secrets.Nodup
  alphanumeric : ∀ secret ∈ secrets, secret.length = 64 ∧ secret.toList.all Char.isAlphanum

/-! ## Authentication of one database -/

/-- What `token_device_id` answers on a database that does not change under it. -/
def PooledDb.tokenDeviceId (P : Platform) (db : PooledDb) (token : String) :
    Except MnemesError (Device × Option String) := do
  let (deviceId, secret) ← parseAuthorizationToken P token
  let device ← okOr (db.devices.find? deviceId) .invalidCredential
  if device.status ≠ .active then
    throw (.deviceNotActive s!"{deviceId.text} (status: {device.status.asStr})")
  if !verifyCredential P device.credentialFingerprint (deviceId.text ++ ":" ++ secret) then
    throw .invalidCredential
  return (device, device.credentialFingerprint)

/-- What `authenticate_request` answers on a database that does not change under it. -/
def PooledDb.authenticate (P : Platform) (db : PooledDb) (token : String)
    (actorId : Option ActorId) : Except MnemesError (Device × Option Actor) := do
  let (device, _) ← db.tokenDeviceId P token
  match actorId with
  | none => return (device, none)
  | some actorId =>
    let actor ← okOr (db.actors.find? actorId) (.actorNotFound actorId.text)
    if actor.deviceId ≠ device.deviceId then
      throw (.authorizationDenied "actor does not belong to device")
    return (device, some actor)

section
variable {α β : Type} {x : Choice} (hx : x.fault = none) {s : MnemesStore M}
include hx

/-- A query alone, without a fault, goes on with what it finds. -/
theorem alone_poolReadOk {f : PooledDb → Option α} {note : α → List Event}
    {k : Option α → Op M β} :
    (poolReadOk f note >>= k).run.alone x s = (k (f s.db)).run.alone x s := by
  unfold poolReadOk
  rw [Concurrency.Proc.alone_attempt]
  simp only [hx]

/-- The device of a token, alone, is that of the database. -/
theorem tokenDeviceId_alone {token : String} {k : Device × Option String → Op M β} :
    (tokenDeviceId P token >>= k).run.alone x s =
      match s.db.tokenDeviceId P token with
      | .ok r => (k r).run.alone x s
      | .error e => (some (.error e), s) := by
  unfold tokenDeviceId PooledDb.tokenDeviceId
  simp only [bind_assoc]
  rw [alone_lift]
  cases parseAuthorizationToken P token with
  | error e => rfl
  | ok parsed =>
    obtain ⟨deviceId, secret⟩ := parsed
    simp only [credentialRow, alone_poolReadOk hx, ok_bind]
    cases hdev : s.db.devices.find? deviceId with
    | none => rfl
    | some device =>
      simp only [Option.map_some, okOr, ok_bind]
      by_cases hactive : device.status = .active
      · cases hverify :
          verifyCredential P device.credentialFingerprint (deviceId.text ++ ":" ++ secret) with
        | false => simp [hactive]; rfl
        | true =>
          simp only [hactive, ne_eq, not_true_eq_false, if_false, Bool.not_true, Bool.false_eq_true,
            getDevice, alone_poolReadOk hx, hdev, pure_bind, bind_assoc]
          rfl
      · simp [hactive]
        rfl

/-- An authentication that runs alone answers by the database it finds. -/
theorem authenticateRequest_alone {token : String} {actorId : Option ActorId} :
    (authenticateRequest P token actorId).run.alone x s =
      (some (s.db.authenticate P token actorId), s) := by
  unfold authenticateRequest PooledDb.authenticate
  rw [tokenDeviceId_alone hx]
  cases s.db.tokenDeviceId P token with
  | error e => rfl
  | ok r =>
    obtain ⟨device, fingerprint⟩ := r
    cases actorId with
    | none => rfl
    | some actorId =>
      simp only [getActor, alone_poolReadOk hx, ok_bind]
      cases s.db.actors.find? actorId with
      | none => rfl
      | some actor =>
        by_cases hdev : actor.deviceId = device.deviceId
        · simp [hdev, okOr, ok_bind]
          rfl
        · simp [hdev, okOr, ok_bind]
          rfl

end

/-! ## Tokens -/

/-- A token presents a credential of a device: between white space, a spelling of the device's UUID
without a colon, a colon, and the secret of the credential. -/
def Presents (P : Platform) (raw : String) (device : DeviceId) (token : String) : Prop :=
  ∃ spelling secret, trim raw = spelling ++ ":" ++ secret ∧ ':' ∉ spelling.toList ∧
    DeviceId.parse P spelling = .ok device ∧ token = device.text ++ ":" ++ secret

/-- A token presents one credential at most. -/
theorem Presents.unique {raw token token' : String} {device device' : DeviceId}
    (h : Presents P raw device token) (h' : Presents P raw device' token') :
    device = device' ∧ token = token' := by
  obtain ⟨spelling, secret, htrim, hcolon, hparse, rfl⟩ := h
  obtain ⟨spelling', secret', htrim', hcolon', hparse', rfl⟩ := h'
  have hsplit := (splitOnce_eq_some (c := ':')).2 ⟨htrim, hcolon⟩
  have hsplit' := (splitOnce_eq_some (c := ':')).2 ⟨htrim', hcolon'⟩
  obtain ⟨rfl, rfl⟩ := Prod.mk.inj (Option.some.inj (hsplit.symm.trans hsplit'))
  obtain rfl := Except.ok.inj (hparse.symm.trans hparse')
  exact ⟨rfl, rfl⟩

/-- A token is a spelling of a device without a colon, a colon, and a secret that is not empty. -/
theorem parseAuthorizationToken_eq_ok {raw secret : String} {device : DeviceId} :
    parseAuthorizationToken P raw = .ok (device, secret) ↔
      secret ≠ "" ∧ ∃ spelling, trim raw = spelling ++ ":" ++ secret ∧ ':' ∉ spelling.toList ∧
        DeviceId.parse P spelling = .ok device := by
  have hsep : String.singleton ':' = ":" := rfl
  unfold parseAuthorizationToken
  constructor
  · intro h
    split at h
    · cases h
    · next spelling secret' hsplit =>
      obtain ⟨htoken, hcolon⟩ := splitOnce_eq_some.1 hsplit
      split at h
      · cases h
      · next hempty =>
        cases hparse : DeviceId.parse P spelling with
        | error e => rw [hparse] at h; cases h
        | ok device' =>
          rw [hparse] at h
          cases h
          exact ⟨fun he => hempty (by simp [he]), spelling, by rw [htoken, hsep], hcolon, hparse⟩
  · rintro ⟨hsecret, spelling, htoken, hcolon, hparse⟩
    have hsplit : splitOnce (trim raw) ':' = some (spelling, secret) :=
      splitOnce_eq_some.2 ⟨by rw [htoken, hsep], hcolon⟩
    have hempty : secret.isEmpty = false := by simpa using hsecret
    simp only [hsplit, hempty, hparse]
    rfl

/-! ## Runs -/

/-- The stored digest of a token. -/
def tokenDigest (P : Platform) (token : String) : String := "sha256:" ++ sha256Hex P token

/-- The fingerprint stored for a device. -/
def PooledDb.fingerprint (db : PooledDb) (device : DeviceId) : Option String :=
  (db.devices.find? device).bind (·.credentialFingerprint)

section
variable {db db' : PooledDb} {x : Choice}

/-- A new row brings its fingerprint, and the other devices keep theirs. -/
theorem fingerprint_insert {row : Device} {devices : Table Device Device.deviceId}
    (hins : db.devices.insert? row = some devices) (hdb : db'.devices = devices) (id : DeviceId) :
    db'.fingerprint id =
      if id = row.deviceId then row.credentialFingerprint else db.fingerprint id := by
  simp only [PooledDb.fingerprint, hdb, Table.find?_insert hins, eq_comm (a := id)]
  split <;> rfl

/-- An update that keeps the fingerprints. -/
theorem fingerprint_map {f : Device → Device}
    (hdb : ∀ id, db'.devices.find? id = (db.devices.find? id).map f)
    (hf : ∀ row, (f row).credentialFingerprint = row.credentialFingerprint) (id : DeviceId) :
    db'.fingerprint id = db.fingerprint id := by
  simp only [PooledDb.fingerprint, hdb, Option.bind_map, Function.comp_def, hf]

/-- What a call that succeeds does to the fingerprints: the device it issues a credential to gets
that credential's digest. -/
theorem CredentialCall.exec_fingerprint {call : CredentialCall}
    {credential : Option (DeviceId × String)}
    (h : call.exec P db x = .ok (credential, db')) :
    (∃ device secret, call.secret? = some secret ∧
      credential = some (device, device.text ++ ":" ++ secret) ∧
      ∀ id, db'.fingerprint id =
        if id = device then some (tokenDigest P (device.text ++ ":" ++ secret))
        else db.fingerprint id) ∨
    credential = none ∧ ∀ id, db'.fingerprint id = db.fingerprint id := by
  cases call with
  | bootstrap device actor actorKind secret =>
    simp only [exec, bind_eq_ok] at h
    obtain ⟨⟨⟨deviceId, operator⟩, db₁⟩, hexec, hret⟩ := h
    obtain ⟨-, -, es, hbody⟩ := Method.exec_eq_ok.1 hexec
    simp only [Mnemes.bootstrap, guard_eq_ok, bind_eq_ok, okOr_eq_ok] at hbody
    obtain ⟨-, devices, hins, actors, -, hbody⟩ := hbody
    cases hbody
    cases hret
    exact .inl ⟨device.deviceId, secret, rfl, rfl, fingerprint_insert hins rfl⟩
  | registerDeviceWithGeneratedCredential device secret =>
    simp only [exec, bind_eq_ok] at h
    obtain ⟨⟨deviceId, db₁⟩, hexec, hret⟩ := h
    obtain ⟨-, -, es, hbody⟩ := Method.exec_eq_ok.1 hexec
    simp only [Mnemes.registerDevice, bind_eq_ok, okOr_eq_ok] at hbody
    obtain ⟨devices, hins, hbody⟩ := hbody
    cases hbody
    cases hret
    exact .inl ⟨device.deviceId, secret, rfl, rfl, fingerprint_insert hins rfl⟩
  | registerDevice device =>
    simp only [exec, bind_eq_ok] at h
    obtain ⟨⟨deviceId, db₁⟩, hexec, hret⟩ := h
    obtain ⟨-, -, es, hbody⟩ := Method.exec_eq_ok.1 hexec
    simp only [Mnemes.registerDevice, bind_eq_ok, okOr_eq_ok] at hbody
    obtain ⟨devices, hins, hbody⟩ := hbody
    cases hbody
    cases hret
    refine .inr ⟨rfl, fun id => ?_⟩
    rw [fingerprint_insert hins rfl]
    split
    · next hid =>
      subst hid
      rw [PooledDb.fingerprint, (Table.insert?_eq_some hins).1]
      rfl
    · rfl
  | rotateDeviceCredential device secret =>
    simp only [exec, bind_eq_ok] at h
    obtain ⟨⟨⟨⟩, db₁⟩, hexec, hret⟩ := h
    obtain ⟨-, -, es, hbody⟩ := Method.exec_eq_ok.1 hexec
    simp only [Mnemes.rotateDeviceCredential, bind_eq_ok, okOr_eq_ok] at hbody
    obtain ⟨row, hrow, hbody⟩ := hbody
    cases hbody
    cases hret
    refine .inl ⟨device, secret, rfl, rfl, fun id => ?_⟩
    simp only [PooledDb.fingerprint, Table.find?_update]
    split
    · next hid =>
      subst hid
      rw [hrow]
      simp [(Table.find?_eq_some.1 hrow).2, tokenDigest, DeviceCredential.new]
    · next hid =>
      cases hother : db.devices.find? id with
      | none => rfl
      | some other => simp [(Table.find?_eq_some.1 hother).2, hid]
  | setDeviceStatus device status =>
    simp only [exec, bind_eq_ok] at h
    obtain ⟨⟨⟨⟩, db₁⟩, hexec, hret⟩ := h
    obtain ⟨-, -, es, hbody⟩ := Method.exec_eq_ok.1 hexec
    simp only [deviceStatusMethod, bind_eq_ok, okOr_eq_ok] at hbody
    obtain ⟨row, -, hbody⟩ := hbody
    cases hbody
    cases hret
    exact .inr ⟨rfl, fingerprint_map (Table.find?_update _ _ _ (by intro _; rfl))
      fun row => by split <;> rfl⟩
  | heartbeatDevice device =>
    simp only [exec, bind_eq_ok] at h
    obtain ⟨⟨⟨⟩, db₁⟩, hexec, hret⟩ := h
    obtain ⟨-, -, es, hbody⟩ := Method.exec_eq_ok.1 hexec
    simp only [Mnemes.heartbeatDevice, bind_eq_ok, okOr_eq_ok] at hbody
    obtain ⟨row, -, hbody⟩ := hbody
    cases hbody
    cases hret
    exact .inr ⟨rfl, fingerprint_map (Table.find?_update _ _ _ (by intro _; rfl))
      fun row => by split <;> rfl⟩
  | registerActor actor =>
    simp only [exec, bind_eq_ok] at h
    obtain ⟨⟨actorId, db₁⟩, hexec, hret⟩ := h
    obtain ⟨-, -, es, hbody⟩ := Method.exec_eq_ok.1 hexec
    simp only [Mnemes.registerActor, guard_eq_ok, bind_eq_ok, okOr_eq_ok] at hbody
    obtain ⟨actors, -, -, hbody⟩ := hbody
    cases hbody
    cases hret
    exact .inr ⟨rfl, fun id => rfl⟩

end

namespace Session

variable {s : Session} {used : List String}

/-- After a token is issued, it is the current one of its device. -/
theorem current_cons {db : PooledDb} {device id : DeviceId} {token : String} :
    current ⟨db, (device, token) :: s.issued⟩ id =
      if id = device then some token else s.current id := by
  unfold current
  by_cases hid : device = id
  · simp [hid]
  · simp [hid, Ne.symm hid]

/-- A current token was issued. -/
theorem mem_of_current {device : DeviceId} {token : String} (h : s.current device = some token) :
    (device, token) ∈ s.issued := by
  obtain ⟨⟨device', token'⟩, hfind, rfl⟩ := Option.map_eq_some_iff.1 h
  obtain rfl : device' = device := by simpa using List.find?_some hfind
  exact List.mem_of_find?_eq_some hfind

/-- The accounts of a run whose calls drew the secrets `used`: each device has the digest of the
credential issued to it last, and no credential was issued twice. -/
structure Accounts (P : Platform) (s : Session) (used : List String) : Prop where
  stored : ∀ device, s.db.fingerprint device = (s.current device).map (tokenDigest P)
  drawn : ∀ c ∈ s.issued, ∃ secret ∈ used, c.2 = c.1.text ++ ":" ++ secret
  distinct : s.issued.Nodup

/-- One call that draws a fresh secret keeps the accounts. -/
theorem Accounts.step (h : s.Accounts P used) {call : CredentialCall × Choice}
    (hfresh : ∀ secret, call.1.secret? = some secret → secret ∉ used) :
    (s.step P call).Accounts P (used ++ call.1.secret?.toList) := by
  have hmore : ∀ c ∈ s.issued, ∃ secret ∈ used ++ call.1.secret?.toList,
      c.2 = c.1.text ++ ":" ++ secret := by
    intro c hc
    obtain ⟨secret, hsecret, htoken⟩ := h.drawn c hc
    exact ⟨secret, List.mem_append_left _ hsecret, htoken⟩
  unfold Session.step
  cases hexec : call.1.exec P s.db call.2 with
  | error e => exact ⟨h.stored, hmore, h.distinct⟩
  | ok r =>
    obtain ⟨credential, db⟩ := r
    rcases CredentialCall.exec_fingerprint hexec with
      ⟨device, secret, hsecret, rfl, hdb⟩ | ⟨rfl, hdb⟩
    · refine ⟨fun id => ?_, fun c hc => ?_, ?_⟩
      · show db.fingerprint id =
          (current ⟨db, (device, device.text ++ ":" ++ secret) :: s.issued⟩ id).map _
        rw [hdb, current_cons, h.stored]
        split <;> rfl
      · rcases List.mem_cons.1 hc with rfl | hc
        · exact ⟨secret, by simp [hsecret], rfl⟩
        · exact hmore c hc
      · refine List.nodup_cons.2 ⟨fun hmem => ?_, h.distinct⟩
        obtain ⟨secret', hused, htoken⟩ := h.drawn _ hmem
        obtain rfl : secret = secret' := by simpa [String.append_assoc] using htoken
        exact hfresh secret hsecret hused
    · exact ⟨fun id => (hdb id).trans (h.stored id), hmore, h.distinct⟩

/-- The accounts of a run. -/
theorem Accounts.run (h : s.Accounts P used) {calls : List (CredentialCall × Choice)}
    (hfresh : (used ++ secretsOf calls).Nodup) :
    (s.run P calls).Accounts P (used ++ secretsOf calls) := by
  induction calls generalizing s used with
  | nil => simpa [secretsOf, Session.run] using h
  | cons call calls ih =>
    have hsplit : used ++ secretsOf (call :: calls) =
        (used ++ call.1.secret?.toList) ++ secretsOf calls := by
      cases hsecret : call.1.secret? <;> simp [secretsOf, hsecret]
    rw [hsplit] at hfresh ⊢
    refine ih (h.step fun secret hsecret hused => ?_) hfresh
    have := (List.nodup_append.1 (List.nodup_append.1 hfresh).1).2.2 secret hused secret
      (by simp [hsecret])
    exact this rfl

/-- The accounts of a run from a store without devices. -/
theorem accounts {db : PooledDb} (hempty : db.devices.rows = [])
    {calls : List (CredentialCall × Choice)} (hfresh : (secretsOf calls).Nodup) :
    ((⟨db, []⟩ : Session).run P calls).Accounts P (secretsOf calls) := by
  have h0 : (⟨db, []⟩ : Session).Accounts P [] := by
    refine ⟨fun device => ?_, fun _ h => absurd h List.not_mem_nil, List.nodup_nil⟩
    simp only [PooledDb.fingerprint, Table.find?, hempty]
    rfl
  have hrun : ((⟨db, []⟩ : Session).run P calls).Accounts P ([] ++ secretsOf calls) :=
    h0.run (by simpa using hfresh)
  simpa using hrun

end Session

/-! ## Which tokens authenticate -/

/-- The token, with the actor if one is named, authenticates the device. -/
def Authenticates (P : Platform) (s : MnemesStore M) (x : Choice) (raw : String)
    (actorId : Option ActorId) (device : DeviceId) : Prop :=
  ∃ row actor, ((authenticateRequest P raw actorId).run.alone x s).1 = some (.ok (row, actor)) ∧
    row.deviceId = device

/-- A token is verified exactly if its digest is stored. -/
theorem verifyCredential_iff {stored : Option String} {token : String} :
    verifyCredential P stored token = true ↔ stored = some (tokenDigest P token) := by
  cases stored <;> simp [verifyCredential, tokenDigest]

/-- A token gives a device exactly if the device is active and stores the digest of its credential.
-/
theorem tokenDeviceId_eq_ok {db : PooledDb} {token : String} {row : Device}
    {fingerprint : Option String} :
    db.tokenDeviceId P token = .ok (row, fingerprint) ↔
      db.devices.find? row.deviceId = some row ∧ row.status = .active ∧
      fingerprint = row.credentialFingerprint ∧
      ∃ secret, parseAuthorizationToken P token = .ok (row.deviceId, secret) ∧
        row.credentialFingerprint = some (tokenDigest P (row.deviceId.text ++ ":" ++ secret)) := by
  simp only [PooledDb.tokenDeviceId, bind_eq_ok, guard_eq_ok, okOr_eq_ok, Bool.not_eq_true',
    Bool.not_eq_false, verifyCredential_iff, not_not]
  constructor
  · rintro ⟨⟨device, secret⟩, hparse, row', hrow, hactive, hverify, hret⟩
    cases hret
    obtain rfl : row.deviceId = device := (Table.find?_eq_some.1 hrow).2
    exact ⟨hrow, hactive, rfl, secret, hparse, hverify⟩
  · rintro ⟨hrow, hactive, rfl, secret, hparse, hverify⟩
    exact ⟨(row.deviceId, secret), hparse, row, hrow, hactive, hverify, rfl⟩

/-- A token authenticates a device by its row, its stored digest and the actor's device. -/
theorem authenticates_iff {s : MnemesStore M} {x : Choice} (hx : x.fault = none) {raw : String}
    {actorId : Option ActorId} {device : DeviceId} :
    Authenticates P s x raw actorId device ↔
      (∃ row, s.db.devices.find? device = some row ∧ row.status = .active) ∧
      (∃ secret, parseAuthorizationToken P raw = .ok (device, secret) ∧
        s.db.fingerprint device = some (tokenDigest P (device.text ++ ":" ++ secret))) ∧
      ∀ id, actorId = some id →
        ∃ actor, s.db.actors.find? id = some actor ∧ actor.deviceId = device := by
  unfold Authenticates
  rw [authenticateRequest_alone hx]
  simp only [Option.some.injEq, PooledDb.authenticate, bind_eq_ok]
  constructor
  · rintro ⟨row, actor, ⟨⟨row', fingerprint⟩, htoken, hactor⟩, rfl⟩
    obtain ⟨hrow, hactive, -, secret, hparse, hstored⟩ := tokenDeviceId_eq_ok.1 htoken
    cases actorId with
    | none =>
      cases hactor
      exact ⟨⟨_, hrow, hactive⟩,
        ⟨secret, hparse, by rw [PooledDb.fingerprint, hrow]; exact hstored⟩, fun _ h => by cases h⟩
    | some id =>
      simp only [bind_eq_ok, guard_eq_ok, okOr_eq_ok, not_not] at hactor
      obtain ⟨actor', hfind, hdev, hret⟩ := hactor
      cases hret
      refine ⟨⟨_, hrow, hactive⟩,
        ⟨secret, hparse, by rw [PooledDb.fingerprint, hrow]; exact hstored⟩, fun id' hid => ?_⟩
      cases hid
      exact ⟨actor', hfind, hdev⟩
  · rintro ⟨⟨row, hrow, hactive⟩, ⟨secret, hparse, hstored⟩, hactor⟩
    obtain rfl : row.deviceId = device := (Table.find?_eq_some.1 hrow).2
    rw [PooledDb.fingerprint, hrow] at hstored
    have htoken : s.db.tokenDeviceId P raw = .ok (row, row.credentialFingerprint) :=
      tokenDeviceId_eq_ok.2 ⟨hrow, hactive, rfl, secret, hparse, hstored⟩
    cases actorId with
    | none => exact ⟨row, none, ⟨_, htoken, rfl⟩, rfl⟩
    | some id =>
      obtain ⟨actor, hfind, hdev⟩ := hactor id rfl
      refine ⟨row, some actor, ⟨_, htoken, ?_⟩, rfl⟩
      simp only [bind_eq_ok, guard_eq_ok, okOr_eq_ok, not_not]
      exact ⟨actor, hfind, hdev, rfl⟩

/-- Digests tell tokens apart that SHA-256 tells apart. -/
theorem tokenDigest_inj {inputs : Set Bytes} (hinj : Set.InjOn P.sha256 inputs) {a b : String}
    (ha : utf8 a ∈ inputs) (hb : utf8 b ∈ inputs) (h : tokenDigest P a = tokenDigest P b) :
    a = b := by
  have hhex : sha256Hex P a = sha256Hex P b := by simpa [tokenDigest] using h
  have hsha := hinj ha hb (Vector.toList_inj.1 (hex_inj hhex))
  exact utf8_inj.1 hsha

/-- In every sequential run whose secrets are those of `Alphanumeric.sample_string`, and where
SHA-256 tells the tokens apart, a token authenticates a device exactly where the device is active,
the token presents the credential issued to it last, and an actor that is named belongs to it. No
earlier credential of the device and no other device's credential authenticates it. -/
theorem credential_validity {db : PooledDb} (hempty : db.devices.rows = [])
    {calls : List (CredentialCall × Choice)} (hgen : Generated (secretsOf calls))
    {s : MnemesStore M} (hs : s.db = ((⟨db, []⟩ : Session).run P calls).db)
    {raw : String} {inputs : Set Bytes} (hinj : Set.InjOn P.sha256 inputs)
    (hissued : ∀ c ∈ ((⟨db, []⟩ : Session).run P calls).issued, utf8 c.2 ∈ inputs)
    (hraw : ∀ device token, Presents P raw device token → utf8 token ∈ inputs)
    {x : Choice} (hx : x.fault = none) (actorId : Option ActorId) (device : DeviceId) :
    (Authenticates P s x raw actorId device ↔
      (∃ row, s.db.devices.find? device = some row ∧ row.status = .active) ∧
      (∃ token, ((⟨db, []⟩ : Session).run P calls).current device = some token ∧
        Presents P raw device token) ∧
      ∀ id, actorId = some id →
        ∃ actor, s.db.actors.find? id = some actor ∧ actor.deviceId = device) ∧
    (∀ newer token older,
      ((⟨db, []⟩ : Session).run P calls).issued = newer ++ (device, token) :: older →
      (∃ c ∈ newer, c.1 = device) → Presents P raw device token →
        ¬ Authenticates P s x raw actorId device) ∧
    ∀ c ∈ ((⟨db, []⟩ : Session).run P calls).issued, c.1 ≠ device → Presents P raw c.1 c.2 →
      ¬ Authenticates P s x raw actorId device := by
  have hacc := Session.accounts hempty (P := P) hgen.distinct
  generalize (⟨db, []⟩ : Session).run P calls = session at hacc hs hissued ⊢
  -- the stored digest is that of the current credential
  have hiff : Authenticates P s x raw actorId device ↔
      (∃ row, s.db.devices.find? device = some row ∧ row.status = .active) ∧
      (∃ token, session.current device = some token ∧ Presents P raw device token) ∧
      ∀ id, actorId = some id →
        ∃ actor, s.db.actors.find? id = some actor ∧ actor.deviceId = device := by
    rw [authenticates_iff hx]
    refine and_congr_right fun _ => and_congr_left fun _ => ?_
    rw [hs, hacc.stored]
    constructor
    · rintro ⟨secret, hparse, hstored⟩
      obtain ⟨token, hcurrent, hdigest⟩ := Option.map_eq_some_iff.1 hstored
      obtain ⟨-, spelling, htrim, hcolon, hspelled⟩ := parseAuthorizationToken_eq_ok.1 hparse
      have hpresents : Presents P raw device (device.text ++ ":" ++ secret) :=
        ⟨spelling, secret, htrim, hcolon, hspelled, rfl⟩
      have htoken : token = device.text ++ ":" ++ secret :=
        tokenDigest_inj hinj (hissued _ (Session.mem_of_current hcurrent)) (hraw _ _ hpresents)
          hdigest
      exact ⟨token, hcurrent, htoken ▸ hpresents⟩
    · rintro ⟨token, hcurrent, spelling, secret, htrim, hcolon, hspelled, rfl⟩
      refine ⟨secret, parseAuthorizationToken_eq_ok.2 ⟨?_, spelling, htrim, hcolon, hspelled⟩, ?_⟩
      · obtain ⟨secret', hsecret, htoken⟩ := hacc.drawn _ (Session.mem_of_current hcurrent)
        obtain rfl : secret = secret' := by simpa [String.append_assoc] using htoken
        intro hempty
        have hlength := (hgen.alphanumeric _ hsecret).1
        rw [hempty] at hlength
        exact absurd hlength (by decide)
      · rw [hcurrent]
        rfl
  refine ⟨hiff, fun newer token older hsplit ⟨c, hc, hdev⟩ hpresents hauth => ?_,
    fun c hc hdev hpresents hauth => ?_⟩
  · obtain ⟨-, ⟨token', hcurrent, hpresents'⟩, -⟩ := hiff.1 hauth
    obtain ⟨-, rfl⟩ := hpresents.unique hpresents'
    -- the credential issued last is among the newer ones, and none is issued twice
    have hnewer : (device, token) ∈ newer := by
      obtain ⟨⟨device', token'⟩, hfind, htoken⟩ := Option.map_eq_some_iff.1 hcurrent
      obtain rfl : token' = token := htoken
      rw [hsplit, List.find?_append] at hfind
      cases hfirst : newer.find? (fun c => decide (c.1 = device)) with
      | none => exact absurd hdev (by simpa using List.find?_eq_none.1 hfirst c hc)
      | some c' =>
        rw [hfirst, Option.some_or] at hfind
        obtain rfl := Option.some.inj hfind
        obtain rfl : device' = device := by simpa using List.find?_some hfirst
        exact List.mem_of_find?_eq_some hfirst
    have hnodup := hacc.distinct
    rw [hsplit] at hnodup
    exact (List.nodup_append.1 hnodup).2.2 _ hnewer _ List.mem_cons_self rfl
  · obtain ⟨-, ⟨token', -, hpresents'⟩, -⟩ := hiff.1 hauth
    exact hdev (hpresents.unique hpresents').1

namespace Sample

/-- Two secrets, drawn one after the other. -/
def firstSecret : String := "Qm7XcT2vLk9RzWb4NfHs8JdPy3GaUe6VtCx1MiBoKq5SwDlEhYgZrFnAjOpIu0Qm"
def secondSecret : String := "b4NfHs8JdPy3GaUe6VtCx1MiBoKq5SwDlEhYgZrFnAjOpIu0QmQm7XcT2vLk9RzW"

def digestFirst : Bytes32 :=
  #v[146, 98, 86, 212, 125, 220, 107, 21, 86, 131, 36, 232, 53, 13, 84, 64, 2, 131, 47, 243, 3, 15,
    168, 11, 54, 142, 150, 91, 119, 43, 87, 251]

def digestSecond : Bytes32 :=
  #v[87, 164, 55, 134, 7, 149, 51, 93, 13, 181, 155, 120, 174, 253, 2, 45, 130, 249, 203, 173, 61,
    183, 34, 52, 42, 154, 206, 8, 144, 220, 225, 22]

/-- The token of device A with a secret. -/
def tokenA (secret : String) : String := deviceA.text ++ ":" ++ secret

/-- The other crates, on two tokens and on device A's canonical, simple, upper-case and URN
spelling. -/
def credentialPlatform : Platform where
  uuidParseStr value :=
    if value = deviceA.text ∨ value = "7c9e6679742540de944be07fc1f90ae7" ∨
        value = "7C9E6679-7425-40DE-944B-E07FC1F90AE7" ∨ value = "urn:uuid:" ++ deviceA.text then
      .ok ⟨deviceA.text, true, true⟩
    else .error "invalid character"
  uuid_canonical h := by split at h <;> cases h; simp
  sha256 bytes :=
    if bytes = utf8 (tokenA firstSecret) then digestFirst
    else if bytes = utf8 (tokenA secondSecret) then digestSecond
    else Vector.replicate 32 0
  verifyingKey := platform.verifyingKey
  verify := platform.verify
  verifyingKeyOf := platform.verifyingKeyOf
  sign := platform.sign

/-- Device A is registered with a credential, which is then rotated. -/
def credentialCalls : List (CredentialCall × Choice) :=
  [(.registerDeviceWithGeneratedCredential (device deviceA digestCredentialA) firstSecret, plain),
    (.rotateDeviceCredential deviceA secondSecret, plain)]

/-- A database without rows. -/
def blankDb : PooledDb where
  devices := .empty
  actors := .empty
  operations := .empty
  deviceShards := .empty
  replication := fun _ => ⟨.empty, .empty⟩

/-- The store after the rotation. -/
def rotatedStore : MnemesStore memory where
  db := ((⟨blankDb, []⟩ : Session).run credentialPlatform credentialCalls).db
  gate _ := none
  shards _ := []

/-- The secrets of the calls are distinct, of 64 letters and digits. -/
theorem generated : Generated (secretsOf credentialCalls) where
  distinct := by decide +kernel
  alphanumeric := by
    intro secret hsecret
    have : secret = firstSecret ∨ secret = secondSecret := by simpa [secretsOf, credentialCalls,
      CredentialCall.secret?] using hsecret
    rcases this with rfl | rfl <;> decide +kernel

/-- What is hashed for the tokens of device A. -/
def tokenInputs : Set Bytes := {utf8 (tokenA firstSecret), utf8 (tokenA secondSecret)}

/-- The digests of the tokens are distinct. -/
theorem tokenInputs_injOn : Set.InjOn credentialPlatform.sha256 tokenInputs := by
  have hne : credentialPlatform.sha256 (utf8 (tokenA firstSecret)) ≠
      credentialPlatform.sha256 (utf8 (tokenA secondSecret)) := by decide +kernel
  rintro a (rfl | rfl) b (rfl | rfl) hab
  · rfl
  · exact absurd hab hne
  · exact absurd hab.symm hne
  · rfl

/-- Two credentials are issued to the device, the second one last. -/
theorem issued_eq : ((⟨blankDb, []⟩ : Session).run credentialPlatform credentialCalls).issued =
    [(deviceA, tokenA secondSecret), (deviceA, tokenA firstSecret)] := by decide +kernel

/-- A spelling that names the device parses as it. -/
theorem parse_deviceA {spelling : String}
    (h : (DeviceId.parse credentialPlatform spelling).toOption = some deviceA) :
    DeviceId.parse credentialPlatform spelling = .ok deviceA := by
  cases hparse : DeviceId.parse credentialPlatform spelling with
  | error e => rw [hparse] at h; cases h
  | ok device => rw [hparse] at h; exact congrArg _ (Option.some.inj h)

end Sample

open Sample in
/-- The rotated credential authenticates, in upper case and between white space; the first one no
longer does. -/
theorem credential_validity_sample :
    Authenticates credentialPlatform rotatedStore plain
        (" 7C9E6679-7425-40DE-944B-E07FC1F90AE7:" ++ secondSecret ++ "\n") none deviceA ∧
      ¬ Authenticates credentialPlatform rotatedStore plain (tokenA firstSecret) none deviceA := by
  have hissued : ∀ c ∈ ((⟨blankDb, []⟩ : Session).run credentialPlatform credentialCalls).issued,
      utf8 c.2 ∈ tokenInputs := by
    rw [issued_eq]
    intro c hc
    rcases List.mem_cons.1 hc with rfl | hc
    · exact .inr rfl
    · rw [List.mem_singleton.1 hc]
      exact .inl rfl
  have hsecond : Presents credentialPlatform
      (" 7C9E6679-7425-40DE-944B-E07FC1F90AE7:" ++ secondSecret ++ "\n") deviceA
      (tokenA secondSecret) :=
    ⟨"7C9E6679-7425-40DE-944B-E07FC1F90AE7", secondSecret, by decide +kernel, by decide,
      parse_deviceA (by decide +kernel), rfl⟩
  have hfirst : Presents credentialPlatform (tokenA firstSecret) deviceA (tokenA firstSecret) :=
    ⟨deviceA.text, firstSecret, by decide +kernel, by decide, parse_deviceA (by decide +kernel),
      rfl⟩
  have hdevice : (rotatedStore.db.devices.find? deviceA).any (·.status = .active) = true := by
    decide +kernel
  obtain ⟨row, hrow, hactive⟩ := (Option.any_eq_true _ _).1 hdevice
  constructor
  · refine (credential_validity (M := memory) rfl generated rfl tokenInputs_injOn hissued
      (fun device token h => ?_) rfl none deviceA).1.2
      ⟨⟨row, hrow, by simpa using hactive⟩, ⟨tokenA secondSecret, ?_, hsecond⟩, nofun⟩
    · rw [← (hsecond.unique h).2]
      exact .inr rfl
    · rw [Session.current, issued_eq]
      decide +kernel
  · refine (credential_validity (M := memory) rfl generated rfl tokenInputs_injOn hissued
      (fun device token h => ?_) rfl none deviceA).2.1 [(deviceA, tokenA secondSecret)]
      (tokenA firstSecret) [] issued_eq ⟨_, List.mem_singleton_self _, rfl⟩ hfirst
    rw [← (hfirst.unique h).2]
    exact .inl rfl

open Sample in
/-- The URN spelling of a UUID has colons: a token with it is split in front of the UUID, so the
current credential of an active device is refused in this spelling. -/
theorem urn_spelling_refused :
    Generated (secretsOf credentialCalls) ∧ Set.InjOn credentialPlatform.sha256 tokenInputs ∧
      ((⟨blankDb, []⟩ : Session).run credentialPlatform credentialCalls).current deviceA =
        some (deviceA.text ++ ":" ++ secondSecret) ∧
      (rotatedStore.db.devices.find? deviceA).map (·.status) = some .active ∧
      DeviceId.parse credentialPlatform ("urn:uuid:" ++ deviceA.text) = .ok deviceA ∧
      ¬ Authenticates credentialPlatform rotatedStore plain
        ("urn:uuid:" ++ deviceA.text ++ ":" ++ secondSecret) none deviceA := by
  refine ⟨generated, tokenInputs_injOn, by decide +kernel, by decide +kernel,
    parse_deviceA (by decide +kernel), fun hauth => ?_⟩
  obtain ⟨-, ⟨secret, hparse, -⟩, -⟩ := (authenticates_iff rfl).1 hauth
  have hrefused : (parseAuthorizationToken credentialPlatform
      ("urn:uuid:" ++ deviceA.text ++ ":" ++ secondSecret)).toOption = none := by decide +kernel
  rw [hparse] at hrefused
  cases hrefused

end Mnemes
