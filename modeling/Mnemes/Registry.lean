import Mnemes.Lib.Lists
import Mnemes.Store

/-!
# Devices and credentials

The device registry (`store.rs`): reading a device or an actor, changing a device's status, and
authenticating a bearer token. Authentication reads the status with the stored fingerprint in one
section, and the whole device in a later one.
-/

namespace Mnemes

variable {M : SemanticMemory}

/-! ## Texts -/

/-- `sha256_hex`. -/
def sha256Hex (P : Platform) (value : String) : String := hex (P.sha256 (utf8 value)).toList

/-- `str::split_once` at a character. -/
def splitOnce (value : String) (at' : Char) : Option (String × String) :=
  match value.toList.span (· ≠ at') with
  | (_, []) => none
  | (before, _ :: after) => some (String.ofList before, String.ofList after)

/-- A text splits at the first occurrence of a character. -/
theorem splitOnce_eq_some {value before after : String} {c : Char} :
    splitOnce value c = some (before, after) ↔
      value = before ++ String.singleton c ++ after ∧ c ∉ before.toList := by
  unfold splitOnce
  constructor
  · intro h
    split at h
    · cases h
    · next l d rest hsplit =>
      cases h
      obtain ⟨hvalue, hall, hd⟩ := Lists.span_eq_cons.1 hsplit
      have hd : d = c := by simpa using hd
      subst hd
      refine ⟨String.toList_inj.1 (by simp [hvalue]), fun hmem => ?_⟩
      exact of_decide_eq_true (hall _ (by simpa using hmem)) rfl
  · rintro ⟨rfl, hc⟩
    have hsplit : (before ++ String.singleton c ++ after).toList.span (· ≠ c) =
        (before.toList, c :: after.toList) :=
      Lists.span_eq_cons.2 ⟨by simp, fun a ha => decide_eq_true fun he => hc (he ▸ ha), by simp⟩
    rw [hsplit]
    simp

/-! ## Devices and actors -/

/-- `get_device`; a failing query counts as no device. -/
def getDevice (device : DeviceId) : Op M (Option Device) :=
  poolReadOk (fun db => db.devices.find? device) fun row => [.deviceRead device row.status]

/-- `get_actor`; a failing query counts as no actor. -/
def getActor (actor : ActorId) : Op M (Option Actor) :=
  poolReadOk (fun db => db.actors.find? actor) fun _ => []

/-- `set_device_status`: one transaction over the device and its shard's catalog row. -/
def setDeviceStatus (device : DeviceId) (status : DeviceStatus) : Op M Unit :=
  poolConn fun db x =>
    match db.devices.find? device with
    | none => .error (.deviceNotFound device.text)
    | some _ =>
      let devices := db.devices.update (·.deviceId = device)
        ({ · with status := status, lastSeenAt := x.now }) fun _ => rfl
      let deviceShards := db.deviceShards.update (·.deviceId = device)
        ({ · with state := .ofDeviceStatus status }) fun _ => rfl
      .ok ((), { db with devices, deviceShards }, [.statusSet device status])

/-! ## Authentication -/

/-- `parse_authorization_token`: the device a token names, and its secret. -/
def parseAuthorizationToken (P : Platform) (raw : String) :
    Except MnemesError (DeviceId × String) :=
  match splitOnce (trim raw) ':' with
  | none => .error .invalidCredential
  | some (deviceIdValue, secret) =>
    if secret.isEmpty then .error .invalidCredential
    else ((DeviceId.parse P deviceIdValue).mapError .memory).map (·, secret)

/-- The device a token names. -/
def tokenDevice (P : Platform) (raw : String) : Option DeviceId :=
  (parseAuthorizationToken P raw).toOption.map (·.1)

/-- `DeviceCredential::verify`. -/
def verifyCredential (P : Platform) (stored : Option String) (token : String) : Bool :=
  match stored with
  | none => false
  | some storedValue => storedValue = "sha256:" ++ sha256Hex P token

/-- The first section of `token_device_id`: the stored fingerprint and the status. -/
def credentialRow (device : DeviceId) : Op M (Option (Option String × DeviceStatus)) :=
  poolReadOk (fun db => (db.devices.find? device).map fun row =>
      (row.credentialFingerprint, row.status))
    fun row => if row.2 = .active then [.statusChecked device] else []

/-- `token_device_id`. -/
def tokenDeviceId (P : Platform) (token : String) : Op M (Device × Option String) := do
  let (deviceId, secret) ← liftM (parseAuthorizationToken P token)
  match ← credentialRow deviceId with
  | none => throw .invalidCredential
  | some (storedFingerprint, status) =>
    if status ≠ .active then
      throw (.deviceNotActive s!"{deviceId.text} (status: {status.asStr})")
    if !verifyCredential P storedFingerprint (deviceId.text ++ ":" ++ secret) then
      throw .invalidCredential
    match ← getDevice deviceId with
    | none => throw (.deviceNotFound deviceId.text)
    | some device => return (device, storedFingerprint)

/-- `authenticate_request`. -/
def authenticateRequest (P : Platform) (token : String) (actorId : Option ActorId) :
    Op M (Device × Option Actor) := do
  let (device, _) ← tokenDeviceId P token
  match actorId with
  | none => return (device, none)
  | some actorId =>
    match ← getActor actorId with
    | none => throw (.actorNotFound actorId.text)
    | some actor =>
      if actor.deviceId ≠ device.deviceId then
        throw (.authorizationDenied "actor does not belong to device")
      return (device, some actor)

end Mnemes
