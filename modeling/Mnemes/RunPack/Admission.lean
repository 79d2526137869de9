import Mnemes.Receipts
import Mnemes.Provenance.Edges

/-!
# Admitting a run pack

What `import_run_pack_observation` asks of its bytes before it looks at the database
(`run_pack.rs`): they are a projection of a run pack with a witness of its admission, and the
witness carries the HMAC of its other fields under the server's key and names the digests of the
projection (`RunPackAdmissionEnvelope.Attested`).

Reading the JSON of an envelope enters as a parameter. Writing JSON and taking an HMAC key do not
fail.
-/

namespace Mnemes

/-! ## Envelopes -/

structure Verification where
  verifierContractVersion : String
  verifiedAt : String
  verificationReceiptDigest : String
  outcome : String
  deriving DecidableEq, Repr

structure Vault where
  objectId : String
  relativeRef : String
  retentionState : String
  deriving DecidableEq, Repr

structure Origin where
  operatorAdapter : String
  sourceDeviceRef : Option String
  observedAt : Option String
  recordedAt : String
  deriving DecidableEq, Repr

structure EventSummary where
  terminalState : String
  receiptChainDigest : String
  artifactDigests : List String
  deriving DecidableEq, Repr

/-- The frozen projection of a run pack. -/
structure RunPackEvidenceProjectionV1 where
  schema : String
  projectionId : String
  runId : String
  packManifestDigest : String
  packContentDigest : String
  verification : Verification
  vault : Vault
  origin : Origin
  eventSummary : EventSummary
  deriving DecidableEq, Repr

/-- What the server attests of a projection. -/
structure RunPackAdmissionWitnessV1 where
  format : String
  canonicalProjectionDigest : String
  packManifestDigest : String
  packContentDigest : String
  verificationReceiptDigest : String
  verified : Bool
  signature : String
  deriving DecidableEq, Repr

structure RunPackAdmissionEnvelope where
  projection : RunPackEvidenceProjectionV1
  admissionWitness : RunPackAdmissionWitnessV1
  deriving DecidableEq, Repr

/-! ## Their JSON -/

open Json (Value)

/-- The projection, in the order of its fields. -/
def RunPackEvidenceProjectionV1.json (projection : RunPackEvidenceProjectionV1) : Value :=
  .object [("schema", .string projection.schema),
    ("projection_id", .string projection.projectionId), ("run_id", .string projection.runId),
    ("pack_manifest_digest", .string projection.packManifestDigest),
    ("pack_content_digest", .string projection.packContentDigest),
    ("verification", .object [
      ("verifier_contract_version", .string projection.verification.verifierContractVersion),
      ("verified_at", .string projection.verification.verifiedAt),
      ("verification_receipt_digest", .string projection.verification.verificationReceiptDigest),
      ("outcome", .string projection.verification.outcome)]),
    ("vault", .object [("object_id", .string projection.vault.objectId),
      ("relative_ref", .string projection.vault.relativeRef),
      ("retention_state", .string projection.vault.retentionState)]),
    ("origin", .object [("operator_adapter", .string projection.origin.operatorAdapter),
      ("source_device_ref", optionJson projection.origin.sourceDeviceRef),
      ("observed_at", optionJson projection.origin.observedAt),
      ("recorded_at", .string projection.origin.recordedAt)]),
    ("event_summary", .object [("terminal_state", .string projection.eventSummary.terminalState),
      ("receipt_chain_digest", .string projection.eventSummary.receiptChainDigest),
      ("artifact_digests", textsJson projection.eventSummary.artifactDigests)])]

/-- What the signature of a witness covers: its other fields, in the order of a JSON map. -/
def RunPackAdmissionWitnessV1.signed (witness : RunPackAdmissionWitnessV1) : Value :=
  .object [("canonical_projection_digest", .string witness.canonicalProjectionDigest),
    ("format", .string witness.format),
    ("pack_content_digest", .string witness.packContentDigest),
    ("pack_manifest_digest", .string witness.packManifestDigest),
    ("verification_receipt_digest", .string witness.verificationReceiptDigest),
    ("verified", .bool witness.verified)]

/-! ## Digests -/

/-- The value of a hexadecimal digit of either case. -/
def hexValue (c : Char) : Option Nat :=
  if '0' ≤ c ∧ c ≤ '9' then some (c.toNat - '0'.toNat)
  else if 'a' ≤ c ∧ c ≤ 'f' then some (c.toNat - 'a'.toNat + 10)
  else if 'A' ≤ c ∧ c ≤ 'F' then some (c.toNat - 'A'.toNat + 10)
  else none

/-- The bytes that pairs of hexadecimal digits write. -/
def hexBytes : List Char → Option Bytes
  | [] => some []
  | [_] => none
  | high :: low :: rest => do
    let high ← hexValue high
    let low ← hexValue low
    let bytes ← hexBytes rest
    return UInt8.ofNat (high * 16 + low) :: bytes

/-- `hex::decode`. -/
def hexDecode (text : String) : Option Bytes := hexBytes text.toList

variable (P : Platform) (C : Chrono)

/-- The digest of some bytes, as the control plane writes it. -/
def contentDigest (bytes : Bytes) : String := "sha256:" ++ hex (P.sha256 bytes).toList

/-- The `hmac` crate's HMAC-SHA-256 of a key of any length: one longer than a block is hashed. -/
def hmacSha256Slice (key message : Bytes) : Bytes32 :=
  let key := if 64 < key.length then (P.sha256 key).toList else key
  let block := key ++ List.replicate (64 - key.length) 0
  P.sha256 (block.map (· ^^^ 0x5C) ++ (P.sha256 (block.map (· ^^^ 0x36) ++ message)).toList)

/-- `valid_digest`: 64 hexadecimal digits in lower case. -/
def validDigest (value : String) : Bool :=
  (utf8 value).length = 64 &&
    value.toList.all fun c => ('0' ≤ c && c ≤ '9') || ('a' ≤ c && c ≤ 'f')

/-- The reference leaves its root. -/
def escapesRoot (relativeRef : String) : Bool :=
  relativeRef.toList.head? = some '/' ||
    (relativeRef.toList.splitOn '/').any fun part => part = ['.', '.']

/-- The digests of a projection. -/
def RunPackEvidenceProjectionV1.digests (projection : RunPackEvidenceProjectionV1) : List String :=
  [projection.projectionId, projection.packManifestDigest, projection.packContentDigest,
    projection.verification.verificationReceiptDigest,
    projection.eventSummary.receiptChainDigest] ++ projection.eventSummary.artifactDigests

/-! ## Admission -/

/-- The witness is signed with the key, and attests this projection. -/
structure RunPackAdmissionEnvelope.Attested (key : Bytes) (envelope : RunPackAdmissionEnvelope) :
    Prop where
  signature : (hexDecode envelope.admissionWitness.signature).getD [] =
    (hmacSha256Slice P key (utf8 envelope.admissionWitness.signed.toText)).toList
  format : envelope.admissionWitness.format = "mnemes.run-pack-admission-witness/v1"
  verified : envelope.admissionWitness.verified = true
  canonical : envelope.admissionWitness.canonicalProjectionDigest =
    contentDigest P (utf8 envelope.projection.json.toText)
  manifest : envelope.admissionWitness.packManifestDigest = envelope.projection.packManifestDigest
  content : envelope.admissionWitness.packContentDigest = envelope.projection.packContentDigest
  receipt : envelope.admissionWitness.verificationReceiptDigest =
    envelope.projection.verification.verificationReceiptDigest
  digests : ∀ digest ∈ envelope.projection.digests, validDigest digest = true

/-- `parse_time`. -/
def parseTime (value : String) : Except MnemesError Rfc3339.DateTime :=
  (C.parseFromRfc3339 value).mapError fun e => .invalidProvenance s!"invalid observed_at: {e}"

/-- The observed time of a projection, if it has one. -/
def RunPackEvidenceProjectionV1.observedTime (projection : RunPackEvidenceProjectionV1) :
    Except MnemesError (Option Rfc3339.DateTime) :=
  match projection.origin.observedAt with
  | none => .ok none
  | some value => (parseTime C value).map some

/-- The checks that `import_run_pack_observation` makes of its bytes: the projection they carry, and
the time it was observed. -/
def admitRunPack (fromSlice : Bytes → Except String RunPackAdmissionEnvelope) (bytes : Bytes)
    (attestationKey : Option Bytes) :
    Except MnemesError (RunPackEvidenceProjectionV1 × Option Rfc3339.DateTime) := do
  let envelope ← (fromSlice bytes).mapError fun e =>
    .invalidProvenance s!"invalid run-pack admission envelope: {e}"
  let projection := envelope.projection
  let witness := envelope.admissionWitness
  let key ← okOr attestationKey
    (.invalidProvenance "run-pack admission attestation is not configured")
  let canonicalDigest := contentDigest P (utf8 projection.json.toText)
  let expected := hmacSha256Slice P key (utf8 witness.signed.toText)
  let supplied := (hexDecode witness.signature).getD []
  if supplied ≠ expected.toList then
    throw (.invalidProvenance "invalid run-pack admission witness signature")
  if witness.format ≠ "mnemes.run-pack-admission-witness/v1" ∨ ¬ witness.verified ∨
      witness.canonicalProjectionDigest ≠ canonicalDigest ∨
      witness.packManifestDigest ≠ projection.packManifestDigest ∨
      witness.packContentDigest ≠ projection.packContentDigest ∨
      witness.verificationReceiptDigest ≠ projection.verification.verificationReceiptDigest then
    throw (.invalidProvenance
      "missing or mismatched server-attested run-pack admission witness")
  if projection.schema ≠ "RunPackEvidenceProjectionV1" ∨
      projection.verification.outcome ≠ "verified" then
    throw (.invalidProvenance "unsupported or unverified run-pack projection")
  if projection.digests.any fun digest => !validDigest digest then
    throw (.invalidProvenance "run-pack projection contains an invalid content digest")
  if projection.vault.retentionState ∉
      ["available", "quarantined", "pack_unavailable", "tampered", "superseded"] then
    throw (.invalidProvenance "unsupported run-pack retention state")
  if escapesRoot projection.vault.relativeRef then
    throw (.invalidProvenance "run-pack vault reference escapes its root")
  let observedAt ← projection.observedTime C
  return (projection, observedAt)

section
variable {P} {C} {fromSlice : Bytes → Except String RunPackAdmissionEnvelope} {bytes : Bytes}
  {attestationKey : Option Bytes} {projection : RunPackEvidenceProjectionV1}
  {observedAt : Option Rfc3339.DateTime}

/-- What is admitted is attested, and its observed time was read. -/
theorem admitRunPack_eq_ok
    (h : admitRunPack P C fromSlice bytes attestationKey = .ok (projection, observedAt)) :
    (∃ envelope key, fromSlice bytes = .ok envelope ∧ attestationKey = some key ∧
      envelope.projection = projection ∧ envelope.Attested P key) ∧
      projection.observedTime C = .ok observedAt := by
  simp only [admitRunPack, bind_eq_ok, mapError_eq_ok, okOr_eq_ok, guard_eq_ok] at h
  obtain ⟨envelope, henvelope, key, hkey, hsignature, hbinds, -, hdigests, -, -, observed,
    hobserved, h⟩ := h
  cases h
  simp only [not_or, not_not] at hsignature hbinds
  obtain ⟨hformat, hverified, hcanonical, hmanifest, hcontent, hreceipt⟩ := hbinds
  refine ⟨⟨envelope, key, henvelope, hkey, rfl, ⟨hsignature, hformat, hverified, hcanonical,
    hmanifest, hcontent, hreceipt, fun digest hdigest => ?_⟩⟩, hobserved⟩
  rw [Bool.not_eq_true, List.any_eq_false] at hdigests
  simpa using hdigests digest hdigest

/-- A hexadecimal digit is neither white space nor `NUL`. -/
theorem hexDigit_plain {c : Char}
    (h : (('0' ≤ c && c ≤ '9') || ('a' ≤ c && c ≤ 'f')) = true) :
    isWhitespace c = false ∧ c ≠ '\x00' := by
  have hrange : 0x30 ≤ c.val.toNat ∧ c.val.toNat ≤ 0x66 := by
    simp only [Bool.or_eq_true, Bool.and_eq_true, decide_eq_true_eq, Char.le_def,
      UInt32.le_iff_toNat_le] at h
    have h0 : ('0' : Char).val.toNat = 0x30 := rfl
    have h9 : ('9' : Char).val.toNat = 0x39 := rfl
    have ha : ('a' : Char).val.toNat = 0x61 := rfl
    have hf : ('f' : Char).val.toNat = 0x66 := rfl
    omega
  constructor
  · simp only [isWhitespace, UInt32.le_iff_toNat_le, ← UInt32.toNat_inj, Bool.or_eq_false_iff,
      Bool.and_eq_false_iff, decide_eq_false_iff_not, UInt32.reduceToNat]
    omega
  · rintro rfl
    exact absurd hrange.1 (by decide)

/-- A valid digest is not blank, for Rust nor for SQLite. -/
theorem validDigest_nonempty {value : String} (h : validDigest value = true) :
    (trim value).isEmpty = false ∧ sqlNonempty value = true := by
  rw [validDigest, Bool.and_eq_true, decide_eq_true_eq, List.all_eq_true] at h
  obtain ⟨hlength, hall⟩ := h
  cases hchars : value.toList with
  | nil =>
    rw [← String.ofList_toList (s := value), hchars, utf8_ofList] at hlength
    simp at hlength
  | cons c cs =>
    rw [hchars] at hall
    obtain ⟨hwhite, hnul⟩ := hexDigit_plain (hall c List.mem_cons_self)
    have hlast : ∀ d ∈ (c :: cs).reverse, isWhitespace d = false :=
      fun d hd => (hexDigit_plain (hall d (List.mem_reverse.1 hd))).1
    constructor
    · rw [trim, hchars, List.dropWhile_cons_of_neg (by simp [hwhite])]
      cases hrev : (c :: cs).reverse with
      | nil => simp at hrev
      | cons d ds =>
        rw [List.dropWhile_cons_of_neg (by simp [hlast d (by simp [hrev])])]
        simp
    · rw [sqlNonempty, hchars, List.takeWhile_cons_of_pos (by simpa using hnul)]
      rfl

end

end Mnemes
