import Mnemes.Lib.Json
import Mnemes.Server

/-!
# What a signed batch is on the wire

A client builds a batch, signs it and sends its JSON projection; the server decodes the body with
`decode_json` (`replication/fact_create.rs`, `replication/fact_supersede.rs`). Decoding gives the
batch back, as long as its projection fits in 4 MiB (`signed_batches_decode`). The sender does not
look at that size, so what it signs may be too long (`oversized_batch_rejected`).

Byte arrays are written as arrays of decimal numbers, so a byte takes two to four on the wire.
-/

namespace Mnemes

open Json (Value)

/-! ## Projections -/

/-- A byte array. -/
def bytesJson (bytes : Bytes) : Value := .array (bytes.map fun byte => .number byte.toNat)

def FactCreateTransportEntryV1.json (entry : FactCreateTransportEntryV1) : Value :=
  .object [("sequence", .int entry.sequence.toInt), ("payload", bytesJson entry.payload),
    ("payload_digest", bytesJson entry.payloadDigest.toList),
    ("predecessor_digest", bytesJson entry.predecessorDigest.toList),
    ("journal_envelope_digest", bytesJson entry.journalEnvelopeDigest.toList)]

def SignedFactCreateBatchV1.json (b : SignedFactCreateBatchV1) : Value :=
  .object [("protocol_version", .number b.protocolVersion.toNat), ("batch_id", .string b.batchId),
    ("home_device_id", .string b.homeDeviceId), ("store_id", .string b.storeId),
    ("stream_epoch", .number b.streamEpoch.toNat),
    ("start_sequence", .int b.startSequence.toInt), ("entries", .array (b.entries.map (·.json))),
    ("signer_principal_id", .string b.signerPrincipalId),
    ("signer_role", .string b.signerRole.debug),
    ("signer_key_version", .number b.signerKeyVersion.toNat),
    ("observed_at", .number b.observedAt.toNat), ("fencing_token", .string b.fencingToken),
    ("signer_public_key", bytesJson b.signerPublicKey.toList),
    ("signature", bytesJson b.signature.toList)]

/-- The projection of a supersession, around the one the owner makes of its envelope. -/
def SignedFactSupersedeBatchV1.json (envelopeJson : ReplicaEnvelopeV1 → Value)
    (b : SignedFactSupersedeBatchV1) : Value :=
  .object [("protocol_family", .string b.protocolFamily),
    ("protocol_version", .number b.protocolVersion.toNat), ("batch_id", .string b.batchId),
    ("home_device_id", .string b.homeDeviceId), ("store_id", .string b.storeId),
    ("store_epoch", .number b.storeEpoch.toNat), ("writer_epoch", .number b.writerEpoch.toNat),
    ("owner_stream_epoch", .number b.ownerStreamEpoch.toNat),
    ("start_sequence", .int b.startSequence.toInt),
    ("entries", .array (b.entries.map fun envelope =>
      .object [("owner_envelope", envelopeJson envelope)])),
    ("signer_principal_id", .string b.signerPrincipalId),
    ("signer_role", .string b.signerRole.debug),
    ("signer_key_version", .number b.signerKeyVersion.toNat),
    ("observed_at", .number b.observedAt.toNat), ("fencing_token", .string b.fencingToken),
    ("signer_public_key", bytesJson b.signerPublicKey.toList),
    ("signature", bytesJson b.signature.toList)]

/-- `serde_json::to_vec`. -/
def toVec (projection : Value) : Bytes := utf8 projection.toText

/-! ## What is read back -/

/-- Byte strings are told apart by their JSON. -/
theorem bytesJson_inj {a b : Bytes} : bytesJson a = bytesJson b ↔ a = b := by
  rw [bytesJson, bytesJson, Value.array.injEq]
  refine (List.map_injective_iff.2 fun x y h => ?_).eq_iff
  exact UInt8.toNat_inj.1 (Value.number.inj h)

/-- Integers are told apart by their JSON. -/
theorem intJson_inj {a b : Int64} : Value.int a.toInt = Value.int b.toInt ↔ a = b :=
  ⟨fun h => Int64.toInt_inj.1 (Value.int_inj h), fun h => h ▸ rfl⟩

/-- Roles are told apart by their texts. -/
theorem debug_inj {a b : SignerRole} : a.debug = b.debug ↔ a = b := by
  cases a <;> cases b <;> decide

/-- Lists are told apart by their JSON, if their elements are. -/
theorem mapJson_inj {α : Type} {json : α → Value} (hjson : ∀ {a b}, json a = json b → a = b)
    {as bs : List α} : Value.array (as.map json) = .array (bs.map json) ↔ as = bs := by
  rw [Value.array.injEq]
  exact (List.map_injective_iff.2 fun _ _ => hjson).eq_iff

/-- Entries are told apart by their JSON. -/
theorem FactCreateTransportEntryV1.json_inj {a b : FactCreateTransportEntryV1}
    (h : a.json = b.json) : a = b := by
  simp only [json, Value.object.injEq, List.cons.injEq, Prod.mk.injEq, true_and, and_true,
    bytesJson_inj, intJson_inj, Vector.toList_inj] at h
  obtain ⟨h1, h2, h3, h4, h5⟩ := h
  cases a
  cases b
  congr

/-- Fact-create batches are told apart by their JSON. -/
theorem SignedFactCreateBatchV1.json_inj {a b : SignedFactCreateBatchV1} (h : a.json = b.json) :
    a = b := by
  simp only [json, Value.object.injEq, List.cons.injEq, Prod.mk.injEq, true_and, and_true,
    Value.number.injEq, Value.string.injEq, UInt16.toNat_inj, UInt64.toNat_inj, bytesJson_inj,
    intJson_inj, debug_inj, mapJson_inj FactCreateTransportEntryV1.json_inj, Vector.toList_inj] at h
  obtain ⟨h1, h2, h3, h4, h5, h6, h7, h8, h9, h10, h11, h12, h13, h14⟩ := h
  cases a
  cases b
  congr

/-- Fact-supersede batches are told apart by their JSON, if their envelopes are. -/
theorem SignedFactSupersedeBatchV1.json_inj {envelopeJson : ReplicaEnvelopeV1 → Value}
    (henvelope : ∀ {a b}, envelopeJson a = envelopeJson b → a = b)
    {a b : SignedFactSupersedeBatchV1} (h : a.json envelopeJson = b.json envelopeJson) : a = b := by
  have hentry : ∀ {x y : ReplicaEnvelopeV1}, Value.object [("owner_envelope", envelopeJson x)] =
      .object [("owner_envelope", envelopeJson y)] → x = y := fun h =>
    henvelope (Prod.mk.inj (List.cons.inj (Value.object.inj h)).1).2
  simp only [json, Value.object.injEq, List.cons.injEq, Prod.mk.injEq, true_and, and_true,
    Value.number.injEq, Value.string.injEq, UInt16.toNat_inj, UInt64.toNat_inj, bytesJson_inj,
    intJson_inj, debug_inj, mapJson_inj hentry, Vector.toList_inj] at h
  obtain ⟨h1, h2, h3, h4, h5, h6, h7, h8, h9, h10, h11, h12, h13, h14, h15, h16, h17⟩ := h
  cases a
  cases b
  congr

/-- Values are told apart by their bytes. -/
theorem toVec_inj {v w : Value} : toVec v = toVec w ↔ v = w :=
  ⟨fun h => Json.toText_injective (utf8_inj.1 h), fun h => h ▸ rfl⟩

/-! ## The other crates -/

/-- `serde_json` decodes its own output. -/
structure Wire.ReadsWritten (W : Wire) (envelopeJson : ReplicaEnvelopeV1 → Value) : Prop where
  factCreate (b : SignedFactCreateBatchV1) : W.factCreateFromSlice (toVec b.json) = .ok b
  factSupersede (b : SignedFactSupersedeBatchV1) :
    W.factSupersedeFromSlice (toVec (b.json envelopeJson)) = .ok b

/-- What a key signs verifies under its public key. -/
structure Platform.VerifiesSigned (P : Platform) : Prop where
  key (seed : Bytes32) : P.verifyingKey (P.verifyingKeyOf seed) = .ok ()
  signature (seed : Bytes32) (message : Bytes) :
    P.verify (P.verifyingKeyOf seed) message (P.sign seed message) = .ok ()

/-! ## Signing and validating -/

/-- Structure and preimage are not about the key and the signature. -/
theorem SignedFactCreateBatchV1.sign_eq_ok {P : Platform} {seed : Bytes32}
    {b b' : SignedFactCreateBatchV1} (h : b.sign P seed = .ok b') :
    b'.validateStructure = .ok () ∧ ∃ preimage, b'.signingPreimage = .ok preimage ∧
      b'.signerPublicKey = P.verifyingKeyOf seed ∧ b'.signature = P.sign seed preimage := by
  simp only [sign, bind_eq_ok] at h
  obtain ⟨⟨⟩, hstructure, preimage, hpreimage, h⟩ := h
  obtain rfl := Except.ok.inj h
  exact ⟨hstructure, preimage, hpreimage, rfl, rfl⟩

/-- A batch that was signed is well formed and carries the signature of its preimage. -/
theorem SignedFactSupersedeBatchV1.sign_eq_ok {P : Platform} {seed : Bytes32}
    {b b' : SignedFactSupersedeBatchV1} (h : b.sign P seed = .ok b') :
    (∃ envelope, b'.validateStructure = .ok envelope) ∧
      ∃ preimage, b'.signingPreimage = .ok preimage ∧
        b'.signerPublicKey = P.verifyingKeyOf seed ∧ b'.signature = P.sign seed preimage := by
  simp only [sign, bind_eq_ok] at h
  obtain ⟨envelope, hstructure, preimage, hpreimage, h⟩ := h
  obtain rfl := Except.ok.inj h
  exact ⟨⟨envelope, hstructure⟩, preimage, hpreimage, rfl, rfl⟩

/-- A signed batch whose records are the owner's is valid. -/
theorem SignedFactCreateBatchV1.validate_of_sign {P : Platform} (hP : P.VerifiesSigned)
    {M : SemanticMemory} {seed : Bytes32} {b b' : SignedFactCreateBatchV1}
    (h : b.sign P seed = .ok b') (howner : b'.validateEntries M b'.entries = .ok ()) :
    b'.validate P M = .ok () := by
  obtain ⟨hstructure, preimage, hpreimage, hkey, hsignature⟩ := sign_eq_ok h
  simp only [validate, bind_eq_ok, mapError_eq_ok]
  refine ⟨(), hstructure, (), howner, (), ?_, preimage, hpreimage, ?_⟩
  · rw [hkey, hP.key]
  · rw [hkey, hsignature, hP.signature]

/-- A batch that was signed, and whose payloads the owner accepts, has its envelope. -/
theorem SignedFactSupersedeBatchV1.semanticEnvelope_of_sign {P : Platform} (hP : P.VerifiesSigned)
    {M : SemanticMemory} {seed : Bytes32} {b b' : SignedFactSupersedeBatchV1}
    (h : b.sign P seed = .ok b')
    (howner : ∀ envelope ∈ b'.entries, ∃ payload,
      M.validateFactSupersedeReplicaEnvelope envelope = .ok payload) :
    ∃ envelope, b'.semanticEnvelope P M = .ok envelope := by
  obtain ⟨⟨envelope, hstructure⟩, preimage, hpreimage, hkey, hsignature⟩ := sign_eq_ok h
  obtain ⟨payload, hpayload⟩ := howner envelope (by simp [validateStructure_entries hstructure])
  refine ⟨envelope, ?_⟩
  simp only [semanticEnvelope, bind_eq_ok, mapError_eq_ok]
  refine ⟨envelope, hstructure, payload, hpayload, (), ?_, preimage, hpreimage, (), ?_, rfl⟩
  · rw [hkey, hP.key]
  · rw [hkey, hsignature, hP.signature]

/-! ## Decoding -/

/-- The answer to a body of a batch: the batch, or the error of a body that is too long. -/
def decoded {α : Type} (body : Bytes) (b : α) : Except ReplicationError α :=
  if body.length ≤ maxWireBytes then .ok b
  else .error (.fieldExceedsMaxLength "wire_body" body.length maxWireBytes)

/-- What a client builds and signs, with records the owner accepts, is decoded from its projection,
exactly if that fits in the wire limit; a longer one is rejected for its size. -/
theorem signed_batches_decode {P : Platform} {M : SemanticMemory} {W : Wire}
    {envelopeJson : ReplicaEnvelopeV1 → Value} (hP : P.VerifiesSigned)
    (hW : W.ReadsWritten envelopeJson) :
    (∀ batchId homeDeviceId storeId streamEpoch startSequence entries signerPrincipalId
        signerKeyVersion observedAt fencingToken seed b b',
      SignedFactCreateBatchV1.new batchId homeDeviceId storeId streamEpoch startSequence entries
        signerPrincipalId signerKeyVersion observedAt fencingToken = .ok b →
      b.sign P seed = .ok b' → b'.validateEntries M b'.entries = .ok () →
      SignedFactCreateBatchV1.decodeJson P M W (toVec b'.json) = decoded (toVec b'.json) b') ∧
    ∀ batchId homeDeviceId storeId storeEpoch writerEpoch ownerStreamEpoch startSequence entries
        signerPrincipalId signerKeyVersion observedAt fencingToken seed b b',
      SignedFactSupersedeBatchV1.new batchId homeDeviceId storeId storeEpoch writerEpoch
        ownerStreamEpoch startSequence entries signerPrincipalId signerKeyVersion observedAt
        fencingToken = .ok b →
      b.sign P seed = .ok b' →
      (∀ envelope ∈ b'.entries, ∃ payload,
        M.validateFactSupersedeReplicaEnvelope envelope = .ok payload) →
      SignedFactSupersedeBatchV1.decodeJson P M W (toVec (b'.json envelopeJson)) =
        decoded (toVec (b'.json envelopeJson)) b' := by
  constructor
  · intro _ _ _ _ _ _ _ _ _ _ seed b b' _ hsign howner
    have hvalid := SignedFactCreateBatchV1.validate_of_sign hP hsign howner
    unfold decoded
    split
    · next hlength =>
      simp only [SignedFactCreateBatchV1.decodeJson, bind_eq_ok, guard_eq_ok, mapError_eq_ok]
      exact ⟨Nat.not_lt.2 hlength, b', hW.factCreate b', (), hvalid, rfl⟩
    · next hlength => exact if_pos (Nat.lt_of_not_le hlength)
  · intro _ _ _ _ _ _ _ _ _ _ _ _ seed b b' _ hsign howner
    obtain ⟨envelope, hvalid⟩ :=
      SignedFactSupersedeBatchV1.semanticEnvelope_of_sign hP hsign howner
    unfold decoded
    split
    · next hlength =>
      simp only [SignedFactSupersedeBatchV1.decodeJson, bind_eq_ok, guard_eq_ok, mapError_eq_ok]
      exact ⟨Nat.not_lt.2 hlength, b', hW.factSupersede b', envelope, hvalid, rfl⟩
    · next hlength => exact if_pos (Nat.lt_of_not_le hlength)

/-! ## Sizes -/

/-- A text has at least one byte for each of its characters. -/
theorem length_text_le (v : Value) : v.text.length ≤ (toVec v).length := by
  rw [toVec, Value.toText, utf8_ofList]
  induction v.text with
  | nil => exact Nat.zero_le _
  | cons c cs ih =>
    have hpos : 0 < (String.utf8EncodeChar c).length := by
      rw [String.length_utf8EncodeChar]
      exact c.utf8Size_pos
    rw [List.flatMap_cons, List.length_append, List.length_cons]
    omega

/-- A text has at most four bytes for each of its characters. -/
theorem length_toVec_le (v : Value) : (toVec v).length ≤ 4 * v.text.length := by
  rw [toVec, Value.toText, utf8_ofList]
  induction v.text with
  | nil => exact Nat.zero_le _
  | cons c cs ih =>
    have hfour := c.utf8Size_le_four
    rw [List.flatMap_cons, List.length_append, List.length_cons, String.length_utf8EncodeChar]
    omega

/-- A batch is on the wire longer than twice its payload. -/
theorem SignedFactCreateBatchV1.two_mul_payload_lt {b : SignedFactCreateBatchV1}
    {entry : FactCreateTransportEntryV1} (hentries : b.entries = [entry]) :
    2 * entry.payload.length < (toVec b.json).length := by
  refine Nat.lt_of_lt_of_le ?_ (length_text_le b.json)
  have hpayload := Json.length_array_text (entry.payload.map fun byte => .number byte.toNat)
  rw [List.length_map] at hpayload
  simp only [json, hentries, List.map_cons, List.map_nil, FactCreateTransportEntryV1.json,
    bytesJson]
  simp only [Value.text.eq_def (.object _), Value.text.eq_def (.array [_]), Json.fieldsText,
    Json.moreFieldsText, Json.itemsText, List.length_cons, List.length_append]
  omega

/-- A payload of half the wire limit is too long. -/
theorem SignedFactCreateBatchV1.decodeJson_of_large {P : Platform} {M : SemanticMemory} {W : Wire}
    {b : SignedFactCreateBatchV1} {entry : FactCreateTransportEntryV1}
    (hentries : b.entries = [entry]) (hlarge : maxWireBytes ≤ 2 * entry.payload.length) :
    decodeJson P M W (toVec b.json) =
      .error (.fieldExceedsMaxLength "wire_body" (toVec b.json).length maxWireBytes) :=
  if_pos (Nat.lt_of_le_of_lt hlarge (two_mul_payload_lt hentries))

namespace Sample

/-- A key, what it signs, and nothing else. -/
def signing : Platform :=
  { platform with
    verify := fun key _ signature =>
      if key = publicKey ∧ signature = Vector.replicate 64 8 then .ok ()
      else .error "Verification equation was not satisfied"
    sign := fun _ _ => Vector.replicate 64 8 }

/-- The signatures of the sample verify. -/
theorem signing_verifiesSigned : signing.VerifiesSigned where
  key _ := rfl
  signature _ _ := by simp only [signing, platform, and_self, if_true]

/-- The projection of an owner's envelope. -/
def envelopeJson (e : ReplicaEnvelopeV1) : Value :=
  .object [("home_device_id", .string e.homeDeviceId), ("store_id", .string e.storeId),
    ("stream_epoch", .number e.streamEpoch.toNat), ("sequence", .int e.sequence.toInt),
    ("operation_kind", .string e.operationKind), ("payload_schema", .string e.payloadSchema),
    ("payload", bytesJson e.payload), ("payload_digest", bytesJson e.payloadDigest.toList),
    ("predecessor_digest", bytesJson e.predecessorDigest.toList),
    ("envelope_digest", bytesJson e.envelopeDigest.toList)]

/-- Envelopes are told apart by their JSON. -/
theorem envelopeJson_inj {a b : ReplicaEnvelopeV1} (h : envelopeJson a = envelopeJson b) :
    a = b := by
  simp only [envelopeJson, Value.object.injEq, List.cons.injEq, Prod.mk.injEq, true_and, and_true,
    Value.number.injEq, Value.string.injEq, UInt64.toNat_inj, bytesJson_inj, intJson_inj,
    Vector.toList_inj] at h
  obtain ⟨h1, h2, h3, h4, h5, h6, h7, h8, h9, h10⟩ := h
  cases a
  cases b
  congr

open Classical in
/-- The reader of what is written. -/
noncomputable def writtenWire : Wire where
  factCreateFromSlice bytes :=
    if h : ∃ b : SignedFactCreateBatchV1, toVec b.json = bytes then .ok h.choose
    else .error "expected value at line 1 column 1"
  factSupersedeFromSlice bytes :=
    if h : ∃ b : SignedFactSupersedeBatchV1, toVec (b.json envelopeJson) = bytes then .ok h.choose
    else .error "expected value at line 1 column 1"

/-- The wire of the sample reads what was written. -/
theorem writtenWire_readsWritten : writtenWire.ReadsWritten envelopeJson where
  factCreate b := by
    have h : ∃ x : SignedFactCreateBatchV1, toVec x.json = toVec b.json := ⟨b, rfl⟩
    refine (dif_pos h).trans (congrArg _ ?_)
    exact SignedFactCreateBatchV1.json_inj (toVec_inj.1 h.choose_spec)
  factSupersede b := by
    have h : ∃ x : SignedFactSupersedeBatchV1, toVec (x.json envelopeJson) =
      toVec (b.json envelopeJson) := ⟨b, rfl⟩
    refine (dif_pos h).trans (congrArg _ ?_)
    exact SignedFactSupersedeBatchV1.json_inj envelopeJson_inj (toVec_inj.1 h.choose_spec)

/-- The first record of a device. -/
def record (payload : Bytes) : FactCreateTransportEntryV1 where
  sequence := 1
  payload
  payloadDigest := Vector.replicate 32 1
  predecessorDigest := Vector.replicate 32 0
  journalEnvelopeDigest := Vector.replicate 32 2

/-- The batch of a record, as it is signed. -/
def signedRecord (payload : Bytes) : SignedFactCreateBatchV1 where
  protocolVersion := 1
  batchId := "batch-1"
  homeDeviceId := "device-1"
  storeId := "store-1"
  streamEpoch := 1
  startSequence := 1
  entries := [record payload]
  signerPrincipalId := "writer"
  signerRole := .deviceWriter
  signerKeyVersion := 1
  observedAt := 5
  fencingToken := "fence-1"
  signerPublicKey := publicKey
  signature := Vector.replicate 64 8

/-- The batch before it is signed. -/
def unsignedRecord (payload : Bytes) : SignedFactCreateBatchV1 :=
  { signedRecord payload with
    signerPublicKey := Vector.replicate 32 0
    signature := Vector.replicate 64 0 }

/-- The record is built and signed whatever its payload, as long as that has a 32-bit length. -/
theorem new_unsignedRecord (payload : Bytes) :
    SignedFactCreateBatchV1.new "batch-1" "device-1" "store-1" 1 1 [record payload] "writer" 1 5
      "fence-1" = .ok (unsignedRecord payload) := by
  have hstructure : (unsignedRecord payload).validateStructure = .ok () := by
    change (unsignedRecord []).validateStructure = .ok ()
    decide +kernel
  exact bind_eq_ok.2 ⟨(), hstructure, rfl⟩

/-- Signing the record of a payload gives the signed one. -/
theorem sign_unsignedRecord {payload : Bytes} (h : payload.length < 2 ^ 32) (seed : Bytes32) :
    (unsignedRecord payload).sign signing seed = .ok (signedRecord payload) := by
  have hstructure : (unsignedRecord payload).validateStructure = .ok () := by
    change (unsignedRecord []).validateStructure = .ok ()
    decide +kernel
  obtain ⟨entry, hentry⟩ :
      ∃ entry, SignedFactCreateBatchV1.encodeEntry (record payload) = .ok entry :=
    ⟨_, bind_eq_ok.2 ⟨_, if_pos h, rfl⟩⟩
  have hentries : (unsignedRecord payload).entries.mapM SignedFactCreateBatchV1.encodeEntry =
      .ok [entry] := by
    change [record payload].mapM SignedFactCreateBatchV1.encodeEntry = .ok [entry]
    rw [List.mapM_cons, hentry, List.mapM_nil]
    rfl
  obtain ⟨preimage, hpreimage⟩ :
      ∃ preimage, (unsignedRecord payload).signingPreimage = .ok preimage := by
    simp only [SignedFactCreateBatchV1.signingPreimage, bind_eq_ok]
    exact ⟨_, _, rfl, _, rfl, _, rfl, _, hentries, _, rfl, _, rfl, rfl⟩
  simp only [SignedFactCreateBatchV1.sign, bind_eq_ok]
  exact ⟨(), hstructure, preimage, hpreimage, rfl⟩

end Sample

open Sample in
/-- A signed batch is decoded from its bytes. -/
theorem signed_batches_decode_sample :
    SignedFactCreateBatchV1.decodeJson signing memory writtenWire
      (toVec (signedRecord [7]).json) = .ok (signedRecord [7]) := by
  rw [(signed_batches_decode signing_verifiesSigned writtenWire_readsWritten).1 "batch-1" "device-1"
    "store-1" 1 1 [record [7]] "writer" 1 5 "fence-1" (Vector.replicate 32 0) (unsignedRecord [7])
    (signedRecord [7]) (new_unsignedRecord [7]) (sign_unsignedRecord (by decide) _) rfl]
  have htext : 4 * (signedRecord [7]).json.text.length ≤ maxWireBytes := by decide +kernel
  exact if_pos ((length_toVec_le _).trans htext)

open Sample in
/-- A payload of 2 MiB is signed, and the batch is too long for the decoder. -/
theorem oversized_batch_rejected : ∃ payload b b', payload = List.replicate (2 * 1024 * 1024) 97 ∧
    SignedFactCreateBatchV1.new "batch-1" "device-1" "store-1" 1 1 [record payload] "writer" 1 5
      "fence-1" = .ok b ∧
    b.sign signing (Vector.replicate 32 0) = .ok b' ∧
      b'.validateEntries memory b'.entries = .ok () ∧
    SignedFactCreateBatchV1.decodeJson signing memory writtenWire (toVec b'.json) ≠ .ok b' := by
  obtain ⟨payload, hpayload⟩ : ∃ payload : Bytes, payload = List.replicate (2 * 1024 * 1024) 97 :=
    ⟨_, rfl⟩
  have hlength : payload.length = 2 * 1024 * 1024 := by rw [hpayload, List.length_replicate]
  refine ⟨payload, _, _, hpayload, new_unsignedRecord payload,
    sign_unsignedRecord (by rw [hlength]; decide) _, rfl, ?_⟩
  have hlarge : maxWireBytes ≤ 2 * (record payload).payload.length := by
    rw [record, hlength]
    exact le_rfl
  rw [SignedFactCreateBatchV1.decodeJson_of_large rfl hlarge]
  exact fun h => by cases h

end Mnemes
