import Mnemes.Lib.Lists
import Mnemes.Replication.Envelope
import Mnemes.Replication.FactSupersede

/-!
# Signatures cannot be transplanted

The preimages of the two batch profiles are read back like those of envelopes, entry by entry, as
many entries as they count. The domains of the three families differ in their first bytes, so a
preimage of one family is no prefix of one of another (`batch_signatures_bind`).
-/

namespace Mnemes

open Commitment

/-! ## Fact-create batches -/

namespace SignedFactCreateBatchV1

/-- Batches with the same signed fields: all but the key and the signature. -/
def SameSigned (a b : SignedFactCreateBatchV1) : Prop :=
  { a with
    signerPublicKey := b.signerPublicKey
    signature := b.signature } = b

/-- An entry is read back from its bytes. -/
theorem unambiguous_entry :
    Unambiguous fun (entry : FactCreateTransportEntryV1) x => encodeEntry entry = .ok x := by
  intro a b x y r s ha hb h
  simp only [encodeEntry, bind_eq_ok] at ha hb
  obtain ⟨p, hp, hx⟩ := ha
  obtain ⟨q, hq, hy⟩ := hb
  obtain rfl := Except.ok.inj hx
  obtain rfl := Except.ok.inj hy
  simp only [List.append_assoc] at h
  obtain ⟨hsequence, h⟩ := unambiguous_i64 rfl rfl h
  obtain ⟨hpayload, h⟩ := unambiguous_bytes ⟨_, hp⟩ ⟨_, hq⟩ h
  obtain ⟨hpayloadDigest, h⟩ := unambiguous_digest rfl rfl h
  obtain ⟨hpredecessor, h⟩ := unambiguous_digest rfl rfl h
  obtain ⟨hjournal, h⟩ := unambiguous_digest rfl rfl h
  refine ⟨?_, h⟩
  cases a
  cases b
  congr 1

/-- A batch whose structure is valid counts its entries in 32 bits. -/
theorem validateStructure_length {b : SignedFactCreateBatchV1} (h : b.validateStructure = .ok ()) :
    b.entries.length < 2 ^ 32 := by
  simp only [validateStructure, bind_eq_ok, guard_eq_ok] at h
  obtain ⟨-, -, -, -, -, -, -, -, -, -, -, -, -, -, -, hlength, -⟩ := h
  exact Nat.lt_of_le_of_lt (Nat.not_lt.1 hlength) (by decide)

/-- What is signed of a fact-create batch is read back from its preimage. -/
theorem signingPreimage_unambiguous {a b : SignedFactCreateBatchV1} {x y r s : Bytes}
    (hla : a.entries.length < 2 ^ 32) (hlb : b.entries.length < 2 ^ 32)
    (ha : a.signingPreimage = .ok x) (hb : b.signingPreimage = .ok y) (h : x ++ r = y ++ s) :
    a.SameSigned b ∧ r = s := by
  simp only [signingPreimage, bind_eq_ok] at ha hb
  obtain ⟨x₁, hx₁, x₂, hx₂, x₃, hx₃, xs, hxs, x₄, hx₄, x₅, hx₅, hx⟩ := ha
  obtain ⟨y₁, hy₁, y₂, hy₂, y₃, hy₃, ys, hys, y₄, hy₄, y₅, hy₅, hy⟩ := hb
  obtain rfl := Except.ok.inj hx
  obtain rfl := Except.ok.inj hy
  simp only [List.append_assoc] at h
  have h := List.append_cancel_left h
  obtain ⟨hprotocolVersion, h⟩ := unambiguous_u16 rfl rfl h
  obtain ⟨hbatchId, h⟩ := unambiguous_string ⟨_, hx₁⟩ ⟨_, hy₁⟩ h
  obtain ⟨hhomeDeviceId, h⟩ := unambiguous_string ⟨_, hx₂⟩ ⟨_, hy₂⟩ h
  obtain ⟨hstoreId, h⟩ := unambiguous_string ⟨_, hx₃⟩ ⟨_, hy₃⟩ h
  obtain ⟨hstreamEpoch, h⟩ := unambiguous_u64 rfl rfl h
  obtain ⟨hstartSequence, h⟩ := unambiguous_i64 rfl rfl h
  obtain ⟨hcount, h⟩ := unambiguous_count ⟨hla, rfl⟩ ⟨hlb, rfl⟩ h
  obtain ⟨hentries, h⟩ := unambiguous_entry.forall₂ hcount (Lists.mapM_eq_ok.1 hxs)
    (Lists.mapM_eq_ok.1 hys) h
  obtain ⟨hsigner, h⟩ := unambiguous_string ⟨_, hx₄⟩ ⟨_, hy₄⟩ h
  obtain ⟨hsignerRole, h⟩ := unambiguous_role rfl rfl h
  obtain ⟨hsignerKeyVersion, h⟩ := unambiguous_u64 rfl rfl h
  obtain ⟨hobservedAt, h⟩ := unambiguous_u64 rfl rfl h
  obtain ⟨hfencingToken, h⟩ := unambiguous_string ⟨_, hx₅⟩ ⟨_, hy₅⟩ h
  refine ⟨?_, h⟩
  cases a
  cases b
  unfold SameSigned
  congr 1

/-- A preimage begins with the domain of its family. -/
theorem signingPreimage_eq_append {b : SignedFactCreateBatchV1} {x : Bytes}
    (h : b.signingPreimage = .ok x) : ∃ fields, x = signatureDomain ++ fields := by
  simp only [signingPreimage, bind_eq_ok] at h
  obtain ⟨_, -, _, -, _, -, _, -, _, -, _, -, h⟩ := h
  obtain rfl := Except.ok.inj h
  simp only [List.append_assoc]
  exact ⟨_, rfl⟩

end SignedFactCreateBatchV1

/-! ## Fact-supersede batches -/

namespace SignedFactSupersedeBatchV1

/-- Batches with the same signed fields: all but the key and the signature. -/
def SameSigned (a b : SignedFactSupersedeBatchV1) : Prop :=
  { a with
    signerPublicKey := b.signerPublicKey
    signature := b.signature } = b

/-- An envelope is read back from its bytes. -/
theorem unambiguous_entry :
    Unambiguous fun (envelope : ReplicaEnvelopeV1) x => encodeEntry envelope = .ok x := by
  intro a b x y r s ha hb h
  simp only [encodeEntry, bind_eq_ok] at ha hb
  obtain ⟨x₁, hx₁, x₂, hx₂, x₃, hx₃, x₄, hx₄, x₅, hx₅, hx⟩ := ha
  obtain ⟨y₁, hy₁, y₂, hy₂, y₃, hy₃, y₄, hy₄, y₅, hy₅, hy⟩ := hb
  obtain rfl := Except.ok.inj hx
  obtain rfl := Except.ok.inj hy
  simp only [List.append_assoc] at h
  obtain ⟨hhomeDeviceId, h⟩ := unambiguous_string ⟨_, hx₁⟩ ⟨_, hy₁⟩ h
  obtain ⟨hstoreId, h⟩ := unambiguous_string ⟨_, hx₂⟩ ⟨_, hy₂⟩ h
  obtain ⟨hstreamEpoch, h⟩ := unambiguous_u64 rfl rfl h
  obtain ⟨hsequence, h⟩ := unambiguous_i64 rfl rfl h
  obtain ⟨hoperationKind, h⟩ := unambiguous_string ⟨_, hx₃⟩ ⟨_, hy₃⟩ h
  obtain ⟨hpayloadSchema, h⟩ := unambiguous_string ⟨_, hx₄⟩ ⟨_, hy₄⟩ h
  obtain ⟨hpayload, h⟩ := unambiguous_bytes ⟨_, hx₅⟩ ⟨_, hy₅⟩ h
  obtain ⟨hpayloadDigest, h⟩ := unambiguous_digest rfl rfl h
  obtain ⟨hpredecessor, h⟩ := unambiguous_digest rfl rfl h
  obtain ⟨henvelopeDigest, h⟩ := unambiguous_digest rfl rfl h
  refine ⟨?_, h⟩
  cases a
  cases b
  congr 1

/-- What is signed of a fact-supersede batch is read back from its preimage. -/
theorem signingPreimage_unambiguous {a b : SignedFactSupersedeBatchV1} {x y r s : Bytes}
    (hla : a.entries.length < 2 ^ 32) (hlb : b.entries.length < 2 ^ 32)
    (ha : a.signingPreimage = .ok x) (hb : b.signingPreimage = .ok y) (h : x ++ r = y ++ s) :
    a.SameSigned b ∧ r = s := by
  simp only [signingPreimage, bind_eq_ok] at ha hb
  obtain ⟨x₁, hx₁, x₂, hx₂, x₃, hx₃, x₄, hx₄, xs, hxs, x₅, hx₅, x₆, hx₆, hx⟩ := ha
  obtain ⟨y₁, hy₁, y₂, hy₂, y₃, hy₃, y₄, hy₄, ys, hys, y₅, hy₅, y₆, hy₆, hy⟩ := hb
  obtain rfl := Except.ok.inj hx
  obtain rfl := Except.ok.inj hy
  simp only [List.append_assoc] at h
  have h := List.append_cancel_left h
  obtain ⟨hprotocolFamily, h⟩ := unambiguous_string ⟨_, hx₁⟩ ⟨_, hy₁⟩ h
  obtain ⟨hprotocolVersion, h⟩ := unambiguous_u16 rfl rfl h
  obtain ⟨hbatchId, h⟩ := unambiguous_string ⟨_, hx₂⟩ ⟨_, hy₂⟩ h
  obtain ⟨hhomeDeviceId, h⟩ := unambiguous_string ⟨_, hx₃⟩ ⟨_, hy₃⟩ h
  obtain ⟨hstoreId, h⟩ := unambiguous_string ⟨_, hx₄⟩ ⟨_, hy₄⟩ h
  obtain ⟨hstoreEpoch, h⟩ := unambiguous_u64 rfl rfl h
  obtain ⟨hwriterEpoch, h⟩ := unambiguous_u64 rfl rfl h
  obtain ⟨hownerStreamEpoch, h⟩ := unambiguous_u64 rfl rfl h
  obtain ⟨hstartSequence, h⟩ := unambiguous_i64 rfl rfl h
  obtain ⟨hcount, h⟩ := unambiguous_count ⟨hla, rfl⟩ ⟨hlb, rfl⟩ h
  obtain ⟨hentries, h⟩ := unambiguous_entry.forall₂ hcount (Lists.mapM_eq_ok.1 hxs)
    (Lists.mapM_eq_ok.1 hys) h
  obtain ⟨hsigner, h⟩ := unambiguous_string ⟨_, hx₅⟩ ⟨_, hy₅⟩ h
  obtain ⟨hsignerRole, h⟩ := unambiguous_role rfl rfl h
  obtain ⟨hsignerKeyVersion, h⟩ := unambiguous_u64 rfl rfl h
  obtain ⟨hobservedAt, h⟩ := unambiguous_u64 rfl rfl h
  obtain ⟨hfencingToken, h⟩ := unambiguous_string ⟨_, hx₆⟩ ⟨_, hy₆⟩ h
  refine ⟨?_, h⟩
  cases a
  cases b
  unfold SameSigned
  congr 1

/-- A preimage begins with the domain of its family. -/
theorem signingPreimage_eq_append {b : SignedFactSupersedeBatchV1} {x : Bytes}
    (h : b.signingPreimage = .ok x) : ∃ fields, x = signatureDomain ++ fields := by
  simp only [signingPreimage, bind_eq_ok] at h
  obtain ⟨_, -, _, -, _, -, _, -, _, -, _, -, _, -, h⟩ := h
  obtain rfl := Except.ok.inj h
  simp only [List.append_assoc]
  exact ⟨_, rfl⟩

end SignedFactSupersedeBatchV1

/-! ## Families -/

/-- Neither word is a prefix of the other one, so they differ. -/
def Apart (x y : Bytes) : Prop := x ≠ y ∧ ¬ x <+: y ∧ ¬ y <+: x

/-- Words whose domains differ within their first `n` bytes are apart. -/
theorem apart_of_domains {n : Nat} {dx dy u v : Bytes} (hx : n ≤ dx.length) (hy : n ≤ dy.length)
    (h : dx.take n ≠ dy.take n) : Apart (dx ++ u) (dy ++ v) := by
  have hprefix := @not_prefix_of_take _ n dx dy u v hx hy h
  refine ⟨?_, hprefix, not_prefix_of_take hy hx h.symm⟩
  intro heq
  exact hprefix (heq ▸ List.prefix_refl _)

/-- Structurally valid batches of one profile with equal preimages have the same signed fields,
their entries included; and preimages of envelopes, fact-create batches and fact-supersede batches
are apart from each other. -/
theorem batch_signatures_bind :
    (∀ (a b : SignedFactCreateBatchV1) x, a.validateStructure = .ok () →
      b.validateStructure = .ok () → a.signingPreimage = .ok x → b.signingPreimage = .ok x →
      a.SameSigned b) ∧
    (∀ (a b : SignedFactSupersedeBatchV1) ea eb x, a.validateStructure = .ok ea →
      b.validateStructure = .ok eb → a.signingPreimage = .ok x → b.signingPreimage = .ok x →
      a.SameSigned b) ∧
    ∀ (e : MemoryMutationEnvelopeV1) (c : SignedFactCreateBatchV1) (s : SignedFactSupersedeBatchV1)
      x y z, e.signingPreimage = .ok x → c.signingPreimage = .ok y → s.signingPreimage = .ok z →
      Apart x y ∧ Apart x z ∧ Apart y z := by
  refine ⟨?_, ?_, ?_⟩
  · intro a b x hva hvb ha hb
    exact (SignedFactCreateBatchV1.signingPreimage_unambiguous
      (SignedFactCreateBatchV1.validateStructure_length hva)
      (SignedFactCreateBatchV1.validateStructure_length hvb) ha hb (r := []) rfl).1
  · intro a b ea eb x hva hvb ha hb
    have hla := SignedFactSupersedeBatchV1.validateStructure_entries hva
    have hlb := SignedFactSupersedeBatchV1.validateStructure_entries hvb
    exact (SignedFactSupersedeBatchV1.signingPreimage_unambiguous
      (by rw [hla, List.length_singleton]; decide) (by rw [hlb, List.length_singleton]; decide)
      ha hb (r := []) rfl).1
  · intro e c s x y z hx hy hz
    obtain ⟨u, rfl⟩ := MemoryMutationEnvelopeV1.signingPreimage_eq_append hx
    obtain ⟨v, rfl⟩ := SignedFactCreateBatchV1.signingPreimage_eq_append hy
    obtain ⟨w, rfl⟩ := SignedFactSupersedeBatchV1.signingPreimage_eq_append hz
    -- "mnemes/mutati", "mnemes/fact-c" and "mnemes/fact-s"
    refine ⟨apart_of_domains (n := 13) ?_ ?_ ?_, apart_of_domains (n := 13) ?_ ?_ ?_,
      apart_of_domains (n := 13) ?_ ?_ ?_⟩
    all_goals decide +kernel

namespace Sample

/-- The first fact of a device, under its first key. -/
def createBatch : SignedFactCreateBatchV1 where
  protocolVersion := 1
  batchId := "batch-1"
  homeDeviceId := "device-1"
  storeId := "store-1"
  streamEpoch := 1
  startSequence := 1
  entries := [{
    sequence := 1
    payload := utf8 "payload"
    payloadDigest := payloadSha256
    predecessorDigest := .replicate 32 0
    journalEnvelopeDigest := .replicate 32 2 }]
  signerPrincipalId := "writer"
  signerRole := .deviceWriter
  signerKeyVersion := 1
  observedAt := 5
  fencingToken := "fence-1"
  signerPublicKey := envelope.signerPublicKey
  signature := envelope.signature

/-- A supersession of the device. -/
def supersedeBatch : SignedFactSupersedeBatchV1 where
  protocolFamily := SignedFactSupersedeBatchV1.transportProtocolFamily
  protocolVersion := 1
  batchId := "batch-2"
  homeDeviceId := "device-1"
  storeId := "store-1"
  storeEpoch := 1
  writerEpoch := 1
  ownerStreamEpoch := 1
  startSequence := 2
  entries := [{
    homeDeviceId := "device-1"
    storeId := "store-1"
    streamEpoch := 1
    sequence := 2
    operationKind := "fact.supersede"
    payloadSchema := "semantic_memory.fact.supersede.v1"
    payload := utf8 "payload"
    payloadDigest := payloadSha256
    predecessorDigest := .replicate 32 2
    envelopeDigest := .replicate 32 3 }]
  signerPrincipalId := "writer"
  signerRole := .deviceWriter
  signerKeyVersion := 1
  observedAt := 6
  fencingToken := "fence-1"
  signerPublicKey := envelope.signerPublicKey
  signature := envelope.signature

end Sample

open Sample in
/-- A batch under two keys, and preimages of the three families. -/
theorem batch_signatures_bind_sample :
    createBatch.SameSigned { createBatch with signerPublicKey := rekeyed.signerPublicKey } ∧
    ∃ x y z, envelope.signingPreimage = .ok x ∧ createBatch.signingPreimage = .ok y ∧
      supersedeBatch.signingPreimage = .ok z ∧ Apart x y ∧ Apart x z ∧ Apart y z := by
  obtain ⟨x, hx⟩ : ∃ x, envelope.signingPreimage = .ok x := ⟨_, rfl⟩
  obtain ⟨y, hy⟩ : ∃ y, createBatch.signingPreimage = .ok y := ⟨_, rfl⟩
  obtain ⟨z, hz⟩ : ∃ z, supersedeBatch.signingPreimage = .ok z := ⟨_, rfl⟩
  refine ⟨batch_signatures_bind.1 createBatch _ y (by decide +kernel) (by decide +kernel) hy hy,
    x, y, z, hx, hy, hz, batch_signatures_bind.2.2 _ _ _ x y z hx hy hz⟩

end Mnemes
