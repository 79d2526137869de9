import Mnemes.Replication.Envelope

/-!
# Identity collisions

`validate_identity_collision` compares two envelopes (`replication/state_machine.rs`). Envelopes
that share an identity of their scopes are either one mutation, signed once or twice, or evidence of
a conflict; the digests decide. The decision is the one on the contents (`identity_collision_iff`),
in either order of the envelopes.
-/

namespace Mnemes

namespace MemoryMutationEnvelopeV1

/-- `same_identity`. -/
def sameIdentity (a b : MemoryMutationEnvelopeV1) : Bool :=
  (a.operationId = b.operationId && a.homeDeviceId = b.homeDeviceId && a.storeId = b.storeId) ||
    (a.homeDeviceId = b.homeDeviceId && a.idempotencyKey = b.idempotencyKey) ||
    (a.homeDeviceId = b.homeDeviceId && a.storeId = b.storeId && a.storeEpoch = b.storeEpoch &&
      a.writerEpoch = b.writerEpoch && a.sequence = b.sequence)

/-- `validate_identity_collision`. -/
def validateIdentityCollision (P : Platform) (first second : MemoryMutationEnvelopeV1) :
    Except ReplicationError Unit := do
  (first.validate P).mapError fun e => .preCollisionValidation s!"first envelope: {e.display}"
  (second.validate P).mapError fun e => .preCollisionValidation s!"second envelope: {e.display}"
  if !first.sameIdentity second then
    return ()
  else
    let firstDigest ← first.canonicalDigest P
    let secondDigest ← second.canonicalDigest P
    if firstDigest = secondDigest then return () else throw .identityCollision

/-! ## Identities -/

/-- The identity of the operation: without epochs, so that it outlives a promotion. -/
def operationIdentity (e : MemoryMutationEnvelopeV1) : String × String × String :=
  (e.homeDeviceId, e.storeId, e.operationId)

/-- The identity of the caller's request. -/
def requestIdentity (e : MemoryMutationEnvelopeV1) : String × String :=
  (e.homeDeviceId, e.idempotencyKey)

/-- The position in the stream. -/
def streamIdentity (e : MemoryMutationEnvelopeV1) : String × String × UInt64 × UInt64 × UInt64 :=
  (e.homeDeviceId, e.storeId, e.storeEpoch, e.writerEpoch, e.sequence)

/-- Two envelopes share an identity exactly if they share one of the three. -/
theorem sameIdentity_iff {a b : MemoryMutationEnvelopeV1} :
    a.sameIdentity b = true ↔ a.operationIdentity = b.operationIdentity ∨
      a.requestIdentity = b.requestIdentity ∨ a.streamIdentity = b.streamIdentity := by
  simp only [sameIdentity, operationIdentity, requestIdentity, streamIdentity, Bool.or_eq_true,
    Bool.and_eq_true, decide_eq_true_eq, Prod.mk.injEq]
  tauto

/-- Sharing an identity is symmetric. -/
theorem sameIdentity_comm (a b : MemoryMutationEnvelopeV1) :
    a.sameIdentity b = b.sameIdentity a := by
  rw [Bool.eq_iff_iff, sameIdentity_iff, sameIdentity_iff]
  simp only [eq_comm]

/-! ## The decision -/

/-- A valid envelope has a digest. -/
theorem canonicalDigest_of_validate {P : Platform} {e : MemoryMutationEnvelopeV1}
    (h : e.validate P = .ok ()) : ∃ input, e.digestInput = .ok input ∧
      e.canonicalDigest P = .ok (P.sha256 input) := by
  simp only [validate, bind_eq_ok, guard_eq_ok] at h
  obtain ⟨-, -, -, -, -, -, -, -, -, -, -, -, -, -, -, -, -, -, preimage, hpreimage, -⟩ := h
  have hinput :
      e.digestInput = .ok (digestDomainTag ++ preimage.drop signatureDomainTag.length) := by
    rw [digestInput, hpreimage]
    rfl
  exact ⟨_, hinput, canonicalDigest_eq_ok.2 ⟨_, hinput, rfl⟩⟩

/-- Envelopes with the same signed fields have the same digest. -/
theorem SameSigned.digestInput {a b : MemoryMutationEnvelopeV1} (h : a.SameSigned b) :
    a.digestInput = b.digestInput := by
  rw [← h]
  rfl

/-- What the check compares: valid envelopes that share an identity have one digest. -/
theorem validateIdentityCollision_eq_ok {P : Platform} {a b : MemoryMutationEnvelopeV1} :
    validateIdentityCollision P a b = .ok () ↔ a.validate P = .ok () ∧ b.validate P = .ok () ∧
      (a.sameIdentity b = true → a.canonicalDigest P = b.canonicalDigest P) := by
  simp only [validateIdentityCollision, bind_eq_ok, mapError_eq_ok]
  constructor
  · rintro ⟨⟨⟩, ha, ⟨⟩, hb, h⟩
    refine ⟨ha, hb, fun hsame => ?_⟩
    simp only [hsame, Bool.not_true, Bool.false_eq_true, if_false, bind_eq_ok] at h
    obtain ⟨d, hd, d', hd', h⟩ := h
    split at h
    · next heq => rw [hd, hd', heq]
    · cases h
  · rintro ⟨ha, hb, h⟩
    refine ⟨(), ha, (), hb, ?_⟩
    cases hsame : a.sameIdentity b with
    | false => rfl
    | true =>
      obtain ⟨input, -, hd⟩ := canonicalDigest_of_validate ha
      rw [← h hsame, hd]
      simp only [Bool.not_true, Bool.false_eq_true, if_false, bind_eq_ok]
      exact ⟨_, rfl, _, rfl, if_pos rfl⟩

/-- Two envelopes pass exactly if both are valid and they either share no identity or are the same
mutation, where SHA-256 does not collide on what is hashed for them; and in either order. -/
theorem identity_collision_iff (P : Platform) :
    (∀ inputs : Set Bytes, Set.InjOn P.sha256 inputs → ∀ a b : MemoryMutationEnvelopeV1,
      a.Hashed inputs → b.Hashed inputs →
      (validateIdentityCollision P a b = .ok () ↔ a.validate P = .ok () ∧ b.validate P = .ok () ∧
        ((a.operationIdentity ≠ b.operationIdentity ∧ a.requestIdentity ≠ b.requestIdentity ∧
            a.streamIdentity ≠ b.streamIdentity) ∨
          a.SameSigned b ∧ a.canonicalPayload = b.canonicalPayload))) ∧
    ∀ a b : MemoryMutationEnvelopeV1,
      validateIdentityCollision P a b = .ok () ↔ validateIdentityCollision P b a = .ok () := by
  constructor
  · intro inputs hinj a b hha hhb
    rw [validateIdentityCollision_eq_ok]
    refine and_congr_right fun ha => and_congr_right fun hb => ?_
    constructor
    · intro h
      by_cases hsame : a.sameIdentity b = true
      · obtain ⟨input, -, hda⟩ := canonicalDigest_of_validate ha
        exact .inr (sameContent_of_canonicalDigest hinj hha hhb ha hb hda
          ((h hsame).symm.trans hda))
      · rw [sameIdentity_iff] at hsame
        simp only [not_or] at hsame
        exact .inl hsame
    · rintro (⟨hoperation, hrequest, hstream⟩ | ⟨hsigned, -⟩) hsame
      · rcases sameIdentity_iff.1 hsame with h | h | h
        · exact absurd h hoperation
        · exact absurd h hrequest
        · exact absurd h hstream
      · obtain ⟨input, hinput, hda⟩ := canonicalDigest_of_validate ha
        rw [hda]
        exact (canonicalDigest_eq_ok.2 ⟨input, hsigned.digestInput ▸ hinput, rfl⟩).symm
  · intro a b
    rw [validateIdentityCollision_eq_ok, validateIdentityCollision_eq_ok, sameIdentity_comm b a]
    constructor
    · rintro ⟨ha, hb, h⟩
      exact ⟨hb, ha, fun hsame => (h hsame).symm⟩
    · rintro ⟨hb, ha, h⟩
      exact ⟨ha, hb, fun hsame => (h hsame).symm⟩

end MemoryMutationEnvelopeV1

open Sample MemoryMutationEnvelopeV1 in
/-- The envelope under both keys, which share every identity. -/
theorem identity_collision_iff_sample :
    validateIdentityCollision envelopePlatform envelope rekeyed = .ok () ∧
      envelope.operationIdentity = rekeyed.operationIdentity := by
  refine ⟨((identity_collision_iff envelopePlatform).1 envelopeInputs envelopeInputs_injOn envelope
    rekeyed ⟨.inl rfl, fun _ h => .inr h⟩ ⟨.inl rfl, fun _ h => .inr h⟩).2 ?_, rfl⟩
  exact ⟨by decide +kernel, by decide +kernel, .inr ⟨rfl, rfl⟩⟩

end Mnemes
