import Mnemes.Replication.Envelope

/-!
# Watermarks

The watermark of a replica (`replication/state_machine.rs`): the sequence and the digest of the last
envelope it accepted. Accepted envelopes form a chain of digests, so the watermark a replica has
reached commits to all that it accepted since a start (`histories_agree`).
-/

namespace Mnemes

open Commitment

/-- `ReplicaWatermarkV1`. -/
structure ReplicaWatermarkV1 where
  sequence : UInt64
  headDigest : Bytes32
  deriving DecidableEq

/-- `u64::checked_add` of one. -/
def checkedSucc (v : UInt64) : Option UInt64 := if v.toNat + 1 < 2 ^ 64 then some (v + 1) else none

namespace ReplicaWatermarkV1

/-- `accepts_next`. -/
def acceptsNext (w : ReplicaWatermarkV1) (sequence : UInt64) (previous : Bytes32) : Bool :=
  if sequence ≤ w.sequence then false
  else match checkedSucc w.sequence with
    | some next => if sequence = next then previous = w.headDigest else false
    | none => false

/-- The watermark after an envelope that it accepts: its sequence and its canonical digest. -/
def accept (P : Platform) (w : ReplicaWatermarkV1) (e : MemoryMutationEnvelopeV1) :
    Option ReplicaWatermarkV1 :=
  if w.acceptsNext e.sequence e.previousEnvelopeDigest then
    (e.canonicalDigest P).toOption.map fun digest => ⟨e.sequence, digest⟩
  else none

/-- Envelopes accepted one after another. -/
def acceptAll (P : Platform) (w : ReplicaWatermarkV1) :
    List MemoryMutationEnvelopeV1 → Option ReplicaWatermarkV1
  | [] => some w
  | e :: es => (w.accept P e).bind fun w => w.acceptAll P es

variable {P : Platform} {w w' : ReplicaWatermarkV1} {e : MemoryMutationEnvelopeV1}
  {es fs : List MemoryMutationEnvelopeV1}

/-- An envelope is accepted exactly if it has the next sequence, which exists, and names the
head. -/
theorem acceptsNext_iff {sequence : UInt64} {previous : Bytes32} :
    w.acceptsNext sequence previous = true ↔
      sequence.toNat = w.sequence.toNat + 1 ∧ previous = w.headDigest := by
  have hlt := sequence.toNat_lt
  unfold acceptsNext checkedSucc
  by_cases hnext : w.sequence.toNat + 1 < 2 ^ 64
  · have hadd : (w.sequence + 1).toNat = w.sequence.toNat + 1 := by
      rw [UInt64.toNat_add]
      exact Nat.mod_eq_of_lt hnext
    simp only [if_pos hnext, UInt64.le_iff_toNat_le, ← UInt64.toNat_inj, hadd]
    by_cases hseq : sequence.toNat = w.sequence.toNat + 1
    · rw [if_neg (by omega), if_pos hseq, decide_eq_true_eq, and_iff_right hseq]
    · rw [if_neg hseq, ite_self]
      exact ⟨nofun, fun h => absurd h.1 hseq⟩
  · simp only [if_neg hnext, ite_self]
    exact ⟨nofun, fun h => by omega⟩

/-- An envelope is accepted exactly if it comes next and names the head. -/
theorem accept_eq_some : w.accept P e = some w' ↔
    e.sequence.toNat = w.sequence.toNat + 1 ∧ e.previousEnvelopeDigest = w.headDigest ∧
      w'.sequence = e.sequence ∧ e.canonicalDigest P = .ok w'.headDigest := by
  unfold accept
  split
  · next h =>
    obtain ⟨hseq, hprev⟩ := acceptsNext_iff.1 h
    cases hdigest : e.canonicalDigest P with
    | error error => simp [Except.toOption]
    | ok digest =>
      obtain ⟨sequence, head⟩ := w'
      simp [Except.toOption, hseq, hprev, eq_comm]
  · next h =>
    rw [acceptsNext_iff] at h
    exact ⟨nofun, fun h' => absurd ⟨h'.1, h'.2.1⟩ h⟩

/-- Accepted envelopes have consecutive sequences, as numbers: none wraps. -/
theorem acceptAll_sequences (h : w.acceptAll P es = some w') :
    (∀ i e, es[i]? = some e → e.sequence.toNat = w.sequence.toNat + i + 1) ∧
      w'.sequence.toNat = w.sequence.toNat + es.length := by
  induction es generalizing w with
  | nil =>
    cases h
    exact ⟨fun i e h => by simp at h, rfl⟩
  | cons e es ih =>
    obtain ⟨w₁, haccept, h⟩ := Option.bind_eq_some_iff.1 h
    obtain ⟨hseq, -, hw₁, -⟩ := accept_eq_some.1 haccept
    obtain ⟨hrest, hend⟩ := ih h
    rw [hw₁, hseq] at hrest hend
    constructor
    · intro i e' he'
      cases i with
      | zero =>
        obtain rfl := Option.some.inj he'
        exact hseq
      | succ i =>
        have := hrest i e' he'
        omega
    · rw [hend, List.length_cons]
      omega

/-- Accepted envelopes are linked from the head of the start to that of the end. -/
theorem acceptAll_linked (h : w.acceptAll P es = some w') :
    Linked MemoryMutationEnvelopeV1.previousEnvelopeDigest
      (fun e => (e.canonicalDigest P).toOption) w.headDigest es w'.headDigest := by
  induction es generalizing w with
  | nil =>
    cases h
    exact .nil
  | cons e es ih =>
    obtain ⟨w₁, haccept, h⟩ := Option.bind_eq_some_iff.1 h
    obtain ⟨-, hprev, -, hdigest⟩ := accept_eq_some.1 haccept
    exact .cons hprev (by rw [hdigest]; rfl) (ih h)

/-- Where SHA-256 does not collide on the accepted envelopes, those that end at one head and are as
many have the same signed fields. -/
theorem acceptAll_unique {inputs : Set Bytes} (hinj : Set.InjOn P.sha256 inputs)
    {v v' : ReplicaWatermarkV1} (hes : ∀ e ∈ es, e.Hashed inputs) (hfs : ∀ f ∈ fs, f.Hashed inputs)
    (he : w.acceptAll P es = some w') (hf : v.acceptAll P fs = some v')
    (hhead : w'.headDigest = v'.headDigest) (hlen : es.length = fs.length) :
    List.Forall₂ (·.SameSigned ·) es fs := by
  refine (Linked.unique ?_ (acceptAll_linked he) (hhead ▸ acceptAll_linked hf) hlen).1
  intro e he f hf d hde hdf
  have hok : ∀ {r : Except ReplicationError Bytes32}, r.toOption = some d → r = .ok d := by
    intro r hr
    cases r with
    | error error => cases hr
    | ok digest => rw [Option.some.inj hr]
  have hsame := MemoryMutationEnvelopeV1.sameSigned_of_canonicalDigest hinj (hes e he) (hfs f hf)
    (hok hde) (hok hdf)
  exact ⟨hsame, hsame.previousEnvelopeDigest⟩

end ReplicaWatermarkV1

/-- From any start: accepted envelopes are consecutive, without a wrap; and, where SHA-256 does not
collide, envelopes accepted from one start that end at one head and are as many, or that end at one
watermark, have the same signed fields one by one. -/
theorem histories_agree (P : Platform) (inputs : Set Bytes) (hinj : Set.InjOn P.sha256 inputs)
    (w : ReplicaWatermarkV1) :
    (∀ es w', w.acceptAll P es = some w' →
      (∀ i e, es[i]? = some e → e.sequence.toNat = w.sequence.toNat + i + 1) ∧
        w'.sequence.toNat = w.sequence.toNat + es.length) ∧
    ∀ es fs we wf, (∀ e ∈ es, e.Hashed inputs) → (∀ f ∈ fs, f.Hashed inputs) →
      w.acceptAll P es = some we → w.acceptAll P fs = some wf →
      we.headDigest = wf.headDigest → es.length = fs.length ∨ we.sequence = wf.sequence →
      List.Forall₂ (·.SameSigned ·) es fs := by
  refine ⟨fun es w' h => ReplicaWatermarkV1.acceptAll_sequences h, ?_⟩
  intro es fs we wf hes hfs he hf hhead hend
  have hlen : es.length = fs.length := by
    rcases hend with hlen | hseq
    · exact hlen
    · have hse := (ReplicaWatermarkV1.acceptAll_sequences he).2
      have hsf := (ReplicaWatermarkV1.acceptAll_sequences hf).2
      rw [hseq] at hse
      omega
  exact ReplicaWatermarkV1.acceptAll_unique hinj hes hfs he hf hhead hlen

namespace Sample

/-- The second envelope of the device. -/
def nextEnvelope : MemoryMutationEnvelopeV1 :=
  { envelope with
    operationId := "operation-2"
    idempotencyKey := "idem-2"
    sequence := 2
    previousEnvelopeDigest := envelopeSha256
    signature :=
      #v[69, 237, 53, 199, 157, 240, 173, 172, 138, 135, 38, 48, 195, 109, 77, 222, 144, 14, 105,
        66, 253, 18, 194, 183, 235, 15, 23, 152, 179, 193, 1, 158, 194, 153, 228, 73, 0, 240, 222,
        57, 171, 43, 100, 63, 238, 155, 69, 60, 41, 18, 153, 190, 120, 71, 200, 76, 218, 81, 140,
        45, 90, 28, 84, 12] }

def nextSha256 : Bytes32 :=
  #v[2, 70, 100, 17, 103, 24, 230, 96, 81, 81, 107, 218, 105, 52, 118, 66, 222, 217, 139, 48, 68,
    101, 223, 52, 55, 126, 220, 124, 52, 76, 236, 189]

/-- The crates, on what the two envelopes ask of them. -/
def chainPlatform : Platform :=
  { envelopePlatform with
    sha256 := fun bytes =>
      if nextEnvelope.digestInput.toOption = some bytes then nextSha256
      else envelopePlatform.sha256 bytes }

/-- What is hashed for the two envelopes. -/
def chainInputs : Set Bytes := fun x => x ∈ envelopeInputs ∨ nextEnvelope.digestInput = .ok x

/-- The digests of the sample are distinct. -/
theorem chainInputs_injOn : Set.InjOn chainPlatform.sha256 chainInputs := by
  have hnext : ∀ {x}, nextEnvelope.digestInput = .ok x → chainPlatform.sha256 x = nextSha256 := by
    intro x hx
    have hsome : nextEnvelope.digestInput.toOption = some x := by rw [hx]; rfl
    simp only [chainPlatform, hsome, if_pos]
  have hfirst : ∀ {x}, x ∈ envelopeInputs → chainPlatform.sha256 x = envelopePlatform.sha256 x := by
    intro x hx
    have hne : nextEnvelope.digestInput.toOption ≠ some x := by
      rcases hx with rfl | hx
      · decide +kernel
      · rw [show some x = envelope.digestInput.toOption by rw [hx]; rfl]
        decide +kernel
    simp only [chainPlatform, if_neg hne]
  have hapart : ∀ {x}, x ∈ envelopeInputs → envelopePlatform.sha256 x ≠ nextSha256 := by
    intro x hx
    simp only [envelopePlatform]
    split
    · decide
    · split <;> decide
  rintro x (hx | hx) y (hy | hy) h
  · rw [hfirst hx, hfirst hy] at h
    exact envelopeInputs_injOn hx hy h
  · rw [hfirst hx, hnext hy] at h
    exact absurd h (hapart hx)
  · rw [hfirst hy, hnext hx] at h
    exact absurd h.symm (hapart hy)
  · exact Except.ok.inj (hx.symm.trans hy)

end Sample

open Sample in
/-- Two replicas at the second envelope, one of which took the first one under the other key. -/
theorem histories_agree_sample :
    List.Forall₂ (·.SameSigned ·) [envelope, nextEnvelope] [rekeyed, nextEnvelope] := by
  have h := histories_agree chainPlatform chainInputs chainInputs_injOn ⟨0, .replicate 32 0⟩
  have hhashed : ∀ e ∈ [envelope, rekeyed, nextEnvelope], e.Hashed chainInputs := by
    intro e he
    simp only [List.mem_cons, List.not_mem_nil, or_false] at he
    rcases he with rfl | rfl | rfl
    · exact ⟨.inl (.inl rfl), fun _ h => .inl (.inr h)⟩
    · exact ⟨.inl (.inl rfl), fun _ h => .inl (.inr h)⟩
    · exact ⟨.inl (.inl rfl), fun _ h => .inr h⟩
  refine h.2 [envelope, nextEnvelope] [rekeyed, nextEnvelope] ⟨2, nextSha256⟩ ⟨2, nextSha256⟩ ?_ ?_
    (by decide +kernel) (by decide +kernel) rfl (.inl rfl)
  · exact fun e he => hhashed e (by simp only [List.mem_cons] at he ⊢; tauto)
  · exact fun e he => hhashed e (by simp only [List.mem_cons] at he ⊢; tauto)

end Mnemes
