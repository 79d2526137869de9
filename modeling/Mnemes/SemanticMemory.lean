import Mathlib.Data.List.Nodup
import Mnemes.Types

/-!
# The owner of a shard

Semantic content belongs to the `semantic-memory` crate: one store per device shard, which applies
verified replica envelopes to its streams. `SemanticMemory` is what the control plane relies on of
it: the functions it calls, and the laws of the apply transactions. A stream's log is extended by
an envelope with the next sequence and the head's digest as predecessor, an envelope that is in the
log already is a duplicate, and everything else leaves the store as it was (`OwnerApply`).

`journalMemory` is a reference owner that satisfies the laws.
-/

namespace Mnemes

/-! ## Envelopes and outcomes -/

/-- A replica envelope, `FactCreateReplicaEnvelopeV1` and `FactSupersedeReplicaEnvelopeV1`. -/
structure ReplicaEnvelopeV1 where
  homeDeviceId : String
  storeId : String
  streamEpoch : UInt64
  sequence : Int64
  operationKind : String
  payloadSchema : String
  payload : Bytes
  payloadDigest : Bytes32
  predecessorDigest : Bytes32
  envelopeDigest : Bytes32
  deriving DecidableEq

/-- The stream an envelope belongs to. -/
structure Stream where
  homeDeviceId : String
  storeId : String
  streamEpoch : UInt64
  deriving DecidableEq

/-- The stream an envelope belongs to. -/
def ReplicaEnvelopeV1.stream (e : ReplicaEnvelopeV1) : Stream :=
  ⟨e.homeDeviceId, e.storeId, e.streamEpoch⟩

/-- `FactCreatePayloadV1`, of which the control plane reads the namespace. -/
structure FactCreatePayloadV1 where
  «namespace» : String
  deriving DecidableEq, Repr

/-- The payload of a supersession, of which the control plane reads the replacement. -/
structure FactSupersedePayloadV1 where
  replacementPayload : Bytes
  deriving DecidableEq

/-- The owner's answer to an apply. -/
inductive ReplicaApplyOutcome where
  | applied (sequence : Int64)
  | duplicate (sequence : Int64)
  | fork
  | gap
  | epochConflict
  | stalePredecessor
  deriving DecidableEq, Repr

/-- The sequence an accepting answer reports; `none` for a conflict. -/
def ReplicaApplyOutcome.accepted : ReplicaApplyOutcome → Option Int64
  | applied sequence | duplicate sequence => some sequence
  | fork | gap | epochConflict | stalePredecessor => none

/-- `MemoryStats`, the counters the catalog copies. -/
structure MemoryStats where
  totalFacts : UInt64
  totalDocuments : UInt64
  totalChunks : UInt64
  totalMessages : UInt64
  deriving DecidableEq, Repr

/-! ## Logs -/

/-- The head of a stream's log: the last sequence and its digest, and `0` with the genesis digest
for the empty log. -/
def head (genesis : Bytes32) (log : List ReplicaEnvelopeV1) : Int × Bytes32 :=
  match log.getLast? with
  | none => (0, genesis)
  | some e => (e.sequence.toInt, e.envelopeDigest)

@[simp] theorem head_append (genesis : Bytes32) (log : List ReplicaEnvelopeV1)
    (e : ReplicaEnvelopeV1) :
    head genesis (log ++ [e]) = (e.sequence.toInt, e.envelopeDigest) := by
  simp [head]

/-- `e` extends `log`: it has the next sequence, and the head's digest as its predecessor. -/
def Extends (genesis : Bytes32) (log : List ReplicaEnvelopeV1) (e : ReplicaEnvelopeV1) : Prop :=
  e.sequence.toInt = (head genesis log).1 + 1 ∧ e.predecessorDigest = (head genesis log).2

instance (genesis : Bytes32) (log : List ReplicaEnvelopeV1) (e : ReplicaEnvelopeV1) :
    Decidable (Extends genesis log e) := inferInstanceAs (Decidable (_ ∧ _))

/-- A log that was grown one extension at a time. -/
inductive Chained (genesis : Bytes32) : List ReplicaEnvelopeV1 → Prop where
  | nil : Chained genesis []
  | snoc {log : List ReplicaEnvelopeV1} {e : ReplicaEnvelopeV1} :
    Chained genesis log → Extends genesis log e → Chained genesis (log ++ [e])

/-- The head of a chained log is at the log's length. -/
theorem Chained.head_eq_length {genesis : Bytes32} {log : List ReplicaEnvelopeV1}
    (h : Chained genesis log) : (head genesis log).1 = log.length := by
  induction h with
  | nil => rfl
  | snoc _ he ih => rw [head_append, he.1, ih, List.length_append, Int.natCast_add]; rfl

/-- The envelope at position `k` of a chained log has sequence `k + 1`. -/
theorem Chained.sequence {genesis : Bytes32} {log : List ReplicaEnvelopeV1}
    (h : Chained genesis log) {k : Nat} {e : ReplicaEnvelopeV1} (hk : log[k]? = some e) :
    e.sequence.toInt = k + 1 := by
  induction h with
  | nil => simp at hk
  | @snoc log x hc he ih =>
    rw [List.getElem?_append] at hk
    split at hk
    · exact ih hk
    · next hlt =>
      have hk0 : k = log.length := by
        have := (List.getElem?_eq_some_iff.1 hk).1
        simp only [List.length_cons, List.length_nil] at this
        omega
      subst hk0
      simp only [Nat.sub_self, List.getElem?_cons_zero, Option.some.injEq] at hk
      rw [← hk, he.1, hc.head_eq_length]

/-- The sequences of a chained log are exactly `1 … length`. -/
theorem Chained.exists_sequence {genesis : Bytes32} {log : List ReplicaEnvelopeV1}
    (h : Chained genesis log) {q : Int} :
    (∃ e ∈ log, e.sequence.toInt = q) ↔ 1 ≤ q ∧ q ≤ log.length := by
  constructor
  · rintro ⟨e, he, rfl⟩
    obtain ⟨k, hk, rfl⟩ := List.mem_iff_getElem.1 he
    have := h.sequence (List.getElem?_eq_getElem hk)
    omega
  · rintro ⟨h1, h2⟩
    have hk : (q - 1).toNat < log.length := by omega
    refine ⟨log[(q - 1).toNat], List.getElem_mem hk, ?_⟩
    rw [h.sequence (List.getElem?_eq_getElem hk)]
    omega

/-- A chained log holds each of its envelopes once. -/
theorem Chained.nodup {genesis : Bytes32} {log : List ReplicaEnvelopeV1}
    (h : Chained genesis log) : log.Nodup := by
  rw [List.nodup_iff_injective_get]
  intro i j hij
  have hi := h.sequence (List.getElem?_eq_getElem i.2)
  have hj := h.sequence (List.getElem?_eq_getElem j.2)
  simp only [List.get_eq_getElem] at hij
  rw [hij] at hi
  exact Fin.ext (by omega)

/-! ## The owner -/

/-- What an apply function of the owner does, each call a transaction. -/
structure OwnerApply {Store : Type} (genesis : Bytes32)
    (log : Store → Stream → List ReplicaEnvelopeV1)
    (apply : Store → ReplicaEnvelopeV1 → Except MemoryError (ReplicaApplyOutcome × Store)) :
    Prop where
  /-- `Applied` answers the next envelope of its stream, and appends it. -/
  applied {s s' : Store} {e : ReplicaEnvelopeV1} {q : Int64} : apply s e = .ok (.applied q, s') →
    q = e.sequence ∧ Extends genesis (log s e.stream) e ∧
      ∀ σ, log s' σ = if σ = e.stream then log s σ ++ [e] else log s σ
  /-- `Duplicate` answers an envelope of the log, and changes nothing. -/
  duplicate {s s' : Store} {e : ReplicaEnvelopeV1} {q : Int64} :
    apply s e = .ok (.duplicate q, s') → q = e.sequence ∧ e ∈ log s e.stream ∧ s' = s
  /-- A conflict changes nothing. -/
  conflict {s s' : Store} {e : ReplicaEnvelopeV1} {o : ReplicaApplyOutcome} :
    apply s e = .ok (o, s') → o.accepted = none → s' = s
  /-- An envelope of the log is recognised. -/
  recorded {s : Store} {e : ReplicaEnvelopeV1} :
    e ∈ log s e.stream → apply s e = .ok (.duplicate e.sequence, s)

/-- The owner of semantic content, as far as replication calls it. Errors are the texts of the
owner's error type where the caller only prints them. -/
structure SemanticMemory where
  Store : Type
  /-- The digest before the first envelope of a stream. -/
  genesis : Bytes32
  /-- The applied envelopes of a stream, in order. -/
  log : Store → Stream → List ReplicaEnvelopeV1
  validateFactCreateReplicaEnvelope : ReplicaEnvelopeV1 → Except String FactCreatePayloadV1
  validateFactSupersedeReplicaEnvelope : ReplicaEnvelopeV1 → Except String FactSupersedePayloadV1
  /-- `serde_json::from_slice::<FactCreatePayloadV1>`. -/
  factCreatePayloadFromSlice : Bytes → Except String FactCreatePayloadV1
  applyVerifiedFactCreate :
    Store → ReplicaEnvelopeV1 → Except MemoryError (ReplicaApplyOutcome × Store)
  applyVerifiedFactSupersede :
    Store → ReplicaEnvelopeV1 → Except MemoryError (ReplicaApplyOutcome × Store)
  stats : Store → Except MemoryError MemoryStats
  factCreate_laws : OwnerApply genesis log applyVerifiedFactCreate
  factSupersede_laws : OwnerApply genesis log applyVerifiedFactSupersede

namespace OwnerApply

variable {Store : Type} {genesis : Bytes32} {log : Store → Stream → List ReplicaEnvelopeV1}
  {apply : Store → ReplicaEnvelopeV1 → Except MemoryError (ReplicaApplyOutcome × Store)}
  {s s' : Store} {e : ReplicaEnvelopeV1} {o : ReplicaApplyOutcome}

/-- Whatever the owner answers, every log keeps what it held. -/
theorem log_prefix (h : OwnerApply genesis log apply) (ha : apply s e = .ok (o, s')) (σ : Stream) :
    log s σ <+: log s' σ := by
  cases o with
  | applied q =>
    rw [(h.applied ha).2.2 σ]
    split
    · exact List.prefix_append _ _
    · exact List.prefix_rfl
  | duplicate q => rw [(h.duplicate ha).2.2]
  | fork | gap | epochConflict | stalePredecessor => rw [h.conflict ha rfl]

/-- An accepted envelope is in the log, at the sequence the answer reports. -/
theorem mem_log (h : OwnerApply genesis log apply) (ha : apply s e = .ok (o, s')) {q : Int64}
    (hq : o.accepted = some q) : q = e.sequence ∧ e ∈ log s' e.stream := by
  cases o with
  | applied q' =>
    cases hq
    obtain ⟨h1, -, h3⟩ := h.applied ha
    exact ⟨h1, by simp [h3]⟩
  | duplicate q' =>
    cases hq
    obtain ⟨h1, h2, rfl⟩ := h.duplicate ha
    exact ⟨h1, h2⟩
  | fork | gap | epochConflict | stalePredecessor => cases hq

/-- What a log gains is the envelope, in its stream. -/
theorem mem_log_of_mem (h : OwnerApply genesis log apply) (ha : apply s e = .ok (o, s'))
    {σ : Stream} {x : ReplicaEnvelopeV1} (hx : x ∈ log s' σ) :
    x ∈ log s σ ∨ x = e ∧ σ = e.stream := by
  cases o with
  | applied q =>
    rw [(h.applied ha).2.2 σ] at hx
    split at hx
    · next hσ =>
      rcases List.mem_append.1 hx with hx | hx
      · exact .inl hx
      · exact .inr ⟨List.mem_singleton.1 hx, hσ⟩
    · exact .inl hx
  | duplicate q => rw [(h.duplicate ha).2.2] at hx; exact .inl hx
  | fork | gap | epochConflict | stalePredecessor => rw [h.conflict ha rfl] at hx; exact .inl hx

/-- A chained log stays chained. -/
theorem chained (h : OwnerApply genesis log apply) (ha : apply s e = .ok (o, s')) {σ : Stream}
    (hc : Chained genesis (log s σ)) : Chained genesis (log s' σ) := by
  cases o with
  | applied q =>
    obtain ⟨-, h2, h3⟩ := h.applied ha
    rw [h3 σ]
    split
    · next hσ => subst hσ; exact hc.snoc h2
    · exact hc
  | duplicate q => rw [(h.duplicate ha).2.2]; exact hc
  | fork | gap | epochConflict | stalePredecessor => rw [h.conflict ha rfl]; exact hc

end OwnerApply

/-! ## A reference owner -/

/-- The apply transaction of the reference owner, over one list of applied envelopes. -/
def journalApply (s : List ReplicaEnvelopeV1) (e : ReplicaEnvelopeV1) :
    Except MemoryError (ReplicaApplyOutcome × List ReplicaEnvelopeV1) :=
  let log := s.filter (·.stream = e.stream)
  if e ∈ log then .ok (.duplicate e.sequence, s)
  else if Extends (Vector.replicate 32 0) log e then .ok (.applied e.sequence, s ++ [e])
  else if e.sequence.toInt = (head (Vector.replicate 32 0) log).1 + 1 then .ok (.stalePredecessor, s)
  else if (head (Vector.replicate 32 0) log).1 < e.sequence.toInt then .ok (.gap, s)
  else .ok (.fork, s)

/-- A journal that only takes consecutive envelopes behaves as the owner does. -/
theorem journalApply_laws :
    OwnerApply (Vector.replicate 32 0) (fun s σ => s.filter (·.stream = σ)) journalApply where
  applied {s s' e q} h := by
    unfold journalApply at h
    simp only at h
    split at h
    · cases h
    · split at h
      · next he =>
        cases h
        refine ⟨rfl, he, fun σ => ?_⟩
        by_cases hσ : σ = e.stream
        · simp [hσ]
        · simp [hσ, Ne.symm hσ]
      · split at h
        · cases h
        · split at h <;> cases h
  duplicate {s s' e q} h := by
    unfold journalApply at h
    simp only at h
    split at h
    · next he => cases h; exact ⟨rfl, he, rfl⟩
    · split at h
      · cases h
      · split at h
        · cases h
        · split at h <;> cases h
  conflict {s s' e o} h ho := by
    unfold journalApply at h
    simp only at h
    split at h
    · cases h; rfl
    · split at h
      · cases h; cases ho
      · split at h
        · cases h; rfl
        · split at h <;> (cases h; rfl)
  recorded {s e} h := by
    unfold journalApply
    exact if_pos h

/-- A reference owner: the store is the list of the applied envelopes, and every payload is about
the namespace `ns`. -/
def journalMemory (ns : String) : SemanticMemory where
  Store := List ReplicaEnvelopeV1
  genesis := Vector.replicate 32 0
  log s σ := s.filter (·.stream = σ)
  validateFactCreateReplicaEnvelope _ := .ok ⟨ns⟩
  validateFactSupersedeReplicaEnvelope e := .ok ⟨e.payload⟩
  factCreatePayloadFromSlice _ := .ok ⟨ns⟩
  applyVerifiedFactCreate := journalApply
  applyVerifiedFactSupersede := journalApply
  stats s := .ok ⟨UInt64.ofNat s.length, 0, 0, 0⟩
  factCreate_laws := journalApply_laws
  factSupersede_laws := journalApply_laws

end Mnemes
