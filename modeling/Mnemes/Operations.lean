import Mnemes.Server

/-!
# Operation envelopes

`submit_operation` collapses retries by an idempotency key the caller chooses. It looks the key up
in one section, reads the operation it found in a second one, and stores a new operation in a third;
the table has no uniqueness constraint on the key, and the comparison of a retry with the stored
operation looks at the content digest alone.

So keys stay unique, and all calls with one key are answered with one receipt, as long as no other
call stores a row under a key between the lookup and the insert of a call, and no lookup loses the
operation it found (`submit_idempotent`); otherwise not (`submissions_race`). And in a sequential
run a receipt witnesses the submitted operation exactly where the row read back under its key and
digest agrees with it (`receipt_witnesses`), which another device's row need not
(`receipt_of_another`).
-/

namespace Mnemes

open Concurrency Relational

variable {M : SemanticMemory}

/-! ## Submission -/

/-- `get_operation`; a failing query counts as no operation. -/
def getOperation (operationId : OperationId) : Op M (Option OperationEnvelope) :=
  poolReadOk (fun db => db.operations.find? operationId) fun _ => []

/-- The operation stored first under an idempotency key. -/
def PooledDb.operationByKey (db : PooledDb) (idempotencyKey : String) : Option OperationEnvelope :=
  db.operations.rows.find? (·.idempotencyKey = idempotencyKey)

/-- `get_operation_by_idempotency_key`: the identity in one section, the operation in another. -/
def getOperationByIdempotencyKey (idempotencyKey : String) : Op M (Option OperationEnvelope) := do
  let operationId ← poolConn fun db _ =>
    match db.operationByKey idempotencyKey with
    | none => .ok (none, db, [.operationMissing idempotencyKey])
    | some row => .ok (some row.operationId, db, [])
  match operationId with
  | none => return none
  | some operationId => getOperation operationId

/-- The receipt of a stored operation. -/
def receiptOf (operationId : OperationId) : String := "op-receipt:" ++ operationId.text

/-- The row of a new operation: the server sets the time and the receipt. -/
def OperationEnvelope.row (envelope : OperationEnvelope) (now : String) : OperationEnvelope :=
  { envelope with recordedAt := now, receiptId := some (receiptOf envelope.operationId) }

/-- `INSERT INTO operation_envelopes`, with the constraints of the schema. -/
def insertOperation (envelope : OperationEnvelope) : Op M String :=
  poolConn fun db x =>
    match db.operations.insert? (envelope.row x.now) with
    | none =>
      .error (.database "UNIQUE constraint failed: operation_envelopes.operation_id")
    | some operations =>
      if (db.devices.find? envelope.requestingDeviceId).isNone ||
          (db.actors.find? envelope.requestingActorId).isNone then
        .error (.database "FOREIGN KEY constraint failed")
      else .ok (receiptOf envelope.operationId, { db with operations },
        [.operationStored (envelope.row x.now)])

/-- `submit_operation`: the receipt. -/
def submitOperation (envelope : OperationEnvelope) : Op M String := do
  match ← getOperationByIdempotencyKey envelope.idempotencyKey with
  | some existing =>
    if existing.contentDigest = envelope.contentDigest then
      match existing.receiptId with
      | some receipt => return receipt
      | none => throw (.idempotencyConflict
          s!"operation with key {envelope.idempotencyKey} has no persistent receipt")
    else throw (.idempotencyConflict
      s!"operation with key {envelope.idempotencyKey} already exists")
  | none => insertOperation envelope

/-- The calls that submit operations. None of them holds a lock between two sections. -/
def submissions (M : SemanticMemory) :
    Service OperationEnvelope (MnemesStore M) Choice Event (Except MnemesError String) where
  body _ envelope := (submitOperation envelope).run
  release _ s := s

/-! ## What a section of a submission can do -/

/-- What one action of a submission may do to the state. -/
inductive Submits (s : MnemesStore M) : MnemesStore M → List Event → Prop where
  | idle : Submits s s []
  | missing {key : String} : s.db.operationByKey key = none → Submits s s [.operationMissing key]
  | store {row : OperationEnvelope}
    {operations : Table OperationEnvelope OperationEnvelope.operationId} :
    s.db.operations.insert? row = some operations →
    Submits s { s with db := { s.db with operations } } [.operationStored row]

/-- An operation is stored under the receipt, the key and the digest of the envelope. -/
def Receipted (envelope : OperationEnvelope) (receipt : String) (s : MnemesStore M) : Prop :=
  ∃ row ∈ s.db.operations.rows, row.idempotencyKey = envelope.idempotencyKey ∧
    row.contentDigest = envelope.contentDigest ∧ row.receiptId = some receipt

/-- Operations are only added. -/
def Grows (h h' : Hist (MnemesStore M) Event) : Prop :=
  h.state.db.operations.rows <+: h'.state.db.operations.rows

/-- A submission only adds operations. -/
theorem Submits.grows {s s' : MnemesStore M} {es : List Event} (hs : Submits s s' es) :
    s.db.operations.rows <+: s'.db.operations.rows := by
  cases hs with
  | idle | missing _ => exact List.prefix_rfl
  | store h => exact ⟨_, (Table.insert?_eq_some h).2.symm⟩

/-- The terms of the submissions: what is stored stays. -/
def submissionTerms (M : SemanticMemory) : RelyGuarantee (submissions M) where
  inv := fun _ => True
  rely := fun _ => Grows
  guar := fun i _ h h' => ∃ s' es, Submits h.state s' es ∧ h' = h.after i (s', es)
  rely_refl := fun _ _ => List.prefix_rfl
  rely_trans := List.IsPrefix.trans
  guar_rely := by
    rintro i k j h h' - - ⟨s', es, hs, rfl⟩
    exact hs.grows
  guar_inv := fun _ _ => trivial
  release_guar := fun _ => ⟨_, _, .idle, rfl⟩

/-- What the result of a submission says. -/
def submissionPost (_ : Tid) (envelope : OperationEnvelope) (r : Except MnemesError String)
    (h : Hist (MnemesStore M) Event) : Prop :=
  ∀ receipt, r = .ok receipt → Receipted envelope receipt h.state

section
variable {i : Tid} {envelope : OperationEnvelope} {h : Hist (MnemesStore M) Event}

/-- A receipt stays one while operations are added. -/
theorem Receipted.grows {receipt : String} {h h' : Hist (MnemesStore M) Event}
    (hr : Receipted envelope receipt h.state) (hg : Grows h h') :
    Receipted envelope receipt h'.state := by
  obtain ⟨row, hrow, hrest⟩ := hr
  exact ⟨row, hg.subset hrow, hrest⟩

variable {α : Type} {k : α → Op M String}

/-- A submission that ends with an error. -/
theorem safe_failed {e : MnemesError} :
    (Proc.done (.error e) : Proc (MnemesStore M) Choice Event (Except MnemesError String)).Safe
      ((submissionTerms M).terms i envelope) (submissionPost i envelope) h :=
  Proc.Safe.done fun _ _ _ _ hr => by cases hr

/-- A section of a submission. -/
theorem safe_section {f : PooledDb → Choice → Except MnemesError (α × PooledDb × List Event)}
    (hf : ∀ (h' : Hist (MnemesStore M) Event) x a db es, f h'.state.db x = .ok (a, db, es) →
      Submits h'.state { h'.state with db } es ∧
        (k a).run.Safe ((submissionTerms M).terms i envelope) (submissionPost i envelope)
          (h'.after i ({ h'.state with db }, es))) :
    (poolConn f >>= k).run.Safe ((submissionTerms M).terms i envelope)
      (submissionPost i envelope) h := by
  refine Proc.Safe.attempt_atomic fun h' x _ _ => ?_
  have hidle : ∃ s' es, Submits h'.state s' es ∧ h'.after i (h'.state, []) = h'.after i (s', es) :=
    ⟨_, _, .idle, rfl⟩
  cases hx : x.fault with
  | some error => exact ⟨hidle, fun _ _ _ _ hr => by cases hr⟩
  | none =>
    cases hfx : f h'.state.db x with
    | error e => exact ⟨hidle, fun _ _ _ _ hr => by cases hr⟩
    | ok r =>
      obtain ⟨a, db, es⟩ := r
      obtain ⟨h1, h2⟩ := hf h' x a db es hfx
      exact ⟨⟨_, _, h1, rfl⟩, h2⟩

/-- The lookup by key finds no operation, or fails to read it, or finds a stored one. -/
theorem safe_getOperationByIdempotencyKey {key : String}
    {k : Option OperationEnvelope → Op M String}
    (hnone : ∀ h' : Hist (MnemesStore M) Event,
      (k none).run.Safe ((submissionTerms M).terms i envelope) (submissionPost i envelope) h')
    (hsome : ∀ (h' : Hist (MnemesStore M) Event) row,
      row ∈ h'.state.db.operations.rows → row.idempotencyKey = key →
      (k (some row)).run.Safe ((submissionTerms M).terms i envelope)
        (submissionPost i envelope) h') :
    (getOperationByIdempotencyKey key >>= k).run.Safe ((submissionTerms M).terms i envelope)
      (submissionPost i envelope) h := by
  unfold getOperationByIdempotencyKey
  simp only [bind_assoc]
  refine safe_section fun h1 x a db es hf => ?_
  cases hfound : h1.state.db.operationByKey key with
  | none =>
    simp only [hfound] at hf
    cases hf
    exact ⟨.missing hfound, hnone _⟩
  | some row =>
    simp only [hfound] at hf
    cases hf
    refine ⟨.idle, ?_⟩
    refine Proc.Safe.attempt_atomic fun h2 x2 hg2 _ => ?_
    cases hx2 : x2.fault with
    | some error => exact ⟨⟨_, _, .idle, rfl⟩, hnone _⟩
    | none =>
      have hmem : row ∈ h2.state.db.operations.rows :=
        hg2.subset (by simpa using List.mem_of_find?_eq_some hfound)
      have hread : h2.state.db.operations.find? row.operationId = some row :=
        Table.find?_eq_some.2 ⟨hmem, rfl⟩
      simp only [hread]
      exact ⟨⟨_, _, .idle, rfl⟩, hsome _ row hmem (by simpa using List.find?_some hfound)⟩

/-- Every submission is safe. -/
theorem submission_bodies : (submissionTerms M).Bodies submissionPost := by
  intro i envelope h _ _
  show (submitOperation envelope).run.Safe ((submissionTerms M).terms i envelope) _ h
  refine safe_getOperationByIdempotencyKey (fun h1 => ?_) fun h1 row hmem hkey => ?_
  · -- the new row is stored under its receipt
    show (insertOperation envelope).run.Safe _ _ h1
    rw [← bind_pure (insertOperation envelope)]
    refine safe_section fun h2 x a db es hf => ?_
    split at hf
    · cases hf
    · next operations hins =>
      split at hf
      · cases hf
      · cases hf
        refine ⟨.store hins, Proc.Safe.done fun h3 hg _ receipt hr => ?_⟩
        cases hr
        refine Receipted.grows ⟨envelope.row x.now, ?_, rfl, rfl, rfl⟩ hg
        simp [(Table.insert?_eq_some hins).2]
  · -- the stored row is left as it is
    simp only
    split
    · next hdigest =>
      split
      · next receipt hreceipt =>
        refine Proc.Safe.done fun h2 hg _ r hr => ?_
        cases hr
        exact Receipted.grows ⟨row, hmem, hkey, hdigest, hreceipt⟩ hg
      · exact safe_failed
    · exact safe_failed

end

/-! ## Idempotency under concurrency -/

/-- No operation is stored under the key. -/
def NotStored (key : String) (tr : List (Tid × Event)) : Prop :=
  ∀ p ∈ tr, ∀ row, p.2 = .operationStored row → row.idempotencyKey ≠ key

/-- Every call that stores an operation had found none under the key, and no other one was stored
under it since. -/
def Unraced (tr : List (Tid × Event)) : Prop :=
  ∀ pre i row post, tr = pre ++ (i, .operationStored row) :: post →
    ∃ pre' mid, pre = pre' ++ (i, .operationMissing row.idempotencyKey) :: mid ∧
      NotStored row.idempotencyKey mid

/-- A trace without a race has none at its beginning. -/
theorem Unraced.of_append {tr tr' : List (Tid × Event)} (h : Unraced (tr ++ tr')) : Unraced tr := by
  rintro pre i row post rfl
  exact h pre i row (post ++ tr') (by simp)

/-- No two operations have one key. -/
def KeysUnique (s : MnemesStore M) : Prop :=
  ∀ row ∈ s.db.operations.rows, ∀ row' ∈ s.db.operations.rows,
    row.idempotencyKey = row'.idempotencyKey → row = row'

/-- A key whose lookup found no operation has none until one is stored. -/
def Fresh (h : Hist (MnemesStore M) Event) : Prop :=
  ∀ pre i key post, h.trace = pre ++ (i, .operationMissing key) :: post → NotStored key post →
    h.state.db.operationByKey key = none

/-- No operation is found under a key exactly if none has it. -/
theorem PooledDb.operationByKey_eq_none {db : PooledDb} {key : String} :
    db.operationByKey key = none ↔ ∀ row ∈ db.operations.rows, row.idempotencyKey ≠ key := by
  simp [operationByKey]

section
variable {i : Tid} {h : Hist (MnemesStore M) Event} {s' : MnemesStore M} {es : List Event}

/-- A step of a submission leaves no operation to a key that was not found, unless it stores one. -/
theorem Submits.fresh (hs : Submits h.state s' es) (hinv : Fresh h) :
    Fresh (h.after i (s', es)) := by
  intro pre j key post htr hnot
  cases hs with
  | idle => exact hinv pre j key post (by simpa using htr) hnot
  | @missing key' hnone =>
    rcases Hist.append_singleton_eq_append_cons htr with ⟨mid, hold, rfl⟩ | ⟨heq, -, -⟩
    · exact hinv pre j key mid hold fun p hp => hnot p (by simp [hp])
    · cases heq; exact hnone
  | @store row operations hins =>
    rcases Hist.append_singleton_eq_append_cons htr with ⟨mid, hold, rfl⟩ | ⟨heq, -, -⟩
    · have hnone := hinv pre j key mid hold fun p hp => hnot p (by simp [hp])
      have hkey : row.idempotencyKey ≠ key := hnot (i, .operationStored row) (by simp) row rfl
      rw [PooledDb.operationByKey_eq_none] at hnone ⊢
      intro r hr
      rcases List.mem_append.1 ((Table.insert?_eq_some hins).2 ▸ hr) with hr | hr
      · exact hnone r hr
      · rwa [List.mem_singleton.1 hr]
    · cases heq

/-- A step of a submission keeps the keys unique, if it does not race. -/
theorem Submits.keysUnique (hs : Submits h.state s' es) (hfresh : Fresh h)
    (hinv : Unraced h.trace → KeysUnique h.state) (hun : Unraced (h.after i (s', es)).trace) :
    KeysUnique s' := by
  have hinv := hinv hun.of_append
  cases hs with
  | idle | missing _ => exact hinv
  | @store row operations hins =>
    obtain ⟨pre', mid, hpre, hnot⟩ := hun h.trace i row [] rfl
    have hnone := PooledDb.operationByKey_eq_none.1 (hfresh pre' i _ mid hpre hnot)
    intro r hr r' hr' hkey
    rcases List.mem_append.1 ((Table.insert?_eq_some hins).2 ▸ hr) with hr | hr <;>
      rcases List.mem_append.1 ((Table.insert?_eq_some hins).2 ▸ hr') with hr' | hr'
    · exact hinv r hr r' hr' hkey
    · exact absurd (hkey.trans (by rw [List.mem_singleton.1 hr'])) (hnone r hr)
    · exact absurd (hkey.symm.trans (by rw [List.mem_singleton.1 hr])) (hnone r' hr')
    · rw [List.mem_singleton.1 hr, List.mem_singleton.1 hr']

end

/-- Submissions are idempotent in every run in which no call stores an operation after another one
was stored under its key since its lookup, or after a lookup that lost the operation it found: keys
are unique, and the calls that succeed with one key have one receipt. -/
theorem submit_idempotent {s : MnemesStore M}
    {c : Config OperationEnvelope (MnemesStore M) Choice Event (Except MnemesError String)}
    {cmds : List (Command OperationEnvelope Choice)} (hs : KeysUnique s)
    (hrun : (submissions M).run (Service.init s) cmds = some c) (hraces : Unraced c.hist.trace) :
    KeysUnique c.hist.state ∧
      ∀ i j e e' receipt receipt', c.slots i = .live e (.done (.ok receipt)) →
        c.slots j = .live e' (.done (.ok receipt')) → e.idempotencyKey = e'.idempotencyKey →
        receipt = receipt' := by
  have hinit : (submissionTerms M).Holds submissionPost (Service.init s) :=
    RelyGuarantee.Holds.init trivial
  obtain ⟨-, hunique⟩ := hinit.invariant submission_bodies
    (I := fun h => Fresh h ∧ (Unraced h.trace → KeysUnique h.state))
    ⟨by simp [Fresh, Service.init], fun _ => hs⟩
    (fun i k h h' hI hstep => by
      obtain ⟨s', es, hact, rfl⟩ := hstep
      exact ⟨hact.fresh hI.1, hact.keysUnique hI.1 hI.2⟩) hrun
  refine ⟨hunique hraces, fun i j e e' receipt receipt' hi hj hkey => ?_⟩
  have hc := hinit.run submission_bodies hrun
  obtain ⟨row, hrow, hrowKey, -, hreceipt⟩ := hc.result hi receipt rfl
  obtain ⟨row', hrow', hrowKey', -, hreceipt'⟩ := hc.result hj receipt' rfl
  obtain rfl := hunique hraces row hrow row' hrow' (by rw [hrowKey, hrowKey', hkey])
  exact Option.some.inj (hreceipt.symm.trans hreceipt')

namespace Sample

/-- An operator of a device. -/
def operator (actor : ActorId) (device : DeviceId) : Actor where
  actorId := actor
  deviceId := device
  toolProfile := .operator
  actorKind := "human"
  providerModel := none
  recordedAt := "now"

def actorA : ActorId := ⟨"9b2f0c1e-3d4a-4b5c-8d6e-7f8091a2b3c4"⟩

def actorB : ActorId := ⟨"1a2b3c4d-5e6f-4a7b-8c9d-0e1f2a3b4c5d"⟩

/-- The deployment with an operator on each device. -/
def staffed : MnemesStore memory :=
  { store with db := { store.db with
    actors := ⟨[operator actorA deviceA, operator actorB deviceB], by decide⟩ } }

/-- An operation of device A. -/
def operation (id : OperationId) : OperationEnvelope where
  operationId := id
  idempotencyKey := "sync-1"
  requestingDeviceId := deviceA
  requestingActorId := actorA
  recordingDeviceId := deviceA
  recordingServerId := deviceA
  operationKind := .revoke
  targetKind := "fact"
  targetId := "fact-a"
  contentDigest := "digest"
  observedAt := none
  validTime := none
  recordedAt := ""
  receiptId := none

def first : OperationId := ⟨"2f1e0d3c-4b5a-4978-8685-94a3b2c1d0e0"⟩

def second : OperationId := ⟨"3c2b1a09-8f7e-4d6c-9b5a-49382716f5e4"⟩

/-- A submission and its retry under a new identity. -/
def retried : List (Command OperationEnvelope Choice) :=
  [.start 0 (operation first), .run 0 plain, .run 0 plain,
    .start 1 (operation second), .run 1 plain, .run 1 plain]

/-- The same two calls at the same time. -/
def raced : List (Command OperationEnvelope Choice) :=
  [.start 0 (operation first), .start 1 (operation second), .run 0 plain, .run 1 plain,
    .run 0 plain, .run 1 plain]

end Sample

open Sample in
/-- Two submissions with one key get one receipt. -/
theorem submit_idempotent_sample : ∃ c,
    (submissions memory).run (Service.init staffed) retried = some c ∧
    KeysUnique c.hist.state ∧ c.result? 0 = some (.ok (receiptOf first)) ∧
    c.result? 0 = c.result? 1 := by
  have hrun : ((submissions memory).run (Service.init staffed) retried).any (fun c =>
      c.hist.trace = [(0, .operationMissing "sync-1"),
        (0, .operationStored ((operation first).row "now"))] ∧
      c.result? 0 = some (.ok (receiptOf first)) ∧
      c.result? 1 = some (.ok (receiptOf first))) = true := by decide +kernel
  obtain ⟨c, hc, h⟩ := (Option.any_eq_true _ _).1 hrun
  obtain ⟨htr, h0, h1⟩ := of_decide_eq_true h
  have hraces : Unraced c.hist.trace := by
    rw [htr]
    intro pre i row post heq
    rcases Hist.append_singleton_eq_append_cons (show [_] ++ [_] = _ from heq) with
      ⟨mid, hold, -⟩ | ⟨heq, rfl, -⟩
    · cases pre with
      | nil => cases hold
      | cons _ pre => simp at hold
    · cases heq
      exact ⟨[], [], rfl, fun p hp => by cases hp⟩
  exact ⟨c, hc, (submit_idempotent (by rintro row ⟨⟩) hc hraces).1, h0, h0.trans h1.symm⟩

open Sample in
/-- Two concurrent submissions with one key both store their operation, under two receipts. -/
theorem submissions_race : ∃ c,
    (submissions memory).run (Service.init staffed) raced = some c ∧
    c.result? 0 = some (.ok (receiptOf first)) ∧ c.result? 1 = some (.ok (receiptOf second)) ∧
    receiptOf first ≠ receiptOf second ∧
    c.hist.state.db.operations.rows =
      [(operation first).row "now", (operation second).row "now"] := by
  have hrun : ((submissions memory).run (Service.init staffed) raced).any (fun c =>
      c.result? 0 = some (.ok (receiptOf first)) ∧ c.result? 1 = some (.ok (receiptOf second)) ∧
      receiptOf first ≠ receiptOf second ∧
      c.hist.state.db.operations.rows =
        [(operation first).row "now", (operation second).row "now"]) = true := by decide +kernel
  obtain ⟨c, hc, h⟩ := (Option.any_eq_true _ _).1 hrun
  exact ⟨c, hc, of_decide_eq_true h⟩

/-! ## What a receipt witnesses -/

/-- The stored row is the operation the envelope asks for. -/
structure OperationEnvelope.Agrees (row envelope : OperationEnvelope) : Prop where
  idempotencyKey : row.idempotencyKey = envelope.idempotencyKey
  requestingDeviceId : row.requestingDeviceId = envelope.requestingDeviceId
  requestingActorId : row.requestingActorId = envelope.requestingActorId
  operationKind : row.operationKind = envelope.operationKind
  targetKind : row.targetKind = envelope.targetKind
  targetId : row.targetId = envelope.targetId
  contentDigest : row.contentDigest = envelope.contentDigest

/-- A sequential run of submissions, each with the choices of its actions: every call runs alone
from the state the one before it left. A call whose choices run out is dropped. -/
def sequential (s : MnemesStore M) : List (OperationEnvelope × List Choice) → MnemesStore M
  | [] => s
  | (envelope, xs) :: calls => sequential ((submitOperation envelope).run.exec xs s).2 calls

/-- The operation a submission that runs alone reads back under its key. The read by identity loses
it where the second choice is a fault. -/
def readBack (s : MnemesStore M) (idempotencyKey : String) (xs : List Choice) :
    Option OperationEnvelope :=
  (s.db.operationByKey idempotencyKey).filter fun _ => xs[1]?.any (·.fault = none)

/-- Every stored operation has the receipt of its identity. -/
def Receipts (s : MnemesStore M) : Prop :=
  ∀ row ∈ s.db.operations.rows, row.receiptId = some (receiptOf row.operationId)

/-- Receipts tell operations apart. -/
theorem receiptOf_inj {a b : OperationId} (h : receiptOf a = receiptOf b) : a = b := by
  have := congrArg String.toList h
  simp only [receiptOf, String.toList_append, List.append_cancel_left_eq] at this
  obtain ⟨a⟩ := a
  obtain ⟨b⟩ := b
  exact congrArg OperationId.mk (String.toList_inj.1 this)

section
variable (s : MnemesStore M) (envelope : OperationEnvelope) (xs : List Choice)

/-- A new operation, stored alone. -/
theorem insertOperation_exec :
    ((insertOperation envelope : Op M String).run.exec xs s).2 = s ∧
        (∀ receipt ys, ((insertOperation envelope : Op M String).run.exec xs s).1 ≠
          some (.ok receipt, ys)) ∨
      ∃ now operations ys, s.db.operations.insert? (envelope.row now) = some operations ∧
        (insertOperation envelope : Op M String).run.exec xs s =
          (some (.ok (receiptOf envelope.operationId), ys),
            { s with db := { s.db with operations } }) := by
  rw [← bind_pure (insertOperation envelope)]
  cases xs with
  | nil => exact .inl ⟨rfl, fun _ _ h => by cases h⟩
  | cons x xs =>
    unfold insertOperation poolConn
    rw [Proc.exec_attempt]
    cases hx : x.fault with
    | some error => exact .inl ⟨rfl, fun _ _ h => by cases h⟩
    | none =>
      cases hins : s.db.operations.insert? (envelope.row x.now) with
      | none => exact .inl ⟨by simp [hins], fun _ _ h => by simp [hins] at h⟩
      | some operations =>
        by_cases hfk : ((s.db.devices.find? envelope.requestingDeviceId).isNone ||
            (s.db.actors.find? envelope.requestingActorId).isNone) = true
        · exact .inl ⟨by simp [hins, hfk], fun _ _ h => by simp [hins, hfk] at h⟩
        · exact .inr ⟨x.now, operations, xs, hins, by simp only [hins, hfk]; rfl⟩

/-- The lookup by key, alone: it ends the call, or the call goes on with what was read back. -/
theorem getOperationByIdempotencyKey_exec (key : String)
    {k : Option OperationEnvelope → Op M String} :
    (∃ r, (getOperationByIdempotencyKey key >>= k).run.exec xs s = (r, s) ∧
        ∀ receipt ys, r ≠ some (.ok receipt, ys)) ∨
      ∃ ys, (getOperationByIdempotencyKey key >>= k).run.exec xs s =
        (k (readBack s key xs)).run.exec ys s := by
  unfold getOperationByIdempotencyKey
  simp only [bind_assoc]
  cases xs with
  | nil => exact .inl ⟨_, rfl, fun _ _ h => by cases h⟩
  | cons x xs =>
    unfold poolConn
    rw [Proc.exec_attempt]
    cases hx : x.fault with
    | some error => exact .inl ⟨_, rfl, fun _ _ h => by cases h⟩
    | none =>
      cases hfound : s.db.operationByKey key with
      | none => exact .inr ⟨xs, by simp [readBack, hfound]⟩
      | some row =>
        simp only [hfound]
        unfold getOperation poolReadOk
        cases xs with
        | nil => exact .inl ⟨none, rfl, fun _ _ h => by cases h⟩
        | cons y ys =>
          rw [Proc.exec_attempt]
          cases hy : y.fault with
          | some error => exact .inr ⟨ys, by simp [readBack, hfound, hy, Option.filter]⟩
          | none =>
            have hread : s.db.operations.find? row.operationId = some row :=
              Table.find?_eq_some.2 ⟨List.mem_of_find?_eq_some hfound, rfl⟩
            exact .inr ⟨ys, by simp [readBack, hfound, hy, hread, Option.filter]⟩

/-- What a submission does alone: it answers from the row it reads back, or fails, and changes
nothing; or it reads nothing back and stores its operation. -/
theorem submitOperation_exec :
    ((submitOperation envelope).run.exec xs s).2 = s ∧
        (∀ receipt ys, ((submitOperation envelope).run.exec xs s).1 = some (.ok receipt, ys) →
          ∃ row, readBack s envelope.idempotencyKey xs = some row ∧
            row.contentDigest = envelope.contentDigest ∧ row.receiptId = some receipt) ∨
      ∃ now operations ys, readBack s envelope.idempotencyKey xs = none ∧
        s.db.operations.insert? (envelope.row now) = some operations ∧
        (submitOperation envelope).run.exec xs s =
          (some (.ok (receiptOf envelope.operationId), ys),
            { s with db := { s.db with operations } }) := by
  unfold submitOperation
  rcases getOperationByIdempotencyKey_exec s xs envelope.idempotencyKey with
    ⟨r, h, hr⟩ | ⟨zs, h⟩
  · rw [h]
    exact .inl ⟨rfl, fun receipt ys he => absurd he (hr receipt ys)⟩
  · rw [h]
    cases hread : readBack s envelope.idempotencyKey xs with
    | none =>
      rcases insertOperation_exec s envelope zs with
        ⟨hs, hr⟩ | ⟨now, operations, ys, hins, hexec⟩
      · exact .inl ⟨hs, fun receipt ys he => absurd he (hr receipt ys)⟩
      · exact .inr ⟨now, operations, ys, rfl, hins, hexec⟩
    | some row =>
      simp only
      split
      · next hdigest =>
        split
        · next receipt hreceipt =>
          refine .inl ⟨rfl, fun r ys he => ⟨row, rfl, hdigest, ?_⟩⟩
          cases he
          exact hreceipt
        · exact .inl ⟨rfl, fun _ _ he => by cases he⟩
      · exact .inl ⟨rfl, fun _ _ he => by cases he⟩

/-- What a submission alone leaves of the table, and that receipts stay those of the identities. -/
theorem submitOperation_grows (envelope : OperationEnvelope) (xs : List Choice)
    (s : MnemesStore M) :
    s.db.operations.rows <+: ((submitOperation envelope).run.exec xs s).2.db.operations.rows ∧
      (Receipts s → Receipts ((submitOperation envelope).run.exec xs s).2) := by
  rcases submitOperation_exec s envelope xs with
    ⟨hs, -⟩ | ⟨now, operations, ys, -, hins, hexec⟩
  · rw [hs]
    exact ⟨List.prefix_rfl, id⟩
  · rw [hexec]
    have hrows := (Table.insert?_eq_some hins).2
    refine ⟨⟨_, hrows.symm⟩, fun hR row hrow => ?_⟩
    rcases List.mem_append.1 (hrows ▸ hrow) with hrow | hrow
    · exact hR row hrow
    · rw [List.mem_singleton.1 hrow]
      rfl

end

section
variable {s : MnemesStore M} {before after : List (OperationEnvelope × List Choice)}

/-- Two lists of calls run one after the other. -/
theorem sequential_append (s : MnemesStore M)
    (before after : List (OperationEnvelope × List Choice)) :
    sequential s (before ++ after) = sequential (sequential s before) after := by
  induction before generalizing s with
  | nil => rfl
  | cons call before ih => exact ih _

/-- Calls only add operations, and leave each with its receipt. -/
theorem sequential_grows (s : MnemesStore M) (calls : List (OperationEnvelope × List Choice)) :
    s.db.operations.rows <+: (sequential s calls).db.operations.rows ∧
      (Receipts s → Receipts (sequential s calls)) := by
  induction calls generalizing s with
  | nil => exact ⟨List.prefix_rfl, id⟩
  | cons call calls ih =>
    obtain ⟨h1, h2⟩ := submitOperation_grows call.1 call.2 s
    obtain ⟨h3, h4⟩ := ih ((submitOperation call.1).run.exec call.2 s).2
    exact ⟨h1.trans h3, h4 ∘ h2⟩

/-- In every sequential run, the receipt of each successful submission is that of exactly one stored
row, and that row is the submitted operation if and only if the row the submission read back under
its key, where it has its digest, is that operation. -/
theorem receipt_witnesses (hs : Receipts s) {envelope : OperationEnvelope} {xs ys : List Choice}
    {receipt : String}
    (hok : ((submitOperation envelope).run.exec xs (sequential s before)).1 =
      some (.ok receipt, ys)) :
    ∃ row ∈ (sequential s (before ++ (envelope, xs) :: after)).db.operations.rows,
      row.receiptId = some receipt ∧
      (∀ row' ∈ (sequential s (before ++ (envelope, xs) :: after)).db.operations.rows,
        row'.receiptId = some receipt → row' = row) ∧
      (row.Agrees envelope ↔ ∀ found,
        readBack (sequential s before) envelope.idempotencyKey xs = some found →
          found.contentDigest = envelope.contentDigest → found.Agrees envelope) := by
  have hR := (sequential_grows s before).2 hs
  have hR' := (sequential_grows s (before ++ (envelope, xs) :: after)).2 hs
  rw [sequential_append] at hR' ⊢
  have hlast := (sequential_grows ((submitOperation envelope).run.exec xs (sequential s before)).2
    after).1
  -- a stored row with the receipt is the only one
  suffices h :
      ∃ row ∈ ((submitOperation envelope).run.exec xs (sequential s before)).2.db.operations.rows,
      row.receiptId = some receipt ∧ (row.Agrees envelope ↔ ∀ found,
        readBack (sequential s before) envelope.idempotencyKey xs = some found →
          found.contentDigest = envelope.contentDigest → found.Agrees envelope) by
    obtain ⟨row, hrow, hreceipt, hiff⟩ := h
    refine ⟨row, hlast.subset hrow, hreceipt, fun row' hrow' hreceipt' => ?_, hiff⟩
    refine Table.eq_of_key hrow' (hlast.subset hrow) (receiptOf_inj ?_)
    rw [hR' row' hrow', ← hreceipt, hR' row (hlast.subset hrow)] at hreceipt'
    exact Option.some.inj hreceipt'
  rcases submitOperation_exec (sequential s before) envelope xs with
    ⟨hstate, hread⟩ | ⟨now, operations, zs, hread, hins, hexec⟩
  · obtain ⟨row, hfound, hdigest, hreceipt⟩ := hread receipt ys hok
    rw [hstate]
    refine ⟨row, ?_, hreceipt, ?_⟩
    · exact List.mem_of_find?_eq_some (Option.filter_eq_some_iff.1 hfound).1
    · rw [hfound]
      exact ⟨fun h found hf _ => Option.some.inj hf ▸ h, fun h => h row rfl hdigest⟩
  · rw [hexec] at hok ⊢
    cases hok
    rw [hread]
    refine ⟨envelope.row now, ?_, rfl,
      ⟨fun _ => nofun, fun _ => ⟨rfl, rfl, rfl, rfl, rfl, rfl, rfl⟩⟩⟩
    simp [(Table.insert?_eq_some hins).2]

end

namespace Sample

/-- An operation of device B on another target, under the key and the digest of device A's. -/
def operationB : OperationEnvelope :=
  { operation second with
    requestingDeviceId := deviceB
    requestingActorId := actorB
    recordingDeviceId := deviceB
    recordingServerId := deviceB
    targetId := "fact-b" }

end Sample

open Sample in
/-- The receipt of a retry is that of the operation stored before. -/
theorem receipt_witnesses_sample :
    ∃ row ∈ (sequential staffed [(operation first, [plain, plain]),
        (operation second, [plain, plain])]).db.operations.rows,
      row.receiptId = some (receiptOf first) ∧ row.Agrees (operation second) := by
  have hok : ((submitOperation (operation second)).run.exec [plain, plain]
      (sequential staffed [(operation first, [plain, plain])])).1 =
        some (.ok (receiptOf first), []) := by decide +kernel
  have hreceipts : Receipts staffed := by rintro row ⟨⟩
  obtain ⟨row, hrow, hreceipt, -, hiff⟩ := @receipt_witnesses _ _ _ [] hreceipts _ _ _ _ hok
  have hread : readBack (sequential staffed [(operation first, [plain, plain])]) "sync-1"
      [plain, plain] = some ((operation first).row "now") := by decide +kernel
  refine ⟨row, hrow, hreceipt, hiff.2 fun found hfound _ => ?_⟩
  obtain rfl := Option.some.inj (hread.symm.trans hfound)
  exact ⟨rfl, rfl, rfl, rfl, rfl, rfl, rfl⟩

open Sample in
/-- Device B is told that its operation was accepted, under the receipt of device A's operation on
another target; its own is not stored. -/
theorem receipt_of_another :
    ((submitOperation operationB).run.exec [plain, plain]
        (sequential staffed [(operation first, [plain, plain])])).1 =
      some (.ok (receiptOf first), []) ∧
    (sequential staffed [(operation first, [plain, plain]),
        (operationB, [plain, plain])]).db.operations.rows = [(operation first).row "now"] ∧
    ¬ ((operation first).row "now").Agrees operationB := by
  refine ⟨by decide +kernel, by decide +kernel, fun h => ?_⟩
  exact absurd h.requestingDeviceId (by decide)

end Mnemes
