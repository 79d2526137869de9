import Mnemes.Credentials
import Mnemes.Operations
import Mnemes.Provenance.Appends
import Mnemes.RunPack.Admission

/-!
# Importing a run pack

`import_run_pack_observation` stores an operation and then a provenance edge, each in a section of
its own. The operation is found again by its idempotency key and digest, the edge by its ends, so a
retry repairs what a crash left open.

What an import does once it is admitted is said section by section (`record_run`): it ends without
effect, or its operation is found or stored, and its edge is recorded for it or not.
-/

namespace Mnemes

open Concurrency Relational Rfc3339

variable {M : SemanticMemory}

/-! ## The import -/

/-- `list_actors_for_device`. -/
def PooledDb.listActorsForDevice (db : PooledDb) (deviceId : DeviceId) : List Actor :=
  (db.actors.rows.filter (·.deviceId = deviceId)).insertionSort fun a b =>
    textLe a.recordedAt b.recordedAt

/-- The operation with a receipt. -/
def PooledDb.operationByReceipt (db : PooledDb) (receiptId : String) : Option OperationEnvelope :=
  db.operations.rows.find? (·.receiptId = some receiptId)

/-- `get_operation_by_receipt`: the identity in one section, the operation in another. -/
def getOperationByReceipt (receiptId : String) : Op M (Option OperationEnvelope) := do
  match ← poolRead fun db => .ok ((db.operationByReceipt receiptId).map (·.operationId)) with
  | none => return none
  | some operationId => getOperation operationId

structure RunPackObservationReceipt where
  receiptId : String
  operationId : OperationId
  recordedAt : String
  deriving DecidableEq, Repr

/-- What is presented to an import, with the attestation key of the server. -/
structure RunPackInput where
  token : String
  bytes : Bytes
  attestationKey : Option Bytes

/-- The idempotency key of an import. -/
def runPackKey (projection : RunPackEvidenceProjectionV1) : String :=
  s!"mnemes-run-pack-import:{projection.packManifestDigest}:{projection.schema}"

/-- The ends of the edge of an import. -/
def runPackSource (projection : RunPackEvidenceProjectionV1) : MemoryItemRef :=
  ⟨"run_pack_projection", projection.projectionId⟩

def runPackTarget (projection : RunPackEvidenceProjectionV1) : MemoryItemRef :=
  ⟨"pack_manifest", projection.packManifestDigest⟩

/-- What an import goes on with: the device that presented it, what was admitted, and the actor in
whose name it is recorded. -/
structure RunPackImport where
  device : Device
  projection : RunPackEvidenceProjectionV1
  observedAt : Option DateTime
  actor : Actor
  digest : String

/-- The operation of an import, under a proposed identity. -/
def RunPackImport.envelope (i : RunPackImport) (proposed : OperationId) : OperationEnvelope where
  operationId := proposed
  idempotencyKey := runPackKey i.projection
  requestingDeviceId := i.device.deviceId
  requestingActorId := i.actor.actorId
  recordingDeviceId := i.device.deviceId
  recordingServerId := i.device.deviceId
  operationKind := .observe
  targetKind := "run_pack_projection"
  targetId := i.projection.projectionId
  contentDigest := i.digest
  observedAt := i.projection.origin.observedAt
  validTime := i.projection.origin.observedAt
  recordedAt := ""
  receiptId := none

/-- The edge of an import, for its operation. -/
def RunPackImport.edgeRequest (i : RunPackImport) (source target : MemoryItemRef)
    (operationId : OperationId) : ProvenanceEdgeRequest where
  edgeType := .derivedFrom
  source
  target
  operationId := some operationId
  actorId := some i.actor.actorId
  deviceId := some i.device.deviceId
  validFrom := none
  validTo := none
  observedAt := i.observedAt
  recordedAt := none
  contentDigest := some i.digest
  metadata := none
  supersedesEdgeId := none

section
variable (P : Platform) (C : Chrono) (J : SerdeJson)
  (fromSlice : Bytes → Except String RunPackAdmissionEnvelope)

/-- The import once it is admitted: the operation, read back by its receipt, and then its edge. -/
def RunPackImport.record (i : RunPackImport) (proposed : OperationId) (minted : Minted) :
    Op M RunPackObservationReceipt := do
  let receiptId ← submitOperation (i.envelope proposed)
  match ← getOperationByReceipt receiptId with
  | none => throw (.database "operation receipt missing")
  | some operation =>
    let source ← liftM (MemoryItemRef.new "run_pack_projection" i.projection.projectionId)
    let target ← liftM (MemoryItemRef.new "pack_manifest" i.projection.packManifestDigest)
    let _ ← (recordProvenanceEdge C J (i.edgeRequest source target operation.operationId) minted).op
    return ⟨receiptId, operation.operationId, operation.recordedAt⟩

/-- `import_run_pack_observation`, with the identities and the time it draws. -/
def importRunPackObservation (input : RunPackInput) (proposed : OperationId) (minted : Minted) :
    Op M RunPackObservationReceipt := do
  let (device, _) ← tokenDeviceId P input.token
  let (projection, observedAt) ←
    liftM (admitRunPack P C fromSlice input.bytes input.attestationKey)
  let actor ← poolRead fun db => okOr (db.listActorsForDevice device.deviceId).head?
    (.actorNotFound device.deviceId.text)
  RunPackImport.record C J ⟨device, projection, observedAt, actor, contentDigest P input.bytes⟩
    proposed minted

end

/-! ## Sections, alone -/

/-- Some action of a call fails. -/
def Faulty (xs : List Choice) : Prop := ∃ x ∈ xs, x.fault ≠ none

/-- A call came to its end at the state it found: its choices ran out, or it failed, for a fault or
for a reason of its own. -/
def Stopped {α : Type} (xs : List Choice) (s : MnemesStore M) (why : MnemesError → Prop)
    (p : Option (Except MnemesError α × List Choice) × MnemesStore M) : Prop :=
  p.2 = s ∧ (p.1 = none ∨ ∃ e ys, p.1 = some (.error e, ys) ∧ (Faulty xs ∨ why e))

section
variable {α β : Type} {xs ys : List Choice} {s : MnemesStore M} {k : α → Op M β}

/-- A call that stopped with some choices left, for some reason, did so of more choices, and for a
weaker reason. -/
theorem Stopped.mono {why why' : MnemesError → Prop}
    {p : Option (Except MnemesError β × List Choice) × MnemesStore M} (h : Stopped ys s why p)
    (hys : ys ⊆ xs) (hwhy : ∀ e, why e → why' e) : Stopped xs s why' p := by
  obtain ⟨hs, hcrash | ⟨e, zs, he, ⟨x, hx, hfault⟩ | hreason⟩⟩ := h
  · exact ⟨hs, .inl hcrash⟩
  · exact ⟨hs, .inr ⟨e, zs, he, .inl ⟨x, hys hx, hfault⟩⟩⟩
  · exact ⟨hs, .inr ⟨e, zs, he, .inr (hwhy e hreason)⟩⟩

/-- A call that fails before it changes anything has stopped. -/
theorem stopped_error {why : MnemesError → Prop} {e : MnemesError} (h : Faulty xs ∨ why e) :
    Stopped xs s why (some ((.error e : Except MnemesError β), ys), s) :=
  ⟨rfl, .inr ⟨e, ys, rfl, h⟩⟩

/-- A call whose choices ran out has stopped. -/
theorem stopped_none {why : MnemesError → Prop} :
    Stopped xs s why ((none : Option (Except MnemesError β × List Choice)), s) :=
  ⟨rfl, .inl rfl⟩

/-- A section of which the statement fails. -/
theorem exec_poolConn_fault {f : PooledDb → Choice → Except MnemesError (α × PooledDb × List Event)}
    {x : Choice} (hx : x.fault ≠ none) (why : MnemesError → Prop) :
    Stopped (x :: ys) s why ((poolConn f >>= k).run.exec (x :: ys) s) := by
  unfold poolConn
  rw [Proc.exec_attempt]
  cases hfault : x.fault with
  | none => exact absurd hfault hx
  | some error => exact stopped_error (.inl ⟨x, List.mem_cons_self, hx⟩)

/-- A section whose statements do not fail. -/
theorem exec_poolConn_cons {f : PooledDb → Choice → Except MnemesError (α × PooledDb × List Event)}
    {x : Choice} (hx : x.fault = none) :
    (poolConn f >>= k).run.exec (x :: ys) s =
      match f s.db x with
      | .ok (a, db, _) => (k a).run.exec ys { s with db }
      | .error e => (some (.error e, ys), s) := by
  unfold poolConn
  rw [Proc.exec_attempt]
  simp only [hx]
  cases f s.db x <;> rfl

/-- A query whose statements do not fail. -/
theorem exec_poolRead_cons {f : PooledDb → Except MnemesError α} {x : Choice}
    (hx : x.fault = none) :
    (poolRead f >>= k).run.exec (x :: ys) s =
      match f s.db with
      | .ok a => (k a).run.exec ys s
      | .error e => (some (.error e, ys), s) := by
  unfold poolRead
  rw [exec_poolConn_cons hx]
  cases f s.db <;> rfl

/-- A query whose failure counts as an empty result. -/
theorem exec_poolReadOk_cons (f : PooledDb → Option α) (note : α → List Event)
    {k : Option α → Op M β} (x : Choice) (ys : List Choice) (s : MnemesStore M) :
    (poolReadOk f note >>= k).run.exec (x :: ys) s =
      (k (if x.fault = none then f s.db else none)).run.exec ys s := by
  unfold poolReadOk
  rw [Proc.exec_attempt]
  cases hx : x.fault with
  | some error => simp
  | none => simp

/-- A value that was computed is passed on. -/
theorem exec_lift_ok (a : α) (xs : List Choice) (s : MnemesStore M) :
    ((liftM (Except.ok a : Except MnemesError α) : Op M α) >>= k).run.exec xs s =
      (k a).run.exec xs s := rfl

/-- An authentication takes two sections, and changes nothing. -/
theorem tokenDeviceId_exec {P : Platform} {token : String} {k : Device × Option String → Op M β}
    (xs : List Choice) (s : MnemesStore M) :
    Stopped xs s (fun e => s.db.tokenDeviceId P token = .error e)
        ((tokenDeviceId P token >>= k).run.exec xs s) ∨
      ∃ x y ys r, xs = x :: y :: ys ∧ s.db.tokenDeviceId P token = .ok r ∧
        (tokenDeviceId P token >>= k).run.exec xs s = (k r).run.exec ys s := by
  unfold tokenDeviceId PooledDb.tokenDeviceId credentialRow getDevice
  simp only [bind_assoc]
  cases parseAuthorizationToken P token with
  | error e => exact .inl (stopped_error (.inr rfl))
  | ok parsed =>
    obtain ⟨deviceId, secret⟩ := parsed
    cases xs with
    | nil => exact .inl stopped_none
    | cons x ys =>
      simp only [exec_lift_ok, exec_poolReadOk_cons, ok_bind]
      by_cases hx : x.fault = none
      · rw [if_pos hx]
        cases hdev : s.db.devices.find? deviceId with
        | none => exact .inl (stopped_error (.inr rfl))
        | some device =>
          simp only [Option.map_some, okOr, ok_bind]
          by_cases hactive : device.status = .active
          · cases hverify :
              verifyCredential P device.credentialFingerprint (deviceId.text ++ ":" ++ secret) with
            | false =>
              simp only [hactive, ne_eq, not_true_eq_false, if_false, Bool.not_false, if_true]
              exact .inl (stopped_error (.inr rfl))
            | true =>
              simp only [hactive, ne_eq, not_true_eq_false, if_false, Bool.not_true,
                Bool.false_eq_true, bind_assoc]
              cases ys with
              | nil => exact .inl stopped_none
              | cons y zs =>
                rw [exec_poolReadOk_cons]
                by_cases hy : y.fault = none
                · rw [if_pos hy, hdev]
                  exact .inr ⟨x, y, zs, _, rfl, rfl, rfl⟩
                · rw [if_neg hy]
                  exact .inl (stopped_error (.inl ⟨y, by simp, hy⟩))
          · simp only [hactive, ne_eq, not_false_eq_true, if_true]
            exact .inl (stopped_error (.inr rfl))
      · rw [if_neg hx]
        exact .inl (stopped_error (.inl ⟨x, List.mem_cons_self, hx⟩))

end

/-! ## What an import does to a database -/

/-- What the schema and `submit_operation` keep: operations have the receipts of their identities,
no two edges have one key, and the operation of an edge is there. -/
structure Anchored (db : PooledDb) : Prop where
  receipts : ∀ row ∈ db.operations.rows, row.receiptId = some (receiptOf row.operationId)
  edgeKeys : KeysDistinct db
  edgeOperations : ∀ row ∈ db.provenanceEdges.rows, ∀ id, row.operationId = some id →
    (db.operations.find? id).isSome = true

/-- The operation that an import finds under its key, or stores. -/
def RunPackImport.operation (i : RunPackImport) (db : PooledDb) (proposed : OperationId)
    (now : String) : Except MnemesError (OperationEnvelope × PooledDb) :=
  match db.operationByKey (runPackKey i.projection) with
  | some existing =>
    if existing.contentDigest = i.digest then .ok (existing, db)
    else .error (.idempotencyConflict
      s!"operation with key {runPackKey i.projection} already exists")
  | none =>
    match db.operations.insert? ((i.envelope proposed).row now) with
    | none => .error (.database "UNIQUE constraint failed: operation_envelopes.operation_id")
    | some operations =>
      if (db.devices.find? i.device.deviceId).isNone ||
          (db.actors.find? i.actor.actorId).isNone then
        .error (.database "FOREIGN KEY constraint failed")
      else .ok ((i.envelope proposed).row now, { db with operations })

/-- The edge of an import, recorded for an operation. -/
def RunPackImport.edge (C : Chrono) (J : SerdeJson) (i : RunPackImport) (db : PooledDb)
    (operationId : OperationId) (minted : Minted) :
    Except MnemesError (ProvenanceEdge J × PooledDb) :=
  recordProvenanceEdgeConn C J db
    (i.edgeRequest (runPackSource i.projection) (runPackTarget i.projection) operationId) minted

/-- The receipt of an import. -/
def importReceipt (row : OperationEnvelope) : RunPackObservationReceipt :=
  ⟨receiptOf row.operationId, row.operationId, row.recordedAt⟩

/-- What an import whose actions do not fail makes of a database. -/
def RunPackImport.finish (C : Chrono) (J : SerdeJson) (i : RunPackImport) (db : PooledDb)
    (proposed : OperationId) (minted : Minted) (now : String) :
    Except MnemesError (RunPackObservationReceipt × PooledDb) := do
  let (row, db) ← i.operation db proposed now
  let (_, db) ← i.edge C J db row.operationId minted
  return (importReceipt row, db)

section
variable {C : Chrono} {J : SerdeJson} {db db' : PooledDb} {i : RunPackImport} {now : String}
  {proposed : OperationId} {minted : Minted} {row : OperationEnvelope}

/-- The operation is the first one under the key with the digest; otherwise there was none, and it
is stored. -/
theorem operation_eq_ok : i.operation db proposed now = .ok (row, db') ↔
    (db.operationByKey (runPackKey i.projection) = some row ∧ row.contentDigest = i.digest ∧
        db' = db) ∨
      db.operationByKey (runPackKey i.projection) = none ∧ row = (i.envelope proposed).row now ∧
        ∃ operations, db.operations.insert? row = some operations ∧
          (db.devices.find? i.device.deviceId).isSome ∧ (db.actors.find? i.actor.actorId).isSome ∧
          db' = { db with operations } := by
  unfold RunPackImport.operation
  cases db.operationByKey (runPackKey i.projection) with
  | some existing =>
    simp only [reduceCtorEq, false_and, or_false, Option.some.injEq]
    split
    · next h =>
      simp only [Except.ok.injEq, Prod.mk.injEq]
      constructor
      · rintro ⟨rfl, rfl⟩
        exact ⟨rfl, h, rfl⟩
      · rintro ⟨rfl, -, rfl⟩
        exact ⟨rfl, rfl⟩
    · next h =>
      simp only [reduceCtorEq, false_iff]
      rintro ⟨rfl, h', -⟩
      exact h h'
  | none =>
    simp only [reduceCtorEq, false_and, false_or, true_and]
    cases hins : db.operations.insert? ((i.envelope proposed).row now) with
    | none =>
      simp only [reduceCtorEq, false_iff]
      rintro ⟨rfl, operations, h, -⟩
      rw [hins] at h
      cases h
    | some operations =>
      simp only
      split
      · next h =>
        simp only [reduceCtorEq, false_iff]
        rintro ⟨rfl, operations', -, hdevice, hactor, -⟩
        rw [Bool.or_eq_true, Option.isNone_iff_eq_none, Option.isNone_iff_eq_none] at h
        rcases h with h | h
        · rw [h] at hdevice
          cases hdevice
        · rw [h] at hactor
          cases hactor
      · next h =>
        rw [Bool.or_eq_true, not_or, Bool.not_eq_true, Bool.not_eq_true, Option.isNone_eq_false_iff,
          Option.isNone_eq_false_iff] at h
        simp only [Except.ok.injEq, Prod.mk.injEq]
        constructor
        · rintro ⟨rfl, rfl⟩
          exact ⟨rfl, operations, hins, h.1, h.2, rfl⟩
        · rintro ⟨rfl, operations', hins', -, -, rfl⟩
          rw [hins] at hins'
          cases hins'
          exact ⟨rfl, rfl⟩

/-- The operation that is found or stored is in the table. -/
theorem operation_mem (h : i.operation db proposed now = .ok (row, db')) :
    row ∈ db'.operations.rows := by
  rcases operation_eq_ok.1 h with ⟨hfound, -, rfl⟩ | ⟨-, -, operations, hins, -, -, rfl⟩
  · exact List.mem_of_find?_eq_some hfound
  · exact (Table.mem_insert hins).2 (.inr rfl)

/-- The operation that is stored has the receipt of its identity. -/
theorem operation_receipts (h : i.operation db proposed now = .ok (row, db'))
    (hreceipts : ∀ row ∈ db.operations.rows, row.receiptId = some (receiptOf row.operationId)) :
    ∀ row ∈ db'.operations.rows, row.receiptId = some (receiptOf row.operationId) := by
  rcases operation_eq_ok.1 h with ⟨-, -, rfl⟩ | ⟨-, rfl, operations, hins, -, -, rfl⟩
  · exact hreceipts
  · intro r hr
    rcases (Table.mem_insert hins).1 hr with hr | rfl
    · exact hreceipts r hr
    · rfl

/-- A stored operation is the one that is found by its receipt. -/
theorem operationByReceipt_eq (hreceipts : ∀ row ∈ db.operations.rows,
    row.receiptId = some (receiptOf row.operationId)) (hrow : row ∈ db.operations.rows) :
    db.operationByReceipt (receiptOf row.operationId) = some row := by
  cases hfind : db.operationByReceipt (receiptOf row.operationId) with
  | none =>
    have := List.find?_eq_none.1 hfind row hrow
    simp [hreceipts row hrow] at this
  | some found =>
    have hmem := List.mem_of_find?_eq_some hfind
    have hreceipt : found.receiptId = some (receiptOf row.operationId) := by
      simpa using List.find?_some hfind
    rw [hreceipts found hmem, Option.some.injEq] at hreceipt
    rw [Table.eq_of_key hmem hrow (receiptOf_inj hreceipt)]

end

/-! ## The sections of an import -/

/-- No action of a call fails. -/
def NoFaults (xs : List Choice) : Prop := ∀ x ∈ xs, x.fault = none

/-- Where no action fails, the call is not faulty. -/
theorem not_faulty {xs : List Choice} (h : NoFaults xs) : ¬ Faulty xs := by
  rintro ⟨x, hx, hfault⟩
  exact hfault (h x hx)

section
variable {C : Chrono} {J : SerdeJson} {β : Type} {i : RunPackImport} {proposed : OperationId}
  {minted : Minted} {xs : List Choice} {s : MnemesStore M} {row : OperationEnvelope}

/-- A stored operation is read back in two sections. -/
theorem getOperationByReceipt_exec {k : Option OperationEnvelope → Op M β} (hxs : NoFaults xs)
    (hreceipts : ∀ row ∈ s.db.operations.rows, row.receiptId = some (receiptOf row.operationId))
    (hrow : row ∈ s.db.operations.rows) :
    (getOperationByReceipt (receiptOf row.operationId) >>= k).run.exec xs s = (none, s) ∨
      ∃ x y ys, xs = x :: y :: ys ∧
        (getOperationByReceipt (receiptOf row.operationId) >>= k).run.exec xs s =
          (k (some row)).run.exec ys s := by
  unfold getOperationByReceipt
  simp only [bind_assoc]
  cases xs with
  | nil => exact .inl rfl
  | cons x ys =>
    rw [exec_poolRead_cons (hxs x (by simp)), operationByReceipt_eq hreceipts hrow]
    unfold getOperation
    cases ys with
    | nil => exact .inl rfl
    | cons y ys =>
      simp only [Option.map_some]
      rw [exec_poolReadOk_cons, if_pos (hxs y (by simp)), Table.find?_eq_some.2 ⟨hrow, rfl⟩]
      exact .inr ⟨x, y, ys, rfl, rfl⟩

/-- A submission goes on with the receipt of the operation of the import, found or stored; what
ends it changes nothing. -/
theorem submitOperation_run {k : String → Op M β} (hxs : NoFaults xs.tail)
    (hreceipts : ∀ row ∈ s.db.operations.rows, row.receiptId = some (receiptOf row.operationId)) :
    Stopped xs s (fun e => ∃ now, i.operation s.db proposed now = .error e)
        ((submitOperation (i.envelope proposed) >>= k).run.exec xs s) ∨
      ∃ now row db' ys, i.operation s.db proposed now = .ok (row, db') ∧ NoFaults ys ∧
        (submitOperation (i.envelope proposed) >>= k).run.exec xs s =
          (k (receiptOf row.operationId)).run.exec ys { s with db := db' } := by
  unfold submitOperation getOperationByIdempotencyKey RunPackImport.operation
  simp only [bind_assoc]
  cases xs with
  | nil => exact .inl stopped_none
  | cons x ys =>
    by_cases hx : x.fault = none
    · rw [exec_poolConn_cons hx]
      have hkey : (i.envelope proposed).idempotencyKey = runPackKey i.projection := rfl
      cases hfound : s.db.operationByKey (runPackKey i.projection) with
      | none =>
        simp only [hkey, hfound, pure_bind]
        unfold insertOperation
        cases ys with
        | nil => exact .inl stopped_none
        | cons y zs =>
          rw [exec_poolConn_cons (hxs y List.mem_cons_self)]
          cases hins : s.db.operations.insert? ((i.envelope proposed).row y.now) with
          | none => exact .inl (stopped_error (.inr ⟨y.now, by simp only [hins]⟩))
          | some operations =>
            have hdevice : (i.envelope proposed).requestingDeviceId = i.device.deviceId := rfl
            have hactor : (i.envelope proposed).requestingActorId = i.actor.actorId := rfl
            simp only [hdevice, hactor]
            split
            · next h => exact .inl (stopped_error (.inr ⟨y.now, by simp only [hins]⟩))
            · next h =>
              refine .inr ⟨y.now, (i.envelope proposed).row y.now, { s.db with operations }, zs,
                by simp only [hins], ?_, rfl⟩
              exact fun z hz => hxs z (List.mem_cons_of_mem _ hz)
      | some existing =>
        simp only [hkey, hfound]
        unfold getOperation
        cases ys with
        | nil => exact .inl stopped_none
        | cons y zs =>
          have hmem : existing ∈ s.db.operations.rows := List.mem_of_find?_eq_some hfound
          have hdigest : (i.envelope proposed).contentDigest = i.digest := rfl
          rw [exec_poolReadOk_cons, if_pos (hxs y List.mem_cons_self),
            Table.find?_eq_some.2 ⟨hmem, rfl⟩]
          simp only [hdigest, hreceipts existing hmem]
          split
          · next h =>
            refine .inr ⟨"", existing, s.db, zs, by simp only, ?_, rfl⟩
            exact fun z hz => hxs z (List.mem_cons_of_mem _ hz)
          · next h => exact .inl (stopped_error (.inr ⟨"", by simp only⟩))
    · exact .inl (exec_poolConn_fault hx _)

/-- What an import may do once it is admitted: it ends without effect, or it is interrupted with its
operation stored, or it has no edge for its operation, or it finishes. -/
theorem record_run (hxs : NoFaults xs.tail)
    (hreceipts : ∀ row ∈ s.db.operations.rows, row.receiptId = some (receiptOf row.operationId))
    (hsource : MemoryItemRef.new "run_pack_projection" i.projection.projectionId =
      .ok (runPackSource i.projection))
    (htarget : MemoryItemRef.new "pack_manifest" i.projection.packManifestDigest =
      .ok (runPackTarget i.projection)) :
    Stopped xs s (fun e => ∃ now, i.finish C J s.db proposed minted now = .error e)
        ((i.record C J proposed minted).run.exec xs s) ∨
      ∃ now row db', i.operation s.db proposed now = .ok (row, db') ∧
        ((i.record C J proposed minted).run.exec xs s = (none, { s with db := db' }) ∨
          (∃ e ys, i.edge C J db' row.operationId minted = .error e ∧
            (i.record C J proposed minted).run.exec xs s =
              (some (.error e, ys), { s with db := db' })) ∨
          ∃ edge db'' ys, i.edge C J db' row.operationId minted = .ok (edge, db'') ∧
            (i.record C J proposed minted).run.exec xs s =
              (some (.ok (importReceipt row), ys), { s with db := db'' })) := by
  unfold RunPackImport.record
  rcases submitOperation_run hxs hreceipts with hstop | ⟨now, row, db', ys, hoperation, hys, hexec⟩
  · refine .inl (hstop.mono (List.Subset.refl _) ?_)
    rintro e ⟨now, he⟩
    exact ⟨now, by rw [RunPackImport.finish, he]; rfl⟩
  · refine .inr ⟨now, row, db', hoperation, ?_⟩
    rw [hexec]
    rcases getOperationByReceipt_exec (s := { s with db := db' }) hys
      (operation_receipts hoperation hreceipts) (operation_mem hoperation) with
      hnone | ⟨x, y, zs, rfl, hread⟩
    · exact .inl hnone
    · rw [hread]
      simp only [hsource, htarget, exec_lift_ok]
      unfold recordProvenanceEdge Method.op
      simp only [bind_assoc, exec_lift_ok]
      cases zs with
      | nil => exact .inl rfl
      | cons z zs =>
        rw [exec_poolConn_cons (hys z (by simp))]
        cases hedge : i.edge C J db' row.operationId minted with
        | error e =>
            exact .inr (.inl ⟨e, zs, rfl, by unfold RunPackImport.edge at hedge; rw [hedge]; rfl⟩)
        | ok r =>
          obtain ⟨edge, db''⟩ := r
          refine .inr (.inr ⟨edge, db'', zs, rfl, ?_⟩)
          unfold RunPackImport.edge at hedge
          rw [hedge]
          rfl

end

/-! ## The edge of an import -/

section
variable {C : Chrono} {J : SerdeJson} {db db' : PooledDb} {i : RunPackImport} {now : String}
  {proposed : OperationId} {minted : Minted} {row : OperationEnvelope}

/-- The ends of the edge are items. -/
structure RunPackImport.Valid (i : RunPackImport) : Prop where
  projection : validDigest i.projection.projectionId = true
  manifest : validDigest i.projection.packManifestDigest = true

/-- The two items of a valid import pass the check of item references. -/
theorem RunPackImport.Valid.items (hi : i.Valid) :
    validateItemRef (runPackSource i.projection) = .ok () ∧
      validateItemRef (runPackTarget i.projection) = .ok () := by
  have hkinds : (trim "run_pack_projection").isEmpty = false ∧
      (trim "pack_manifest").isEmpty = false := by decide +kernel
  constructor
  · simp [validateItemRef, runPackSource, hkinds.1, (validDigest_nonempty hi.projection).1]
  · simp [validateItemRef, runPackTarget, hkinds.2, (validDigest_nonempty hi.manifest).1]

/-- `MemoryItemRef.new` accepts the two items of a valid import. -/
theorem RunPackImport.Valid.new (hi : i.Valid) :
    MemoryItemRef.new "run_pack_projection" i.projection.projectionId =
        .ok (runPackSource i.projection) ∧
      MemoryItemRef.new "pack_manifest" i.projection.packManifestDigest =
        .ok (runPackTarget i.projection) := by
  constructor
  · simpa only [runPackSource] using MemoryItemRef.new_of_valid hi.items.1
  · simpa only [runPackTarget] using MemoryItemRef.new_of_valid hi.items.2

/-- The two items of an import have different keys. -/
theorem runPack_keys_ne (projection : RunPackEvidenceProjectionV1) :
    (runPackSource projection).canonicalKey ≠ (runPackTarget projection).canonicalKey := by
  intro h
  have := congrArg (·.toList.head?) h
  simp [MemoryItemRef.canonicalKey, runPackSource, runPackTarget, toString] at this

/-- The request for the edge is admissible where its operation is in the name of the device and the
actor. -/
theorem edge_admissible (hi : i.Valid) (hrow : row ∈ db.operations.rows)
    (hactor : row.requestingActorId = i.actor.actorId)
    (hdevice : row.requestingDeviceId = i.device.deviceId) :
    Admissible J db (i.edgeRequest (runPackSource i.projection) (runPackTarget i.projection)
      row.operationId) none none where
  source := hi.items.1
  target := hi.items.2
  distinct h := runPack_keys_ne i.projection (congrArg MemoryItemRef.canonicalKey h)
  bounds := rfl
  operation := by
    simp [operationMatches, RunPackImport.edgeRequest, Table.find?_eq_some.2 ⟨hrow, rfl⟩, okOr,
      hactor, hdevice, bind, Except.bind, pure, Except.pure]
  supersedes := rfl
  normalized := rfl
  readBack := rfl

/-- Where the key of an admissible request is new, its row is inserted. -/
theorem recordConn_inserted {request : ProvenanceEdgeRequest} {metadata : Option String}
    {value : Option J.Value} (h : Admissible J db request metadata value)
    (hexisting : existingEdges C J db request = .ok [])
    (hinsert : insertProvenanceEdge db (request.row C minted metadata) = .ok db') :
    recordProvenanceEdgeConn C J db request minted = .ok (request.edge J minted value, db') := by
  simp only [recordProvenanceEdgeConn, bind_eq_ok, guard_eq_ok]
  refine ⟨(), h.source, (), h.target, h.distinct, (), h.bounds, (), h.operation, (), h.supersedes,
    metadata, h.normalized, value, h.readBack, [], hexisting, ?_⟩
  simp [hinsert, bind, Except.bind, pure, Except.pure]

/-- An operation that was just stored has its edge recorded. -/
theorem edge_of_stored (hanchored : Anchored db) (hi : i.Valid)
    (hnone : db.operationByKey (runPackKey i.projection) = none)
    (hoperation : i.operation db proposed now = .ok (row, db'))
    (hfresh : db.provenanceEdges.find? minted.edgeId = none) :
    ∃ edge db'', i.edge C J db' row.operationId minted = .ok (edge, db'') := by
  rcases operation_eq_ok.1 hoperation with ⟨hsome, -, -⟩ |
    ⟨-, hrow, operations, hins, hdevice, hactor, rfl⟩
  · rw [hnone] at hsome
    cases hsome
  have hmem := operation_mem hoperation
  have hadmissible : Admissible J { db with operations } (i.edgeRequest (runPackSource i.projection)
      (runPackTarget i.projection) row.operationId) none none :=
    edge_admissible hi hmem (by rw [hrow]; rfl) (by rw [hrow]; rfl)
  have hexisting : existingEdges C J { db with operations } (i.edgeRequest
      (runPackSource i.projection) (runPackTarget i.projection) row.operationId) = .ok [] := by
    rw [existingEdges_eq hadmissible.operation]
    have hnil : db.provenanceEdges.rows.filter (fun edge => decide (edge.key =
        (i.edgeRequest (runPackSource i.projection) (runPackTarget i.projection)
          row.operationId).key)) = [] := by
      rw [List.filter_eq_nil_iff]
      intro edge hedge hkey
      have hid : edge.operationId = some row.operationId :=
        congrArg (·.1) (of_decide_eq_true hkey)
      have := hanchored.edgeOperations edge hedge _ hid
      rw [(Table.insert?_eq_some hins).1] at this
      cases this
    rw [hnil]
    rfl
  generalize hrequest : i.edgeRequest (runPackSource i.projection) (runPackTarget i.projection)
    row.operationId = request at hadmissible hexisting
  have hchecks : (request.row C minted none).checks = true := by
    have hkinds :
        sqlNonempty "run_pack_projection" = true ∧ sqlNonempty "pack_manifest" = true := by
      decide +kernel
    have hsource : (request.row C minted none).source = runPackSource i.projection := by
      rw [← hrequest]
      rfl
    have htarget : (request.row C minted none).target = runPackTarget i.projection := by
      rw [← hrequest]
      rfl
    have hto : (request.row C minted none).validTo = none := by
      rw [← hrequest]
      rfl
    have hkeys := runPack_keys_ne i.projection
    simp only [runPackSource, runPackTarget] at hkeys
    simp [ProvenanceEdgeRow.checks, hsource, htarget, hto, hkeys, runPackSource, runPackTarget,
      hkinds.1, hkinds.2, (validDigest_nonempty hi.projection).2,
      (validDigest_nonempty hi.manifest).2]
  obtain ⟨edges, hedges⟩ : ∃ edges, db.provenanceEdges.insert? (request.row C minted none) =
      some edges := by
    cases hinsert : db.provenanceEdges.insert? (request.row C minted none) with
    | some edges => exact ⟨edges, rfl⟩
    | none =>
      obtain ⟨other, hother⟩ := Table.insert?_eq_none.1 hinsert
      rw [show (request.row C minted none).edgeId = minted.edgeId from rfl, hfresh] at hother
      cases hother
  refine ⟨request.edge J minted none, { db with operations, provenanceEdges := edges }, ?_⟩
  unfold RunPackImport.edge
  rw [hrequest]
  refine recordConn_inserted hadmissible hexisting ?_
  simp only [insertProvenanceEdge, bind_eq_ok, okOr_eq_ok, guard_eq_ok]
  refine ⟨by simp [hchecks], edges, hedges, ?_, rfl⟩
  have hrowActor : (request.row C minted none).actorId = some i.actor.actorId := by
    rw [← hrequest]
    rfl
  have hrowDevice : (request.row C minted none).deviceId = some i.device.deviceId := by
    rw [← hrequest]
    rfl
  rw [hrowActor, hrowDevice]
  simp [Option.isSome_iff_ne_none.1 hdevice, Option.isSome_iff_ne_none.1 hactor]

end

end Mnemes
