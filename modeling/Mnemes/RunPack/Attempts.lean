import Mnemes.RunPack.Import

/-!
# Attempts to import a run pack

A run of attempts to import one input. An import is all or nothing, its repetitions agree, and one
that was interrupted is repaired, where the edge can be read back: the time the projection was
observed has a year of four digits in UTC (`run_pack_import_once`). A time at the end of the year
9999 in a western offset has not (`run_pack_retry_refused`).
-/

namespace Mnemes

open Concurrency Relational Rfc3339

variable {M : SemanticMemory}

/-! ## Attempts -/

/-- What an import finds out before it records anything. -/
def RunPackInput.prepare (P : Platform) (C : Chrono)
    (fromSlice : Bytes → Except String RunPackAdmissionEnvelope) (input : RunPackInput)
    (db : PooledDb) : Except MnemesError RunPackImport := do
  let (device, _) ← db.tokenDeviceId P input.token
  let (projection, observedAt) ← admitRunPack P C fromSlice input.bytes input.attestationKey
  let actor ← okOr (db.listActorsForDevice device.deviceId).head?
    (.actorNotFound device.deviceId.text)
  return ⟨device, projection, observedAt, actor, contentDigest P input.bytes⟩

/-- An attempt to import: the identities and the time it draws, and the choices of its actions. One
whose choices run out is interrupted. -/
structure ImportAttempt where
  proposed : OperationId
  minted : Minted
  choices : List Choice

section
variable {P : Platform} {C : Chrono} {J : SerdeJson}
  {fromSlice : Bytes → Except String RunPackAdmissionEnvelope} {input : RunPackInput}
  {db db' : PooledDb} {i : RunPackImport} {a : ImportAttempt} {s : MnemesStore M}

/-- A prepared import has the projection and the time that were admitted, and the digest of the
bytes it was sent. -/
theorem prepare_admitted (h : input.prepare P C fromSlice db = .ok i) :
    admitRunPack P C fromSlice input.bytes input.attestationKey =
        .ok (i.projection, i.observedAt) ∧ i.digest = contentDigest P input.bytes := by
  simp only [RunPackInput.prepare, bind_eq_ok, okOr_eq_ok] at h
  obtain ⟨⟨device, fingerprint⟩, -, ⟨projection, observedAt⟩, hadm, actor, -, h⟩ := h
  cases h
  exact ⟨hadm, rfl⟩

/-- What is admitted has valid digests. -/
theorem prepare_valid (h : input.prepare P C fromSlice db = .ok i) : i.Valid := by
  obtain ⟨⟨envelope, key, -, -, henvelope, hattested⟩, -⟩ :=
    admitRunPack_eq_ok (prepare_admitted h).1
  have hdigests := hattested.digests
  rw [henvelope] at hdigests
  exact ⟨hdigests _ (by simp [RunPackEvidenceProjectionV1.digests]),
    hdigests _ (by simp [RunPackEvidenceProjectionV1.digests])⟩

/-- The preparation looks at the devices and the actors. -/
theorem prepare_congr (hdevices : db'.devices = db.devices) (hactors : db'.actors = db.actors) :
    input.prepare P C fromSlice db' = input.prepare P C fromSlice db := by
  simp only [RunPackInput.prepare, PooledDb.tokenDeviceId, PooledDb.listActorsForDevice, hdevices,
    hactors]

/-- An import prepares in three sections, which change nothing, and then records. -/
theorem import_run (proposed : OperationId) (minted : Minted) (xs : List Choice)
    (s : MnemesStore M) :
    Stopped xs s (fun e => input.prepare P C fromSlice s.db = .error e)
        ((importRunPackObservation P C J fromSlice input proposed minted).run.exec xs s) ∨
      ∃ x y z ys i, xs = x :: y :: z :: ys ∧ input.prepare P C fromSlice s.db = .ok i ∧
        (importRunPackObservation P C J fromSlice input proposed minted).run.exec xs s =
          (i.record C J proposed minted).run.exec ys s := by
  unfold importRunPackObservation RunPackInput.prepare
  rcases tokenDeviceId_exec xs s with hstop | ⟨x, y, ys, ⟨device, fingerprint⟩, rfl, hdevice, hexec⟩
  · refine .inl (hstop.mono (List.Subset.refl _) fun e he => ?_)
    rw [he]
    rfl
  · rw [hexec, hdevice]
    simp only [ok_bind]
    cases admitRunPack P C fromSlice input.bytes input.attestationKey with
    | error e => exact .inl (stopped_error (.inr rfl))
    | ok admitted =>
      obtain ⟨projection, observedAt⟩ := admitted
      simp only [exec_lift_ok, ok_bind]
      cases ys with
      | nil => exact .inl stopped_none
      | cons z zs =>
        by_cases hz : z.fault = none
        · rw [exec_poolRead_cons hz]
          cases hactor : (s.db.listActorsForDevice device.deviceId).head? with
          | none => exact .inl (stopped_error (.inr rfl))
          | some actor => exact .inr ⟨x, y, z, zs, _, rfl, rfl, rfl⟩
        · refine .inl ((exec_poolConn_fault hz _).mono (fun w hw => ?_) fun _ h => h)
          exact List.mem_cons_of_mem _ (List.mem_cons_of_mem _ hw)

end

section
variable (P : Platform) (C : Chrono) (J : SerdeJson)
  (fromSlice : Bytes → Except String RunPackAdmissionEnvelope) (input : RunPackInput)

/-- An attempt to import, alone. -/
def attempt (a : ImportAttempt) (s : MnemesStore M) :
    Option (Except MnemesError RunPackObservationReceipt × List Choice) × MnemesStore M :=
  (importRunPackObservation P C J fromSlice input a.proposed a.minted).run.exec a.choices s

/-- What attempts to import one input leave, one after another. -/
def attempts (s : MnemesStore M) : List ImportAttempt → MnemesStore M
  | [] => s
  | a :: as => attempts (attempt P C J fromSlice input a s).2 as

end

/-- An attempt of which no action fails once it looked its key up, at a time whose year has four
digits. The identity of its edge is a new one, as those that `Uuid::new_v4` draws are. -/
structure ImportAttempt.Sound (a : ImportAttempt) (db : PooledDb) : Prop where
  faultless : NoFaults (a.choices.drop 4)
  now : a.minted.now.FourDigit
  fresh : db.provenanceEdges.find? a.minted.edgeId = none

section
variable {P : Platform} {C : Chrono} {J : SerdeJson}
  {fromSlice : Bytes → Except String RunPackAdmissionEnvelope} {input : RunPackInput}
  {i : RunPackImport} {a : ImportAttempt} {s : MnemesStore M}

/-- What a sound attempt may do: it ends without effect, or it is interrupted when it has stored a
new operation, or it finishes. -/
theorem attempt_cases (hs : Anchored s.db) (ha : a.Sound s.db) :
    Stopped a.choices s (fun e => input.prepare P C fromSlice s.db = .error e ∨
        ∃ i now, input.prepare P C fromSlice s.db = .ok i ∧
          i.finish C J s.db a.proposed a.minted now = .error e)
        (attempt P C J fromSlice input a s) ∨
      ∃ i now row db', input.prepare P C fromSlice s.db = .ok i ∧
        i.operation s.db a.proposed now = .ok (row, db') ∧
        (s.db.operationByKey (runPackKey i.projection) = none ∧
            attempt P C J fromSlice input a s = (none, { s with db := db' }) ∨
          ∃ edge db'' ys, i.edge C J db' row.operationId a.minted = .ok (edge, db'') ∧
            attempt P C J fromSlice input a s =
              (some (.ok (importReceipt row), ys), { s with db := db'' })) := by
  unfold attempt
  rcases @import_run _ P C J fromSlice input a.proposed a.minted a.choices s with
    hstop | ⟨x, y, z, ys, i, hxs, hprepare, hexec⟩
  · exact .inl (hstop.mono (List.Subset.refl _) fun e he => .inl he)
  have hfaultless : NoFaults ys.tail := by
    have := ha.faultless
    rw [hxs] at this
    simpa using this
  have hvalid := prepare_valid hprepare
  have hys : ys ⊆ a.choices := by
    rw [hxs]
    exact fun w hw => List.mem_cons_of_mem _ (List.mem_cons_of_mem _ (List.mem_cons_of_mem _ hw))
  rw [hexec]
  have hrecord := @record_run _ C J i a.proposed a.minted _ _ hfaultless hs.receipts hvalid.new.1
    hvalid.new.2
  rcases hrecord with hstop | ⟨now, row, db', hoperation, hrest⟩
  · refine .inl (hstop.mono hys ?_)
    rintro e ⟨now, he⟩
    exact .inr ⟨i, now, hprepare, he⟩
  have hfound : db' = s.db ∨ s.db.operationByKey (runPackKey i.projection) = none :=
    (operation_eq_ok.1 hoperation).imp (·.2.2) (·.1)
  cases hfound with
  | inl heq =>
    subst heq
    -- the operation was there
    rcases hrest with h | ⟨e, zs, hedge, h⟩ | ⟨edge, db'', zs, hedge, h⟩
    · rw [h]
      exact .inl stopped_none
    · rw [h]
      refine .inl (stopped_error (.inr (.inr ⟨i, now, hprepare, ?_⟩)))
      rw [RunPackImport.finish, hoperation, ok_bind]
      simp only [hedge]
      rfl
    · exact .inr ⟨i, now, row, _, hprepare, hoperation, .inr ⟨edge, db'', zs, hedge, h⟩⟩
  | inr hnone =>
    -- the operation was stored
    refine .inr ⟨i, now, row, db', hprepare, hoperation, ?_⟩
    rcases hrest with h | ⟨e, zs, hedge, h⟩ | ⟨edge, db'', zs, hedge, h⟩
    · exact .inl ⟨hnone, h⟩
    · obtain ⟨edge, db'', hok⟩ :=
        edge_of_stored (C := C) (J := J) hs hvalid hnone hoperation ha.fresh
      rw [hedge] at hok
      cases hok
    · exact .inr ⟨edge, db'', zs, hedge, h⟩

end

/-! ## What stays in a run of attempts -/

/-- At most one operation has the key of an import. -/
def KeyedOnce (db : PooledDb) (projection : RunPackEvidenceProjectionV1) : Prop :=
  (db.operations.rows.filter (·.idempotencyKey = runPackKey projection)).length ≤ 1

/-- A retry finds the operation of the import, and its edge can be recorded. -/
structure RunPackImport.Pending (C : Chrono) (J : SerdeJson) (i : RunPackImport)
    (row : OperationEnvelope) (db : PooledDb) : Prop where
  found : db.operationByKey (runPackKey i.projection) = some row
  digest : row.contentDigest = i.digest
  edge : ∀ minted, db.provenanceEdges.find? minted.edgeId = none →
    ∃ edge db', i.edge C J db row.operationId minted = .ok (edge, db')

/-- A retry finds the operation of the import and its edge. -/
structure RunPackImport.Done (C : Chrono) (J : SerdeJson) (i : RunPackImport)
    (row : OperationEnvelope) (db : PooledDb) : Prop where
  found : db.operationByKey (runPackKey i.projection) = some row
  digest : row.contentDigest = i.digest
  edge : ∀ minted, ∃ edge, i.edge C J db row.operationId minted = .ok (edge, db)

section
variable {C : Chrono} {J : SerdeJson} {db db' : PooledDb} {i : RunPackImport} {now : String}
  {proposed : OperationId} {minted : Minted} {row : OperationEnvelope} {edge : ProvenanceEdge J}
  {operationId : OperationId}

/-- A finished import is in particular one that a retry completes. -/
theorem RunPackImport.Done.pending (h : i.Done C J row db) : i.Pending C J row db where
  found := h.found
  digest := h.digest
  edge minted _ := by
    obtain ⟨edge, hedge⟩ := h.edge minted
    exact ⟨edge, db, hedge⟩

/-- Finding or storing the operation leaves the rest alone. -/
theorem operation_frame (h : i.operation db proposed now = .ok (row, db')) :
    ∃ operations, db' = { db with operations } := by
  rcases operation_eq_ok.1 h with ⟨-, -, rfl⟩ | ⟨-, -, operations, -, -, -, rfl⟩
  · exact ⟨db'.operations, rfl⟩
  · exact ⟨operations, rfl⟩

/-- Finding or storing the operation keeps receipts, edge keys and the operations of edges in place.
-/
theorem operation_anchored (h : i.operation db proposed now = .ok (row, db'))
    (hanchored : Anchored db) : Anchored db' := by
  have hreceipts := operation_receipts h hanchored.receipts
  rcases operation_eq_ok.1 h with ⟨-, -, rfl⟩ | ⟨-, -, operations, hins, -, -, rfl⟩
  · exact hanchored
  · refine ⟨hreceipts, hanchored.edgeKeys, fun edge hedge id hid => ?_⟩
    obtain ⟨found, hfound⟩ :=
      Option.isSome_iff_exists.1 (hanchored.edgeOperations edge hedge id hid)
    have : operations.find? id = some found := Table.find?_insert_of_some hins hfound
    simp [this]

/-- Storing the operation leaves one operation under the key of the import. -/
theorem operation_keyedOnce (h : i.operation db proposed now = .ok (row, db'))
    (honce : KeyedOnce db i.projection) : KeyedOnce db' i.projection := by
  rcases operation_eq_ok.1 h with ⟨-, -, rfl⟩ | ⟨hnone, -, operations, hins, -, -, rfl⟩
  · exact honce
  · have hnil : db.operations.rows.filter (·.idempotencyKey = runPackKey i.projection) = [] := by
      rw [List.filter_eq_nil_iff]
      intro r hr
      simpa using PooledDb.operationByKey_eq_none.1 hnone r hr
    rw [KeyedOnce, (Table.insert?_eq_some hins).2, List.filter_append, hnil, List.nil_append]
    exact (List.length_filter_le _ _).trans (by simp)

/-- A new operation is the one that a retry finds. -/
theorem operation_found (h : i.operation db proposed now = .ok (row, db')) :
    db'.operationByKey (runPackKey i.projection) = some row ∧ row.contentDigest = i.digest := by
  rcases operation_eq_ok.1 h with
    ⟨hfound, hdigest, rfl⟩ | ⟨hnone, hrow, operations, hins, -, -, rfl⟩
  · exact ⟨hfound, hdigest⟩
  · have hkey : row.idempotencyKey = runPackKey i.projection := by
      rw [hrow]
      rfl
    have hold : db.operations.rows.find?
        (fun r => decide (r.idempotencyKey = runPackKey i.projection)) = none := hnone
    refine ⟨?_, by rw [hrow]; rfl⟩
    rw [PooledDb.operationByKey, (Table.insert?_eq_some hins).2, List.find?_append, hold]
    simp [hkey]

/-- Recording an edge leaves the rest alone. -/
theorem edge_frame (h : i.edge C J db operationId minted = .ok (edge, db')) :
    ∃ provenanceEdges, db' = { db with provenanceEdges } := by
  obtain ⟨metadata, value, existing, -, -, ⟨-, -, hinsert⟩ | ⟨rfl, -, -⟩⟩ := recordConn_cases h
  · simp only [insertProvenanceEdge, bind_eq_ok, okOr_eq_ok, guard_eq_ok] at hinsert
    obtain ⟨-, edges, -, -, h⟩ := hinsert
    cases h
    exact ⟨edges, rfl⟩
  · exact ⟨db'.provenanceEdges, rfl⟩

/-- Recording the edge keeps receipts, edge keys and the operations of edges in place. -/
theorem edge_anchored (h : i.edge C J db operationId minted = .ok (edge, db'))
    (hanchored : Anchored db) : Anchored db' := by
  have hkeys := recordConn_keysDistinct hanchored.edgeKeys h
  obtain ⟨metadata, value, existing, hadmissible, -, ⟨-, -, hinsert⟩ | ⟨rfl, -, -⟩⟩ :=
    recordConn_cases h
  · have hrows := insertProvenanceEdge_rows hinsert
    obtain ⟨edges, rfl⟩ := edge_frame h
    refine ⟨hanchored.receipts, hkeys, fun edge hedge id hid => ?_⟩
    rw [hrows] at hedge
    rcases List.mem_append.1 hedge with hedge | hedge
    · exact hanchored.edgeOperations edge hedge id hid
    · obtain rfl := List.mem_singleton.1 hedge
      obtain rfl : operationId = id := Option.some.inj hid
      have hoperation := hadmissible.operation
      cases hfind : db.operations.find? operationId with
      | some found => simp
      | none =>
        simp only [operationMatches, RunPackImport.edgeRequest, hfind, okOr] at hoperation
        cases hoperation
  · exact hanchored

/-- What an interrupted import has stored is repaired by a retry. -/
theorem pending_of_stored (hanchored : Anchored db) (hi : i.Valid)
    (hnone : db.operationByKey (runPackKey i.projection) = none)
    (h : i.operation db proposed now = .ok (row, db')) : i.Pending C J row db' where
  found := (operation_found h).1
  digest := (operation_found h).2
  edge minted hfresh := by
    refine edge_of_stored hanchored hi hnone h ?_
    obtain ⟨operations, rfl⟩ := operation_frame h
    exact hfresh

/-- A recorded edge is found again, where its times can be read back. -/
theorem done_of_edge (hC : C.Documented) (hJ : ∀ v, J.beq v v = true) (hanchored : Anchored db)
    (hobserved : ∀ t ∈ i.observedAt, t.FourDigit) (hnow : minted.now.FourDigit)
    (hfound : db.operationByKey (runPackKey i.projection) = some row)
    (hdigest : row.contentDigest = i.digest)
    (h : i.edge C J db row.operationId minted = .ok (edge, db')) : i.Done C J row db' where
  found := by
    obtain ⟨edges, rfl⟩ := edge_frame h
    exact hfound
  digest := hdigest
  edge minted' := by
    have hwritable : Writable (i.edgeRequest (runPackSource i.projection)
        (runPackTarget i.projection) row.operationId) minted :=
      ⟨hnow, fun _ h => (by cases h), fun _ h => (by cases h), hobserved⟩
    refine ⟨edge, recordConn_again hC hJ hanchored.edgeKeys hwritable h [] minted' ?_⟩
    exact ⟨rfl, rfl, rfl, rfl, rfl, rfl, rfl, rfl, rfl, rfl, rfl, trivial⟩

end

section
variable (P : Platform) (C : Chrono) (J : SerdeJson)
  (fromSlice : Bytes → Except String RunPackAdmissionEnvelope) (input : RunPackInput)

/-- Attempts that are sound where they run. -/
def SoundRun (s : MnemesStore M) : List ImportAttempt → Prop
  | [] => True
  | a :: as => a.Sound s.db ∧ SoundRun (attempt P C J fromSlice input a s).2 as

/-- What attempts need of a state, and keep. -/
structure Importable (db : PooledDb) : Prop where
  anchored : Anchored db
  once : ∀ projection observedAt, admitRunPack P C fromSlice input.bytes input.attestationKey =
    .ok (projection, observedAt) → KeyedOnce db projection

end

section
variable {P : Platform} {C : Chrono} {J : SerdeJson}
  {fromSlice : Bytes → Except String RunPackAdmissionEnvelope} {input : RunPackInput}
  {i : RunPackImport} {a : ImportAttempt} {as bs : List ImportAttempt} {s : MnemesStore M}
  {row : OperationEnvelope}

/-- The attempts of two lists are those of the second after those of the first. -/
theorem attempts_append : attempts P C J fromSlice input s (as ++ bs) =
    attempts P C J fromSlice input (attempts P C J fromSlice input s as) bs := by
  induction as generalizing s with
  | nil => rfl
  | cons a as ih => rw [List.cons_append, attempts, attempts, ih]

/-- A run is sound where its first part is, and its second from the state the first leaves. -/
theorem soundRun_append : SoundRun P C J fromSlice input s (as ++ bs) ↔
    SoundRun P C J fromSlice input s as ∧
      SoundRun P C J fromSlice input (attempts P C J fromSlice input s as) bs := by
  induction as generalizing s with
  | nil => exact ⟨fun h => ⟨trivial, h⟩, fun h => h.2⟩
  | cons a as ih =>
    simp only [List.cons_append, SoundRun, ih, attempts, and_assoc]

/-- An attempt changes operations and edges. -/
theorem attempt_frame (hs : Anchored s.db) (ha : a.Sound s.db) : ∃ operations provenanceEdges,
    (attempt P C J fromSlice input a s).2 =
      { s with db := { s.db with operations, provenanceEdges } } := by
  rcases @attempt_cases _ P C J fromSlice input a s hs ha with
    hstop | ⟨i, now, row, db', hprepare, hoperation, hcase⟩
  · exact ⟨s.db.operations, s.db.provenanceEdges, hstop.1⟩
  obtain ⟨operations, rfl⟩ := operation_frame hoperation
  rcases hcase with ⟨-, h⟩ | ⟨edge, db'', ys, hedge, h⟩
  · exact ⟨operations, s.db.provenanceEdges, by rw [h]⟩
  · obtain ⟨edges, rfl⟩ := edge_frame hedge
    exact ⟨operations, edges, by rw [h]⟩

/-- What an attempt leaves is told by its operations and its edges. -/
theorem attempt_store (hs : Anchored s.db) (ha : a.Sound s.db)
    {operations : Table OperationEnvelope OperationEnvelope.operationId}
    {provenanceEdges : Table ProvenanceEdgeRow ProvenanceEdgeRow.edgeId}
    (hoperations : (attempt P C J fromSlice input a s).2.db.operations.rows = operations.rows)
    (hedges : (attempt P C J fromSlice input a s).2.db.provenanceEdges.rows =
      provenanceEdges.rows) :
    (attempt P C J fromSlice input a s).2 =
      { s with db := { s.db with operations, provenanceEdges } } := by
  obtain ⟨⟨rows, hrows⟩, ⟨rows', hrows'⟩, hframe⟩ :=
    @attempt_frame _ P C J fromSlice input a s hs ha
  obtain ⟨_, _⟩ := operations
  obtain ⟨_, _⟩ := provenanceEdges
  rw [hframe] at hoperations hedges ⊢
  simp only at hoperations hedges
  subst hoperations hedges
  rfl

/-- An attempt keeps what attempts need, and what they prepare. -/
theorem attempt_keeps (hs : Importable P C fromSlice input s.db) (ha : a.Sound s.db) :
    Importable P C fromSlice input (attempt P C J fromSlice input a s).2.db ∧
      input.prepare P C fromSlice (attempt P C J fromSlice input a s).2.db =
        input.prepare P C fromSlice s.db := by
  rcases @attempt_cases _ P C J fromSlice input a s hs.anchored ha with
    hstop | ⟨i, now, row, db', hprepare, hoperation, hcase⟩
  · rw [hstop.1]
    exact ⟨hs, rfl⟩
  have hadmitted := (prepare_admitted hprepare).1
  have hanchored := operation_anchored hoperation hs.anchored
  have honce :
      ∀ projection observedAt, admitRunPack P C fromSlice input.bytes input.attestationKey =
      .ok (projection, observedAt) → KeyedOnce db' projection := by
    intro projection observedAt h
    obtain ⟨rfl, -⟩ := Prod.mk.inj (Except.ok.inj (hadmitted.symm.trans h))
    exact operation_keyedOnce hoperation (hs.once _ _ hadmitted)
  obtain ⟨operations, rfl⟩ := operation_frame hoperation
  rcases hcase with ⟨-, h⟩ | ⟨edge, db'', ys, hedge, h⟩
  · rw [h]
    exact ⟨⟨hanchored, honce⟩, prepare_congr rfl rfl⟩
  · rw [h]
    have hanchored' := edge_anchored hedge hanchored
    obtain ⟨edges, rfl⟩ := edge_frame hedge
    exact ⟨⟨hanchored', honce⟩, prepare_congr rfl rfl⟩

/-- Attempts keep what attempts need, and what they prepare. -/
theorem attempts_keep (hs : Importable P C fromSlice input s.db)
    (hrun : SoundRun P C J fromSlice input s as) :
    Importable P C fromSlice input (attempts P C J fromSlice input s as).db ∧
      input.prepare P C fromSlice (attempts P C J fromSlice input s as).db =
        input.prepare P C fromSlice s.db := by
  induction as generalizing s with
  | nil => exact ⟨hs, rfl⟩
  | cons a as ih =>
    obtain ⟨h1, h2⟩ := @attempt_keeps _ P C J fromSlice input a s hs hrun.1
    obtain ⟨h3, h4⟩ := ih h1 hrun.2
    rw [attempts]
    exact ⟨h3, h4.trans h2⟩

/-- An attempt that finds its operation finishes, but for faults and interruptions. -/
theorem attempt_of_pending (hs : Anchored s.db) (ha : a.Sound s.db)
    (hprepare : input.prepare P C fromSlice s.db = .ok i) (hi : i.Pending C J row s.db) :
    Stopped a.choices s (fun _ => False) (attempt P C J fromSlice input a s) ∨
      ∃ edge db' ys, i.edge C J s.db row.operationId a.minted = .ok (edge, db') ∧
        attempt P C J fromSlice input a s =
          (some (.ok (importReceipt row), ys), { s with db := db' }) := by
  have hoperation : ∀ now, i.operation s.db a.proposed now = .ok (row, s.db) :=
    fun now => operation_eq_ok.2 (.inl ⟨hi.found, hi.digest, rfl⟩)
  obtain ⟨edge, db', hedge⟩ := hi.edge a.minted ha.fresh
  rcases @attempt_cases _ P C J fromSlice input a s hs ha with
    hstop | ⟨i', now, row', db'', hprepare', hoperation', hcase⟩
  · refine .inl (hstop.mono (List.Subset.refl _) fun e he => ?_)
    rcases he with he | ⟨i', now, hprepare', hfinish⟩
    · rw [hprepare] at he
      cases he
    · rw [hprepare] at hprepare'
      cases hprepare'
      rw [RunPackImport.finish, hoperation, ok_bind] at hfinish
      simp only [hedge] at hfinish
      cases hfinish
  · rw [hprepare] at hprepare'
    cases hprepare'
    rw [hoperation] at hoperation'
    cases hoperation'
    rcases hcase with ⟨hnone, -⟩ | ⟨edge', db'', ys, hedge', h⟩
    · rw [hi.found] at hnone
      cases hnone
    · exact .inr ⟨edge', db'', ys, hedge', h⟩

/-- An attempt at a finished import returns its receipt and changes nothing, unless it is cut short.
-/
theorem attempt_of_done (hs : Anchored s.db) (ha : a.Sound s.db)
    (hprepare : input.prepare P C fromSlice s.db = .ok i) (hi : i.Done C J row s.db) :
    Stopped a.choices s (fun _ => False) (attempt P C J fromSlice input a s) ∨
      ∃ ys, attempt P C J fromSlice input a s = (some (.ok (importReceipt row), ys), s) := by
  rcases attempt_of_pending (P := P) hs ha hprepare hi.pending with
    hstop | ⟨edge, db', ys, hedge, h⟩
  · exact .inl hstop
  · obtain ⟨edge', hedge'⟩ := hi.edge a.minted
    rw [hedge] at hedge'
    cases hedge'
    exact .inr ⟨ys, h⟩

/-- Attempts leave a finished import as it is. -/
theorem attempts_of_done (hs : Anchored s.db) (hprepare : input.prepare P C fromSlice s.db = .ok i)
    (hi : i.Done C J row s.db) (hrun : SoundRun P C J fromSlice input s as) :
    attempts P C J fromSlice input s as = s := by
  induction as with
  | nil => rfl
  | cons a as ih =>
    have hstate : (attempt P C J fromSlice input a s).2 = s := by
      rcases attempt_of_done hs hrun.1 hprepare hi with hstop | ⟨ys, h⟩
      · exact hstop.1
      · rw [h]
    have hrest := hrun.2
    rw [hstate] at hrest
    rw [attempts, hstate]
    exact ih hrest

/-- Attempts leave an import that a retry repairs so, or finish it. -/
theorem attempts_of_pending (hC : C.Documented) (hJ : ∀ v, J.beq v v = true)
    (hobserved : ∀ t ∈ i.observedAt, t.FourDigit)
    (hs : Importable P C fromSlice input s.db)
    (hprepare : input.prepare P C fromSlice s.db = .ok i) (hi : i.Pending C J row s.db)
    (hrun : SoundRun P C J fromSlice input s as) :
    i.Pending C J row (attempts P C J fromSlice input s as).db := by
  induction as generalizing s with
  | nil => exact hi
  | cons a as ih =>
    obtain ⟨hkeeps, hsame⟩ := @attempt_keeps _ P C J fromSlice input a s hs hrun.1
    rw [attempts]
    refine ih hkeeps (hsame.trans hprepare) ?_ hrun.2
    rcases attempt_of_pending hs.anchored hrun.1 hprepare hi with hstop | ⟨edge, db', ys, hedge, h⟩
    · rw [hstop.1]
      exact hi
    · rw [h]
      exact (done_of_edge hC hJ hs.anchored hobserved hrun.1.now hi.found hi.digest hedge).pending

end

/-! ## Once and for all -/

/-- Exactly one operation has the key of the import, and for it exactly one edge leads from the
projection to the manifest. -/
structure RecordedOnce (db : PooledDb) (projection : RunPackEvidenceProjectionV1) (digest : String)
    (receipt : RunPackObservationReceipt) : Prop where
  operation : ∃ row, db.operations.rows.filter (·.idempotencyKey = runPackKey projection) = [row] ∧
    importReceipt row = receipt ∧ row.contentDigest = digest
  edge : ∃ row, db.provenanceEdges.rows.filter (·.key = (some receipt.operationId, .derivedFrom,
    runPackSource projection, runPackTarget projection)) = [row]

section
variable (P : Platform) (C : Chrono) (J : SerdeJson)
  (fromSlice : Bytes → Except String RunPackAdmissionEnvelope) (input : RunPackInput)

/-- What attempts to import one input, one after another, should do: a failed one changes nothing,
one that is accepted leaves one operation with one edge, and those after it repeat its receipt and
change nothing; those after one that was interrupted return the receipt of the operation it
stored. -/
structure ImportedOnce (s : MnemesStore M) (as : List ImportAttempt) : Prop where
  refused {before a after e ys} : as = before ++ a :: after →
    (attempt P C J fromSlice input a (attempts P C J fromSlice input s before)).1 =
      some (.error e, ys) →
    (attempt P C J fromSlice input a (attempts P C J fromSlice input s before)).2 =
      attempts P C J fromSlice input s before
  accepted {before a after receipt ys} : as = before ++ a :: after →
    (attempt P C J fromSlice input a (attempts P C J fromSlice input s before)).1 =
      some (.ok receipt, ys) →
    ∃ projection observedAt, admitRunPack P C fromSlice input.bytes input.attestationKey =
        .ok (projection, observedAt) ∧
      RecordedOnce (attempt P C J fromSlice input a (attempts P C J fromSlice input s before)).2.db
        projection (contentDigest P input.bytes) receipt
  stable {before a between b after receipt ys} : as = before ++ a :: (between ++ b :: after) →
    (attempt P C J fromSlice input a (attempts P C J fromSlice input s before)).1 =
      some (.ok receipt, ys) →
    NoFaults b.choices →
    (attempt P C J fromSlice input b
      (attempts P C J fromSlice input s (before ++ a :: between))).1 ≠ none →
    ∃ zs, attempt P C J fromSlice input b
        (attempts P C J fromSlice input s (before ++ a :: between)) =
      (some (.ok receipt, zs),
        (attempt P C J fromSlice input a (attempts P C J fromSlice input s before)).2)
  repaired {before a between b after} : as = before ++ a :: (between ++ b :: after) →
    (attempt P C J fromSlice input a (attempts P C J fromSlice input s before)).1 = none →
    (attempt P C J fromSlice input a
        (attempts P C J fromSlice input s before)).2.db.operations.rows ≠
      (attempts P C J fromSlice input s before).db.operations.rows →
    NoFaults b.choices →
    (attempt P C J fromSlice input b
      (attempts P C J fromSlice input s (before ++ a :: between))).1 ≠ none →
    ∃ row zs, (attempt P C J fromSlice input a
        (attempts P C J fromSlice input s before)).2.db.operations.rows =
      (attempts P C J fromSlice input s before).db.operations.rows ++ [row] ∧
      (attempt P C J fromSlice input b
        (attempts P C J fromSlice input s (before ++ a :: between))).1 =
        some (.ok (importReceipt row), zs)

end

section
variable {P : Platform} {C : Chrono} {J : SerdeJson}
  {fromSlice : Bytes → Except String RunPackAdmissionEnvelope} {input : RunPackInput}
  {i : RunPackImport} {a : ImportAttempt} {as : List ImportAttempt} {s : MnemesStore M}
  {row : OperationEnvelope} {edge : ProvenanceEdge J} {db db' : PooledDb} {now : String}
  {proposed : OperationId} {minted : Minted}

/-- A call that stops without a fault was interrupted. -/
theorem Stopped.interrupted {α : Type} {xs : List Choice}
    {p : Option (Except MnemesError α × List Choice) × MnemesStore M}
    (h : Stopped xs s (fun _ => False) p) (hxs : NoFaults xs) : p.1 = none := by
  obtain ⟨-, hnone | ⟨e, ys, -, hfaulty | hfalse⟩⟩ := h
  · exact hnone
  · exact absurd hfaulty (not_faulty hxs)
  · exact hfalse.elim

/-- What is finished is recorded once. -/
theorem recordedOnce_of_edge (hC : C.Documented) (hJ : ∀ v, J.beq v v = true)
    (hanchored : Anchored db) (honce : KeyedOnce db i.projection)
    (hobserved : ∀ t ∈ i.observedAt, t.FourDigit) (hnow : minted.now.FourDigit)
    (hfound : db.operationByKey (runPackKey i.projection) = some row)
    (hdigest : row.contentDigest = i.digest)
    (h : i.edge C J db row.operationId minted = .ok (edge, db')) :
    RecordedOnce db' i.projection i.digest (importReceipt row) := by
  have hwritable : Writable (i.edgeRequest (runPackSource i.projection)
      (runPackTarget i.projection) row.operationId) minted :=
    ⟨hnow, fun _ h => (by cases h), fun _ h => (by cases h), hobserved⟩
  obtain ⟨-, -, -, -, stored, hstored, hkey, -⟩ := recordConn_stored hC hJ hwritable h
  have hkeys := (edge_anchored h hanchored).edgeKeys
  have hedge := Lists.filter_key_eq hkeys hstored
  rw [hkey] at hedge
  obtain ⟨edges, rfl⟩ := edge_frame h
  refine ⟨⟨row, ?_, rfl, hdigest⟩, ⟨stored, hedge⟩⟩
  have hmem : row ∈ db.operations.rows.filter (·.idempotencyKey = runPackKey i.projection) :=
    List.mem_filter.2 ⟨List.mem_of_find?_eq_some hfound, (List.find?_some hfound :)⟩
  cases hrows : db.operations.rows.filter (·.idempotencyKey = runPackKey i.projection) with
  | nil =>
    rw [hrows] at hmem
    cases hmem
  | cons first rest =>
    rw [KeyedOnce, hrows] at honce
    cases rest with
    | nil =>
      rw [hrows, List.mem_singleton] at hmem
      rw [hmem]
    | cons second rest => simp at honce

/-- What an import of bytes without a matching witness does: nothing. -/
theorem attempt_of_unattested (h : ∀ envelope key, fromSlice input.bytes = .ok envelope →
      input.attestationKey = some key → ¬ envelope.Attested P key) (a : ImportAttempt)
    (s : MnemesStore M) :
    (attempt P C J fromSlice input a s).2 = s ∧ ∀ receipt ys,
      (attempt P C J fromSlice input a s).1 ≠ some (.ok receipt, ys) := by
  unfold attempt
  rcases @import_run _ P C J fromSlice input a.proposed a.minted a.choices s with
    hstop | ⟨x, y, z, ys, i, hxs, hprepare, hexec⟩
  · refine ⟨hstop.1, fun receipt ys hok => ?_⟩
    rcases hstop.2 with hnone | ⟨e, zs, herror, -⟩
    · rw [hnone] at hok
      cases hok
    · rw [herror] at hok
      cases hok
  · obtain ⟨⟨envelope, key, henvelope, hkey, -, hattested⟩, -⟩ :=
      admitRunPack_eq_ok (prepare_admitted hprepare).1
    exact absurd hattested (h envelope key henvelope hkey)

/-- An accepted attempt has recorded its import, once, and for every retry. -/
theorem attempt_accepted (hC : C.Documented) (hJ : ∀ v, J.beq v v = true)
    (hs : Importable P C fromSlice input s.db) (ha : a.Sound s.db)
    (hobserved : ∀ i, input.prepare P C fromSlice s.db = .ok i → ∀ t ∈ i.observedAt, t.FourDigit)
    {receipt : RunPackObservationReceipt} {ys : List Choice}
    (hok : (attempt P C J fromSlice input a s).1 = some (.ok receipt, ys)) :
    ∃ i row, input.prepare P C fromSlice s.db = .ok i ∧ receipt = importReceipt row ∧
      i.Done C J row (attempt P C J fromSlice input a s).2.db ∧
      RecordedOnce (attempt P C J fromSlice input a s).2.db i.projection i.digest receipt := by
  rcases @attempt_cases _ P C J fromSlice input a s hs.anchored ha with
    hstop | ⟨i, now, row, db', hprepare, hoperation, ⟨-, h⟩ | ⟨edge, db'', zs, hedge, h⟩⟩
  · rcases hstop.2 with hnone | ⟨e, zs, herror, -⟩
    · rw [hnone] at hok
      cases hok
    · rw [herror] at hok
      cases hok
  · rw [h] at hok
    cases hok
  · rw [h] at hok ⊢
    cases hok
    have hanchored := operation_anchored hoperation hs.anchored
    have honce := operation_keyedOnce hoperation (hs.once _ _ (prepare_admitted hprepare).1)
    obtain ⟨hfound, hdigest⟩ := operation_found hoperation
    exact ⟨i, row, hprepare, rfl,
      done_of_edge hC hJ hanchored (hobserved i hprepare) ha.now hfound hdigest hedge,
      recordedOnce_of_edge hC hJ hanchored honce (hobserved i hprepare) ha.now hfound hdigest hedge⟩

/-- An interrupted attempt has changed nothing, or stored an operation that a retry finds. -/
theorem attempt_interrupted (hs : Importable P C fromSlice input s.db) (ha : a.Sound s.db)
    (hnone : (attempt P C J fromSlice input a s).1 = none) :
    (attempt P C J fromSlice input a s).2 = s ∨
      ∃ i row, input.prepare P C fromSlice s.db = .ok i ∧
        i.Pending C J row (attempt P C J fromSlice input a s).2.db ∧
        (attempt P C J fromSlice input a s).2.db.operations.rows =
          s.db.operations.rows ++ [row] := by
  rcases @attempt_cases _ P C J fromSlice input a s hs.anchored ha with
    hstop | ⟨i, now, row, db', hprepare, hoperation, ⟨hnew, h⟩ | ⟨edge, db'', zs, hedge, h⟩⟩
  · exact .inl hstop.1
  · rw [h]
    refine .inr ⟨i, row, hprepare,
      pending_of_stored hs.anchored (prepare_valid hprepare) hnew hoperation, ?_⟩
    rcases operation_eq_ok.1 hoperation with ⟨hfound, -⟩ | ⟨-, -, operations, hins, -, -, rfl⟩
    · rw [hnew] at hfound
      cases hfound
    · exact (Table.insert?_eq_some hins).2
  · rw [h] at hnone
    cases hnone

/-- In every run of attempts to import one input, from any state in which at most one operation has
its key, of which no action fails once it looked the key up, an import is all or nothing and its
repetitions agree, if the time its projection was observed has a year of four digits in UTC. And
whatever fails, what no matching witness attests has no effect. -/
theorem run_pack_import_once (hC : C.Documented) (hJ : ∀ v, J.beq v v = true)
    (hs : Importable P C fromSlice input s.db)
    (hobserved : ∀ projection observedAt,
      admitRunPack P C fromSlice input.bytes input.attestationKey = .ok (projection, observedAt) →
        ∀ t ∈ observedAt, t.FourDigit)
    (hrun : SoundRun P C J fromSlice input s as) :
    ImportedOnce P C J fromSlice input s as ∧
      ((∀ envelope key, fromSlice input.bytes = .ok envelope → input.attestationKey = some key →
          ¬ envelope.Attested P key) →
        ∀ (a : ImportAttempt) (s' : MnemesStore M), (attempt P C J fromSlice input a s').2 = s' ∧
          ∀ receipt ys, (attempt P C J fromSlice input a s').1 ≠ some (.ok receipt, ys)) := by
  have htime : ∀ i, input.prepare P C fromSlice s.db = .ok i → ∀ t ∈ i.observedAt, t.FourDigit :=
    fun i h => hobserved _ _ (prepare_admitted h).1
  refine ⟨⟨?_, ?_, ?_, ?_⟩, fun h a s' => attempt_of_unattested h a s'⟩
  · -- a failed attempt
    rintro before a after e ys rfl herror
    obtain ⟨hbefore, ha, -⟩ := soundRun_append.1 hrun
    have hkept := (attempts_keep hs hbefore).1
    rcases @attempt_cases _ P C J fromSlice input a _ hkept.anchored ha with
      hstop | ⟨i, now, row, db', -, -, ⟨-, h⟩ | ⟨edge, db'', zs, -, h⟩⟩
    · exact hstop.1
    · rw [h] at herror
      cases herror
    · rw [h] at herror
      cases herror
  · -- an accepted one
    rintro before a after receipt ys rfl hok
    obtain ⟨hbefore, ha, -⟩ := soundRun_append.1 hrun
    obtain ⟨hkept, hsame⟩ := attempts_keep hs hbefore
    obtain ⟨i, row, hprepare, rfl, -, hrecorded⟩ :=
      attempt_accepted hC hJ hkept ha (fun i h => htime i (hsame ▸ h)) hok
    obtain ⟨hadmitted, hdigest⟩ := prepare_admitted hprepare
    exact ⟨i.projection, i.observedAt, hadmitted, hdigest ▸ hrecorded⟩
  · -- one after an accepted one
    rintro before a between b after receipt ys rfl hok hfaultless hreturns
    obtain ⟨hbefore, ha, hafter⟩ := soundRun_append.1 hrun
    obtain ⟨hbetween, hb, -⟩ := soundRun_append.1 hafter
    obtain ⟨hkept, hsame⟩ := attempts_keep hs hbefore
    obtain ⟨i, row, hprepare, rfl, hdone, -⟩ :=
      attempt_accepted hC hJ hkept ha (fun i h => htime i (hsame ▸ h)) hok
    obtain ⟨hkept', hsame'⟩ := @attempt_keeps _ P C J fromSlice input a _ hkept ha
    have hprepare' := hsame'.trans hprepare
    have hrest := attempts_of_done hkept'.anchored hprepare' hdone hbetween
    rw [attempts_append, attempts, hrest] at hreturns ⊢
    rw [hrest] at hb
    rcases attempt_of_done hkept'.anchored hb hprepare' hdone with hstop | ⟨zs, h⟩
    · exact absurd (hstop.interrupted hfaultless) hreturns
    · exact ⟨zs, h⟩
  · -- one after an interrupted one
    rintro before a between b after rfl hnone hstored hfaultless hreturns
    obtain ⟨hbefore, ha, hafter⟩ := soundRun_append.1 hrun
    obtain ⟨hbetween, hb, -⟩ := soundRun_append.1 hafter
    obtain ⟨hkept, hsame⟩ := attempts_keep hs hbefore
    rcases attempt_interrupted hkept ha hnone with hstate | ⟨i, row, hprepare, hpending, hrows⟩
    · rw [hstate] at hstored
      exact absurd rfl hstored
    obtain ⟨hkept', hsame'⟩ := @attempt_keeps _ P C J fromSlice input a _ hkept ha
    have hprepare' := hsame'.trans hprepare
    obtain ⟨hkept'', hsame''⟩ := attempts_keep hkept' hbetween
    have hlater := attempts_of_pending hC hJ (htime i (hsame ▸ hprepare)) hkept' hprepare' hpending
      hbetween
    rw [attempts_append, attempts] at hreturns ⊢
    rcases attempt_of_pending hkept''.anchored hb (hsame''.trans hprepare') hlater with
      hstop | ⟨edge, db', zs, -, h⟩
    · exact absurd (hstop.interrupted hfaultless) hreturns
    · exact ⟨row, zs, hrows, by rw [h]⟩

end

namespace Sample

/-- A run pack, with the time it was observed, and the hashes that its admission takes: of its
projection, the inner one of its HMAC, the HMAC, and of all it presents. -/
structure Pack where
  observedAt : String
  canonical : Bytes32
  inner : Bytes32
  mac : Bytes32
  content : Bytes32

def Pack.projection (p : Pack) : RunPackEvidenceProjectionV1 where
  schema := "RunPackEvidenceProjectionV1"
  projectionId := "5cfc1ec90121327e712e26d43e295e567b37f70eab0639302e3de41547775374"
  runId := "run-1"
  packManifestDigest := "9f64acec41bde3a3f6d6a5b25c4928aa9b39eb23fdbbc7a1ce3bfe7538cafe9b"
  packContentDigest := "ec192a928263b72f747fc3c40dfa0d11621171fb40d429a3d5ffb3a760102729"
  verification := ⟨"verifier/v1", "2026-08-10T00:00:00Z",
    "eb0895ac3ebb64973a1844b314721c43921dab55b9eb8471c03467b1656894b2", "verified"⟩
  vault := ⟨"vault-object-1", "objects/pack-1", "available"⟩
  origin := ⟨"hermes-native", none, some p.observedAt, "2026-08-10T00:00:00Z"⟩
  eventSummary := ⟨"succeeded",
    "86fff25f5f0b56177b9412ae2cf9d665378c9bf4385029fa6b516fba76440871", []⟩

def Pack.witness (p : Pack) : RunPackAdmissionWitnessV1 where
  format := "mnemes.run-pack-admission-witness/v1"
  canonicalProjectionDigest := "sha256:" ++ hex p.canonical.toList
  packManifestDigest := p.projection.packManifestDigest
  packContentDigest := p.projection.packContentDigest
  verificationReceiptDigest := p.projection.verification.verificationReceiptDigest
  verified := true
  signature := hex p.mac.toList

/-- The bytes of a run pack. -/
def Pack.json (p : Pack) : Json.Value :=
  .object [("projection", p.projection.json), ("admission_witness", .object [
    ("canonical_projection_digest", .string p.witness.canonicalProjectionDigest),
    ("format", .string p.witness.format),
    ("pack_content_digest", .string p.witness.packContentDigest),
    ("pack_manifest_digest", .string p.witness.packManifestDigest),
    ("verification_receipt_digest", .string p.witness.verificationReceiptDigest),
    ("verified", .bool p.witness.verified), ("signature", .string p.witness.signature)])]

def Pack.bytes (p : Pack) : Bytes := utf8 p.json.toText

/-- A run pack observed at noon. -/
def noonPack : Pack where
  observedAt := "2026-07-19T12:00:00+00:00"
  canonical :=
    #v[14, 24, 167, 101, 39, 7, 37, 56, 72, 85, 130, 203, 74, 108, 180, 8, 94, 155, 127, 154, 49,
      239, 29, 250, 168, 64, 113, 185, 244, 187, 14, 233]
  inner :=
    #v[199, 241, 142, 137, 95, 25, 221, 78, 115, 62, 253, 203, 62, 16, 62, 169, 27, 181, 205, 211,
      210, 187, 166, 116, 234, 240, 31, 44, 30, 180, 25, 34]
  mac :=
    #v[247, 228, 147, 234, 167, 168, 194, 108, 143, 188, 74, 231, 121, 38, 241, 184, 179, 21, 67,
      151, 91, 33, 233, 8, 14, 42, 248, 197, 152, 172, 218, 170]
  content :=
    #v[130, 22, 246, 188, 14, 177, 24, 171, 0, 47, 191, 146, 75, 118, 159, 82, 6, 137, 188, 1, 191,
      136, 249, 210, 3, 63, 55, 106, 201, 44, 199, 42]

/-- One observed half an hour before the year 10000, one hour west of Greenwich. -/
def latePack : Pack where
  observedAt := "9999-12-31T23:30:00-01:00"
  canonical :=
    #v[193, 138, 204, 84, 186, 50, 220, 60, 34, 233, 4, 86, 237, 147, 51, 1, 14, 131, 4, 5, 103,
      205, 83, 162, 109, 122, 63, 127, 251, 90, 9, 236]
  inner :=
    #v[162, 34, 228, 17, 42, 110, 204, 231, 221, 113, 146, 166, 233, 11, 248, 133, 72, 219, 70, 24,
      197, 42, 52, 150, 204, 33, 102, 44, 216, 200, 234, 138]
  mac :=
    #v[244, 31, 7, 92, 79, 101, 173, 19, 108, 0, 148, 136, 35, 139, 200, 255, 150, 195, 75, 123,
      82, 24, 32, 146, 243, 193, 213, 169, 192, 160, 94, 251]
  content :=
    #v[241, 55, 120, 110, 220, 149, 29, 205, 95, 124, 171, 128, 234, 202, 5, 242, 135, 19, 3, 58,
      92, 99, 71, 238, 50, 236, 53, 16, 94, 26, 70, 93]

/-- The key of the server: `test-key`. -/
def attestationKey : Bytes := [0x74, 0x65, 0x73, 0x74, 0x2D, 0x6B, 0x65, 0x79]

def maskedAttestationKey (mask : UInt8) : Bytes :=
  (attestationKey ++ List.replicate 56 0).map (· ^^^ mask)

/-- The crates, on one run pack of device A. -/
def packPlatform (p : Pack) : Platform where
  uuidParseStr := platform.uuidParseStr
  uuid_canonical := platform.uuid_canonical
  sha256 bytes :=
    if bytes = utf8 (credential deviceA) then digestCredentialA
    else if bytes = p.bytes then p.content
    else if bytes = utf8 p.projection.json.toText then p.canonical
    else if bytes = maskedAttestationKey 0x36 ++ utf8 p.witness.signed.toText then p.inner
    else if bytes = maskedAttestationKey 0x5C ++ p.inner.toList then p.mac
    else Vector.replicate 32 0
  verifyingKey := platform.verifyingKey
  verify := platform.verify
  verifyingKeyOf := platform.verifyingKeyOf
  sign := platform.sign

def packFromSlice (p : Pack) (bytes : Bytes) : Except String RunPackAdmissionEnvelope :=
  if bytes = p.bytes then .ok ⟨p.projection, p.witness⟩ else .error "expected value"

/-- The first of January is a day of the year 10000. -/
theorem newYear_mem : 1 ≤ 1 ∧ 1 ≤ Rfc3339.monthLength (Rfc3339.isLeap 10000) 1 := by decide

/-- Half past is a minute. -/
theorem halfPast_lt : 30 < 60 := by decide

/-- Half past midnight on the first of January of the year ten thousand. -/
def yearTenThousand : DateTime :=
  { DateTime.first with
    date := { DateTime.first.date with year := 10000, day_mem := newYear_mem }
    time := { DateTime.first.time with minute := 30, minute_lt := halfPast_lt } }

/-- The documented `chrono` on the texts that it formats itself, and on the late one. -/
def packChrono : Chrono where
  toRfc3339 := chrono.toRfc3339
  parseFromRfc3339 value :=
    match DateTime.read value.toList with
    | some t => .ok t
    | none => if value = latePack.observedAt then .ok yearTenThousand
      else .error "input contains invalid characters"

/-- The sample `chrono` keeps what the crate documents. -/
theorem packChrono_documented : packChrono.Documented where
  format := chrono_documented.format
  parse ht := by simp [packChrono, chrono, ht, DateTime.read_text ht]

def packInput (p : Pack) : RunPackInput := ⟨credential deviceA, p.bytes, some attestationKey⟩

section
variable (p : Pack)

/-- Inputs of the hash function with different first bytes. -/
theorem ne_of_head {a b : Bytes} {x y : UInt8} (ha : a.head? = some x) (hb : b.head? = some y)
    (hne : x ≠ y) : a ≠ b := by
  rintro rfl
  exact hne (Option.some.inj (ha.symm.trans hb))

/-- The text of a JSON object starts with a brace. -/
theorem object_head (fields : List (String × Json.Value)) :
    (utf8 (Json.Value.object fields).toText).head? = some 0x7B := by
  rw [Json.Value.toText, utf8_ofList]
  rfl

/-- The credential of device A starts with a digit. -/
theorem credential_head : (utf8 (credential deviceA)).head? = some 0x37 := by decide +kernel

/-- What is hashed under a masked key starts with neither. -/
theorem masked_head (rest : Bytes) :
    (maskedAttestationKey 0x36 ++ rest).head? = some 0x42 ∧
      (maskedAttestationKey 0x5C ++ rest).head? = some 0x28 := ⟨rfl, rfl⟩

/-- The bytes of a run pack start with a brace. -/
theorem content_head : p.bytes.head? = some 0x7B := object_head _

/-- The canonical text of a projection starts with a brace. -/
theorem canonical_head : (utf8 p.projection.json.toText).head? = some 0x7B := object_head _

/-- The canonical text is not what was sent: it has no witness. -/
theorem content_ne : utf8 p.projection.json.toText ≠ p.bytes := by
  intro h
  have := Json.toText_injective (utf8_inj.1 h)
  simp [Pack.json, RunPackEvidenceProjectionV1.json] at this

/-- The digest of the bytes that were sent. -/
theorem packPlatform_content : (packPlatform p).sha256 p.bytes = p.content := by
  have h := ne_of_head (content_head p) credential_head (by decide)
  simp only [packPlatform, h, if_false, if_true]

/-- The digest of the canonical text of the projection. -/
theorem packPlatform_canonical :
    (packPlatform p).sha256 (utf8 p.projection.json.toText) = p.canonical := by
  have h := ne_of_head (canonical_head p) credential_head (by decide)
  simp only [packPlatform, h, content_ne, if_false, if_true]

/-- The inner hash of the witness's MAC. -/
theorem packPlatform_inner : (packPlatform p).sha256
    (maskedAttestationKey 0x36 ++ utf8 p.witness.signed.toText) = p.inner := by
  have hhead := (masked_head (utf8 p.witness.signed.toText)).1
  have h1 := ne_of_head hhead credential_head (by decide)
  have h2 := ne_of_head hhead (content_head p) (by decide)
  have h3 := ne_of_head hhead (canonical_head p) (by decide)
  simp only [packPlatform, h1, h2, h3, if_false, if_true]

/-- The outer hash of the witness's MAC. -/
theorem packPlatform_outer :
    (packPlatform p).sha256 (maskedAttestationKey 0x5C ++ p.inner.toList) = p.mac := by
  have hhead := (masked_head p.inner.toList).2
  have h1 := ne_of_head hhead credential_head (by decide)
  have h2 := ne_of_head hhead (content_head p) (by decide)
  have h3 := ne_of_head hhead (canonical_head p) (by decide)
  have h4 := ne_of_head hhead (masked_head (utf8 p.witness.signed.toText)).1 (by decide)
  simp only [packPlatform, h1, h2, h3, h4, if_false, if_true]

/-- The MAC of the witness under the key of the server. -/
theorem packPlatform_hmac : hmacSha256Slice (packPlatform p) attestationKey
    (utf8 p.witness.signed.toText) = p.mac := by
  change (packPlatform p).sha256 (maskedAttestationKey 0x5C ++ ((packPlatform p).sha256
    (maskedAttestationKey 0x36 ++ utf8 p.witness.signed.toText)).toList) = p.mac
  rw [packPlatform_inner, packPlatform_outer]

/-- The run pack is admitted. -/
theorem pack_admitted (t : DateTime) (htime : packChrono.parseFromRfc3339 p.observedAt = .ok t)
    (hmac : hexDecode (hex p.mac.toList) = some p.mac.toList) :
    admitRunPack (packPlatform p) packChrono (packFromSlice p) (packInput p).bytes
      (packInput p).attestationKey = .ok (p.projection, some t) := by
  have hsupplied : ¬ (hexDecode p.witness.signature).getD [] ≠ (hmacSha256Slice (packPlatform p)
      attestationKey (utf8 p.witness.signed.toText)).toList := by
    rw [packPlatform_hmac, Pack.witness, hmac]
    simp
  have hcanonical : contentDigest (packPlatform p) (utf8 p.projection.json.toText) =
      p.witness.canonicalProjectionDigest := by
    rw [contentDigest, packPlatform_canonical]
    rfl
  simp only [admitRunPack, bind_eq_ok, mapError_eq_ok, okOr_eq_ok, guard_eq_ok]
  refine ⟨⟨p.projection, p.witness⟩, if_pos rfl, attestationKey, rfl, hsupplied, ?_, ?_, ?_, ?_, ?_,
    some t, ?_, rfl⟩
  · simp only [hcanonical]
    simp [Pack.witness]
  · simp [Pack.projection]
  · change ¬ (noonPack.projection.digests.any fun digest => !validDigest digest) = true
    decide +kernel
  · simp [Pack.projection]
  · change ¬ escapesRoot noonPack.projection.vault.relativeRef = true
    decide +kernel
  · change (parseTime packChrono p.observedAt).map some = .ok (some t)
    rw [parseTime, htime]
    rfl

/-- The import of the run pack once it is admitted. -/
theorem pack_import (t : DateTime) (htime : packChrono.parseFromRfc3339 p.observedAt = .ok t)
    (hmac : hexDecode (hex p.mac.toList) = some p.mac.toList) (proposed : OperationId)
    (minted : Minted) :
    (importRunPackObservation (packPlatform p) packChrono json (packFromSlice p) (packInput p)
        proposed minted : Op memory RunPackObservationReceipt) = (do
      let (device, _) ← tokenDeviceId (packPlatform p) (credential deviceA)
      let actor ← poolRead fun db => okOr (db.listActorsForDevice device.deviceId).head?
        (.actorNotFound device.deviceId.text)
      RunPackImport.record packChrono json
        ⟨device, p.projection, some t, actor, "sha256:" ++ hex p.content.toList⟩
        proposed minted) := by
  have hdigest : contentDigest (packPlatform p) (packInput p).bytes =
      "sha256:" ++ hex p.content.toList := by
    rw [contentDigest]
    exact congrArg (fun d : Bytes32 => "sha256:" ++ hex d.toList) (packPlatform_content p)
  unfold importRunPackObservation
  rw [pack_admitted p t htime hmac, hdigest]
  rfl

end

/-- An attempt with the identities it draws, and `n` actions. -/
def packAttempt (proposed edgeId : String) (n : Nat) : ImportAttempt :=
  ⟨⟨proposed⟩, ⟨⟨edgeId⟩, noon⟩, List.replicate n plain⟩

/-- Two attempts, of which the first may be interrupted. -/
def firstTry (n : Nat) : ImportAttempt := packAttempt "op-1" "edge-1" n

def secondTry : ImportAttempt := packAttempt "op-2" "edge-2" 8

/-- The receipt for the first operation. -/
def packReceipt : RunPackObservationReceipt := ⟨receiptOf ⟨"op-1"⟩, ⟨"op-1"⟩, "now"⟩

/-- No action of a sample attempt fails. -/
theorem packAttempt_noFaults (proposed edgeId : String) (n : Nat) :
    NoFaults (packAttempt proposed edgeId n).choices := by
  intro x hx
  rw [List.eq_of_mem_replicate hx]
  rfl

/-- A sample attempt whose edge identity is new is sound. -/
theorem packAttempt_sound {proposed edgeId : String} {n : Nat} {db : PooledDb}
    (h : db.provenanceEdges.find? ⟨edgeId⟩ = none) : (packAttempt proposed edgeId n).Sound db where
  faultless x hx := packAttempt_noFaults proposed edgeId n x (List.mem_of_mem_drop hx)
  now := (by decide : noon.FourDigit)
  fresh := h

/-- The sample deployment has neither operations nor edges, so attempts can start there. -/
theorem staffed_importable (p : Pack) :
    Importable (packPlatform p) packChrono (packFromSlice p) (packInput p) staffed.db where
  anchored := ⟨by rintro row ⟨⟩, List.nodup_nil, by rintro row ⟨⟩⟩
  once _ _ _ := Nat.zero_le 1

/-- The time and the signature of the run pack of noon are read back. -/
theorem noon_parsed : packChrono.parseFromRfc3339 noonPack.observedAt = .ok noon ∧
    hexDecode (hex noonPack.mac.toList) = some noonPack.mac.toList := by decide +kernel

/-- The time and the signature of the late run pack are read back. -/
theorem late_parsed : packChrono.parseFromRfc3339 latePack.observedAt = .ok yearTenThousand ∧
    hexDecode (hex latePack.mac.toList) = some latePack.mac.toList := by decide +kernel

section
variable (p : Pack)

/-- An attempt to import the run pack. -/
abbrev packAttempted (a : ImportAttempt) (s : MnemesStore memory) :=
  attempt (packPlatform p) packChrono json (packFromSlice p) (packInput p) a s

end

/-- The operation of the first attempt to import a run pack, and the edge of an attempt. -/
def packOperation (p : Pack) : OperationEnvelope where
  operationId := ⟨"op-1"⟩
  idempotencyKey := runPackKey p.projection
  requestingDeviceId := deviceA
  requestingActorId := actorA
  recordingDeviceId := deviceA
  recordingServerId := deviceA
  operationKind := .observe
  targetKind := "run_pack_projection"
  targetId := p.projection.projectionId
  contentDigest := "sha256:" ++ hex p.content.toList
  observedAt := some p.observedAt
  validTime := some p.observedAt
  recordedAt := "now"
  receiptId := some (receiptOf ⟨"op-1"⟩)

def packEdge (p : Pack) (edgeId : String) (observedAt : DateTime) : ProvenanceEdgeRow where
  edgeId := ⟨edgeId⟩
  edgeType := .derivedFrom
  source := runPackSource p.projection
  target := runPackTarget p.projection
  operationId := some ⟨"op-1"⟩
  actorId := some actorA
  deviceId := some deviceA
  validFrom := none
  validTo := none
  observedAt := some (packChrono.toRfc3339 observedAt)
  recordedAt := packChrono.toRfc3339 noon
  contentDigest := some ("sha256:" ++ hex p.content.toList)
  metadata := none
  supersedesEdgeId := none

/-- The table of the operation, and one of an edge. -/
def packOperations (p : Pack) : Table OperationEnvelope OperationEnvelope.operationId :=
  ⟨[packOperation p], by simp⟩

def packEdges (row : ProvenanceEdgeRow) : Table ProvenanceEdgeRow ProvenanceEdgeRow.edgeId :=
  ⟨[row], by simp⟩

/-- The deployment with the operation, and with edges. -/
def packStore (p : Pack) (edges : Table ProvenanceEdgeRow ProvenanceEdgeRow.edgeId) :
    MnemesStore memory :=
  { staffed with db := { staffed.db with
    operations := packOperations p
    provenanceEdges := edges } }

/-- The first attempt is sound in the sample deployment. -/
theorem firstTry_sound (n : Nat) : (firstTry n).Sound staffed.db := packAttempt_sound rfl

/-- The late run pack is imported. -/
theorem late_first : (∃ ys, (packAttempted latePack (firstTry 8) staffed).1 =
      some (.ok packReceipt, ys)) ∧
    (packAttempted latePack (firstTry 8) staffed).2 =
      packStore latePack (packEdges (packEdge latePack "edge-1" yearTenThousand)) := by
  have hrun : ((packAttempted latePack (firstTry 8) staffed).1.any fun r =>
        r.1.toOption = some packReceipt) = true ∧
      (packAttempted latePack (firstTry 8) staffed).2.db.operations.rows =
        (packOperations latePack).rows ∧
      (packAttempted latePack (firstTry 8) staffed).2.db.provenanceEdges.rows =
        (packEdges (packEdge latePack "edge-1" yearTenThousand)).rows := by
    unfold packAttempted attempt
    rw [pack_import latePack yearTenThousand late_parsed.1 late_parsed.2]
    decide +kernel
  obtain ⟨hreturned, hoperations, hedges⟩ := hrun
  obtain ⟨⟨r, ys⟩, hr, hreceipt⟩ := (Option.any_eq_true _ _).1 hreturned
  unfold packAttempted at hoperations hedges hr ⊢
  have hstore := @attempt_store memory _ _ _ _ _ (firstTry 8) staffed
    (staffed_importable latePack).anchored (firstTry_sound 8) _ _ hoperations hedges
  refine ⟨⟨ys, ?_⟩, hstore.trans ?_⟩
  rotate_left
  · rfl
  rw [hr]
  cases r with
  | ok receipt =>
    have : some receipt = some packReceipt := of_decide_eq_true hreceipt
    rw [Option.some.inj this]
  | error e => exact absurd (of_decide_eq_true hreceipt) (by simp [Except.toOption])

/-- Its retry fails. -/
theorem late_second : ((packAttempted latePack secondTry (packStore latePack (packEdges
    (packEdge latePack "edge-1" yearTenThousand)))).1.any fun r => r.1.toOption.isNone) = true := by
  unfold packAttempted attempt
  rw [pack_import latePack yearTenThousand late_parsed.1 late_parsed.2]
  decide +kernel

/-- The first attempt is interrupted once it has stored its operation. -/
theorem noon_interrupted : (packAttempted noonPack (firstTry 5) staffed).1 = none ∧
    (packAttempted noonPack (firstTry 5) staffed).2 = packStore noonPack .empty := by
  have hrun : (packAttempted noonPack (firstTry 5) staffed).1.isNone = true ∧
      (packAttempted noonPack (firstTry 5) staffed).2.db.operations.rows =
        (packOperations noonPack).rows ∧
      (packAttempted noonPack (firstTry 5) staffed).2.db.provenanceEdges.rows =
        (Table.empty : Table ProvenanceEdgeRow ProvenanceEdgeRow.edgeId).rows := by
    unfold packAttempted attempt
    rw [pack_import noonPack noon noon_parsed.1 noon_parsed.2]
    decide +kernel
  obtain ⟨hnone, hoperations, hedges⟩ := hrun
  unfold packAttempted at hnone hoperations hedges ⊢
  exact ⟨Option.isNone_iff_eq_none.1 hnone, attempt_store (staffed_importable noonPack).anchored
    (firstTry_sound 5) hoperations hedges⟩

/-- The second attempt is sound where the stored edge is another. -/
theorem secondTry_sound {p : Pack} {row : ProvenanceEdgeRow} (h : row.edgeId ≠ ⟨"edge-2"⟩) :
    secondTry.Sound (packStore p (packEdges row)).db :=
  packAttempt_sound (by simp [packStore, packEdges, Table.find?, h])

/-- The second attempt is sound where there is no edge. -/
theorem secondTry_sound_empty {p : Pack} : secondTry.Sound (packStore p .empty).db :=
  packAttempt_sound rfl

/-- A retry repairs it. -/
theorem noon_repaired :
    ((packAttempted noonPack secondTry (packStore noonPack .empty)).1.any fun r =>
      r.1.toOption = some packReceipt) = true := by
  unfold packAttempted attempt
  rw [pack_import noonPack noon noon_parsed.1 noon_parsed.2]
  decide +kernel

/-- An interrupted attempt and its retry are a sound run. -/
theorem interrupted_sound :
    SoundRun (packPlatform noonPack) packChrono json (packFromSlice noonPack)
    (packInput noonPack) staffed [firstTry 5, secondTry] := by
  refine ⟨firstTry_sound 5, ?_, trivial⟩
  have hstate := noon_interrupted.2
  unfold packAttempted at hstate
  rw [hstate]
  exact secondTry_sound_empty

/-- A finished attempt and its retry are a sound run. -/
theorem retried_sound : SoundRun (packPlatform latePack) packChrono json (packFromSlice latePack)
    (packInput latePack) staffed [firstTry 8, secondTry] := by
  refine ⟨firstTry_sound 8, ?_, trivial⟩
  have hstate := late_first.2
  unfold packAttempted at hstate
  rw [hstate]
  exact secondTry_sound (by decide)

end Sample

open Sample in
/-- An import that was interrupted once it had stored its operation is repaired by a retry, which
returns the receipt for that operation. -/
theorem run_pack_import_once_sample : ∃ zs, (packAttempted noonPack secondTry
    (packAttempted noonPack (firstTry 5) staffed).2).1 = some (.ok packReceipt, zs) := by
  have hobserved : ∀ projection observedAt, admitRunPack (packPlatform noonPack) packChrono
      (packFromSlice noonPack) (packInput noonPack).bytes (packInput noonPack).attestationKey =
        .ok (projection, observedAt) → ∀ t ∈ observedAt, t.FourDigit := by
    intro projection observedAt h t ht
    rw [pack_admitted noonPack noon noon_parsed.1 noon_parsed.2] at h
    cases h
    obtain rfl := Option.some.inj ht
    decide
  have honce := (run_pack_import_once packChrono_documented json_beq (staffed_importable noonPack)
    hobserved interrupted_sound).1
  obtain ⟨hnone, hstate⟩ := noon_interrupted
  obtain ⟨⟨r, ws⟩, hreturns, -⟩ := (Option.any_eq_true _ _).1 noon_repaired
  unfold packAttempted at hnone hstate hreturns ⊢
  have hlast : attempts (packPlatform noonPack) packChrono json (packFromSlice noonPack)
      (packInput noonPack) staffed ([] ++ firstTry 5 :: []) = packStore noonPack .empty := by
    rw [List.nil_append, attempts, attempts, hstate]
  have hrepaired := honce.repaired
    (show [firstTry 5, secondTry] = [] ++ firstTry 5 :: ([] ++ secondTry :: []) from rfl)
    (by rw [attempts]; exact hnone) (by rw [attempts, hstate]; exact List.cons_ne_nil _ _)
    (packAttempt_noFaults _ _ _) (by rw [hlast, hreturns]; simp)
  obtain ⟨row, zs, hrows, hok⟩ := hrepaired
  rw [attempts, hstate] at hrows
  obtain rfl : packOperation noonPack = row := List.singleton_inj.1 hrows
  rw [hlast] at hok
  rw [hstate]
  exact ⟨zs, hok⟩

open Sample in
/-- A run pack observed at the end of the year 9999 in a western offset is imported; then the year
of its edge has five digits, and its retry fails. -/
theorem run_pack_retry_refused : ¬ ∀ (P : Platform) (C : Chrono) (J : SerdeJson)
    (fromSlice : Bytes → Except String RunPackAdmissionEnvelope) (input : RunPackInput)
    (s : MnemesStore memory) (as : List ImportAttempt), C.Documented → (∀ v, J.beq v v = true) →
    Importable P C fromSlice input s.db → SoundRun P C J fromSlice input s as →
    ImportedOnce P C J fromSlice input s as := by
  intro h
  have honce := h (packPlatform latePack) packChrono json (packFromSlice latePack)
    (packInput latePack) staffed _ packChrono_documented json_beq (staffed_importable latePack)
    retried_sound
  obtain ⟨⟨ys, hfirst⟩, hstate⟩ := late_first
  obtain ⟨⟨r, zs⟩, hsecond, herror⟩ := (Option.any_eq_true _ _).1 late_second
  unfold packAttempted at hfirst hstate hsecond
  have hlast : attempts (packPlatform latePack) packChrono json (packFromSlice latePack)
      (packInput latePack) staffed ([] ++ firstTry 8 :: []) =
        packStore latePack (packEdges (packEdge latePack "edge-1" yearTenThousand)) := by
    rw [List.nil_append, attempts, attempts, hstate]
  have hstable := honce.stable
    (show [firstTry 8, secondTry] = [] ++ firstTry 8 :: ([] ++ secondTry :: []) from rfl)
    (by rw [attempts]; exact hfirst) (packAttempt_noFaults _ _ _)
    (by rw [hlast, hsecond]; simp)
  obtain ⟨ws, hok⟩ := hstable
  rw [hlast] at hok
  rw [hok] at hsecond
  cases hsecond
  exact absurd herror (by simp [Except.toOption])

end Mnemes
