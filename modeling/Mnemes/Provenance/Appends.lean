import Mnemes.Provenance.Chronology

/-!
# Recording is idempotent and atomic

What an accepted request has passed (`Admissible`), and what it then does (`recordConn_cases`): it
finds the edge of its key, or appends a row. So no two rows have one key, and once an edge is
recorded, every request for its key either repeats it and gets it back, or is refused
(`provenance_appends`).
-/

namespace Mnemes

open Relational Rfc3339

variable {C : Chrono} {J : SerdeJson} {db db' : PooledDb} {request : ProvenanceEdgeRequest}
  {minted : Minted} {edge : ProvenanceEdge J} {row : ProvenanceEdgeRow}

/-! ## Accepted requests -/

/-- The checks of a request pass, with its metadata in normal form and read back. -/
structure Admissible (J : SerdeJson) (db : PooledDb) (request : ProvenanceEdgeRequest)
    (metadata : Option String) (value : Option J.Value) : Prop where
  source : validateItemRef request.source = .ok ()
  target : validateItemRef request.target = .ok ()
  distinct : request.source ≠ request.target
  bounds : validateBounds request = .ok ()
  operation : operationMatches db request = .ok ()
  supersedes : validateSupersedesReference db request = .ok ()
  normalized : normalizeMetadata J request.metadata = .ok metadata
  readBack : normalizedValue J metadata = .ok value

/-- A request that is accepted passes its checks; then its key is new and its row is inserted, or an
edge of its key repeats it. -/
theorem recordConn_cases (h : recordProvenanceEdgeConn C J db request minted = .ok (edge, db')) :
    ∃ metadata value existing, Admissible J db request metadata value ∧
      existingEdges C J db request = .ok existing ∧
      ((existing = [] ∧ edge = request.edge J minted value ∧
          insertProvenanceEdge db (request.row C minted metadata) = .ok db') ∨
        (db' = db ∧ edge ∈ existing ∧ edgeMatchesRequest J edge request value = true)) := by
  simp only [recordProvenanceEdgeConn, bind_eq_ok, guard_eq_ok] at h
  obtain ⟨⟨⟩, hsource, ⟨⟩, htarget, hdistinct, ⟨⟩, hbounds, ⟨⟩, hoperation, ⟨⟩, hsupersedes,
    metadata, hmetadata, value, hvalue, existing, hexisting, h⟩ := h
  refine ⟨metadata, value, existing, ⟨hsource, htarget, hdistinct, hbounds, hoperation, hsupersedes,
    hmetadata, hvalue⟩, hexisting, ?_⟩
  split at h
  · next hempty =>
    obtain ⟨db₁, hinsert, h⟩ := bind_eq_ok.1 h
    cases h
    exact .inl ⟨List.isEmpty_iff.1 hempty, rfl, hinsert⟩
  · obtain ⟨found, hfound, h⟩ := bind_eq_ok.1 h
    cases h
    rw [okOr_eq_ok] at hfound
    exact .inr ⟨rfl, List.mem_of_find?_eq_some hfound, (List.find?_some hfound :)⟩

/-- A request that passes its checks and repeats the only edge of its key gets that edge. -/
theorem recordConn_repeated {metadata : Option String} {value : Option J.Value}
    (h : Admissible J db request metadata value)
    (hexisting : existingEdges C J db request = .ok [edge])
    (hmatch : edgeMatchesRequest J edge request value = true) :
    recordProvenanceEdgeConn C J db request minted = .ok (edge, db) := by
  simp only [recordProvenanceEdgeConn, bind_eq_ok, guard_eq_ok]
  refine ⟨(), h.source, (), h.target, h.distinct, (), h.bounds, (), h.operation, (), h.supersedes,
    metadata, h.normalized, value, h.readBack, [edge], hexisting, ?_⟩
  simp [hmatch, okOr, bind, Except.bind, pure, Except.pure]

/-! ## Keys -/

/-- The columns that identify an event: the operation, the type, and both ends. -/
def ProvenanceEdgeRow.key (row : ProvenanceEdgeRow) :
    Option OperationId × ProvenanceEdgeType × MemoryItemRef × MemoryItemRef :=
  (row.operationId, row.edgeType, row.source, row.target)

def ProvenanceEdgeRequest.key (request : ProvenanceEdgeRequest) :
    Option OperationId × ProvenanceEdgeType × MemoryItemRef × MemoryItemRef :=
  (request.operationId, request.edgeType, request.source, request.target)

/-- No two rows have one key. -/
def KeysDistinct (db : PooledDb) : Prop :=
  (db.provenanceEdges.rows.map ProvenanceEdgeRow.key).Nodup

/-- A request that agrees with its operation names one. -/
theorem operationMatches_isSome (h : operationMatches db request = .ok ()) :
    request.operationId.isSome = true := by
  cases hop : request.operationId with
  | some operationId => rfl
  | none =>
    simp only [operationMatches, hop] at h
    cases h

/-- The rows that `existing_edges` reads are those of the request's key. -/
theorem existingEdges_eq (h : operationMatches db request = .ok ()) :
    existingEdges C J db request =
      (db.provenanceEdges.rows.filter fun row => row.key = request.key).mapM
        (mapRowToProvenanceEdge C J) := by
  have hsome := operationMatches_isSome h
  unfold existingEdges
  congr 1
  refine List.filter_congr fun row _ => ?_
  rw [Bool.eq_iff_iff]
  simp only [Bool.and_eq_true, decide_eq_true_eq, ProvenanceEdgeRow.key, ProvenanceEdgeRequest.key,
    Prod.mk.injEq]
  constructor
  · rintro ⟨⟨⟨⟨-, hop⟩, htype⟩, hsource⟩, htarget⟩
    exact ⟨hop, htype, hsource, htarget⟩
  · rintro ⟨hop, htype, hsource, htarget⟩
    exact ⟨⟨⟨⟨hop ▸ hsome, hop⟩, htype⟩, hsource⟩, htarget⟩

/-- An edge that is inserted comes after all others. -/
theorem insertProvenanceEdge_rows (h : insertProvenanceEdge db row = .ok db') :
    db'.provenanceEdges.rows = db.provenanceEdges.rows ++ [row] := by
  simp only [insertProvenanceEdge, bind_eq_ok, okOr_eq_ok, guard_eq_ok] at h
  obtain ⟨-, edges, hinsert, -, h⟩ := h
  cases h
  exact (Table.insert?_eq_some hinsert).2

/-- Recording keeps the keys distinct. -/
theorem recordConn_keysDistinct (hkeys : KeysDistinct db)
    (h : recordProvenanceEdgeConn C J db request minted = .ok (edge, db')) : KeysDistinct db' := by
  obtain ⟨metadata, value, existing, hadmissible, hexisting, ⟨rfl, -, hinsert⟩ | ⟨rfl, -, -⟩⟩ :=
    recordConn_cases h
  · rw [existingEdges_eq hadmissible.operation] at hexisting
    have hnone := (Lists.mapM_eq_ok.1 hexisting).length_eq
    rw [List.length_nil, List.length_eq_zero_iff, List.filter_eq_nil_iff] at hnone
    rw [KeysDistinct, insertProvenanceEdge_rows hinsert, List.map_append, List.nodup_append]
    refine ⟨hkeys, by simp, fun key hkey key' hkey' heq => ?_⟩
    obtain ⟨row, hrow, rfl⟩ := List.mem_map.1 hkey
    rw [List.map_singleton, List.mem_singleton] at hkey'
    refine hnone row hrow (decide_eq_true ?_)
    rw [heq, hkey']
    rfl
  · exact hkeys

/-- Recording a batch keeps the edges of one key apart. -/
theorem recordAll_keysDistinct {requests : List (ProvenanceEdgeRequest × Minted)}
    {edges : List (ProvenanceEdge J)} (hkeys : KeysDistinct db)
    (h : recordAll C J db requests = .ok (edges, db')) : KeysDistinct db' := by
  induction requests generalizing db edges with
  | nil =>
    cases h
    exact hkeys
  | cons request requests ih =>
    simp only [recordAll, bind_eq_ok] at h
    obtain ⟨⟨edge, db₁⟩, hrecord, ⟨rest, db₂⟩, hrest, h⟩ := h
    cases h
    exact ih (recordConn_keysDistinct hkeys hrecord) hrest

/-- A call that returns has recorded its requests in one section. -/
theorem recordProvenanceEdge_exec {x : Choice} :
    (recordProvenanceEdge C J request minted).exec db x = .ok (edge, db') ↔
      x.fault = none ∧ recordProvenanceEdgeConn C J db request minted = .ok (edge, db') := by
  rw [Method.exec_eq_ok]
  simp only [recordProvenanceEdge, bind_eq_ok, pure, Except.pure, Except.ok.injEq, Prod.mk.injEq,
    true_and]
  constructor
  · rintro ⟨hx, es, ⟨edge₁, db₁⟩, h, rfl, rfl, -⟩
    exact ⟨hx, h⟩
  · rintro ⟨hx, h⟩
    exact ⟨hx, [], ⟨edge, db'⟩, h, rfl, rfl, rfl⟩

/-- A batch is recorded exactly if no access fails and each of its requests is recorded. -/
theorem recordProvenanceEdges_exec {x : Choice} {requests : List (ProvenanceEdgeRequest × Minted)}
    {edges : List (ProvenanceEdge J)} :
    (recordProvenanceEdges C J requests).exec db x = .ok (edges, db') ↔
      x.fault = none ∧ recordAll C J db requests = .ok (edges, db') := by
  rw [Method.exec_eq_ok]
  simp only [recordProvenanceEdges, bind_eq_ok, pure, Except.pure, Except.ok.injEq, Prod.mk.injEq,
    true_and]
  constructor
  · rintro ⟨hx, es, ⟨edges₁, db₁⟩, h, rfl, rfl, -⟩
    exact ⟨hx, h⟩
  · rintro ⟨hx, h⟩
    exact ⟨hx, [], ⟨edges, db'⟩, h, rfl, rfl, rfl⟩

/-- A call keeps the edges of one key apart. -/
theorem EdgeCall.next_keysDistinct {call : EdgeCall} {x : Choice} (hkeys : KeysDistinct db) :
    KeysDistinct (call.next C J db x) := by
  have hsingle : ∀ request minted,
      KeysDistinct ((Mnemes.recordProvenanceEdge C J request minted).next db x) := by
    intro request minted
    refine Method.next_of_exec hkeys fun edge db' h => ?_
    exact recordConn_keysDistinct hkeys (recordProvenanceEdge_exec.1 h).2
  cases call with
  | recordProvenanceEdge => exact hsingle _ _
  | supersede => exact hsingle _ _
  | contradict => exact hsingle _ _
  | recordProvenanceEdges requests =>
    refine Method.next_of_exec hkeys fun edges db' h => ?_
    exact recordAll_keysDistinct hkeys (recordProvenanceEdges_exec.1 h).2

/-- So does a run of calls. -/
theorem edgeRun_keysDistinct (hkeys : KeysDistinct db) (calls : List (EdgeCall × Choice)) :
    KeysDistinct (edgeRun C J db calls) := by
  induction calls generalizing db with
  | nil => exact hkeys
  | cons call calls ih => exact ih (EdgeCall.next_keysDistinct hkeys)

/-! ## Repeated requests -/

/-- Metadata texts that read alike. -/
def SameJson (J : SerdeJson) : Option String → Option String → Prop
  | none, none => True
  | some a, some b => J.fromStr a = J.fromStr b
  | _, _ => False

/-- The second request repeats the first one: all fields but the recorded time are the same, and the
metadata differs at most in how its JSON is written. -/
structure Repeats (J : SerdeJson) (request request' : ProvenanceEdgeRequest) : Prop where
  edgeType : request'.edgeType = request.edgeType
  source : request'.source = request.source
  target : request'.target = request.target
  operationId : request'.operationId = request.operationId
  actorId : request'.actorId = request.actorId
  deviceId : request'.deviceId = request.deviceId
  validFrom : request'.validFrom = request.validFrom
  validTo : request'.validTo = request.validTo
  observedAt : request'.observedAt = request.observedAt
  contentDigest : request'.contentDigest = request.contentDigest
  supersedesEdgeId : request'.supersedesEdgeId = request.supersedesEdgeId
  metadata : SameJson J request.metadata request'.metadata

/-- A stored edge and a request of its key agree on the other fields, the metadata by its value. -/
structure AgreesWith (J : SerdeJson) (edge : ProvenanceEdge J) (request : ProvenanceEdgeRequest) :
    Prop where
  actorId : edge.actorId = request.actorId
  deviceId : edge.deviceId = request.deviceId
  validFrom : edge.validFrom = request.validFrom
  validTo : edge.validTo = request.validTo
  observedAt : edge.observedAt = request.observedAt
  contentDigest : edge.contentDigest = request.contentDigest
  supersedesEdgeId : edge.supersedesEdgeId = request.supersedesEdgeId
  metadata : ∃ text value, normalizeMetadata J request.metadata = .ok text ∧
    normalizedValue J text = .ok value ∧ metadataEq J edge.metadata value = true

/-- The times of a request, with the one it is recorded at, have RFC 3339 texts. -/
structure Writable (request : ProvenanceEdgeRequest) (minted : Minted) : Prop where
  recorded : (request.recordedAt.getD minted.now).FourDigit
  validFrom : ∀ t ∈ request.validFrom, t.FourDigit
  validTo : ∀ t ∈ request.validTo, t.FourDigit
  observed : ∀ t ∈ request.observedAt, t.FourDigit

/-- Texts of the same JSON are normalised alike. -/
theorem normalizeMetadata_congr {raw raw' : Option String} (h : SameJson J raw raw') :
    normalizeMetadata J raw' = normalizeMetadata J raw := by
  cases raw <;> cases raw'
  · rfl
  · cases h
  · cases h
  · next a b =>
    have h : J.fromStr a = J.fromStr b := h
    simp only [normalizeMetadata, h]

/-- An edge matches a request exactly if it matches a repetition of it. -/
theorem edgeMatches_congr {request' : ProvenanceEdgeRequest} {value : Option J.Value}
    (h : Repeats J request request') :
    edgeMatchesRequest J edge request' value = edgeMatchesRequest J edge request value := by
  simp only [edgeMatchesRequest, h.edgeType, h.source, h.target, h.operationId, h.actorId,
    h.deviceId, h.validFrom, h.validTo, h.observedAt, h.contentDigest, h.supersedesEdgeId]

/-- What passed the checks passes them later, and so does its repetition. -/
theorem Admissible.repeated {requests : List (ProvenanceEdgeRequest × Minted)}
    {request' : ProvenanceEdgeRequest} {metadata : Option String} {value : Option J.Value}
    (h : Admissible J db request metadata value) (hlater : Appends C requests db db')
    (hrepeats : Repeats J request request') : Admissible J db' request' metadata value where
  source := hrepeats.source ▸ h.source
  target := hrepeats.target ▸ h.target
  distinct := by
    rw [hrepeats.source, hrepeats.target]
    exact h.distinct
  bounds := by
    rw [← h.bounds, validateBounds, validateBounds, hrepeats.validFrom, hrepeats.validTo]
  operation := by
    rw [← h.operation]
    unfold operationMatches
    rw [hrepeats.operationId, hrepeats.edgeType, hrepeats.actorId, hrepeats.deviceId,
      hlater.operations]
  supersedes := by
    have hbefore := h.supersedes
    unfold validateSupersedesReference at hbefore ⊢
    rw [hrepeats.supersedesEdgeId]
    split
    · rfl
    · next supersedesEdgeId hsome =>
      rw [hsome] at hbefore
      dsimp only at hbefore
      split at hbefore
      · cases hbefore
      · next hfound =>
        rw [Option.isNone_iff_eq_none, ← ne_eq, Option.ne_none_iff_exists'] at hfound
        obtain ⟨row, hrow⟩ := hfound
        rw [Table.find?_eq_some] at hrow
        obtain ⟨new, hrows, -⟩ := hlater.rows
        have hrow' : db'.provenanceEdges.find? supersedesEdgeId = some row :=
          Table.find?_eq_some.2 ⟨hrows ▸ List.mem_append_left _ hrow.1, hrow.2⟩
        rw [if_neg (by simp [hrow'])]
  normalized := (normalizeMetadata_congr hrepeats.metadata).trans h.normalized
  readBack := h.readBack

/-- An accepted request leaves a row of its key that reads as the edge it returned. -/
theorem recordConn_stored (hC : C.Documented) (hJ : ∀ v, J.beq v v = true)
    (hwritable : Writable request minted)
    (h : recordProvenanceEdgeConn C J db request minted = .ok (edge, db')) :
    ∃ metadata value, Admissible J db request metadata value ∧
      edgeMatchesRequest J edge request value = true ∧
      ∃ row ∈ db'.provenanceEdges.rows, row.key = request.key ∧
        mapRowToProvenanceEdge C J row = .ok edge := by
  obtain ⟨metadata, value, existing, hadmissible, hexisting,
      ⟨-, rfl, hinsert⟩ | ⟨rfl, hfound, hmatch⟩⟩ :=
    recordConn_cases h
  · refine ⟨metadata, value, hadmissible, ?_, request.row C minted metadata, ?_, rfl, ?_⟩
    · have hvalue : metadataEq J value value = true := by
        cases value with
        | none => rfl
        | some v => exact hJ v
      simp [edgeMatchesRequest, ProvenanceEdgeRequest.edge, hvalue]
    · rw [insertProvenanceEdge_rows hinsert]
      exact List.mem_append_right _ (List.mem_singleton_self _)
    · exact (storedAs_of_request hC hadmissible.source hadmissible.target hadmissible.readBack
        hwritable.recorded hwritable.validFrom hwritable.validTo hwritable.observed).read
  · rw [existingEdges_eq hadmissible.operation] at hexisting
    obtain ⟨row, hrow, hread⟩ := Lists.exists_of_mem_mapM hexisting hfound
    obtain ⟨hrow, hkey⟩ := List.mem_filter.1 hrow
    exact ⟨metadata, value, hadmissible, hmatch, row, hrow, of_decide_eq_true hkey, hread⟩

/-- Where keys are distinct, the row of a request's key is all that `existing_edges` reads. -/
theorem existingEdges_of_key (hkeys : KeysDistinct db)
    (hoperation : operationMatches db request = .ok ()) (hrow : row ∈ db.provenanceEdges.rows)
    (hkey : row.key = request.key) :
    existingEdges C J db request = (mapRowToProvenanceEdge C J row).map ([·]) := by
  rw [existingEdges_eq hoperation, ← hkey, Lists.filter_key_eq hkeys hrow]
  cases hread : mapRowToProvenanceEdge C J row <;>
    simp [hread, bind, Except.bind, pure, Except.pure, Except.map]

/-- A repeated request gets the edge of the first one, whatever was recorded in between. -/
theorem recordConn_again (hC : C.Documented) (hJ : ∀ v, J.beq v v = true) (hkeys : KeysDistinct db)
    (hwritable : Writable request minted)
    (h : recordProvenanceEdgeConn C J db request minted = .ok (edge, db'))
    (calls : List (EdgeCall × Choice)) {request' : ProvenanceEdgeRequest} (minted' : Minted)
    (hrepeats : Repeats J request request') :
    recordProvenanceEdgeConn C J (edgeRun C J db' calls) request' minted' =
      .ok (edge, edgeRun C J db' calls) := by
  obtain ⟨metadata, value, hadmissible, hmatch, row, hrow, hkey, hread⟩ :=
    recordConn_stored hC hJ hwritable h
  have hrun := @edgeRun_appends C J db' calls
  have hlater := hadmissible.repeated ((recordProvenanceEdgeConn_appends h).trans hrun) hrepeats
  have hkeys' := @edgeRun_keysDistinct C J db' (recordConn_keysDistinct hkeys h) calls
  refine recordConn_repeated hlater ?_ ((edgeMatches_congr hrepeats).trans hmatch)
  obtain ⟨new, hrows, -⟩ := hrun.rows
  have hrow' : row ∈ (edgeRun C J db' calls).provenanceEdges.rows :=
    hrows ▸ List.mem_append_left _ hrow
  have hkey' : row.key = request'.key := by
    rw [hkey, ProvenanceEdgeRequest.key, ProvenanceEdgeRequest.key, hrepeats.operationId,
      hrepeats.edgeType, hrepeats.source, hrepeats.target]
  rw [existingEdges_of_key hkeys' hlater.operation hrow' hkey', hread]
  rfl

/-- A request whose key is taken is accepted only if it agrees with the stored edge. -/
theorem recordConn_taken (hkeys : KeysDistinct db) (hrow : row ∈ db.provenanceEdges.rows)
    (hkey : row.key = request.key)
    (h : recordProvenanceEdgeConn C J db request minted = .ok (edge, db')) :
    mapRowToProvenanceEdge C J row = .ok edge ∧ AgreesWith J edge request := by
  obtain ⟨metadata, value, existing, hadmissible, hexisting, hcase⟩ := recordConn_cases h
  rw [existingEdges_of_key hkeys hadmissible.operation hrow hkey] at hexisting
  cases hread : mapRowToProvenanceEdge C J row with
  | error e =>
    rw [hread] at hexisting
    cases hexisting
  | ok stored =>
    rw [hread] at hexisting
    cases hexisting
    rcases hcase with ⟨hnil, -⟩ | ⟨-, hmem, hmatch⟩
    · cases hnil
    · rw [List.mem_singleton] at hmem
      subst hmem
      simp only [edgeMatchesRequest, Bool.and_eq_true, decide_eq_true_eq] at hmatch
      obtain ⟨⟨⟨⟨⟨⟨⟨⟨⟨⟨⟨-, -⟩, -⟩, -⟩, hactor⟩, hdevice⟩, hfrom⟩, hto⟩, hobserved⟩, hdigest⟩,
        hsupersedes⟩, hmetadata⟩ := hmatch
      exact ⟨rfl, hactor, hdevice, hfrom, hto, hobserved, hdigest, hsupersedes,
        metadata, value, hadmissible.normalized, hadmissible.readBack, hmetadata⟩

/-! ## Runs -/

/-- The states that runs of recording calls reach from an empty table. -/
def EdgesReachable (C : Chrono) (J : SerdeJson) (s : PooledDb) : Prop :=
  ∃ db calls, db.provenanceEdges.rows = [] ∧ edgeRun C J db calls = s

/-- In a reachable database, no two edges have one key. -/
theorem EdgesReachable.keysDistinct {s : PooledDb} (h : EdgesReachable C J s) : KeysDistinct s := by
  obtain ⟨db, calls, hempty, rfl⟩ := h
  refine edgeRun_keysDistinct ?_ calls
  rw [KeysDistinct, hempty]
  exact List.nodup_nil

variable (C J) in
/-- Requests recorded one after another, each in a transaction of its own. -/
def recordSeparately (x : Choice) (db : PooledDb) : List (ProvenanceEdgeRequest × Minted) →
    Except MnemesError (List (ProvenanceEdge J) × PooledDb)
  | [] => .ok ([], db)
  | (request, minted) :: requests => do
    let (edge, db) ← (recordProvenanceEdge C J request minted).exec db x
    let (edges, db) ← recordSeparately x db requests
    return (edge :: edges, db)

/-- A batch that is recorded is recorded request by request as well. -/
theorem recordSeparately_of_recordAll {x : Choice} (hx : x.fault = none)
    {requests : List (ProvenanceEdgeRequest × Minted)} {edges : List (ProvenanceEdge J)}
    (h : recordAll C J db requests = .ok (edges, db')) :
    recordSeparately C J x db requests = .ok (edges, db') := by
  induction requests generalizing db edges with
  | nil => exact h
  | cons request requests ih =>
    simp only [recordAll, bind_eq_ok] at h
    obtain ⟨⟨edge, db₁⟩, hrecord, ⟨rest, db₂⟩, hrest, h⟩ := h
    cases h
    simp only [recordSeparately, bind_eq_ok]
    exact ⟨(edge, db₁), recordProvenanceEdge_exec.2 ⟨hx, hrecord⟩, (rest, db₂), ih hrest, rfl⟩

/-- A method that fails changes nothing. -/
theorem Method.next_of_error {α : Type} {m : Method α} {x : Choice} {e : MnemesError}
    (h : m.exec db x = .error e) : m.next db x = db := by
  rw [Method.next, h]

/-- In every state that recording calls reach: no two rows have one key; a failed call or batch
leaves the state as it is; a batch that returns does what its requests do one by one; a request that
repeats a recorded one, at any later time, returns the edge of the first one and adds nothing; and a
request whose key is taken is refused unless it agrees with the stored edge on every field but the
recorded time. -/
theorem provenance_appends (hC : C.Documented) (hJ : ∀ v, J.beq v v = true) {s : PooledDb}
    (hs : EdgesReachable C J s) :
    KeysDistinct s ∧
    (∀ request minted x e, (recordProvenanceEdge C J request minted).exec s x = .error e →
      (recordProvenanceEdge C J request minted).next s x = s) ∧
    (∀ requests x e, (recordProvenanceEdges C J requests).exec s x = .error e →
      (recordProvenanceEdges C J requests).next s x = s) ∧
    (∀ requests x edges s', (recordProvenanceEdges C J requests).exec s x = .ok (edges, s') →
      recordSeparately C J x s requests = .ok (edges, s')) ∧
    (∀ request minted x edge s',
      (recordProvenanceEdge C J request minted).exec s x = .ok (edge, s') →
      Writable request minted → ∀ calls request' minted' x', Repeats J request request' →
      x'.fault = none → (recordProvenanceEdge C J request' minted').exec (edgeRun C J s' calls) x' =
        .ok (edge, edgeRun C J s' calls)) ∧
    ∀ row ∈ s.provenanceEdges.rows, ∀ request minted x, row.key = request.key →
      (∀ edge, mapRowToProvenanceEdge C J row = .ok edge → ¬ AgreesWith J edge request) →
      ∃ e, (recordProvenanceEdge C J request minted).exec s x = .error e := by
  have hkeys := hs.keysDistinct
  refine ⟨hkeys, fun _ _ _ _ h => Method.next_of_error h, fun _ _ _ h => Method.next_of_error h,
    ?_, ?_, ?_⟩
  · intro requests x edges s' h
    obtain ⟨hx, h⟩ := recordProvenanceEdges_exec.1 h
    exact recordSeparately_of_recordAll hx h
  · intro request minted x edge s' h hwritable calls request' minted' x' hrepeats hx'
    obtain ⟨-, h⟩ := recordProvenanceEdge_exec.1 h
    exact recordProvenanceEdge_exec.2
      ⟨hx', recordConn_again hC hJ hkeys hwritable h calls minted' hrepeats⟩
  · intro row hrow request minted x hkey hdiffers
    cases hexec : (recordProvenanceEdge C J request minted).exec s x with
    | error e => exact ⟨e, rfl⟩
    | ok r =>
      obtain ⟨-, h⟩ := recordProvenanceEdge_exec.1 hexec
      obtain ⟨hread, hagrees⟩ := recordConn_taken hkeys hrow hkey h
      exact absurd hagrees (hdiffers _ hread)

namespace Sample

/-- The comparison of JSON values is reflexive. -/
theorem json_beq (v : json.Value) : json.beq v v = true := @beq_self_eq_true String _ _ v

/-- The graph with a support is reached by recording it. -/
theorem supported_reachable : EdgesReachable chrono json supported := ⟨graph, _, rfl, rfl⟩

/-- A request repeats itself at any time. -/
theorem supportRequest_repeats (recordedAt : Option DateTime) :
    Repeats json supportRequest { supportRequest with recordedAt } :=
  ⟨rfl, rfl, rfl, rfl, rfl, rfl, rfl, rfl, rfl, rfl, rfl, trivial⟩

end Sample

open Sample in
/-- The support recorded again an hour later. -/
theorem provenance_appends_sample : KeysDistinct supported ∧
    ∃ edge s', (recordProvenanceEdge chrono json supportRequest
        ⟨⟨"edge-2"⟩, julyTime 11 0 0 0 (by decide)⟩).exec supported ⟨none, ""⟩ = .ok (edge, s') ∧
      (recordProvenanceEdge chrono json supportRequest
        ⟨⟨"edge-3"⟩, noon⟩).exec s' ⟨none, ""⟩ = .ok (edge, s') := by
  have h := provenance_appends chrono_documented json_beq supported_reachable
  obtain ⟨⟨edge, s'⟩, hfirst, -⟩ := ok_of_any (p := fun _ => true)
    (show ((recordProvenanceEdge chrono json supportRequest
      ⟨⟨"edge-2"⟩, julyTime 11 0 0 0 (by decide)⟩).exec supported ⟨none, ""⟩).toOption.any
        (fun _ => true) = true by decide +kernel)
  refine ⟨h.1, edge, s', hfirst, ?_⟩
  exact h.2.2.2.2.1 _ _ _ _ _ hfirst ⟨by decide, nofun, nofun, nofun⟩ [] _ _ _
    (supportRequest_repeats none) rfl

open Sample in
/-- A request with another recorded time than the stored edge is not refused. -/
theorem recorded_time_ignored :
    supportEdge.recordedAt ≠ julyTime 11 0 0 0 (by decide) ∧
    ((recordProvenanceEdge chrono json
      { supportRequest with recordedAt := some (julyTime 11 0 0 0 (by decide)) }
      ⟨⟨"edge-2"⟩, noon⟩).exec supported ⟨none, ""⟩).toOption.any
        (fun r => r.1.edgeId = supportEdge.edgeId) = true := by
  refine ⟨by decide, by decide +kernel⟩

end Mnemes
