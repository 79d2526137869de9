import Mnemes.Lib.Rfc3339.Read
import Mnemes.Profile.Registry
import Mnemes.Registry

/-!
# Provenance edges

The provenance graph of the control plane (`store.rs`, `types.rs`): recording edges, querying them
with a bitemporal cut-off, and the lineage of an item, a breadth-first traversal over such queries.
The database stores times as the texts that `chrono` formats and compares them as texts.

`chrono` and `serde_json` enter as parameters.
-/

namespace Mnemes

open Relational Rfc3339

/-! ## The crates -/

/-- `chrono`: `DateTime::<Utc>::to_rfc3339`, and `DateTime::parse_from_rfc3339` into UTC with the
text of its error. -/
structure Chrono where
  toRfc3339 : DateTime → String
  parseFromRfc3339 : String → Except String DateTime

/-- What `chrono` documents of the years that RFC 3339 can write. -/
structure Chrono.Documented (C : Chrono) : Prop where
  format {t : DateTime} : t.FourDigit → C.toRfc3339 t = String.ofList t.text
  parse {t : DateTime} : t.FourDigit → C.parseFromRfc3339 (C.toRfc3339 t) = .ok t

/-- `serde_json`: its values, `from_str` and `to_string` with the texts of their errors, and the
equality of values. -/
structure SerdeJson where
  Value : Type
  fromStr : String → Except String Value
  toString : Value → Except String String
  beq : Value → Value → Bool

/-! ## Requests and edges -/

/-- A bitemporal filter. -/
structure AsOf where
  validAt : Option String
  recordedAtOrBefore : Option String
  deriving DecidableEq, Repr

/-- A request to record an edge. -/
structure ProvenanceEdgeRequest where
  edgeType : ProvenanceEdgeType
  source : MemoryItemRef
  target : MemoryItemRef
  operationId : Option OperationId
  actorId : Option ActorId := none
  deviceId : Option DeviceId := none
  validFrom : Option DateTime
  validTo : Option DateTime
  observedAt : Option DateTime := none
  recordedAt : Option DateTime := none
  contentDigest : Option String := none
  metadata : Option String
  supersedesEdgeId : Option ProvenanceEdgeId := none

/-- A persisted edge. -/
structure ProvenanceEdge (J : SerdeJson) where
  edgeId : ProvenanceEdgeId
  edgeType : ProvenanceEdgeType
  source : MemoryItemRef
  target : MemoryItemRef
  operationId : Option OperationId
  actorId : Option ActorId
  deviceId : Option DeviceId
  validFrom : Option DateTime
  validTo : Option DateTime
  observedAt : Option DateTime
  recordedAt : DateTime
  contentDigest : Option String
  metadata : Option J.Value
  supersedesEdgeId : Option ProvenanceEdgeId

/-- A filter over edges. -/
structure ProvenanceQuery where
  source : Option MemoryItemRef := none
  target : Option MemoryItemRef := none
  edgeTypes : List ProvenanceEdgeType := []
  operationId : Option OperationId := none
  asOf : AsOf
  includeSuperseded : Bool := false
  limit : Nat := 0

/-- What the server adds to a recorded edge: a fresh identity and the time of its clock. -/
structure Minted where
  edgeId : ProvenanceEdgeId
  now : DateTime

namespace MemoryItemRef

/-- `MemoryItemRef::new`. -/
def new (kind id : String) : Except MnemesError MemoryItemRef :=
  if (trim kind).isEmpty then .error (.invalidProvenance "memory item kind cannot be empty")
  else if (trim id).isEmpty then .error (.invalidProvenance "memory item id cannot be empty")
  else .ok ⟨kind, id⟩

/-- `MemoryItemRef::parse_key`. -/
def parseKey (value : String) : Except MnemesError MemoryItemRef :=
  let (kind, id) := (splitOnce value ':').getD (value, "")
  if kind.isEmpty || id.isEmpty then
    .error (.invalidProvenance s!"invalid memory item key '{value}'")
  else new kind id

/-- `MemoryItemRef::canonical_key`. -/
def canonicalKey (item : MemoryItemRef) : String := s!"{item.kind}:{item.id}"

end MemoryItemRef

/-- `validate_item_ref`. -/
def validateItemRef (item : MemoryItemRef) : Except MnemesError Unit :=
  if (trim item.kind).isEmpty || (trim item.id).isEmpty then
    .error (.invalidProvenance "memory item references require non-empty kind and id")
  else .ok ()

section
variable (C : Chrono) (J : SerdeJson)

/-! ## Rows -/

/-- `parse_rfc3339`. -/
def parseRfc3339 (value field : String) : Except MnemesError DateTime :=
  (C.parseFromRfc3339 value).mapError fun error =>
    .invalidProvenance s!"invalid {field}: {value} ({error})"

/-- `parse_optional_rfc3339`. -/
def parseOptionalRfc3339 (value : Option String) (field : String) :
    Except MnemesError (Option DateTime) :=
  match value with
  | none => .ok none
  | some value => (parseRfc3339 C value field).map some

/-- `normalize_metadata`. -/
def normalizeMetadata (raw : Option String) : Except MnemesError (Option String) :=
  match raw with
  | none => .ok none
  | some raw => do
    let parsed ← (J.fromStr raw).mapError fun error =>
      .invalidProvenance s!"invalid metadata JSON: {error}"
    let text ← (J.toString parsed).mapError fun error =>
      .invalidProvenance s!"failed to canonicalize metadata JSON: {error}"
    return some text

/-- The value of normalized metadata, read in `record_provenance_edge_conn`. -/
def normalizedValue (canonicalMetadata : Option String) : Except MnemesError (Option J.Value) :=
  match canonicalMetadata with
  | none => .ok none
  | some text => ((J.fromStr text).mapError fun error =>
      .invalidProvenance s!"invalid normalized metadata JSON: {error}").map some

/-- `parse_metadata_for_result`. -/
def parseMetadataForResult (raw : Option String) : Except MnemesError (Option J.Value) :=
  match raw with
  | none => .ok none
  | some raw => ((J.fromStr raw).mapError fun error =>
      .invalidProvenance s!"invalid metadata JSON in stored edge: {error}").map some

/-- `FromSqlConversionFailure` of a provenance error, as `From<rusqlite::Error>` reports it. -/
def conversionFailure : MnemesError → MnemesError
  | .invalidProvenance detail => .database
    s!"Conversion error from type Text at index: 0, invalid provenance request: {detail}"
  | error => error

/-- `map_row_to_provenance_edge`. -/
def mapRowToProvenanceEdge (row : ProvenanceEdgeRow) : Except MnemesError (ProvenanceEdge J) :=
  Except.mapError conversionFailure do
    let source ← MemoryItemRef.new row.source.kind row.source.id
    let target ← MemoryItemRef.new row.target.kind row.target.id
    let validFrom ← parseOptionalRfc3339 C row.validFrom "valid_from"
    let validTo ← parseOptionalRfc3339 C row.validTo "valid_to"
    let observedAt ← parseOptionalRfc3339 C row.observedAt "observed_at"
    let recordedAt ← parseRfc3339 C row.recordedAt "recorded_at"
    let metadata ← parseMetadataForResult J row.metadata
    return {
      edgeId := row.edgeId
      edgeType := row.edgeType
      source
      target
      operationId := row.operationId
      actorId := row.actorId
      deviceId := row.deviceId
      validFrom
      validTo
      observedAt
      recordedAt
      contentDigest := row.contentDigest
      metadata
      supersedesEdgeId := row.supersedesEdgeId }

/-! ## Recording -/

/-- `operation_matches`. -/
def operationMatches (db : PooledDb) (request : ProvenanceEdgeRequest) :
    Except MnemesError Unit := do
  match request.operationId with
  | none => throw (.invalidProvenance "operation_id is required for provenance edge mutation")
  | some operationId =>
    let operation ← okOr (db.operations.find? operationId)
      (.invalidProvenance s!"operation {operationId.text} not found")
    if request.edgeType = .observedBy ∧ operation.operationKind ≠ .observe then
      throw (.invalidProvenance "observed_by requires an observe operation")
    if let some actorId := request.actorId then
      if actorId ≠ operation.requestingActorId then
        throw (.invalidProvenance (s!"actor {actorId.text} does not match requesting actor for " ++
          s!"operation {operationId.text}"))
    if let some deviceId := request.deviceId then
      if ¬ (deviceId = operation.requestingDeviceId ∨ deviceId = operation.recordingDeviceId ∨
          deviceId = operation.recordingServerId) then
        throw (.invalidProvenance
          s!"device {deviceId.text} does not match operation {operationId.text} context")

/-- `validate_supersedes_reference`. -/
def validateSupersedesReference (db : PooledDb) (request : ProvenanceEdgeRequest) :
    Except MnemesError Unit :=
  match request.supersedesEdgeId with
  | none => .ok ()
  | some supersedesEdgeId =>
    if (db.provenanceEdges.find? supersedesEdgeId).isNone then
      .error (.invalidProvenance s!"supersedes_edge_id {supersedesEdgeId.text} does not exist")
    else .ok ()

/-- `existing_edges`: `NULL` equals no operation. -/
def existingEdges (db : PooledDb) (request : ProvenanceEdgeRequest) :
    Except MnemesError (List (ProvenanceEdge J)) :=
  (db.provenanceEdges.rows.filter fun row =>
    row.operationId.isSome && row.operationId = request.operationId &&
      row.edgeType = request.edgeType && row.source = request.source &&
      row.target = request.target).mapM (mapRowToProvenanceEdge C J)

/-- The equality of optional metadata. -/
def metadataEq (a b : Option J.Value) : Bool :=
  match a, b with
  | none, none => true
  | some a, some b => J.beq a b
  | _, _ => false

/-- `edge_matches_request`. -/
def edgeMatchesRequest (edge : ProvenanceEdge J) (request : ProvenanceEdgeRequest)
    (canonicalMetadata : Option J.Value) : Bool :=
  edge.edgeType = request.edgeType && edge.source = request.source &&
    edge.target = request.target && edge.operationId = request.operationId &&
    edge.actorId = request.actorId && edge.deviceId = request.deviceId &&
    edge.validFrom = request.validFrom && edge.validTo = request.validTo &&
    edge.observedAt = request.observedAt && edge.contentDigest = request.contentDigest &&
    edge.supersedesEdgeId = request.supersedesEdgeId &&
    metadataEq J edge.metadata canonicalMetadata

/-- SQLite's `length(text) > 0`: it counts the characters before the first `NUL`. -/
def sqlNonempty (text : String) : Bool := !(text.toList.takeWhile (· ≠ '\x00')).isEmpty

/-- The `CHECK`s of `provenance_edges` that the code has not made before. -/
def ProvenanceEdgeRow.checks (row : ProvenanceEdgeRow) : Bool :=
  (sqlNonempty row.source.kind && sqlNonempty row.source.id) &&
    (sqlNonempty row.target.kind && sqlNonempty row.target.id) &&
    (row.validTo.all fun till => row.validFrom.all fun «from» => textLe «from» till) &&
    row.source.canonicalKey ≠ row.target.canonicalKey

/-- The row of a request. -/
def ProvenanceEdgeRequest.row (request : ProvenanceEdgeRequest) (minted : Minted)
    (canonicalMetadata : Option String) : ProvenanceEdgeRow where
  edgeId := minted.edgeId
  edgeType := request.edgeType
  source := request.source
  target := request.target
  operationId := request.operationId
  actorId := request.actorId
  deviceId := request.deviceId
  validFrom := request.validFrom.map C.toRfc3339
  validTo := request.validTo.map C.toRfc3339
  observedAt := request.observedAt.map C.toRfc3339
  recordedAt := C.toRfc3339 (request.recordedAt.getD minted.now)
  contentDigest := request.contentDigest
  metadata := canonicalMetadata
  supersedesEdgeId := request.supersedesEdgeId

/-- The edge of a request. -/
def ProvenanceEdgeRequest.edge (request : ProvenanceEdgeRequest) (minted : Minted)
    (canonicalMetadata : Option J.Value) : ProvenanceEdge J where
  edgeId := minted.edgeId
  edgeType := request.edgeType
  source := request.source
  target := request.target
  operationId := request.operationId
  actorId := request.actorId
  deviceId := request.deviceId
  validFrom := request.validFrom
  validTo := request.validTo
  observedAt := request.observedAt
  recordedAt := request.recordedAt.getD minted.now
  contentDigest := request.contentDigest
  metadata := canonicalMetadata
  supersedesEdgeId := request.supersedesEdgeId

/-- `INSERT INTO provenance_edges`, with the constraints of the schema. The operation and the
superseded edge have just been read, and no row has the key of the unique index. -/
def insertProvenanceEdge (db : PooledDb) (row : ProvenanceEdgeRow) :
    Except MnemesError PooledDb := do
  if !row.checks then
    throw (.database "CHECK constraint failed: provenance_edges")
  let provenanceEdges ← okOr (db.provenanceEdges.insert? row)
    (.database "UNIQUE constraint failed: provenance_edges.edge_id")
  if (row.actorId.any fun actorId => (db.actors.find? actorId).isNone) ||
      (row.deviceId.any fun deviceId => (db.devices.find? deviceId).isNone) then
    throw (.database "FOREIGN KEY constraint failed")
  return { db with provenanceEdges }

/-- The check of the validity interval in `record_provenance_edge_conn`. -/
def validateBounds (request : ProvenanceEdgeRequest) : Except MnemesError Unit :=
  match request.validFrom, request.validTo with
  | some «from», some till =>
    if till.instant < «from».instant then
      .error (.invalidAsOf "valid_to cannot be earlier than valid_from")
    else .ok ()
  | _, _ => .ok ()

/-- `record_provenance_edge_conn`: an edge that is there already is returned, a new one inserted. -/
def recordProvenanceEdgeConn (db : PooledDb) (request : ProvenanceEdgeRequest) (minted : Minted) :
    Except MnemesError (ProvenanceEdge J × PooledDb) := do
  validateItemRef request.source
  validateItemRef request.target
  if request.source = request.target then
    throw (.invalidProvenance "self-referential provenance edge is forbidden")
  validateBounds request
  operationMatches db request
  validateSupersedesReference db request
  let canonicalMetadata ← normalizeMetadata J request.metadata
  let canonicalMetadataValue ← normalizedValue J canonicalMetadata
  let existing ← existingEdges C J db request
  if existing.isEmpty then
    let db ← insertProvenanceEdge db (request.row C minted canonicalMetadata)
    return (request.edge J minted canonicalMetadataValue, db)
  else
    let edge ← okOr (existing.find? (edgeMatchesRequest J · request canonicalMetadataValue))
      (.idempotencyConflict ("conflicting provenance edge for operation " ++
        (request.operationId.map OperationId.text).getD ""))
    return (edge, db)

/-- The loop of `record_provenance_edges` over its requests. -/
def recordAll (db : PooledDb) : List (ProvenanceEdgeRequest × Minted) →
    Except MnemesError (List (ProvenanceEdge J) × PooledDb)
  | [] => .ok ([], db)
  | (request, minted) :: requests => do
    let (edge, db) ← recordProvenanceEdgeConn C J db request minted
    let (edges, db) ← recordAll db requests
    return (edge :: edges, db)

/-- `record_provenance_edge`: one transaction. -/
def recordProvenanceEdge (request : ProvenanceEdgeRequest) (minted : Minted) :
    Method (ProvenanceEdge J) where
  body db _ := do
    let (edge, db) ← recordProvenanceEdgeConn C J db request minted
    return (edge, db, [])

/-- `record_provenance_edges`: all of them in one transaction. -/
def recordProvenanceEdges (requests : List (ProvenanceEdgeRequest × Minted)) :
    Method (List (ProvenanceEdge J)) where
  body db _ := do
    let (edges, db) ← recordAll C J db requests
    return (edges, db, [])

/-- The request of `supersede`. -/
def supersedeRequest (newer prior : MemoryItemRef) (operationId : OperationId)
    (validFrom validTo : Option DateTime) (metadata : Option String) : ProvenanceEdgeRequest where
  edgeType := .supersedes
  source := newer
  target := prior
  operationId := some operationId
  validFrom := validFrom
  validTo := validTo
  metadata := metadata

/-- `supersede`. -/
def supersede (newer prior : MemoryItemRef) (operationId : OperationId)
    (validFrom validTo : Option DateTime) (metadata : Option String) (minted : Minted) :
    Method (ProvenanceEdge J) :=
  recordProvenanceEdge C J
    (supersedeRequest newer prior operationId validFrom validTo metadata) minted

/-- The request of `contradict`. -/
def contradictRequest (evidence target : MemoryItemRef) (operationId : OperationId)
    (validFrom validTo : Option DateTime) (metadata : Option String) : ProvenanceEdgeRequest where
  edgeType := .contradicts
  source := evidence
  target := target
  operationId := some operationId
  validFrom := validFrom
  validTo := validTo
  metadata := metadata

/-- `contradict`. -/
def contradict (evidence target : MemoryItemRef) (operationId : OperationId)
    (validFrom validTo : Option DateTime) (metadata : Option String) (minted : Minted) :
    Method (ProvenanceEdge J) :=
  recordProvenanceEdge C J
    (contradictRequest evidence target operationId validFrom validTo metadata) minted

/-! ## Queries -/

/-- `get_provenance_edge`. -/
def getProvenanceEdge (db : PooledDb) (edgeId : ProvenanceEdgeId) :
    Except MnemesError (Option (ProvenanceEdge J)) :=
  match db.provenanceEdges.find? edgeId with
  | none => .ok none
  | some row => (mapRowToProvenanceEdge C J row).map some

/-- `as_of_time_params`. -/
def asOfTimeParams (asOf : AsOf) (now : DateTime) : String × Option String :=
  (asOf.recordedAtOrBefore.getD (C.toRfc3339 now), asOf.validAt)

/-- The time conditions of a query, on texts: recorded at or before the first cut-off, and valid at
the second one if there is one. -/
def ProvenanceEdgeRow.visible (row : ProvenanceEdgeRow) (recorded : String)
    (valid : Option String) : Bool :=
  textLe row.recordedAt recorded && valid.all fun valid =>
    (row.validFrom.all fun «from» => textLe «from» valid) &&
      row.validTo.all fun till => !textLe till valid

/-- The other conditions of a query on one edge. -/
def ProvenanceQuery.selects (query : ProvenanceQuery) (source target : MemoryItemRef)
    (operationId : Option OperationId) (edgeType : ProvenanceEdgeType) : Bool :=
  query.source.all (· = source) && query.target.all (· = target) &&
    query.operationId.all (fun id => operationId = some id) &&
    (query.edgeTypes.isEmpty || query.edgeTypes.contains edgeType)

/-- The nested query: another visible `supersedes` edge has the same target. -/
def supersededIn (rows : List ProvenanceEdgeRow) (recorded : String) (valid : Option String)
    (row : ProvenanceEdgeRow) : Bool :=
  rows.any fun other => other.edgeType = .supersedes && other.visible recorded valid &&
    other.target = row.target && other.edgeId ≠ row.edgeId

/-- The rows that satisfy the conditions of a query, in the order of insertion. -/
def ProvenanceQuery.matchingRows (query : ProvenanceQuery) (rows : List ProvenanceEdgeRow)
    (recorded : String) (valid : Option String) : List ProvenanceEdgeRow :=
  rows.filter fun row =>
    row.visible recorded valid &&
      query.selects row.source row.target row.operationId row.edgeType &&
      (query.includeSuperseded || !supersededIn rows recorded valid row)

/-- The limit of a query, 100 by default. -/
def ProvenanceQuery.rowLimit (query : ProvenanceQuery) : Nat :=
  if query.limit = 0 then 100 else query.limit

/-- `query_provenance_edges`. SQLite refuses a limit beyond its integers. -/
def queryProvenanceEdges (db : PooledDb) (now : DateTime) (query : ProvenanceQuery) :
    Except MnemesError (List (ProvenanceEdge J)) :=
  let (recorded, valid) := asOfTimeParams C query.asOf now
  if 2 ^ 63 ≤ query.rowLimit then .error (.database "datatype mismatch")
  else ((query.matchingRows db.provenanceEdges.rows recorded valid).take query.rowLimit).mapM
    (mapRowToProvenanceEdge C J)

end

section
variable {C : Chrono} {J : SerdeJson}

/-- A reference that is accepted has the kind and the identity that were given. -/
theorem MemoryItemRef.new_eq_ok {kind id : String} {item : MemoryItemRef}
    (h : MemoryItemRef.new kind id = .ok item) : item = ⟨kind, id⟩ := by
  unfold MemoryItemRef.new at h
  split at h
  · cases h
  · split at h
    · cases h
    · cases h
      rfl

/-- What reading a row keeps of it. -/
theorem mapRow_eq_ok {row : ProvenanceEdgeRow} {edge : ProvenanceEdge J}
    (h : mapRowToProvenanceEdge C J row = .ok edge) :
    edge.source = row.source ∧ edge.target = row.target ∧ edge.operationId = row.operationId ∧
      edge.edgeType = row.edgeType := by
  simp only [mapRowToProvenanceEdge, mapError_eq_ok, bind_eq_ok] at h
  obtain ⟨source, hsource, target, htarget, _, -, _, -, _, -, _, -, _, -, h⟩ := h
  cases h
  exact ⟨MemoryItemRef.new_eq_ok hsource, MemoryItemRef.new_eq_ok htarget, rfl, rfl⟩

/-- An edge that is read has the identity of its row. -/
theorem mapRow_edgeId {row : ProvenanceEdgeRow} {edge : ProvenanceEdge J}
    (h : mapRowToProvenanceEdge C J row = .ok edge) : edge.edgeId = row.edgeId := by
  simp only [mapRowToProvenanceEdge, mapError_eq_ok, bind_eq_ok] at h
  obtain ⟨_, -, _, -, _, -, _, -, _, -, _, -, _, -, h⟩ := h
  cases h
  rfl

end

namespace Sample

/-- A year outside the four-digit ones, with its sign. -/
def signedYear (year : Int) : List Char :=
  (if year < 0 then '-' else '+') ::
    chars (digits (max 4 (Nat.toDigits 10 year.natAbs).length) year.natAbs)

/-- The documented `chrono` on the texts that it formats itself. -/
def chrono : Chrono where
  toRfc3339 t :=
    if t.FourDigit then String.ofList t.text
    else String.ofList (signedYear t.date.year ++ t.text.drop 4)
  parseFromRfc3339 value :=
    match DateTime.read value.toList with
    | some t => .ok t
    | none => .error "input contains invalid characters"

/-- The times of the sample are written and read as documented. -/
theorem chrono_documented : chrono.Documented where
  format ht := by simp [chrono, ht]
  parse ht := by simp [chrono, ht, DateTime.read_text ht]

/-- Metadata texts as their own values. -/
def json : SerdeJson where
  Value := String
  fromStr := .ok
  toString := .ok
  beq := (· == ·)

end Sample

end Mnemes
