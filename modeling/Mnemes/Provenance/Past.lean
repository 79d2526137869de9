import Mnemes.Profile.Runs
import Mnemes.Provenance.Lineage

/-!
# The past is stable

A query with a recorded cut-off sees only the rows recorded up to it (`upTo`), the nested query for
superseding edges included. Recording appends rows, so edges that are recorded after the cut-off
change neither the result of a query nor a lineage (`past_stable`); and as the cut-off moves on,
results only grow.
-/

namespace Mnemes

open Relational Rfc3339

variable {C : Chrono} {J : SerdeJson} {P : Platform} {db db' : PooledDb}

/-! ## Recording appends -/

/-- A later state of the graph: rows of the given requests at its end, the operations as before. -/
structure Appends (C : Chrono) (requests : List (ProvenanceEdgeRequest × Minted))
    (db db' : PooledDb) : Prop where
  rows : ∃ new, db'.provenanceEdges.rows = db.provenanceEdges.rows ++ new ∧
    ∀ row ∈ new, ∃ request ∈ requests, ∃ metadata, row = request.1.row C request.2 metadata
  operations : db'.operations = db.operations

section
variable {requests requests' : List (ProvenanceEdgeRequest × Minted)}
  {request : ProvenanceEdgeRequest} {minted : Minted}

/-- Nothing is appended by no request. -/
theorem Appends.refl : Appends C requests db db := ⟨⟨[], by simp⟩, rfl⟩

/-- What two lists of requests append is appended by both together. -/
theorem Appends.trans {db'' : PooledDb} (h : Appends C requests db db')
    (h' : Appends C requests' db' db'') : Appends C (requests ++ requests') db db'' := by
  obtain ⟨⟨new, hnew, hrows⟩, hops⟩ := h
  obtain ⟨⟨new', hnew', hrows'⟩, hops'⟩ := h'
  refine ⟨⟨new ++ new', by rw [hnew', hnew, List.append_assoc], fun row hrow => ?_⟩,
    hops'.trans hops⟩
  rcases List.mem_append.1 hrow with hrow | hrow
  · obtain ⟨request, hrequest, h⟩ := hrows row hrow
    exact ⟨request, List.mem_append_left _ hrequest, h⟩
  · obtain ⟨request, hrequest, h⟩ := hrows' row hrow
    exact ⟨request, List.mem_append_right _ hrequest, h⟩

/-- An insertion appends the row of its request. -/
theorem insertProvenanceEdge_appends {metadata : Option String}
    (h : insertProvenanceEdge db (request.row C minted metadata) = .ok db') :
    Appends C [(request, minted)] db db' := by
  simp only [insertProvenanceEdge, bind_eq_ok, okOr_eq_ok, guard_eq_ok] at h
  obtain ⟨-, edges, hinsert, -, h⟩ := h
  cases h
  refine ⟨⟨_, (Table.insert?_eq_some hinsert).2, fun row hrow => ?_⟩, rfl⟩
  exact ⟨_, List.mem_singleton_self _, metadata, List.mem_singleton.1 hrow⟩

/-- Recording an edge finds it or appends it. -/
theorem recordProvenanceEdgeConn_appends {edge : ProvenanceEdge J}
    (h : recordProvenanceEdgeConn C J db request minted = .ok (edge, db')) :
    Appends C [(request, minted)] db db' := by
  simp only [recordProvenanceEdgeConn, bind_eq_ok, guard_eq_ok] at h
  obtain ⟨-, -, -, -, -, -, -, -, -, -, -, metadata, -, value, -, existing, -, h⟩ := h
  split at h
  · obtain ⟨db₁, hinsert, h⟩ := bind_eq_ok.1 h
    cases h
    exact insertProvenanceEdge_appends hinsert
  · obtain ⟨found, -, h⟩ := bind_eq_ok.1 h
    cases h
    exact .refl

/-- Recording a batch appends rows of its requests. -/
theorem recordAll_appends {edges : List (ProvenanceEdge J)}
    (h : recordAll C J db requests = .ok (edges, db')) : Appends C requests db db' := by
  induction requests generalizing db edges with
  | nil =>
    cases h
    exact .refl
  | cons request requests ih =>
    simp only [recordAll, bind_eq_ok] at h
    obtain ⟨⟨edge, db₁⟩, hrecord, ⟨rest, db₂⟩, hrest, h⟩ := h
    cases h
    exact (recordProvenanceEdgeConn_appends hrecord).trans (ih hrest)

end

/-- The calls that record edges. -/
inductive EdgeCall where
  | recordProvenanceEdge (request : ProvenanceEdgeRequest) (minted : Minted)
  | recordProvenanceEdges (requests : List (ProvenanceEdgeRequest × Minted))
  | supersede (newer prior : MemoryItemRef) (operationId : OperationId)
    (validFrom validTo : Option DateTime) (metadata : Option String) (minted : Minted)
  | contradict (evidence target : MemoryItemRef) (operationId : OperationId)
    (validFrom validTo : Option DateTime) (metadata : Option String) (minted : Minted)

/-- The requests of a call, with what the server adds to each. -/
def EdgeCall.requests : EdgeCall → List (ProvenanceEdgeRequest × Minted)
  | recordProvenanceEdge request minted => [(request, minted)]
  | recordProvenanceEdges requests => requests
  | supersede newer prior operationId validFrom validTo metadata minted =>
    [(supersedeRequest newer prior operationId validFrom validTo metadata, minted)]
  | contradict evidence target operationId validFrom validTo metadata minted =>
    [(contradictRequest evidence target operationId validFrom validTo metadata, minted)]

variable (C J) in
/-- The database after a call. -/
def EdgeCall.next (db : PooledDb) (x : Choice) : EdgeCall → PooledDb
  | recordProvenanceEdge request minted =>
    (Mnemes.recordProvenanceEdge C J request minted).next db x
  | recordProvenanceEdges requests => (Mnemes.recordProvenanceEdges C J requests).next db x
  | supersede newer prior operationId validFrom validTo metadata minted =>
    (Mnemes.supersede C J newer prior operationId validFrom validTo metadata minted).next db x
  | contradict evidence target operationId validFrom validTo metadata minted =>
    (Mnemes.contradict C J evidence target operationId validFrom validTo metadata minted).next db x

variable (C J) in
/-- A sequence of calls, each with the choices of its environment. -/
def edgeRun (db : PooledDb) (calls : List (EdgeCall × Choice)) : PooledDb :=
  calls.foldl (fun db call => call.1.next C J db call.2) db

/-- Recording an edge appends its row at most. -/
theorem recordProvenanceEdge_appends {request : ProvenanceEdgeRequest} {minted : Minted}
    {x : Choice} :
    Appends C [(request, minted)] db ((recordProvenanceEdge C J request minted).next db x) := by
  refine Method.next_of_exec .refl fun edge db' h => ?_
  obtain ⟨-, -, es, h⟩ := Method.exec_eq_ok.1 h
  simp only [recordProvenanceEdge, bind_eq_ok] at h
  obtain ⟨⟨edge, db₁⟩, hrecord, h⟩ := h
  cases h
  exact recordProvenanceEdgeConn_appends hrecord

/-- A call appends rows of its requests at most. -/
theorem EdgeCall.next_appends {call : EdgeCall} {x : Choice} :
    Appends C call.requests db (call.next C J db x) := by
  cases call with
  | recordProvenanceEdge => exact recordProvenanceEdge_appends
  | supersede => exact recordProvenanceEdge_appends
  | contradict => exact recordProvenanceEdge_appends
  | recordProvenanceEdges requests =>
    refine Method.next_of_exec .refl fun edges db' h => ?_
    obtain ⟨-, -, es, h⟩ := Method.exec_eq_ok.1 h
    simp only [Mnemes.recordProvenanceEdges, bind_eq_ok] at h
    obtain ⟨⟨edges, db₁⟩, hrecord, h⟩ := h
    cases h
    exact recordAll_appends hrecord

/-- A run of calls appends rows of its requests. -/
theorem edgeRun_appends (calls : List (EdgeCall × Choice)) :
    Appends C (calls.flatMap (·.1.requests)) db (edgeRun C J db calls) := by
  induction calls generalizing db with
  | nil => exact .refl
  | cons call calls ih => exact EdgeCall.next_appends.trans ih

/-! ## What a cut-off lets through -/

/-- The rows recorded up to a cut-off. -/
def upTo (recorded : String) (rows : List ProvenanceEdgeRow) : List ProvenanceEdgeRow :=
  rows.filter fun row => textLe row.recordedAt recorded

section
variable {rows rows' : List ProvenanceEdgeRow} {recorded recorded' : String} {valid : Option String}
  {row : ProvenanceEdgeRow} {query : ProvenanceQuery} {now now' : DateTime}

/-- A visible row was recorded up to the cut-off. -/
theorem visible_recorded (h : row.visible recorded valid = true) :
    textLe row.recordedAt recorded = true := by
  rw [ProvenanceEdgeRow.visible, Bool.and_eq_true] at h
  exact h.1

/-- Whether a row is superseded is decided by the rows up to the cut-off. -/
theorem supersededIn_upTo :
    supersededIn (upTo recorded rows) recorded valid row =
      supersededIn rows recorded valid row := by
  rw [Bool.eq_iff_iff, supersededIn, supersededIn, List.any_eq_true, List.any_eq_true]
  constructor
  · rintro ⟨other, hother, h⟩
    exact ⟨other, List.mem_of_mem_filter hother, h⟩
  · rintro ⟨other, hother, h⟩
    have hvisible : other.visible recorded valid = true := by
      simp only [Bool.and_eq_true] at h
      exact h.1.1.2
    exact ⟨other, List.mem_filter.2 ⟨hother, visible_recorded hvisible⟩, h⟩

/-- A query sees the rows up to its cut-off only, the nested query included. -/
theorem matchingRows_upTo : query.matchingRows (upTo recorded rows) recorded valid =
    query.matchingRows rows recorded valid := by
  rw [ProvenanceQuery.matchingRows, ProvenanceQuery.matchingRows]
  simp only [supersededIn_upTo]
  rw [upTo, List.filter_filter]
  refine List.filter_congr fun row _ => ?_
  by_cases hvisible : row.visible recorded valid = true
  · rw [visible_recorded hvisible, Bool.and_true]
  · rw [Bool.not_eq_true] at hvisible
    rw [hvisible, Bool.false_and, Bool.false_and, Bool.false_and]

/-- Databases that agree up to the cut-off of a query answer it alike. -/
theorem queryProvenanceEdges_congr (hcut : query.asOf.recordedAtOrBefore = some recorded)
    (h : upTo recorded db'.provenanceEdges.rows = upTo recorded db.provenanceEdges.rows) :
    queryProvenanceEdges C J db' now' query = queryProvenanceEdges C J db now query := by
  unfold queryProvenanceEdges asOfTimeParams
  simp only [hcut, Option.getD_some]
  rw [← matchingRows_upTo, h, matchingRows_upTo]

/-- Databases that agree up to the cut-off have the same edges at a node. -/
theorem discoverEdges_congr {direction : GraphDirection} {asOf : AsOf} {current : MemoryItemRef}
    (hcut : asOf.recordedAtOrBefore = some recorded)
    (h : upTo recorded db'.provenanceEdges.rows = upTo recorded db.provenanceEdges.rows) :
    discoverEdges C J db' now' direction asOf current =
      discoverEdges C J db now direction asOf current := by
  have hquery : ∀ query : ProvenanceQuery, query.asOf = asOf →
      queryProvenanceEdges C J db' now' query = queryProvenanceEdges C J db now query := by
    rintro query rfl
    exact queryProvenanceEdges_congr hcut h
  unfold discoverEdges
  simp only [hquery]

/-- Databases with the same operations have the same visible ones. -/
theorem visibleOperations_congr (h : db'.operations = db.operations) {recorded : DateTime}
    {operationIds : List String} : visibleOperations C P db' recorded operationIds =
      visibleOperations C P db recorded operationIds := by
  induction operationIds with
  | nil => rfl
  | cons operationId operationIds ih =>
    simp only [visibleOperations, h]
    rw [ih]

/-- Databases that agree up to the cut-off of a lineage, and on the operations, give the same one:
the traversals find the same edges, and each has rounds enough. -/
theorem lineage_congr {root : MemoryItemRef} {direction : GraphDirection} {maxDepth : Nat}
    {asOf : AsOf} (hcut : asOf.recordedAtOrBefore = some recorded)
    (h : upTo recorded db'.provenanceEdges.rows = upTo recorded db.provenanceEdges.rows)
    (hops : db'.operations = db.operations) :
    lineage C J P db' now' root direction maxDepth asOf =
      lineage C J P db now root direction maxDepth asOf := by
  have hdiscover : discoverEdges C J db' now' direction asOf =
      discoverEdges C J db now direction asOf := funext fun _ => discoverEdges_congr hcut h
  have htraverse : traverse (discoverEdges C J db now direction asOf) direction maxDepth
        (roundLimit db') (.start J root) =
      traverse (discoverEdges C J db now direction asOf) direction maxDepth
        (roundLimit db) (.start J root) := by
    rw [← lineage_rounds db now (Nat.le_max_left _ (roundLimit db')), ← hdiscover]
    exact (lineage_rounds db' now' (Nat.le_max_right (roundLimit db) _)).symm
  unfold lineage
  simp only [hdiscover, htraverse, asOfTimeParams, hcut, Option.getD_some,
    visibleOperations_congr hops]

/-- So do the provenances of an operation. -/
theorem operationProvenance_congr {operationId : OperationId} {asOf : AsOf}
    (hcut : asOf.recordedAtOrBefore = some recorded)
    (h : upTo recorded db'.provenanceEdges.rows = upTo recorded db.provenanceEdges.rows)
    (hops : db'.operations = db.operations) :
    operationProvenance C J db' now' operationId asOf =
      operationProvenance C J db now operationId asOf := by
  have hquery : queryProvenanceEdges C J db' now'
        { operationId := some operationId, asOf, limit := 10000, includeSuperseded := true } =
      queryProvenanceEdges C J db now
        { operationId := some operationId, asOf, limit := 10000, includeSuperseded := true } :=
    queryProvenanceEdges_congr hcut h
  unfold operationProvenance
  simp only [hquery, hops, asOfTimeParams, hcut, Option.getD_some]

/-! ## Later edges -/

/-- Every row that was added was recorded after an instant, in the canonical form. -/
def RecordedAfter (C : Chrono) (r : DateTime) (db db' : PooledDb) : Prop :=
  ∀ row ∈ db'.provenanceEdges.rows, row ∉ db.provenanceEdges.rows →
    ∃ t : DateTime, t.FourDigit ∧ row.recordedAt = C.toRfc3339 t ∧ r.instant < t.instant

variable {r r' : DateTime}

/-- Canonical texts of `chrono` are ordered like their instants. -/
theorem textLe_toRfc3339 (hC : C.Documented) (hr : r.FourDigit) (hr' : r'.FourDigit) :
    textLe (C.toRfc3339 r) (C.toRfc3339 r') = true ↔ r.instant ≤ r'.instant := by
  rw [hC.format hr, hC.format hr', textLe, String.toList_ofList, String.toList_ofList]
  exact DateTime.textLe_iff hr hr'

/-- Calls whose requests are recorded after an instant add rows recorded after it. -/
theorem recordedAfter_of_requests {calls : List (EdgeCall × Choice)}
    (h : ∀ call ∈ calls, ∀ request ∈ call.1.requests,
      (request.1.recordedAt.getD request.2.now).FourDigit ∧
        r.instant < (request.1.recordedAt.getD request.2.now).instant) :
    RecordedAfter C r db (edgeRun C J db calls) := by
  intro row hrow hnew
  obtain ⟨⟨new, hrows, hof⟩, -⟩ := @edgeRun_appends C J db calls
  rw [hrows, List.mem_append] at hrow
  obtain ⟨request, hrequest, metadata, rfl⟩ := hof row (hrow.resolve_left hnew)
  obtain ⟨call, hcall, hrequest⟩ := List.mem_flatMap.1 hrequest
  obtain ⟨hfour, hafter⟩ := h call hcall request hrequest
  exact ⟨_, hfour, rfl, hafter⟩

/-- Rows recorded after the cut-off do not pass it. -/
theorem upTo_of_recordedAfter (hC : C.Documented) (hr : r.FourDigit) (hgrown :
    db.provenanceEdges.rows <+: db'.provenanceEdges.rows) (h : RecordedAfter C r db db') :
    upTo (C.toRfc3339 r) db'.provenanceEdges.rows =
      upTo (C.toRfc3339 r) db.provenanceEdges.rows := by
  obtain ⟨new, hrows⟩ := hgrown
  have hnone : upTo (C.toRfc3339 r) new = [] := by
    refine List.filter_eq_nil_iff.2 fun row hrow => ?_
    have hold : row ∉ db.provenanceEdges.rows := by
      intro hold
      have hnodup := db'.provenanceEdges.nodup
      rw [← hrows, List.map_append, List.nodup_append] at hnodup
      exact hnodup.2.2 _ (List.mem_map_of_mem hold) _ (List.mem_map_of_mem hrow) rfl
    obtain ⟨t, ht, htext, hafter⟩ := h row (hrows ▸ List.mem_append_right _ hrow) hold
    rw [htext, textLe_toRfc3339 hC ht hr]
    omega
  have hsplit : upTo (C.toRfc3339 r) (db.provenanceEdges.rows ++ new) =
      upTo (C.toRfc3339 r) db.provenanceEdges.rows ++ upTo (C.toRfc3339 r) new :=
    List.filter_append ..
  rw [← hrows, hsplit, hnone, List.append_nil]

/-- A later cut-off lets more rows through. -/
theorem visible_mono (h : textLe recorded recorded' = true)
    (hvisible : row.visible recorded valid = true) : row.visible recorded' valid = true := by
  rw [ProvenanceEdgeRow.visible, Bool.and_eq_true] at hvisible ⊢
  exact ⟨Lists.lexLe_trans hvisible.1 h, hvisible.2⟩

/-- With superseded edges included, an earlier cut-off selects a sublist, where the later one does
not reach the limit. -/
theorem queryProvenanceEdges_mono (h : textLe recorded recorded' = true)
    (hcut : query.asOf.recordedAtOrBefore = some recorded')
    (hincluded : query.includeSuperseded = true) {later : List (ProvenanceEdge J)}
    (hquery : queryProvenanceEdges C J db now query = .ok later)
    (hlimit : later.length < query.rowLimit) :
    ∃ earlier, queryProvenanceEdges C J db now'
        { query with asOf := { query.asOf with recordedAtOrBefore := some recorded } } =
          .ok earlier ∧ earlier.Sublist later := by
  unfold queryProvenanceEdges asOfTimeParams at hquery ⊢
  simp only [hcut, Option.getD_some] at hquery ⊢
  split at hquery
  · cases hquery
  · next hrowLimit =>
    rw [if_neg (by exact hrowLimit)]
    have hlength := (Lists.mapM_eq_ok.1 hquery).length_eq
    rw [List.length_take] at hlength
    have hsub : (ProvenanceQuery.matchingRows { query with
          asOf := { query.asOf with recordedAtOrBefore := some recorded } } db.provenanceEdges.rows
          recorded query.asOf.validAt).Sublist
        (query.matchingRows db.provenanceEdges.rows recorded' query.asOf.validAt) := by
      refine List.monotone_filter_right _ fun row hrow => ?_
      simp only [hincluded, Bool.true_or, Bool.and_true, Bool.and_eq_true] at hrow ⊢
      exact ⟨visible_mono h hrow.1, hrow.2⟩
    rw [List.take_of_length_le (by omega)] at hquery
    refine Lists.mapM_sublist ?_ hquery
    exact (List.take_sublist _ _).trans hsub

/-- The past is stable: calls that add only edges recorded after a cut-off change neither what a
query with this cut-off returns nor a lineage with it; and of two cut-offs the later one returns all
that the earlier one returns, if superseded edges are included and the limit is not reached. -/
theorem past_stable (hC : C.Documented) (hr : r.FourDigit) (db : PooledDb)
    (calls : List (EdgeCall × Choice)) (hlater : RecordedAfter C r db (edgeRun C J db calls)) :
    (∀ (query : ProvenanceQuery) (now now' : DateTime),
      query.asOf.recordedAtOrBefore = some (C.toRfc3339 r) →
      queryProvenanceEdges C J (edgeRun C J db calls) now' query =
        queryProvenanceEdges C J db now query) ∧
    (∀ (P : Platform) (root : MemoryItemRef) (direction : GraphDirection) (maxDepth : Nat)
      (asOf : AsOf) (now now' : DateTime), asOf.recordedAtOrBefore = some (C.toRfc3339 r) →
      lineage C J P (edgeRun C J db calls) now' root direction maxDepth asOf =
        lineage C J P db now root direction maxDepth asOf) ∧
    ∀ (r' : DateTime) (query : ProvenanceQuery) (now now' : DateTime)
      (later : List (ProvenanceEdge J)), r'.FourDigit → r.instant ≤ r'.instant →
      query.asOf.recordedAtOrBefore = some (C.toRfc3339 r') → query.includeSuperseded = true →
      queryProvenanceEdges C J db now query = .ok later → later.length < query.rowLimit →
      ∃ earlier, queryProvenanceEdges C J db now'
          { query with asOf := { query.asOf with recordedAtOrBefore := some (C.toRfc3339 r) } } =
            .ok earlier ∧ earlier.Sublist later := by
  obtain ⟨⟨new, hrows, -⟩, hops⟩ := @edgeRun_appends C J db calls
  have hcut := upTo_of_recordedAfter hC hr ⟨new, hrows.symm⟩ hlater
  refine ⟨fun query now now' hq => queryProvenanceEdges_congr hq hcut,
    fun P root direction maxDepth asOf now now' hq => lineage_congr hq hcut hops, ?_⟩
  intro r' query now now' later hr' hle hq hincluded hquery hlimit
  exact queryProvenanceEdges_mono ((textLe_toRfc3339 hC hr hr').2 hle) hq hincluded hquery hlimit

/-- Such calls do not change the lineage of an item at the cut-off, nor the provenance of an
operation. -/
theorem past_provenance_stable (hC : C.Documented) (hr : r.FourDigit) (db : PooledDb)
    (calls : List (EdgeCall × Choice)) (hlater : RecordedAfter C r db (edgeRun C J db calls))
    {asOf : AsOf} (hcutoff : asOf.recordedAtOrBefore = some (C.toRfc3339 r)) (now now' : DateTime) :
    (∀ (P : Platform) (item : MemoryItemRef),
      asOfItemLineage C J P (edgeRun C J db calls) now' item asOf =
        asOfItemLineage C J P db now item asOf) ∧
    ∀ operationId : OperationId,
      operationProvenance C J (edgeRun C J db calls) now' operationId asOf =
        operationProvenance C J db now operationId asOf := by
  obtain ⟨⟨new, hrows, -⟩, hops⟩ := @edgeRun_appends C J db calls
  have hcut := upTo_of_recordedAfter hC hr ⟨new, hrows.symm⟩ hlater
  exact ⟨fun _ _ => lineage_congr hcutoff hcut hops,
    fun _ => operationProvenance_congr hcutoff hcut hops⟩

end

namespace Sample

def claim : OperationId := ⟨"5b8e7a52-0c1d-4f7e-9a66-1f0e2d3c4b5a"⟩

/-- The device of the registry with one recorded operation. -/
def graph : PooledDb :=
  { registry with
    operations := ⟨[{
      operationId := claim
      idempotencyKey := "claim"
      requestingDeviceId := laptop
      requestingActorId := alice
      recordingDeviceId := laptop
      recordingServerId := laptop
      operationKind := .assert
      targetKind := "fact"
      targetId := "prior"
      contentDigest := "digest"
      observedAt := none
      validTime := none
      recordedAt := "2026-07-19T09:00:00+00:00"
      receiptId := none }], by decide⟩ }

/-- A time of the nineteenth of July 2026, with milliseconds. -/
def julyTime (hour minute second milli : Nat)
    (h : hour < 24 ∧ minute < 60 ∧ second ≤ 60 ∧ milli < 1000) : DateTime where
  date := ⟨2026, 7, 19, by decide, by decide⟩
  time := ⟨hour, minute, second, h.1, h.2.1, h.2.2.1⟩
  nano := milli * 10 ^ 6
  nano_lt := by omega

/-- Half a second past ten, and noon. -/
def pastTen : DateTime := julyTime 10 0 0 500 (by decide)

def noon : DateTime := julyTime 12 0 0 0 (by decide)

/-- Evidence that supports a fact. -/
def supportRequest : ProvenanceEdgeRequest where
  edgeType := .supports
  source := ⟨"fact", "evidence"⟩
  target := ⟨"fact", "prior"⟩
  operationId := some claim
  validFrom := none
  validTo := none
  metadata := none

/-- A call that supports the fact, and one that supersedes it later. -/
def supportCall : EdgeCall :=
  .recordProvenanceEdge supportRequest ⟨⟨"edge-1"⟩, pastTen⟩

def supersedeCall : EdgeCall :=
  .supersede ⟨"fact", "newer"⟩ ⟨"fact", "prior"⟩ claim none none none
    ⟨⟨"edge-2"⟩, noon⟩

/-- The graph with the first edge. -/
def supported : PooledDb := edgeRun chrono json graph [(supportCall, ⟨none, ""⟩)]

/-- What is not superseded at eleven. -/
def atEleven : ProvenanceQuery where
  asOf := ⟨none, some (chrono.toRfc3339 (julyTime 11 0 0 0 (by decide)))⟩

end Sample

open Sample in
/-- The prior fact is superseded at noon; the query as of eleven still returns what supports it. -/
theorem past_stable_sample :
    (edgeRun chrono json supported [(supersedeCall, ⟨none, ""⟩)]).provenanceEdges.rows.length = 2 ∧
    (∃ edge, queryProvenanceEdges chrono json supported (julyTime 11 0 0 0 (by decide)) atEleven =
      .ok [edge]) ∧
    queryProvenanceEdges chrono json (edgeRun chrono json supported [(supersedeCall, ⟨none, ""⟩)])
      (julyTime 13 0 0 0 (by decide)) atEleven =
        queryProvenanceEdges chrono json supported (julyTime 11 0 0 0 (by decide)) atEleven := by
  refine ⟨by decide +kernel, ⟨_, rfl⟩, ?_⟩
  refine (past_stable chrono_documented (r := julyTime 11 0 0 0 (by decide)) (by decide) supported
    [(supersedeCall, ⟨none, ""⟩)] (recordedAfter_of_requests ?_)).1 _ _ _ rfl
  intro call hcall request hrequest
  obtain rfl := List.mem_singleton.1 hcall
  obtain rfl : request = _ := List.mem_singleton.1 hrequest
  decide +kernel

end Mnemes
