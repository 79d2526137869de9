import Mnemes.Provenance.Appends

/-!
# Reading recorded edges back

A request is `Storable` if its times have RFC 3339 texts, the `CHECK`s of the table tell its ends
apart as the code does, and its operation nodes name operations. In a run of storable requests every
row reads back (`Readable`), so an accepted edge is returned, field by field, by every later read
(`storage_round_trip`). The code accepts other requests too; such an edge can make every query and
every lineage that meets it fail.
-/

namespace Mnemes

open Relational Rfc3339

variable {C : Chrono} {J : SerdeJson} {P : Platform} {db db' : PooledDb}
  {request : ProvenanceEdgeRequest} {minted : Minted} {edge : ProvenanceEdge J}
  {row : ProvenanceEdgeRow}

/-- A node that stands for an operation has the identity of one. -/
def OperationNode (P : Platform) (item : MemoryItemRef) : Prop :=
  item.kind = "operation" → ∃ id, OperationId.parse P item.id = .ok id

/-- What the code should ask of a request, beyond its own checks. -/
structure Storable (P : Platform) (request : ProvenanceEdgeRequest) (minted : Minted) : Prop where
  writable : Writable request minted
  keys : request.source.canonicalKey ≠ request.target.canonicalKey
  source : sqlNonempty request.source.kind = true ∧ sqlNonempty request.source.id = true
  target : sqlNonempty request.target.kind = true ∧ sqlNonempty request.target.id = true
  sourceNode : OperationNode P request.source
  targetNode : OperationNode P request.target

/-- The checks that the code makes of a request alone. -/
structure ProvenanceEdgeRequest.Valid (request : ProvenanceEdgeRequest) : Prop where
  source : validateItemRef request.source = .ok ()
  target : validateItemRef request.target = .ok ()
  distinct : request.source ≠ request.target
  bounds : validateBounds request = .ok ()

/-- What is admissible is valid. -/
theorem Admissible.valid {metadata : Option String} {value : Option J.Value}
    (h : Admissible J db request metadata value) : request.Valid :=
  ⟨h.source, h.target, h.distinct, h.bounds⟩

/-- The `CHECK`s accept the row of a storable request that passes the checks of the code. -/
theorem checks_of_storable (hC : C.Documented) (h : Storable P request minted)
    (hvalid : request.Valid) (metadata : Option String) :
    (request.row C minted metadata).checks = true := by
  have htimes : ((request.row C minted metadata).validTo.all fun till =>
      (request.row C minted metadata).validFrom.all fun «from» => textLe «from» till) = true := by
    simp only [ProvenanceEdgeRequest.row, Option.all_map]
    cases hto : request.validTo with
    | none => rfl
    | some till =>
      cases hfrom : request.validFrom with
      | none => rfl
      | some «from» =>
        have hbounds := hvalid.bounds
        simp only [validateBounds, hto, hfrom] at hbounds
        split at hbounds
        · cases hbounds
        · next hle =>
          exact (textLe_toRfc3339 hC (h.writable.validFrom _ hfrom)
            (h.writable.validTo _ hto)).2 (Int.not_lt.1 hle)
  have hkeys : (request.row C minted metadata).source.canonicalKey ≠
      (request.row C minted metadata).target.canonicalKey := h.keys
  have hsource : (sqlNonempty (request.row C minted metadata).source.kind &&
      sqlNonempty (request.row C minted metadata).source.id) = true := by
    rw [Bool.and_eq_true]
    exact h.source
  have htarget : (sqlNonempty (request.row C minted metadata).target.kind &&
      sqlNonempty (request.row C minted metadata).target.id) = true := by
    rw [Bool.and_eq_true]
    exact h.target
  rw [ProvenanceEdgeRow.checks, hsource, htarget, htimes, decide_eq_true hkeys]
  rfl

/-! ## Readable rows -/

/-- Every row reads as an edge whose operation nodes name operations. -/
def Readable (C : Chrono) (J : SerdeJson) (P : Platform) (db : PooledDb) : Prop :=
  ∀ row ∈ db.provenanceEdges.rows, (∃ edge, mapRowToProvenanceEdge C J row = .ok edge) ∧
    OperationNode P row.source ∧ OperationNode P row.target

/-- Recording a storable request keeps the edges readable. -/
theorem recordConn_readable (hC : C.Documented) (hdb : Readable C J P db)
    (hstorable : request.Valid → Storable P request minted)
    (h : recordProvenanceEdgeConn C J db request minted = .ok (edge, db')) :
    Readable C J P db' := by
  obtain ⟨metadata, value, existing, hadmissible, -, ⟨-, -, hinsert⟩ | ⟨rfl, -, -⟩⟩ :=
    recordConn_cases h
  · have hstorable := hstorable hadmissible.valid
    intro row hrow
    rw [insertProvenanceEdge_rows hinsert] at hrow
    rcases List.mem_append.1 hrow with hrow | hrow
    · exact hdb row hrow
    · obtain rfl := List.mem_singleton.1 hrow
      exact ⟨⟨_, (storedAs_of_request hC hadmissible.source hadmissible.target hadmissible.readBack
        hstorable.writable.recorded hstorable.writable.validFrom hstorable.writable.validTo
        hstorable.writable.observed).read⟩, hstorable.sourceNode, hstorable.targetNode⟩
  · exact hdb

/-- So does recording a batch of them. -/
theorem recordAll_readable (hC : C.Documented) {requests : List (ProvenanceEdgeRequest × Minted)}
    {edges : List (ProvenanceEdge J)} (hdb : Readable C J P db)
    (hstorable : ∀ r ∈ requests, r.1.Valid → Storable P r.1 r.2)
    (h : recordAll C J db requests = .ok (edges, db')) : Readable C J P db' := by
  induction requests generalizing db edges with
  | nil =>
    cases h
    exact hdb
  | cons request requests ih =>
    simp only [recordAll, bind_eq_ok] at h
    obtain ⟨⟨edge, db₁⟩, hrecord, ⟨rest, db₂⟩, hrest, h⟩ := h
    cases h
    exact ih (recordConn_readable hC hdb (hstorable _ List.mem_cons_self) hrecord)
      (fun r hr => hstorable r (List.mem_cons_of_mem _ hr)) hrest

/-- The requests of a call that pass the checks of the code are storable. -/
def EdgeCall.Storable (P : Platform) (call : EdgeCall) : Prop :=
  ∀ r ∈ call.requests, r.1.Valid → Mnemes.Storable P r.1 r.2

/-- A call of storable requests keeps the edges readable. -/
theorem EdgeCall.next_readable (hC : C.Documented) {call : EdgeCall} {x : Choice}
    (hcall : call.Storable P) (hdb : Readable C J P db) : Readable C J P (call.next C J db x) := by
  have hsingle : ∀ (request : ProvenanceEdgeRequest) minted,
      (request.Valid → Mnemes.Storable P request minted) →
        Readable C J P ((Mnemes.recordProvenanceEdge C J request minted).next db x) := by
    intro request minted hstorable
    refine Method.next_of_exec hdb fun edge db' h => ?_
    exact recordConn_readable hC hdb hstorable (recordProvenanceEdge_exec.1 h).2
  cases call with
  | recordProvenanceEdge => exact hsingle _ _ (hcall _ (List.mem_singleton_self _))
  | supersede => exact hsingle _ _ (hcall _ (List.mem_singleton_self _))
  | contradict => exact hsingle _ _ (hcall _ (List.mem_singleton_self _))
  | recordProvenanceEdges requests =>
    refine Method.next_of_exec hdb fun edges db' h => ?_
    exact recordAll_readable hC hdb hcall (recordProvenanceEdges_exec.1 h).2

/-- So does a run of such calls. -/
theorem edgeRun_readable (hC : C.Documented) {calls : List (EdgeCall × Choice)}
    (hcalls : ∀ call ∈ calls, call.1.Storable P) (hdb : Readable C J P db) :
    Readable C J P (edgeRun C J db calls) := by
  induction calls generalizing db with
  | nil => exact hdb
  | cons call calls ih =>
    exact ih (fun c hc => hcalls c (List.mem_cons_of_mem _ hc))
      (EdgeCall.next_readable hC (hcalls call List.mem_cons_self) hdb)

/-! ## Reads -/

/-- A row of the database reads as the edge. -/
def Holds (C : Chrono) (J : SerdeJson) (db : PooledDb) (edge : ProvenanceEdge J) : Prop :=
  ∃ row ∈ db.provenanceEdges.rows, mapRowToProvenanceEdge C J row = .ok edge

/-- Of one identity, a database holds one edge. -/
theorem Holds.unique {edge' : ProvenanceEdge J} (h : Holds C J db edge) (h' : Holds C J db edge')
    (hid : edge'.edgeId = edge.edgeId) : edge' = edge := by
  obtain ⟨row, hrow, hread⟩ := h
  obtain ⟨row', hrow', hread'⟩ := h'
  rw [mapRow_edgeId hread, mapRow_edgeId hread'] at hid
  obtain rfl := Table.eq_of_key hrow' hrow hid
  rw [hread] at hread'
  cases hread'
  rfl

/-- An edge that the database holds is what is read under its identity. -/
theorem Holds.get (h : Holds C J db edge) :
    getProvenanceEdge C J db edge.edgeId = .ok (some edge) := by
  obtain ⟨row, hrow, hread⟩ := h
  have hfind : db.provenanceEdges.find? edge.edgeId = some row :=
    Table.find?_eq_some.2 ⟨hrow, (mapRow_edgeId hread).symm⟩
  simp only [getProvenanceEdge, hfind, hread]
  rfl

/-- It is held after any further calls. -/
theorem Holds.later (h : Holds C J db edge) (calls : List (EdgeCall × Choice)) :
    Holds C J (edgeRun C J db calls) edge := by
  obtain ⟨row, hrow, hread⟩ := h
  obtain ⟨new, hrows, -⟩ := (@edgeRun_appends C J db calls).rows
  exact ⟨row, hrows ▸ List.mem_append_left _ hrow, hread⟩

/-- A query returns edges that the database holds. -/
theorem query_holds {now : DateTime} {query : ProvenanceQuery} {found : List (ProvenanceEdge J)}
    (h : queryProvenanceEdges C J db now query = .ok found) : ∀ e ∈ found, Holds C J db e := by
  intro e he
  unfold queryProvenanceEdges at h
  dsimp only at h
  split at h
  · cases h
  · obtain ⟨row, hrow, hread⟩ := Lists.exists_of_mem_mapM h he
    exact ⟨row, List.mem_of_mem_filter (List.mem_of_mem_take hrow), hread⟩

/-- The row of an identity is among those that a query returns. -/
def QueryReturns (C : Chrono) (db : PooledDb) (now : DateTime) (query : ProvenanceQuery)
    (edgeId : ProvenanceEdgeId) : Prop :=
  let (recorded, valid) := asOfTimeParams C query.asOf now
  ∃ row ∈ (query.matchingRows db.provenanceEdges.rows recorded valid).take query.rowLimit,
    row.edgeId = edgeId

/-- Queries of readable rows return, and with the edge where its row is among theirs. -/
theorem query_readable (hdb : Readable C J P db) (now : DateTime) {query : ProvenanceQuery}
    (hlimit : query.rowLimit < 2 ^ 63) :
    ∃ found, queryProvenanceEdges C J db now query = .ok found ∧
      ∀ edge, Holds C J db edge → QueryReturns C db now query edge.edgeId → edge ∈ found := by
  have hrows : ∀ row ∈ (query.matchingRows db.provenanceEdges.rows
      (asOfTimeParams C query.asOf now).1 (asOfTimeParams C query.asOf now).2).take query.rowLimit,
      row ∈ db.provenanceEdges.rows :=
    fun row hrow => List.mem_of_mem_filter (List.mem_of_mem_take hrow)
  obtain ⟨found, hfound⟩ := Lists.exists_mapM_eq_ok fun row hrow => (hdb row (hrows row hrow)).1
  refine ⟨found, ?_, ?_⟩
  · unfold queryProvenanceEdges
    dsimp only
    rw [if_neg (Nat.not_le.2 hlimit), hfound]
  · rintro edge ⟨row, hrow, hread⟩ ⟨row', hrow', hid⟩
    rw [mapRow_edgeId hread] at hid
    obtain rfl := Table.eq_of_key (hrows row' hrow') hrow hid
    exact Lists.mem_of_mapM hfound hrow' hread

/-! ## Lineages -/

/-- The recorded times of the operations read. -/
def OperationsReadable (C : Chrono) (db : PooledDb) : Prop :=
  ∀ operation ∈ db.operations.rows,
    ∃ t, parseRfc3339 C operation.recordedAt "operation recorded_at" = .ok t

/-- The edge is among those that a lineage finds at a node. -/
def DiscoveryReturns (C : Chrono) (db : PooledDb) (now : DateTime) (direction : GraphDirection)
    (asOf : AsOf) (node : MemoryItemRef) (edgeId : ProvenanceEdgeId) : Prop :=
  let outgoing := QueryReturns C db now
    { source := some node, asOf, includeSuperseded := true, limit := 10000 } edgeId
  let incoming := QueryReturns C db now
    { target := some node, asOf, includeSuperseded := true, limit := 10000 } edgeId
  match direction with
  | .outgoing => outgoing
  | .incoming => incoming
  | .both => outgoing ∨ incoming

section
variable {now : DateTime} {direction : GraphDirection} {maxDepth : Nat} {asOf : AsOf}
  {root node : MemoryItemRef}

/-- Discovering edges among readable rows returns edges of the database, the given one if its row is
found. -/
theorem discoverEdges_readable (hdb : Readable C J P db) (now : DateTime)
    (direction : GraphDirection) (asOf : AsOf) (node : MemoryItemRef) :
    ∃ es, discoverEdges C J db now direction asOf node = .ok es ∧ (∀ e ∈ es, Holds C J db e) ∧
      ∀ edge, Holds C J db edge → DiscoveryReturns C db now direction asOf node edge.edgeId →
        edge ∈ es := by
  have hlimit : 10000 < 2 ^ 63 := by decide
  obtain ⟨outgoing, hout, houtgoing⟩ := @query_readable C J P db hdb now
    { source := some node, asOf, includeSuperseded := true, limit := 10000 } hlimit
  obtain ⟨incoming, hinc, hincoming⟩ := @query_readable C J P db hdb now
    { target := some node, asOf, includeSuperseded := true, limit := 10000 } hlimit
  cases direction with
  | outgoing => exact ⟨outgoing, hout, query_holds hout, houtgoing⟩
  | incoming => exact ⟨incoming, hinc, query_holds hinc, hincoming⟩
  | both =>
    refine ⟨outgoing ++ incoming, ?_, ?_, ?_⟩
    · simp only [discoverEdges, hout, hinc]
      rfl
    · intro e he
      rcases List.mem_append.1 he with he | he
      · exact query_holds hout e he
      · exact query_holds hinc e he
    · rintro edge hedge (hreturns | hreturns)
      · exact List.mem_append_left _ (houtgoing edge hedge hreturns)
      · exact List.mem_append_right _ (hincoming edge hedge hreturns)

/-- Operations that are named by UUIDs can be looked up where the stored ones are readable. -/
theorem visibleOperations_readable (hoperations : OperationsReadable C db) (recorded : DateTime)
    {operationIds : List String} (hids : ∀ id ∈ operationIds, ∃ o, OperationId.parse P id = .ok o) :
    ∃ operations, visibleOperations C P db recorded operationIds = .ok operations := by
  induction operationIds with
  | nil => exact ⟨[], rfl⟩
  | cons id ids ih =>
    obtain ⟨operationId, hid⟩ := hids id List.mem_cons_self
    obtain ⟨rest, hrest⟩ := ih fun i hi => hids i (List.mem_cons_of_mem _ hi)
    simp only [visibleOperations, hid, hrest]
    cases hfind : db.operations.find? operationId with
    | none =>
      refine ⟨rest, ?_⟩
      simp [Except.mapError, bind, Except.bind, hfind]
    | some operation =>
      obtain ⟨t, ht⟩ := hoperations operation (Table.find?_eq_some.1 hfind).1
      refine ⟨if t.instant ≤ recorded.instant then operation :: rest else rest, ?_⟩
      simp [Except.mapError, bind, Except.bind, hfind, ht, pure, Except.pure]

/-- The operations that a traversal collects have identities that parse. -/
def Traversal.OperationsNamed (P : Platform) (t : Traversal J) : Prop :=
  ∀ id ∈ t.operationIds, ∃ o, OperationId.parse P id = .ok o

/-- The operations at the ends of a held edge are named by UUIDs. -/
theorem operationNodes_named (hdb : Readable C J P db) (hedge : Holds C J db edge)
    {operationIds : List String} (hids : ∀ id ∈ operationIds, ∃ o, OperationId.parse P id = .ok o) :
    ∀ id ∈ operationNodes edge operationIds, ∃ o, OperationId.parse P id = .ok o := by
  obtain ⟨row, hrow, hread⟩ := hedge
  obtain ⟨-, hsourceNode, htargetNode⟩ := hdb row hrow
  obtain ⟨hsource, htarget, -⟩ := mapRow_eq_ok hread
  rw [← hsource] at hsourceNode
  rw [← htarget] at htargetNode
  have hstep : ∀ {ids : List String} {item : MemoryItemRef}, OperationNode P item →
      (∀ id ∈ ids, ∃ o, OperationId.parse P id = .ok o) →
      ∀ id ∈ (if item.kind = "operation" then ids.insert item.id else ids),
        ∃ o, OperationId.parse P id = .ok o := by
    intro ids item hitem hids id hid
    split at hid
    · next hkind =>
      rcases List.mem_insert_iff.1 hid with rfl | hid
      · exact hitem hkind
      · exact hids id hid
    · exact hids id hid
  exact hstep htargetNode (hstep hsourceNode hids)

/-- A lineage over readable rows returns; its edges are those of the database, and each edge at a
node that it expands is one of them. -/
theorem lineage_readable (hdb : Readable C J P db) (hoperations : OperationsReadable C db)
    (hroot : OperationNode P root)
    (hcut : ∃ t, parseRfc3339 C (asOfTimeParams C asOf now).1 "as_of_recorded" = .ok t) :
    ∃ result, lineage C J P db now root direction maxDepth asOf = .ok result ∧
      (∀ e ∈ result.edges, Holds C J db e) ∧
      ∀ edge, Holds C J db edge → ∀ node,
        Expands (discoverEdges C J db now direction asOf) direction maxDepth node (roundLimit db)
          (.start J root) →
        DiscoveryReturns C db now direction asOf node edge.edgeId → edge ∈ result.edges := by
  obtain ⟨t, ht⟩ := @traverse_returns J direction maxDepth (roundLimit db) (.start J root) _
    fun current => (discoverEdges_readable hdb now direction asOf current).imp fun _ h => h.1
  obtain ⟨hedges, hnamed, hseenIn⟩ : (∀ e ∈ t.edges, Holds C J db e) ∧
      t.OperationsNamed P ∧ t.SeenIn := by
    refine traverse_keeps (I := fun u => (∀ e ∈ u.edges, Holds C J db e) ∧ u.OperationsNamed P ∧
      u.SeenIn) (fun h => h) ?_ ⟨?_, ?_, ?_⟩ ht
    · intro u current es depth hes e he hu
      have hholds : Holds C J db e := by
        obtain ⟨es', hes', hall, -⟩ := discoverEdges_readable hdb now direction asOf current
        rw [hes] at hes'
        cases hes'
        exact hall e he
      refine ⟨?_, ?_, hu.2.2.visit⟩
      all_goals
        rcases @visit_cases J direction maxDepth depth current u e with
          ⟨-, heq⟩ | ⟨-, -, hadded, hids⟩
      · rw [heq]
        exact hu.1
      · rw [hadded]
        intro e' he'
        rcases List.mem_append.1 he' with he' | he'
        · exact hu.1 e' he'
        · exact List.mem_singleton.1 he' ▸ hholds
      · rw [heq]
        exact hu.2.1
      · rw [Traversal.OperationsNamed, hids]
        exact operationNodes_named hdb hholds hu.2.1
    · exact fun _ h => absurd h List.not_mem_nil
    · intro id hid
      simp only [Traversal.start] at hid
      split at hid
      · next hkind =>
        exact List.mem_singleton.1 hid ▸ hroot hkind
      · exact absurd hid List.not_mem_nil
    · exact @rfl _ []
  obtain ⟨recorded, hrecorded⟩ := hcut
  obtain ⟨operations, hvisible⟩ := visibleOperations_readable hoperations recorded hnamed
  unfold lineage
  simp only [ht, hrecorded, hvisible, bind, Except.bind, pure, Except.pure]
  refine ⟨_, rfl, hedges, ?_⟩
  intro edge hedge node hexpands hreturns
  obtain ⟨es, hes, -, hmem⟩ := discoverEdges_readable hdb now direction asOf node
  have hid := hexpands.seen hes ht edge (hmem edge hedge hreturns)
  rw [hseenIn] at hid
  obtain ⟨e, he, heid⟩ := List.mem_map.1 hid
  exact hedge.unique (hedges e he) heid ▸ he

/-! ## Runs -/

/-- A database gives an edge back, field by field: to a lookup, to every query and every lineage
that meets its row. -/
structure ReadsBack (C : Chrono) (J : SerdeJson) (P : Platform) (db : PooledDb)
    (edge : ProvenanceEdge J) : Prop where
  get : getProvenanceEdge C J db edge.edgeId = .ok (some edge)
  query (now : DateTime) (query : ProvenanceQuery) : query.rowLimit < 2 ^ 63 →
    ∃ found, queryProvenanceEdges C J db now query = .ok found ∧
      (∀ e ∈ found, e.edgeId = edge.edgeId → e = edge) ∧
      (QueryReturns C db now query edge.edgeId → edge ∈ found)
  lineage (now : DateTime) (root : MemoryItemRef) (direction : GraphDirection) (maxDepth : Nat)
    (asOf : AsOf) : OperationNode P root →
    (∃ t, parseRfc3339 C (asOfTimeParams C asOf now).1 "as_of_recorded" = .ok t) →
    ∃ result, lineage C J P db now root direction maxDepth asOf = .ok result ∧
      (∀ e ∈ result.edges, e.edgeId = edge.edgeId → e = edge) ∧
      ∀ node, Expands (discoverEdges C J db now direction asOf) direction maxDepth node
          (roundLimit db) (.start J root) →
        DiscoveryReturns C db now direction asOf node edge.edgeId → edge ∈ result.edges

/-- An edge that a readable database holds reads back. -/
theorem Holds.readsBack (hdb : Readable C J P db) (hoperations : OperationsReadable C db)
    (h : Holds C J db edge) : ReadsBack C J P db edge where
  get := h.get
  query now query hlimit := by
    obtain ⟨found, hfound, hreturns⟩ := query_readable hdb now hlimit
    exact ⟨found, hfound, fun e he hid => h.unique (query_holds hfound e he) hid, hreturns edge h⟩
  lineage now root direction maxDepth asOf hroot hcut := by
    obtain ⟨result, hresult, hall, hexpands⟩ := lineage_readable hdb hoperations hroot hcut
    exact ⟨result, hresult, fun e he hid => h.unique (hall e he) hid, hexpands edge h⟩

/-- An edge that was recorded is held. -/
theorem recordConn_holds (hC : C.Documented) (hJ : ∀ v, J.beq v v = true)
    (hstorable : request.Valid → Storable P request minted)
    (h : recordProvenanceEdgeConn C J db request minted = .ok (edge, db')) :
    Holds C J db' edge := by
  obtain ⟨_, _, _, hadmissible, -⟩ := recordConn_cases h
  obtain ⟨-, -, -, -, row, hrow, -, hread⟩ :=
    recordConn_stored hC hJ (hstorable hadmissible.valid).writable h
  exact ⟨row, hrow, hread⟩

/-- A batch that returns is a call of a run. -/
theorem edgeRun_of_recordAll {requests : List (ProvenanceEdgeRequest × Minted)}
    {edges : List (ProvenanceEdge J)} (h : recordAll C J db requests = .ok (edges, db')) :
    edgeRun C J db [(.recordProvenanceEdges requests, ⟨none, ""⟩)] = db' := by
  have hexec := (recordProvenanceEdges_exec (x := ⟨none, ""⟩)).2 ⟨rfl, h⟩
  simp only [edgeRun, List.foldl_cons, List.foldl_nil, EdgeCall.next, Method.next, hexec]

/-- So are all edges of a batch. -/
theorem recordAll_holds (hC : C.Documented) (hJ : ∀ v, J.beq v v = true)
    {requests : List (ProvenanceEdgeRequest × Minted)} {edges : List (ProvenanceEdge J)}
    (hstorable : ∀ r ∈ requests, r.1.Valid → Storable P r.1 r.2)
    (h : recordAll C J db requests = .ok (edges, db')) : ∀ edge ∈ edges, Holds C J db' edge := by
  induction requests generalizing db edges with
  | nil =>
    cases h
    exact fun _ h => absurd h List.not_mem_nil
  | cons request requests ih =>
    simp only [recordAll, bind_eq_ok] at h
    obtain ⟨⟨edge, db₁⟩, hrecord, ⟨rest, db₂⟩, hrest, h⟩ := h
    cases h
    intro e he
    rcases List.mem_cons.1 he with rfl | he
    · have hfirst := recordConn_holds hC hJ (hstorable _ List.mem_cons_self) hrecord
      exact edgeRun_of_recordAll hrest ▸ hfirst.later _
    · exact ih (fun r hr => hstorable r (List.mem_cons_of_mem _ hr)) hrest e he

/-- A request repeats itself. -/
theorem Repeats.refl : Repeats J request request where
  edgeType := rfl
  source := rfl
  target := rfl
  operationId := rfl
  actorId := rfl
  deviceId := rfl
  validFrom := rfl
  validTo := rfl
  observedAt := rfl
  contentDigest := rfl
  supersedesEdgeId := rfl
  metadata := by cases request.metadata <;> trivial

/-- A request that is made again later returns its edge, and changes nothing. -/
theorem recordConn_retried (hC : C.Documented) (hJ : ∀ v, J.beq v v = true)
    (hkeys : KeysDistinct db) (hstorable : request.Valid → Storable P request minted)
    (h : recordProvenanceEdgeConn C J db request minted = .ok (edge, db'))
    (calls : List (EdgeCall × Choice)) (minted' : Minted) :
    recordProvenanceEdgeConn C J (edgeRun C J db' calls) request minted' =
      .ok (edge, edgeRun C J db' calls) := by
  obtain ⟨_, _, _, hadmissible, -⟩ := recordConn_cases h
  exact recordConn_again hC hJ hkeys (hstorable hadmissible.valid).writable h calls minted' .refl

/-- A batch retried later returns the edges of the first time. -/
theorem recordAll_retried (hC : C.Documented) (hJ : ∀ v, J.beq v v = true) (hkeys : KeysDistinct db)
    {requests requests' : List (ProvenanceEdgeRequest × Minted)} {edges : List (ProvenanceEdge J)}
    (hstorable : ∀ r ∈ requests, r.1.Valid → Storable P r.1 r.2)
    (h : recordAll C J db requests = .ok (edges, db')) (calls : List (EdgeCall × Choice))
    (hrequests : requests'.map Prod.fst = requests.map Prod.fst) :
    recordAll C J (edgeRun C J db' calls) requests' = .ok (edges, edgeRun C J db' calls) := by
  induction requests generalizing db edges requests' with
  | nil =>
    obtain rfl := List.map_eq_nil_iff.1 hrequests
    cases h
    rfl
  | cons request requests ih =>
    simp only [recordAll, bind_eq_ok] at h
    obtain ⟨⟨edge, db₁⟩, hrecord, ⟨rest, db₂⟩, hrest, h⟩ := h
    cases h
    obtain ⟨request', requests', rfl⟩ : ∃ r rs, requests' = r :: rs := by
      cases requests' with
      | nil => cases hrequests
      | cons r rs => exact ⟨r, rs, rfl⟩
    rw [List.map_cons, List.map_cons, List.cons.injEq] at hrequests
    have hfirst := recordConn_retried hC hJ hkeys (hstorable _ List.mem_cons_self) hrecord
      ((.recordProvenanceEdges requests, ⟨none, ""⟩) :: calls) request'.2
    have hrun : edgeRun C J db₁ ((.recordProvenanceEdges requests, ⟨none, ""⟩) :: calls) =
        edgeRun C J db₂ calls := by
      rw [← edgeRun_of_recordAll hrest]
      rfl
    rw [hrun, ← hrequests.1] at hfirst
    simp only [recordAll, bind_eq_ok]
    exact ⟨(edge, edgeRun C J db₂ calls), hfirst, (rest, edgeRun C J db₂ calls),
      ih (recordConn_keysDistinct hkeys hrecord)
        (fun r hr => hstorable r (List.mem_cons_of_mem _ hr)) hrest hrequests.2, rfl⟩

/-- In runs of storable requests: the `CHECK`s of the table refuse no request that passes the checks
of the code; and an edge that is accepted, alone or in a batch, reads back whatever is recorded
later, and its request, made again, returns it and changes nothing. -/
theorem storage_round_trip (hC : C.Documented) (hJ : ∀ v, J.beq v v = true) {db : PooledDb}
    (hempty : db.provenanceEdges.rows = []) (hoperations : OperationsReadable C db)
    (before : List (EdgeCall × Choice)) (hbefore : ∀ call ∈ before, call.1.Storable P) :
    (∀ (request : ProvenanceEdgeRequest) (minted : Minted) metadata, request.Valid →
      Storable P request minted → (request.row C minted metadata).checks = true) ∧
    (∀ (request : ProvenanceEdgeRequest) (minted : Minted) x edge s,
      (request.Valid → Storable P request minted) →
      (recordProvenanceEdge C J request minted).exec (edgeRun C J db before) x = .ok (edge, s) →
      ∀ later, (∀ call ∈ later, call.1.Storable P) →
      ReadsBack C J P (edgeRun C J s later) edge ∧
      ∀ minted' x', x'.fault = none →
        (recordProvenanceEdge C J request minted').exec (edgeRun C J s later) x' =
          .ok (edge, edgeRun C J s later)) ∧
    ∀ (requests : List (ProvenanceEdgeRequest × Minted)) x edges s,
      (∀ r ∈ requests, r.1.Valid → Storable P r.1 r.2) →
      (recordProvenanceEdges C J requests).exec (edgeRun C J db before) x = .ok (edges, s) →
      ∀ later, (∀ call ∈ later, call.1.Storable P) →
      (∀ edge ∈ edges, ReadsBack C J P (edgeRun C J s later) edge) ∧
      ∀ requests' x', requests'.map Prod.fst = requests.map Prod.fst → x'.fault = none →
        (recordProvenanceEdges C J requests').exec (edgeRun C J s later) x' =
          .ok (edges, edgeRun C J s later) := by
  have hreadable : Readable C J P (edgeRun C J db before) := by
    refine edgeRun_readable hC hbefore fun row hrow => ?_
    rw [hempty] at hrow
    exact absurd hrow List.not_mem_nil
  have hkeys : KeysDistinct (edgeRun C J db before) :=
    EdgesReachable.keysDistinct ⟨db, before, hempty, rfl⟩
  have hops : ∀ {s requests}, Appends C requests (edgeRun C J db before) s → ∀ later,
      OperationsReadable C (edgeRun C J s later) := by
    intro s requests happends later
    rw [OperationsReadable, (@edgeRun_appends C J s later).operations, happends.operations,
      (@edgeRun_appends C J db before).operations]
    exact hoperations
  refine ⟨fun request minted metadata hvalid hstorable =>
    checks_of_storable hC hstorable hvalid metadata, ?_, ?_⟩
  · intro request minted x edge s hstorable h later hlater
    obtain ⟨-, h⟩ := recordProvenanceEdge_exec.1 h
    have hs := edgeRun_readable hC hlater (recordConn_readable hC hreadable hstorable h)
    refine ⟨((recordConn_holds hC hJ hstorable h).later later).readsBack hs
      (hops (recordProvenanceEdgeConn_appends h) later), fun minted' x' hx' => ?_⟩
    exact recordProvenanceEdge_exec.2
      ⟨hx', recordConn_retried hC hJ hkeys hstorable h later minted'⟩
  · intro requests x edges s hstorable h later hlater
    obtain ⟨-, h⟩ := recordProvenanceEdges_exec.1 h
    have hs := edgeRun_readable hC hlater (recordAll_readable hC hreadable hstorable h)
    refine ⟨fun edge hedge => ((recordAll_holds hC hJ hstorable h edge hedge).later later).readsBack
      hs (hops (recordAll_appends h) later), fun requests' x' hrequests hx' => ?_⟩
    exact recordProvenanceEdges_exec.2
      ⟨hx', recordAll_retried hC hJ hkeys hstorable h later hrequests⟩

end

namespace Sample

/-- The times of the recorded operations are readable. -/
theorem graph_operations : OperationsReadable chrono graph := by
  intro operation hoperation
  obtain rfl := List.mem_singleton.1 hoperation
  obtain ⟨t, ht, -⟩ := ok_of_any (p := fun _ => true) (show ((parseRfc3339 chrono
    "2026-07-19T09:00:00+00:00" "operation recorded_at").toOption.any fun _ => true) = true by
      decide +kernel)
  exact ⟨t, ht⟩

/-- The support is storable at every time of a four-digit year. -/
theorem support_storable {minted : Minted} (hminted : minted.now.FourDigit) :
    Storable digests supportRequest minted where
  writable := ⟨hminted, nofun, nofun, nofun⟩
  keys := by decide +kernel
  source := by decide +kernel
  target := by decide +kernel
  sourceNode h := absurd h (by decide)
  targetNode h := absurd h (by decide)

/-- So is the supersession. -/
theorem supersedeCall_storable : supersedeCall.Storable digests := by
  intro r hr _
  obtain rfl : r = _ := List.mem_singleton.1 hr
  exact ⟨⟨by decide, nofun, nofun, nofun⟩, by decide +kernel, by decide +kernel, by decide +kernel,
    fun h => absurd h (by decide), fun h => absurd h (by decide)⟩

/-- Noon of a day in July of the year ten thousand. -/
def farFuture : DateTime :=
  { noon with date := ⟨10000, noon.date.month, noon.date.day, noon.date.month_mem, by decide⟩ }

/-- The support as of the year ten thousand. -/
def farRequest : ProvenanceEdgeRequest := { supportRequest with validFrom := some farFuture }

end Sample

open Sample in
/-- The support reads back after the fact was superseded. -/
theorem storage_round_trip_sample : ∃ edge s,
    (recordProvenanceEdge chrono json supportRequest
      ⟨⟨"edge-1"⟩, pastTen⟩).exec graph ⟨none, ""⟩ = .ok (edge, s) ∧
    ReadsBack chrono json digests (edgeRun chrono json s [(supersedeCall, ⟨none, ""⟩)]) edge := by
  have h := @storage_round_trip chrono json digests chrono_documented json_beq graph rfl
    graph_operations [] fun _ h => absurd h List.not_mem_nil
  obtain ⟨⟨edge, s⟩, hfirst, -⟩ := ok_of_any (p := fun _ => true)
    (show ((recordProvenanceEdge chrono json supportRequest
      ⟨⟨"edge-1"⟩, pastTen⟩).exec graph ⟨none, ""⟩).toOption.any
        (fun _ => true) = true by decide +kernel)
  refine ⟨edge, s, hfirst, (h.2.1 _ _ _ _ _ (fun _ => support_storable (by decide)) hfirst
    [(supersedeCall, ⟨none, ""⟩)] fun call hcall => ?_).1⟩
  obtain rfl := List.mem_singleton.1 hcall
  exact supersedeCall_storable

open Sample in
/-- A time of the year ten thousand is accepted; then the lookup of the edge, a query and the same
request fail. -/
theorem far_future_unreadable :
    ((recordProvenanceEdge chrono json farRequest
      ⟨⟨"edge-1"⟩, pastTen⟩).exec graph ⟨none, ""⟩).toOption.any (fun r =>
        (getProvenanceEdge chrono json r.2 r.1.edgeId).toOption.isNone &&
        (queryProvenanceEdges chrono json r.2 (julyTime 11 0 0 0 (by decide))
          atEleven).toOption.isNone &&
        ((recordProvenanceEdge chrono json farRequest
          ⟨⟨"edge-2"⟩, noon⟩).exec r.2 ⟨none, ""⟩).toOption.isNone) = true := by
  decide +kernel

end Mnemes
