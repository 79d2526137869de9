import Mnemes.Lib.Walks
import Mnemes.Provenance.Storage

/-!
# What a lineage returns

A lineage against the walks over the visible edges (`lineage_returns_reachable`). It drains its
queue whatever the graph; what it returns lies within reach, each edge once. It returns at all if
the rows in reach can be read (`RowsReadable`), and all that is reachable, unless it says that it
was truncated, if nothing cuts it short in silence (`Followable`): a depth of zero, two nodes of one
canonical key, or more edges at a node than a query returns.
-/

namespace Mnemes

open Relational Rfc3339 Graphs

variable {C : Chrono} {J : SerdeJson} {P : Platform} {db db' : PooledDb} {now : DateTime}
  {direction : GraphDirection} {maxDepth depth rounds : Nat} {asOf : AsOf}
  {root current node next : MemoryItemRef} {row : ProvenanceEdgeRow} {edge : ProvenanceEdge J}
  {rows : List ProvenanceEdgeRow}

/-! ## Walks over visible edges -/

variable (C db now asOf) in
/-- The rows that the cut-offs let through. -/
def visibleRows : List ProvenanceEdgeRow :=
  db.provenanceEdges.rows.filter fun row =>
    row.visible (asOfTimeParams C asOf now).1 (asOfTimeParams C asOf now).2

/-- A row leads from a node to another one. -/
def Leads (direction : GraphDirection) (row : ProvenanceEdgeRow) (a b : MemoryItemRef) : Prop :=
  match direction with
  | .outgoing => row.source = a ∧ row.target = b
  | .incoming => row.target = a ∧ row.source = b
  | .both => row.source = a ∧ row.target = b ∨ row.target = a ∧ row.source = b

/-- A row among the given ones leads from a node to another one. -/
def Joined (direction : GraphDirection) (rows : List ProvenanceEdgeRow) (a b : MemoryItemRef) :
    Prop :=
  ∃ row ∈ rows, Leads direction row a b

/-- The row starts at a node fewer than `maxDepth` edges away from the root. -/
def WithinReach (direction : GraphDirection) (rows : List ProvenanceEdgeRow) (root : MemoryItemRef)
    (maxDepth : Nat) (row : ProvenanceEdgeRow) : Prop :=
  ∃ depth < maxDepth, ∃ a b, Walk (Joined direction rows) root depth a ∧ Leads direction row a b

/-- The returned edges are visible edges within reach, each once. -/
structure LineageSound (C : Chrono) (direction : GraphDirection) (rows : List ProvenanceEdgeRow)
    (maxDepth : Nat) (result : LineageResult J) : Prop where
  once : (result.edges.map (·.edgeId)).Nodup
  walks : ∀ edge ∈ result.edges, ∃ row ∈ rows, mapRowToProvenanceEdge C J row = .ok edge ∧
    WithinReach direction rows result.root maxDepth row

/-- A result that is not truncated has every visible edge that is reachable. -/
def LineageComplete (C : Chrono) (direction : GraphDirection) (rows : List ProvenanceEdgeRow)
    (result : LineageResult J) : Prop :=
  result.truncated = false → ∀ row ∈ rows, ∀ depth a b,
    Walk (Joined direction rows) result.root depth a → Leads direction row a b →
      ∃ edge ∈ result.edges, mapRowToProvenanceEdge C J row = .ok edge

/-! ## Conditions -/

/-- The text names an operation by its identity; if there is one, its recorded time reads. -/
def NamesOperation (C : Chrono) (P : Platform) (db : PooledDb) (id : String) : Prop :=
  ∃ operationId, OperationId.parse P id = .ok operationId ∧
    ∀ operation ∈ db.operations.find? operationId,
      ∃ t, parseRfc3339 C operation.recordedAt "operation recorded_at" = .ok t

/-- A node that stands for an operation names one. -/
def OperationEnd (C : Chrono) (P : Platform) (db : PooledDb) (item : MemoryItemRef) : Prop :=
  item.kind = "operation" → NamesOperation C P db item.id

/-- The times of a row read. -/
structure ProvenanceEdgeRow.TimesRead (C : Chrono) (row : ProvenanceEdgeRow) : Prop where
  validFrom : ∃ t, parseOptionalRfc3339 C row.validFrom "valid_from" = .ok t
  validTo : ∃ t, parseOptionalRfc3339 C row.validTo "valid_to" = .ok t
  observedAt : ∃ t, parseOptionalRfc3339 C row.observedAt "observed_at" = .ok t
  recordedAt : ∃ t, parseRfc3339 C row.recordedAt "recorded_at" = .ok t

/-- The root and the ends of the rows within reach that stand for operations name them, and the
times of these rows read. -/
structure RowsReadable (C : Chrono) (P : Platform) (db : PooledDb) (direction : GraphDirection)
    (rows : List ProvenanceEdgeRow) (root : MemoryItemRef) (maxDepth : Nat) : Prop where
  start : OperationEnd C P db root
  times : ∀ row ∈ rows, WithinReach direction rows root maxDepth row → row.TimesRead C
  ends : ∀ row ∈ rows, WithinReach direction rows root maxDepth row →
    OperationEnd C P db row.source ∧ OperationEnd C P db row.target

/-- The limit of the queries of a lineage. -/
def lineageLimit : Nat := 10000

/-- The queries at a node leave out no row. -/
structure Few (direction : GraphDirection) (rows : List ProvenanceEdgeRow) (node : MemoryItemRef) :
    Prop where
  outgoing : direction ≠ .incoming → (rows.filter (·.source = node)).length ≤ lineageLimit
  incoming : direction ≠ .outgoing → (rows.filter (·.target = node)).length ≤ lineageLimit

/-- Nothing cuts the traversal short without its saying so: it looks at the root at least if there
are edges at it, the keys tell apart the nodes that it may meet, and the queries leave out no
row. -/
structure Followable (direction : GraphDirection) (rows : List ProvenanceEdgeRow)
    (root : MemoryItemRef) (maxDepth : Nat) : Prop where
  deep : 0 < maxDepth ∨ ∀ b, ¬ Joined direction rows root b
  keys : ∀ m ≤ maxDepth, ∀ n ≤ maxDepth, ∀ a b, Walk (Joined direction rows) root m a →
    Walk (Joined direction rows) root n b → a.canonicalKey = b.canonicalKey → a = b
  few : ∀ m < maxDepth, ∀ a, Walk (Joined direction rows) root m a → Few direction rows a

/-! ## Recorded rows -/

/-- A row has proper ends, and metadata that reads. -/
structure ProvenanceEdgeRow.Recorded (J : SerdeJson) (row : ProvenanceEdgeRow) : Prop where
  source : MemoryItemRef.new row.source.kind row.source.id = .ok row.source
  target : MemoryItemRef.new row.target.kind row.target.id = .ok row.target
  metadata : ∃ value, parseMetadataForResult J row.metadata = .ok value

/-- What recording one edge keeps, runs keep. -/
theorem edgeRun_keeps {I : PooledDb → Prop}
    (hconn : ∀ {db request minted} {edge : ProvenanceEdge J} {db'}, I db →
      recordProvenanceEdgeConn C J db request minted = .ok (edge, db') → I db')
    (h : I db) (calls : List (EdgeCall × Choice)) : I (edgeRun C J db calls) := by
  have hall : ∀ {requests : List (ProvenanceEdgeRequest × Minted)} {db edges db'}, I db →
      recordAll C J db requests = .ok (edges, db') → I db' := by
    intro requests
    induction requests with
    | nil =>
      intro db edges db' h hrun
      cases hrun
      exact h
    | cons request requests ih =>
      intro db edges db' h hrun
      simp only [recordAll, bind_eq_ok] at hrun
      obtain ⟨⟨edge, db₁⟩, hrecord, ⟨rest, db₂⟩, hrest, hrun⟩ := hrun
      cases hrun
      exact ih (hconn h hrecord) hrest
  induction calls generalizing db with
  | nil => exact h
  | cons call calls ih =>
    refine ih ?_
    obtain ⟨call, x⟩ := call
    have hsingle : ∀ request minted, I ((recordProvenanceEdge C J request minted).next db x) :=
      fun request minted => Method.next_of_exec h fun edge db' hexec =>
        hconn h (recordProvenanceEdge_exec.1 hexec).2
    cases call with
    | recordProvenanceEdge => exact hsingle _ _
    | supersede => exact hsingle _ _
    | contradict => exact hsingle _ _
    | recordProvenanceEdges requests =>
      exact Method.next_of_exec h fun edges db' hexec =>
        hall h (recordProvenanceEdges_exec.1 hexec).2

/-- Metadata that was normalised can be read. -/
theorem parseMetadata_of_normalized {text : Option String} {value : Option J.Value}
    (h : normalizedValue J text = .ok value) : parseMetadataForResult J text = .ok value := by
  cases text with
  | none => exact h
  | some text =>
    simp only [normalizedValue, parseMetadataForResult] at h ⊢
    cases htext : J.fromStr text with
    | error e => simp [htext, Except.mapError, Except.map] at h
    | ok v => simpa [htext, Except.mapError, Except.map] using h

/-- Recorded rows have proper ends and metadata that reads. -/
theorem edgeRun_recorded (hdb : ∀ row ∈ db.provenanceEdges.rows, row.Recorded J)
    (calls : List (EdgeCall × Choice)) :
    ∀ row ∈ (edgeRun C J db calls).provenanceEdges.rows, row.Recorded J := by
  refine edgeRun_keeps (I := fun db => ∀ row ∈ db.provenanceEdges.rows, row.Recorded J) ?_ hdb calls
  intro db request minted edge db' hdb h
  obtain ⟨metadata, value, existing, hadmissible, -, ⟨-, -, hinsert⟩ | ⟨rfl, -, -⟩⟩ :=
    recordConn_cases h
  · intro row hrow
    rw [insertProvenanceEdge_rows hinsert] at hrow
    rcases List.mem_append.1 hrow with hrow | hrow
    · exact hdb row hrow
    · obtain rfl := List.mem_singleton.1 hrow
      exact ⟨MemoryItemRef.new_of_valid hadmissible.source,
        MemoryItemRef.new_of_valid hadmissible.target,
        value, parseMetadata_of_normalized hadmissible.readBack⟩
  · exact hdb

/-- A recorded row whose times read is read. -/
theorem mapRow_recorded (h : row.Recorded J) (htimes : row.TimesRead C) :
    ∃ edge, mapRowToProvenanceEdge C J row = .ok edge := by
  obtain ⟨value, hvalue⟩ := h.metadata
  obtain ⟨«from», hfrom⟩ := htimes.validFrom
  obtain ⟨till, htill⟩ := htimes.validTo
  obtain ⟨observed, hobserved⟩ := htimes.observedAt
  obtain ⟨recorded, hrecorded⟩ := htimes.recordedAt
  simp only [mapRowToProvenanceEdge, h.source, h.target, hfrom, htill, hobserved, hrecorded, hvalue]
  exact ⟨_, rfl⟩

/-! ## Discovery -/

/-- A row leads from a node if it starts or ends there, as the direction has it. -/
theorem joined_iff : (∃ b, Leads direction row node b) ↔
    (direction ≠ .incoming ∧ row.source = node) ∨ (direction ≠ .outgoing ∧ row.target = node) := by
  cases direction <;> simp [Leads, exists_or]

/-- A query of a lineage reads the visible rows that it selects, up to its limit. -/
theorem query_visible {query : ProvenanceQuery} {p : ProvenanceEdgeRow → Bool}
    (hincluded : query.includeSuperseded = true) (hlimit : query.limit = lineageLimit)
    (hp : ∀ row : ProvenanceEdgeRow,
      query.selects row.source row.target row.operationId row.edgeType = p row) :
    queryProvenanceEdges C J db now query =
      (((visibleRows C db now query.asOf).filter p).take lineageLimit).mapM
        (mapRowToProvenanceEdge C J) := by
  have hrows : query.matchingRows db.provenanceEdges.rows (asOfTimeParams C query.asOf now).1
      (asOfTimeParams C query.asOf now).2 = (visibleRows C db now query.asOf).filter p := by
    rw [ProvenanceQuery.matchingRows, visibleRows, List.filter_filter]
    refine List.filter_congr fun row _ => ?_
    simp only [hincluded, hp, Bool.true_or, Bool.and_true]
    exact Bool.and_comm _ _
  have hrowLimit : query.rowLimit = lineageLimit := by
    rw [ProvenanceQuery.rowLimit, hlimit, if_neg (by decide)]
  unfold queryProvenanceEdges
  dsimp only
  rw [hrows, hrowLimit, if_neg (by decide)]

/-- The query for the edges from a node reads the visible rows with this source. -/
theorem query_source : queryProvenanceEdges C J db now
    { source := some node, asOf, includeSuperseded := true, limit := 10000 } =
      (((visibleRows C db now asOf).filter (·.source = node)).take lineageLimit).mapM
        (mapRowToProvenanceEdge C J) :=
  query_visible rfl rfl fun row => by simp [ProvenanceQuery.selects, eq_comm]

/-- The query for the edges to a node reads the visible rows with this target. -/
theorem query_target : queryProvenanceEdges C J db now
    { target := some node, asOf, includeSuperseded := true, limit := 10000 } =
      (((visibleRows C db now asOf).filter (·.target = node)).take lineageLimit).mapM
        (mapRowToProvenanceEdge C J) :=
  query_visible rfl rfl fun row => by simp [ProvenanceQuery.selects, eq_comm]

/-- The reading of some of the given rows: where it returns, what it returned are rows that satisfy
the condition, and all of them if they are within the limit. -/
theorem readRows_spec {p : ProvenanceEdgeRow → Bool} {es : List (ProvenanceEdge J)}
    (h : ((rows.filter p).take lineageLimit).mapM (mapRowToProvenanceEdge C J) = .ok es) :
    (∀ edge ∈ es, ∃ row ∈ rows, p row = true ∧ mapRowToProvenanceEdge C J row = .ok edge) ∧
    ((rows.filter p).length ≤ lineageLimit → ∀ row ∈ rows, p row = true →
      ∃ edge ∈ es, mapRowToProvenanceEdge C J row = .ok edge) := by
  refine ⟨fun edge hedge => ?_, fun hlimit row hrow hp => ?_⟩
  · obtain ⟨row, hrow, hread⟩ := Lists.exists_of_mem_mapM h hedge
    obtain ⟨hrow, hp⟩ := List.mem_filter.1 (List.mem_of_mem_take hrow)
    exact ⟨row, hrow, hp, hread⟩
  · rw [List.take_of_length_le hlimit] at h
    have hmem := List.mem_filter.2 ⟨hrow, hp⟩
    obtain ⟨edge, hread⟩ := Lists.exists_of_mapM h hmem
    exact ⟨edge, Lists.mem_of_mapM h hmem hread, hread⟩

/-- Rows that can be read one by one can be read together. -/
theorem readRows_ok {p : ProvenanceEdgeRow → Bool}
    (h : ∀ row ∈ rows, p row = true → ∃ edge, mapRowToProvenanceEdge C J row = .ok edge) :
    ∃ es, ((rows.filter p).take lineageLimit).mapM (mapRowToProvenanceEdge C J) = .ok es := by
  refine Lists.exists_mapM_eq_ok fun row hrow => ?_
  obtain ⟨hrow, hp⟩ := List.mem_filter.1 (List.mem_of_mem_take hrow)
  exact h row hrow hp

/-- What is discovered at a node are edges of visible rows that lead from it, and all of them if
there are few. -/
theorem discoverEdges_spec {es : List (ProvenanceEdge J)}
    (h : discoverEdges C J db now direction asOf node = .ok es) :
    (∀ edge ∈ es, ∃ row ∈ visibleRows C db now asOf,
      (∃ b, Leads direction row node b) ∧ mapRowToProvenanceEdge C J row = .ok edge) ∧
    (Few direction (visibleRows C db now asOf) node → ∀ row ∈ visibleRows C db now asOf,
      (∃ b, Leads direction row node b) →
        ∃ edge ∈ es, mapRowToProvenanceEdge C J row = .ok edge) := by
  unfold discoverEdges at h
  rw [query_source, query_target] at h
  cases direction with
  | outgoing =>
    obtain ⟨hsound, hall⟩ := readRows_spec h
    refine ⟨fun edge hedge => ?_, fun hfew row hrow hleads => ?_⟩
    · obtain ⟨row, hrow, hsource, hread⟩ := hsound edge hedge
      exact ⟨row, hrow, joined_iff.2 (.inl ⟨by decide, of_decide_eq_true hsource⟩), hread⟩
    · rcases joined_iff.1 hleads with ⟨-, hsource⟩ | ⟨hne, -⟩
      · exact hall (hfew.outgoing (by decide)) row hrow (decide_eq_true hsource)
      · exact absurd rfl hne
  | incoming =>
    obtain ⟨hsound, hall⟩ := readRows_spec h
    refine ⟨fun edge hedge => ?_, fun hfew row hrow hleads => ?_⟩
    · obtain ⟨row, hrow, htarget, hread⟩ := hsound edge hedge
      exact ⟨row, hrow, joined_iff.2 (.inr ⟨by decide, of_decide_eq_true htarget⟩), hread⟩
    · rcases joined_iff.1 hleads with ⟨hne, -⟩ | ⟨-, htarget⟩
      · exact absurd rfl hne
      · exact hall (hfew.incoming (by decide)) row hrow (decide_eq_true htarget)
  | both =>
    simp only [bind_eq_ok] at h
    obtain ⟨outgoing, hout, incoming, hin, h⟩ := h
    cases h
    obtain ⟨hsoundOut, hallOut⟩ := readRows_spec hout
    obtain ⟨hsoundIn, hallIn⟩ := readRows_spec hin
    refine ⟨fun edge hedge => ?_, fun hfew row hrow hleads => ?_⟩
    · rcases List.mem_append.1 hedge with hedge | hedge
      · obtain ⟨row, hrow, hsource, hread⟩ := hsoundOut edge hedge
        exact ⟨row, hrow, joined_iff.2 (.inl ⟨by decide, of_decide_eq_true hsource⟩), hread⟩
      · obtain ⟨row, hrow, htarget, hread⟩ := hsoundIn edge hedge
        exact ⟨row, hrow, joined_iff.2 (.inr ⟨by decide, of_decide_eq_true htarget⟩), hread⟩
    · rcases joined_iff.1 hleads with ⟨-, hsource⟩ | ⟨-, htarget⟩
      · obtain ⟨edge, hedge, hread⟩ :=
          hallOut (hfew.outgoing (by decide)) row hrow (decide_eq_true hsource)
        exact ⟨edge, List.mem_append_left _ hedge, hread⟩
      · obtain ⟨edge, hedge, hread⟩ :=
          hallIn (hfew.incoming (by decide)) row hrow (decide_eq_true htarget)
        exact ⟨edge, List.mem_append_right _ hedge, hread⟩

/-- The edges at a node are discovered where the rows that lead from it are read. -/
theorem discoverEdges_ok (h : ∀ row ∈ visibleRows C db now asOf, (∃ b, Leads direction row node b) →
      ∃ edge, mapRowToProvenanceEdge C J row = .ok edge) :
    ∃ es, discoverEdges C J db now direction asOf node = .ok es := by
  have hout : direction ≠ .incoming → ∃ es, (((visibleRows C db now asOf).filter
      (·.source = node)).take lineageLimit).mapM (mapRowToProvenanceEdge C J) = .ok es :=
    fun hne => readRows_ok fun row hrow hsource =>
      h row hrow (joined_iff.2 (.inl ⟨hne, of_decide_eq_true hsource⟩))
  have hin : direction ≠ .outgoing → ∃ es, (((visibleRows C db now asOf).filter
      (·.target = node)).take lineageLimit).mapM (mapRowToProvenanceEdge C J) = .ok es :=
    fun hne => readRows_ok fun row hrow htarget =>
      h row hrow (joined_iff.2 (.inr ⟨hne, of_decide_eq_true htarget⟩))
  unfold discoverEdges
  rw [query_source, query_target]
  cases direction with
  | outgoing => exact hout (by decide)
  | incoming => exact hin (by decide)
  | both =>
    obtain ⟨outgoing, hout⟩ := hout (by decide)
    obtain ⟨incoming, hin⟩ := hin (by decide)
    simp only [hout, hin]
    exact ⟨_, rfl⟩

/-! ## The traversal -/

section
variable {t t' : Traversal J}
  {discover : MemoryItemRef → Except MnemesError (List (ProvenanceEdge J))}

/-- What leaving out a node that is too deep and expanding another one keep holds at the end. -/
theorem traverse_invariant {I : Traversal J → Prop}
    (hskip : ∀ {t current depth queue}, I t → t.queue = (current, depth) :: queue →
      maxDepth ≤ depth → I { t with queue })
    (hexpand : ∀ {t current depth queue es}, I t → t.queue = (current, depth) :: queue →
      depth < maxDepth → discover current = .ok es →
        I (es.foldl (·.visit direction maxDepth current depth ·) { t with queue }))
    (h : I t) (hrun : traverse discover direction maxDepth rounds t = .ok t') : I t' := by
  induction rounds generalizing t with
  | zero =>
    cases hrun
    exact h
  | succ rounds ih =>
    unfold traverse at hrun
    split at hrun
    · cases hrun
      exact h
    · next current depth queue hqueue =>
      split at hrun
      · next hdeep => exact ih (hskip h hqueue hdeep) hrun
      · next hdeep =>
        obtain ⟨es, hes, hrun⟩ := bind_eq_ok.1 hrun
        exact ih (hexpand h hqueue (Nat.not_le.1 hdeep) hes) hrun

/-- A traversal returns where each discovery that it makes does. -/
theorem traverse_ok {I : Traversal J → Prop}
    (hskip : ∀ {t current depth queue}, I t → t.queue = (current, depth) :: queue →
      maxDepth ≤ depth → I { t with queue })
    (hexpand : ∀ {t current depth queue es}, I t → t.queue = (current, depth) :: queue →
      depth < maxDepth → discover current = .ok es →
        I (es.foldl (·.visit direction maxDepth current depth ·) { t with queue }))
    (hdiscover : ∀ {t current depth queue}, I t → t.queue = (current, depth) :: queue →
      depth < maxDepth → ∃ es, discover current = .ok es)
    (h : I t) : ∃ t', traverse discover direction maxDepth rounds t = .ok t' := by
  induction rounds generalizing t with
  | zero => exact ⟨t, rfl⟩
  | succ rounds ih =>
    unfold traverse
    split
    · exact ⟨t, rfl⟩
    · next current depth queue hqueue =>
      split
      · next hdeep => exact ih (hskip h hqueue hdeep)
      · next hdeep =>
        obtain ⟨es, hes⟩ := hdiscover h hqueue (Nat.not_le.1 hdeep)
        rw [hes]
        exact ih (hexpand h hqueue (Nat.not_le.1 hdeep) hes)

/-- What entering a node does: nothing if its key was visited, else its key is visited, and the node
is queued or the traversal truncated. -/
theorem enter_cases : let t' := t.enter maxDepth depth node
    (node.canonicalKey ∈ t.visitedNodes ∧ t' = t) ∨
    (t'.visitedNodes = t.visitedNodes ++ [node.canonicalKey] ∧ t'.seenEdges = t.seenEdges ∧
      t'.edges = t.edges ∧ t'.operationIds = t.operationIds ∧
      ((depth + 1 < maxDepth ∧ t'.queue = t.queue ++ [(node, depth + 1)] ∧
          t'.truncated = t.truncated) ∨
        (maxDepth ≤ depth + 1 ∧ t'.queue = t.queue ∧ t'.truncated = true))) := by
  unfold Traversal.enter
  split
  · next hvisited => exact .inl ⟨hvisited, rfl⟩
  · dsimp only
    split
    · next hdepth => exact .inr ⟨rfl, rfl, rfl, rfl, .inl ⟨hdepth, rfl, rfl⟩⟩
    · next hdepth => exact .inr ⟨rfl, rfl, rfl, rfl, .inr ⟨Nat.not_lt.1 hdepth, rfl, rfl⟩⟩

/-- A traversal after an edge was collected. -/
def Traversal.collect (t : Traversal J) (edge : ProvenanceEdge J) : Traversal J :=
  { t with
    seenEdges := t.seenEdges ++ [edge.edgeId]
    edges := t.edges ++ [edge]
    operationIds := operationNodes edge t.operationIds }

/-- Visiting an edge that leads on: it was seen, or it is collected and its node entered. -/
theorem visit_of_next (hnext : nextNode direction current edge = some node) :
    (edge.edgeId ∈ t.seenEdges ∧ t.visit direction maxDepth current depth edge = t) ∨
    (edge.edgeId ∉ t.seenEdges ∧ t.visit direction maxDepth current depth edge =
      (t.collect edge).enter maxDepth depth node) := by
  unfold Traversal.visit
  split
  · next hseen => exact .inl ⟨hseen, rfl⟩
  · next hseen =>
    refine .inr ⟨hseen, ?_⟩
    simp only [hnext]
    rfl

/-- An edge of a row that leads from a node leads on from it, and joins the two. -/
theorem nextNode_of_leads (hleads : ∃ b, Leads direction row node b)
    (hread : mapRowToProvenanceEdge C J row = .ok edge) :
    ∃ b, nextNode direction node edge = some b ∧ Leads direction row node b ∧
      ((edge.source = node ∧ edge.target = b) ∨ (edge.source = b ∧ edge.target = node)) := by
  obtain ⟨hsource, htarget, -⟩ := mapRow_eq_ok hread
  obtain ⟨b, hleads⟩ := hleads
  cases direction with
  | outgoing =>
    obtain ⟨rfl, rfl⟩ := hleads
    exact ⟨edge.target, by rw [nextNode, if_pos hsource], ⟨rfl, htarget.symm⟩,
      .inl ⟨hsource, rfl⟩⟩
  | incoming =>
    obtain ⟨rfl, rfl⟩ := hleads
    exact ⟨edge.source, by rw [nextNode, if_pos htarget], ⟨rfl, hsource.symm⟩,
      .inr ⟨rfl, htarget⟩⟩
  | both =>
    by_cases hfrom : edge.source = node
    · exact ⟨edge.target, by rw [nextNode, if_pos hfrom],
        .inl ⟨hsource ▸ hfrom, htarget.symm⟩, .inl ⟨hfrom, rfl⟩⟩
    · have hto : edge.target = node := by
        rcases hleads with ⟨hs, -⟩ | ⟨ht, -⟩
        · exact absurd (hsource.trans hs) hfrom
        · exact htarget.trans ht
      exact ⟨edge.source, by rw [nextNode, if_neg hfrom, if_pos hto],
        .inr ⟨htarget ▸ hto, hsource.symm⟩, .inr ⟨rfl, hto⟩⟩

/-- The traversal after a new edge was collected and the node that it leads to entered. -/
structure Traversal.Entered (t : Traversal J) (maxDepth depth : Nat) (edge : ProvenanceEdge J)
    (node : MemoryItemRef) (t' : Traversal J) : Prop where
  seenEdges : t'.seenEdges = t.seenEdges ++ [edge.edgeId]
  edges : t'.edges = t.edges ++ [edge]
  operationIds : t'.operationIds = operationNodes edge t.operationIds
  visited (key : String) :
    key ∈ t'.visitedNodes ↔ key ∈ t.visitedNodes ∨ key = node.canonicalKey
  queue : t.queue ⊆ t'.queue
  queued : ∀ entry ∈ t'.queue, entry ∈ t.queue ∨ entry = (node, depth + 1)
  truncated : t'.truncated = false → t.truncated = false ∧
    (node.canonicalKey ∈ t.visitedNodes ∨ depth + 1 < maxDepth ∧ (node, depth + 1) ∈ t'.queue)

/-- Visiting a new edge enters its next node. -/
theorem visit_entered (hnext : nextNode direction current edge = some node)
    (hnew : edge.edgeId ∉ t.seenEdges) :
    t.Entered maxDepth depth edge node (t.visit direction maxDepth current depth edge) := by
  rcases @visit_of_next J direction maxDepth depth current node edge t hnext with
    ⟨hseen, -⟩ | ⟨-, heq⟩
  · exact absurd hseen hnew
  · rw [heq]
    rcases @enter_cases J maxDepth depth node (t.collect edge) with
      ⟨hvisited, heq⟩ | ⟨hvisited, hseen, hedges, hids, hcases⟩
    · rw [heq]
      refine ⟨rfl, rfl, rfl, fun key => ⟨.inl, ?_⟩, List.Subset.refl _, fun _ => .inl,
        fun h => ⟨h, .inl hvisited⟩⟩
      rintro (h | rfl)
      · exact h
      · exact hvisited
    · refine ⟨hseen, hedges, hids, fun key => ?_, ?_, ?_, ?_⟩
      · rw [hvisited, List.mem_append, List.mem_singleton]
        rfl
      all_goals rcases hcases with ⟨hdepth, hqueue, htruncated⟩ | ⟨-, hqueue, htruncated⟩
      · exact hqueue ▸ List.subset_append_left _ _
      · exact hqueue ▸ List.Subset.refl _
      · intro entry hentry
        rw [hqueue] at hentry
        exact (List.mem_append.1 hentry).imp_right List.mem_singleton.1
      · intro entry hentry
        rw [hqueue] at hentry
        exact .inl hentry
      · intro h
        refine ⟨htruncated ▸ h, .inr ⟨hdepth, ?_⟩⟩
        rw [hqueue]
        exact List.mem_append_right _ (List.mem_singleton_self _)
      · intro h
        rw [htruncated] at h
        cases h

/-- A node that stands for an operation, by its identity. -/
def Mentions (item : MemoryItemRef) (id : String) : Prop := item.kind = "operation" ∧ item.id = id

/-- An operation that is named was named before, or is an end of the edge. -/
theorem operationNodes_mentions {ids : List String} {id : String}
    (h : id ∈ operationNodes edge ids) :
    id ∈ ids ∨ Mentions edge.source id ∨ Mentions edge.target id := by
  have hinsert : ∀ {ids : List String} {item : MemoryItemRef},
      id ∈ (if item.kind = "operation" then ids.insert item.id else ids) →
        id ∈ ids ∨ Mentions item id := by
    intro ids item h
    split at h
    · next hkind =>
      rcases List.mem_insert_iff.1 h with rfl | h
      · exact .inr ⟨hkind, rfl⟩
      · exact .inl h
    · exact .inl h
  rcases hinsert h with h | h
  · exact (hinsert h).imp_right .inl
  · exact .inr (.inr h)

/-- The invariant of the traversal, where the pending nodes are being expanded. What is kept of a
visited node: it is pending or queued, or the rows that lead from it are seen. -/
structure Traversal.Follows (C : Chrono) (direction : GraphDirection)
    (rows : List ProvenanceEdgeRow) (root : MemoryItemRef) (maxDepth : Nat)
    (pending : List (MemoryItemRef × Nat)) (t : Traversal J) : Prop where
  once : t.seenEdges.Nodup
  seenIn : t.SeenIn
  edges : ∀ edge ∈ t.edges, ∃ row ∈ rows, mapRowToProvenanceEdge C J row = .ok edge ∧
    WithinReach direction rows root maxDepth row
  ends : ∀ edge ∈ t.edges,
    edge.source.canonicalKey ∈ t.visitedNodes ∧ edge.target.canonicalKey ∈ t.visitedNodes
  queued : ∀ entry ∈ pending ++ t.queue,
    Walk (Joined direction rows) root entry.2 entry.1 ∧ entry.1.canonicalKey ∈ t.visitedNodes
  operations : ∀ id ∈ t.operationIds, Mentions root id ∨
    ∃ edge ∈ t.edges, Mentions edge.source id ∨ Mentions edge.target id
  start : root.canonicalKey ∈ t.visitedNodes
  kept : 0 < maxDepth → t.truncated = false → ∀ key ∈ t.visitedNodes, ∃ node depth,
    node.canonicalKey = key ∧ Walk (Joined direction rows) root depth node ∧ depth < maxDepth ∧
      ((node, depth) ∈ pending ++ t.queue ∨ (Few direction rows node → ∀ row ∈ rows,
        (∃ b, Leads direction row node b) → row.edgeId ∈ t.seenEdges))

/-- At its start, a traversal has followed nothing. -/
theorem Traversal.start_follows :
    (Traversal.start J root).Follows C direction rows root maxDepth [] where
  once := List.nodup_nil
  seenIn := rfl
  edges _ h := absurd h List.not_mem_nil
  ends _ h := absurd h List.not_mem_nil
  queued entry h := by
    obtain rfl := List.mem_singleton.1 h
    exact ⟨.start, List.mem_singleton_self _⟩
  operations id h := by
    simp only [Traversal.start] at h
    split at h
    · next hkind => exact .inl ⟨hkind, (List.mem_singleton.1 h).symm⟩
    · exact absurd h List.not_mem_nil
  start := List.mem_singleton_self _
  kept hdepth _ key hkey := by
    obtain rfl := List.mem_singleton.1 hkey
    exact ⟨root, 0, rfl, .start, hdepth, .inl (List.mem_singleton_self _)⟩

/-- Leaving out a node that is too deep. -/
theorem Traversal.Follows.skip {queue : List (MemoryItemRef × Nat)}
    (h : t.Follows C direction rows root maxDepth []) (hqueue : t.queue = (current, depth) :: queue)
    (hdeep : maxDepth ≤ depth) :
    Traversal.Follows C direction rows root maxDepth [] { t with queue } where
  once := h.once
  seenIn := h.seenIn
  edges := h.edges
  ends := h.ends
  queued entry hentry := h.queued entry (hqueue ▸ List.mem_cons_of_mem _ hentry)
  operations := h.operations
  start := h.start
  kept hdepth htruncated key hkey := by
    obtain ⟨node, d, hnode, hwalk, hd, hpending⟩ := h.kept hdepth htruncated key hkey
    refine ⟨node, d, hnode, hwalk, hd, hpending.imp_left fun hmem => ?_⟩
    rw [hqueue] at hmem
    rcases List.mem_cons.1 hmem with heq | hmem
    · cases heq
      exact absurd hd (Nat.not_lt.2 hdeep)
    · exact hmem

/-- Visiting an edge of a row that leads from the node being expanded. -/
theorem Traversal.Follows.visit (h : t.Follows C direction rows root maxDepth [(current, depth)])
    (hdepth : depth < maxDepth) (hrow : row ∈ rows) (hleads : ∃ b, Leads direction row current b)
    (hread : mapRowToProvenanceEdge C J row = .ok edge) :
    (t.visit direction maxDepth current depth edge).Follows C direction rows root maxDepth
      [(current, depth)] := by
  obtain ⟨next, hnext, hleads, hends⟩ := nextNode_of_leads hleads hread
  by_cases hnew : edge.edgeId ∈ t.seenEdges
  · rcases @visit_of_next J direction maxDepth depth current next edge t hnext with
      ⟨-, heq⟩ | ⟨hn, -⟩
    · rw [heq]
      exact h
    · exact absurd hnew hn
  · have hentered := @visit_entered J direction maxDepth depth current next edge t hnext hnew
    obtain ⟨hwalk, hvisited⟩ := h.queued (current, depth) List.mem_cons_self
    have hreach : WithinReach direction rows root maxDepth row :=
      ⟨depth, hdepth, current, next, hwalk, hleads⟩
    have hmono : ∀ {key}, key ∈ t.visitedNodes →
        key ∈ (t.visit direction maxDepth current depth edge).visitedNodes :=
      fun hkey => (hentered.visited _).2 (.inl hkey)
    have hnextVisited : next.canonicalKey ∈
        (t.visit direction maxDepth current depth edge).visitedNodes :=
      (hentered.visited _).2 (.inr rfl)
    have hnextWalk : Walk (Joined direction rows) root (depth + 1) next :=
      hwalk.step ⟨row, hrow, hleads⟩
    constructor
    · rw [hentered.seenEdges, List.nodup_append]
      refine ⟨h.once, by simp, fun a ha b hb hab => hnew ?_⟩
      exact List.mem_singleton.1 hb ▸ hab ▸ ha
    · rw [Traversal.SeenIn, hentered.seenEdges, hentered.edges, List.map_append, h.seenIn]
      rfl
    · intro e he
      rw [hentered.edges] at he
      rcases List.mem_append.1 he with he | he
      · exact h.edges e he
      · exact ⟨row, hrow, List.mem_singleton.1 he ▸ hread, hreach⟩
    · intro e he
      rw [hentered.edges] at he
      rcases List.mem_append.1 he with he | he
      · exact ⟨hmono (h.ends e he).1, hmono (h.ends e he).2⟩
      · obtain rfl := List.mem_singleton.1 he
        rcases hends with ⟨hs, ht⟩ | ⟨hs, ht⟩ <;> rw [hs, ht]
        · exact ⟨hmono hvisited, hnextVisited⟩
        · exact ⟨hnextVisited, hmono hvisited⟩
    · intro entry hentry
      rcases List.mem_append.1 hentry with hpending | hentry
      · obtain ⟨hw, hv⟩ := h.queued entry (List.mem_append_left _ hpending)
        exact ⟨hw, hmono hv⟩
      · rcases hentered.queued entry hentry with hentry | rfl
        · obtain ⟨hw, hv⟩ := h.queued entry (List.mem_append_right _ hentry)
          exact ⟨hw, hmono hv⟩
        · exact ⟨hnextWalk, hnextVisited⟩
    · intro id hid
      rw [hentered.operationIds] at hid
      rw [hentered.edges]
      rcases operationNodes_mentions hid with hid | hmentions
      · refine (h.operations id hid).imp_right ?_
        rintro ⟨e, he, hmentions⟩
        exact ⟨e, List.mem_append_left _ he, hmentions⟩
      · exact .inr ⟨edge, List.mem_append_right _ (List.mem_singleton_self _), hmentions⟩
    · exact hmono h.start
    · intro hpos htruncated key hkey
      obtain ⟨htruncated, hcases⟩ := hentered.truncated htruncated
      have hkept : key ∈ t.visitedNodes ∨ key = next.canonicalKey ∧ depth + 1 < maxDepth ∧
          (next, depth + 1) ∈ (t.visit direction maxDepth current depth edge).queue := by
        rcases (hentered.visited key).1 hkey with hkey | rfl
        · exact .inl hkey
        · exact hcases.imp_right fun hqueued => ⟨rfl, hqueued⟩
      rcases hkept with hkey | ⟨rfl, hd, hqueued⟩
      · obtain ⟨node, d, hnode, hw, hd, hpending⟩ := h.kept hpos htruncated key hkey
        refine ⟨node, d, hnode, hw, hd, ?_⟩
        rcases hpending with hpending | hseen
        · refine .inl ?_
          rcases List.mem_append.1 hpending with hpending | hqueued
          · exact List.mem_append_left _ hpending
          · exact List.mem_append_right _ (hentered.queue hqueued)
        · exact .inr fun hfew row hrow hleads =>
            hentered.seenEdges ▸ List.mem_append_left _ (hseen hfew row hrow hleads)
      · exact ⟨next, depth + 1, rfl, hnextWalk, hd, .inl (List.mem_append_right _ hqueued)⟩

/-- Expanding a node whose discovery returned. -/
theorem Traversal.Follows.expand {queue : List (MemoryItemRef × Nat)} {es : List (ProvenanceEdge J)}
    (h : t.Follows C direction (visibleRows C db now asOf) root maxDepth [])
    (hqueue : t.queue = (current, depth) :: queue) (hdepth : depth < maxDepth)
    (hes : discoverEdges C J db now direction asOf current = .ok es) :
    Traversal.Follows C direction (visibleRows C db now asOf) root maxDepth []
      (es.foldl (·.visit direction maxDepth current depth ·) { t with queue }) := by
  obtain ⟨hsound, hall⟩ := discoverEdges_spec hes
  have hpop : Traversal.Follows C direction (visibleRows C db now asOf) root maxDepth
      [(current, depth)] { t with queue } := by
    have hqueued := h.queued
    have hkept := h.kept
    simp only [List.nil_append, hqueue] at hqueued hkept
    exact ⟨h.once, h.seenIn, h.edges, h.ends, hqueued, h.operations, h.start,
      hkept⟩
  have hloop : Traversal.Follows C direction (visibleRows C db now asOf) root maxDepth
      [(current, depth)]
      (es.foldl (·.visit direction maxDepth current depth ·) { t with queue }) := by
    refine List.foldlRecOn es _ hpop fun t ht edge hedge => ?_
    obtain ⟨row, hrow, hleads, hread⟩ := hsound edge hedge
    exact ht.visit hdepth hrow hleads hread
  refine ⟨hloop.once, hloop.seenIn, hloop.edges, hloop.ends,
    fun entry hentry => hloop.queued entry (List.mem_cons_of_mem _ hentry), hloop.operations,
    hloop.start, fun hpos htruncated key hkey => ?_⟩
  obtain ⟨node, d, hnode, hw, hd, hpending⟩ := hloop.kept hpos htruncated key hkey
  refine ⟨node, d, hnode, hw, hd, ?_⟩
  rcases hpending with hpending | hseen
  · rcases List.mem_cons.1 hpending with heq | hqueued
    · -- the node just expanded: its edges were all discovered, and so all seen
      cases heq
      refine .inr fun hfew row hrow hleads => ?_
      obtain ⟨edge, hedge, hread⟩ := hall hfew row hrow hleads
      exact mapRow_edgeId hread ▸ visitAll_seen.1 edge hedge
    · exact .inl hqueued
  · exact .inr hseen

/-- The traversal of a lineage follows the visible edges. -/
theorem traverse_follows
    (hrun : traverse (discoverEdges C J db now direction asOf) direction maxDepth
      rounds (.start J root) = .ok t) :
    t.Follows C direction (visibleRows C db now asOf) root maxDepth [] :=
  traverse_invariant (I := (·.Follows C direction (visibleRows C db now asOf) root maxDepth []))
    (fun h => h.skip) (fun h => h.expand) Traversal.start_follows hrun

/-- A node that was expanded: its key is visited, it is less than `maxDepth` away, and the rows that
lead from it are seen. -/
structure Traversal.Expanded (t : Traversal J) (direction : GraphDirection)
    (rows : List ProvenanceEdgeRow) (root : MemoryItemRef) (maxDepth : Nat) (node : MemoryItemRef) :
    Prop where
  near : ∃ depth < maxDepth, Walk (Joined direction rows) root depth node
  seen : ∀ row ∈ rows, (∃ b, Leads direction row node b) → row.edgeId ∈ t.seenEdges

/-- Where the queue is empty and nothing was cut, every visited key is that of an expanded node. -/
theorem Traversal.Follows.expanded (h : t.Follows C direction rows root maxDepth [])
    (hqueue : t.queue = []) (hpos : 0 < maxDepth) (hfull : t.truncated = false)
    (hfew : ∀ m < maxDepth, ∀ a, Walk (Joined direction rows) root m a → Few direction rows a) :
    ∀ key ∈ t.visitedNodes, ∃ node,
      t.Expanded direction rows root maxDepth node ∧ node.canonicalKey = key := by
  intro key hkey
  obtain ⟨node, d, hnode, hw, hd, hpending⟩ := h.kept hpos hfull key hkey
  rcases hpending with hpending | hseen
  · rw [hqueue] at hpending
    exact absurd hpending List.not_mem_nil
  · exact ⟨node, ⟨⟨d, hd, hw⟩, hseen (hfew d hd node hw)⟩, hnode⟩

/-- A row that is seen was collected. -/
theorem Traversal.Follows.edge_of_seen (h : t.Follows C direction rows root maxDepth [])
    (hids : ∀ row ∈ rows, ∀ row' ∈ rows, row.edgeId = row'.edgeId → row = row')
    (hrow : row ∈ rows) (hseen : row.edgeId ∈ t.seenEdges) :
    ∃ edge ∈ t.edges, mapRowToProvenanceEdge C J row = .ok edge := by
  rw [h.seenIn, List.mem_map] at hseen
  obtain ⟨edge, hedge, hid⟩ := hseen
  obtain ⟨row', hrow', hread, -⟩ := h.edges edge hedge
  rw [mapRow_edgeId hread] at hid
  exact ⟨edge, hedge, hids row' hrow' row hrow hid ▸ hread⟩

/-- The end of an edge seen from an expanded node has the key of an expanded node. -/
theorem Traversal.Follows.joined (h : t.Follows C direction rows root maxDepth [])
    (hids : ∀ row ∈ rows, ∀ row' ∈ rows, row.edgeId = row'.edgeId → row = row')
    {a b : MemoryItemRef} (ha : t.Expanded direction rows root maxDepth a)
    (hab : Joined direction rows a b) : b.canonicalKey ∈ t.visitedNodes := by
  obtain ⟨row, hrow, hleads⟩ := hab
  obtain ⟨edge, hedge, hread⟩ := h.edge_of_seen hids hrow (ha.seen row hrow ⟨b, hleads⟩)
  obtain ⟨hsource, htarget, -⟩ := mapRow_eq_ok hread
  have hends := h.ends edge hedge
  rw [hsource, htarget] at hends
  cases direction with
  | outgoing => exact hleads.2 ▸ hends.2
  | incoming => exact hleads.2 ▸ hends.1
  | both =>
    rcases hleads with hleads | hleads
    · exact hleads.2 ▸ hends.2
    · exact hleads.2 ▸ hends.1

end

/-! ## The result -/

section
variable {result : LineageResult J}

/-- A lineage that returns has the edges of its traversal. -/
theorem lineage_eq_ok (h : lineage C J P db now root direction maxDepth asOf = .ok result) :
    ∃ t, traverse (discoverEdges C J db now direction asOf) direction maxDepth (roundLimit db)
        (.start J root) = .ok t ∧
      result.root = root ∧ result.edges = t.edges ∧ result.truncated = t.truncated := by
  simp only [lineage, bind_eq_ok] at h
  obtain ⟨t, ht, recorded, -, operations, -, h⟩ := h
  cases h
  exact ⟨t, ht, rfl, rfl, rfl⟩

/-- What a lineage returns lies within reach, each edge once. -/
theorem lineage_sound (h : lineage C J P db now root direction maxDepth asOf = .ok result) :
    LineageSound C direction (visibleRows C db now asOf) maxDepth result := by
  obtain ⟨t, ht, hroot, hedges, -⟩ := lineage_eq_ok h
  have hfollows := traverse_follows ht
  constructor
  · rw [hedges, ← hfollows.seenIn]
    exact hfollows.once
  · rw [hedges, hroot]
    exact hfollows.edges

/-- A lineage that nothing cuts short in silence has all that is reachable, unless it says
otherwise. -/
theorem lineage_complete (h : lineage C J P db now root direction maxDepth asOf = .ok result)
    (hfollowable : Followable direction (visibleRows C db now asOf) root maxDepth) :
    LineageComplete C direction (visibleRows C db now asOf) result := by
  obtain ⟨t, ht, hroot, hedges, htruncated⟩ := lineage_eq_ok h
  have hfollows := traverse_follows ht
  intro hfull row hrow depth a b hwalk hleads
  rw [hroot] at hwalk
  rw [htruncated] at hfull
  rcases Nat.eq_zero_or_pos maxDepth with hzero | hpos
  · -- nothing leads from the root
    rcases hfollowable.deep with hdeep | hstuck
    · exact absurd hdeep (Nat.not_lt.2 (Nat.le_of_eq hzero))
    · obtain rfl := hwalk.stuck hstuck
      exact absurd ⟨row, hrow, hwalk.zero ▸ hleads⟩ (hstuck b)
  · have hqueue : t.queue = [] := lineage_drains ht
    have hexpanded := hfollows.expanded hqueue hpos hfull hfollowable.few
    have hids : ∀ row ∈ visibleRows C db now asOf, ∀ row' ∈ visibleRows C db now asOf,
        row.edgeId = row'.edgeId → row = row' := fun row hrow row' hrow' hid =>
      Table.eq_of_key (List.mem_of_mem_filter hrow) (List.mem_of_mem_filter hrow') hid
    have hroot : t.Expanded direction (visibleRows C db now asOf) root maxDepth root := by
      obtain ⟨node, hnode, hkey⟩ := hexpanded _ hfollows.start
      obtain ⟨m, hm, hw⟩ := hnode.near
      exact hfollowable.keys m (Nat.le_of_lt hm) 0 (Nat.zero_le _) node root hw .start hkey ▸ hnode
    have ha := hwalk.kept hroot (fun a ha => ha.near)
      (fun a b ha hab => hexpanded _ (hfollows.joined hids ha hab)) hfollowable.keys
    rw [hedges]
    exact hfollows.edge_of_seen hids hrow (ha.seen row hrow ⟨b, hleads⟩)

/-- Operations that are named by UUIDs, and whose times can be read, can be looked up. -/
theorem visibleOperations_ok {recorded : DateTime} {ids : List String}
    (h : ∀ id ∈ ids, NamesOperation C P db id) :
    ∃ operations, visibleOperations C P db recorded ids = .ok operations := by
  induction ids with
  | nil => exact ⟨[], rfl⟩
  | cons id ids ih =>
    obtain ⟨operationId, hid, hreadable⟩ := h id List.mem_cons_self
    obtain ⟨rest, hrest⟩ := ih fun i hi => h i (List.mem_cons_of_mem _ hi)
    simp only [visibleOperations, hid, hrest]
    cases hfind : db.operations.find? operationId with
    | none =>
      refine ⟨rest, ?_⟩
      simp [Except.mapError, bind, Except.bind, hfind]
    | some operation =>
      obtain ⟨t, ht⟩ := hreadable operation hfind
      refine ⟨if t.instant ≤ recorded.instant then operation :: rest else rest, ?_⟩
      simp [Except.mapError, bind, Except.bind, hfind, ht, pure, Except.pure]

/-- A lineage returns where the rows within reach can be read. -/
theorem lineage_returns (hrecorded : ∀ row ∈ db.provenanceEdges.rows, row.Recorded J)
    (hcut : ∃ t, parseRfc3339 C (asOfTimeParams C asOf now).1 "as_of_recorded" = .ok t)
    (h : RowsReadable C P db direction (visibleRows C db now asOf) root maxDepth) :
    ∃ result : LineageResult J, lineage C J P db now root direction maxDepth asOf = .ok result := by
  obtain ⟨t, ht⟩ : ∃ t, traverse (discoverEdges C J db now direction asOf) direction maxDepth
      (roundLimit db) (.start J root) = .ok t := by
    refine traverse_ok (I := (·.Follows C direction (visibleRows C db now asOf) root maxDepth []))
      (fun h => h.skip) (fun h => h.expand) ?_ Traversal.start_follows
    intro t current depth queue hfollows hqueue hdepth
    obtain ⟨hwalk, -⟩ := hfollows.queued (current, depth) (hqueue ▸ List.mem_cons_self)
    refine discoverEdges_ok fun row hrow hleads => ?_
    obtain ⟨b, hleads⟩ := hleads
    exact mapRow_recorded (hrecorded row (List.mem_of_mem_filter hrow))
      (h.times row hrow ⟨depth, hdepth, current, b, hwalk, hleads⟩)
  have hfollows := traverse_follows ht
  have hnamed : ∀ id ∈ t.operationIds, NamesOperation C P db id := by
    intro id hid
    rcases hfollows.operations id hid with ⟨hkind, rfl⟩ | ⟨edge, hedge, hmentions⟩
    · exact h.start hkind
    · obtain ⟨row, hrow, hread, hreach⟩ := hfollows.edges edge hedge
      obtain ⟨hsource, htarget, -⟩ := mapRow_eq_ok hread
      have hends := h.ends row hrow hreach
      rw [← hsource, ← htarget] at hends
      rcases hmentions with ⟨hkind, rfl⟩ | ⟨hkind, rfl⟩
      · exact hends.1 hkind
      · exact hends.2 hkind
  obtain ⟨recorded, hrecorded⟩ := hcut
  obtain ⟨operations, hoperations⟩ := @visibleOperations_ok C P db recorded _ hnamed
  unfold lineage
  simp only [ht, hrecorded, hoperations, bind, Except.bind, pure, Except.pure]
  exact ⟨_, rfl⟩

end

/-- A lineage over the edges of any run of recording calls. Its traversal drains the queue within as
many rounds as nodes can be visited; what it returns are visible edges within reach, each once; it
returns if the rows within reach can be read; and nothing reachable is missing from a result that
does not say that it was truncated, if nothing cuts the traversal short in silence. -/
theorem lineage_returns_reachable {db : PooledDb} (hempty : db.provenanceEdges.rows = [])
    (calls : List (EdgeCall × Choice)) (now : DateTime) (root : MemoryItemRef)
    (direction : GraphDirection) (maxDepth : Nat) (asOf : AsOf)
    (hasOf : ∃ t, parseRfc3339 C (asOfTimeParams C asOf now).1 "as_of_recorded" = .ok t) :
    let s := edgeRun C J db calls
    let rows := visibleRows C s now asOf
    (∀ rounds, roundLimit s ≤ rounds →
      traverse (discoverEdges C J s now direction asOf) direction maxDepth rounds (.start J root) =
        traverse (discoverEdges C J s now direction asOf) direction maxDepth (roundLimit s)
          (.start J root) ∧
      ∀ t, traverse (discoverEdges C J s now direction asOf) direction maxDepth rounds
        (.start J root) = .ok t → t.queue = []) ∧
    (RowsReadable C P s direction rows root maxDepth →
      ∃ result : LineageResult J, lineage C J P s now root direction maxDepth asOf = .ok result) ∧
    ∀ result : LineageResult J, lineage C J P s now root direction maxDepth asOf = .ok result →
      LineageSound C direction rows maxDepth result ∧
      (Followable direction rows root maxDepth → LineageComplete C direction rows result) := by
  intro s rows
  have hrecorded : ∀ row ∈ s.provenanceEdges.rows, row.Recorded J := by
    refine edgeRun_recorded (fun row hrow => ?_) calls
    rw [hempty] at hrow
    exact absurd hrow List.not_mem_nil
  refine ⟨fun rounds hrounds => ?_, lineage_returns hrecorded hasOf, fun result hresult =>
    ⟨lineage_sound hresult, lineage_complete hresult⟩⟩
  have hmore := @lineage_rounds J direction maxDepth C root asOf s now rounds hrounds
  exact ⟨hmore, fun t ht => lineage_drains (hmore ▸ ht)⟩

namespace Sample

/-- Two nodes of one canonical key. -/
def paper : MemoryItemRef := ⟨"fact", "paper:1"⟩

def paperOne : MemoryItemRef := ⟨"fact:paper", "1"⟩

/-- A call that records a support. -/
def support (source target : MemoryItemRef) (edgeId : String) : EdgeCall × Choice :=
  (.recordProvenanceEdge { supportRequest with source, target } ⟨⟨edgeId⟩, pastTen⟩, ⟨none, ""⟩)

/-- The prior fact. -/
def priorRoot : MemoryItemRef := ⟨"fact", "prior"⟩

/-- The graph with an edge from an operation node that is named by no UUID. -/
def imported : PooledDb :=
  edgeRun chrono json graph [support ⟨"operation", "nightly-import"⟩ priorRoot "edge-1"]

/-- The graph with two edges from the prior fact, and one more at the second of its ends. -/
def collided : PooledDb :=
  edgeRun chrono json graph [support priorRoot paper "edge-1", support priorRoot paperOne "edge-2",
    support paperOne ⟨"fact", "later"⟩ "edge-3"]

/-- The graph with a cycle of three edges through the prior fact. -/
def cyclic : PooledDb :=
  edgeRun chrono json graph [support priorRoot paper "edge-1",
    support paper ⟨"fact", "later"⟩ "edge-2", support ⟨"fact", "later"⟩ priorRoot "edge-3"]

/-- The rows of the cycle. -/
def cyclicRows : List ProvenanceEdgeRow := visibleRows chrono cyclic noon ⟨none, none⟩

/-- The nodes of the cycle. -/
def cyclicNodes : List MemoryItemRef := [priorRoot, paper, ⟨"fact", "later"⟩]

/-- A walk stays on the cycle. -/
theorem cyclic_reach {depth : Nat} {item : MemoryItemRef}
    (h : Walk (Joined .outgoing cyclicRows) priorRoot depth item) : item ∈ cyclicNodes := by
  have hrows : ∀ row ∈ cyclicRows, row.target ∈ cyclicNodes := by decide +kernel
  cases h with
  | start => exact List.mem_cons_self
  | step _ hab =>
    obtain ⟨row, hrow, -, rfl⟩ := hab
    exact hrows row hrow

/-- Nothing cuts the lineage of the cycle short. -/
theorem cyclic_followable {maxDepth : Nat} (hdepth : 0 < maxDepth) :
    Followable .outgoing cyclicRows priorRoot maxDepth where
  deep := .inl hdepth
  keys _ _ _ _ a b ha hb := by
    have hkeys : ∀ a ∈ cyclicNodes, ∀ b ∈ cyclicNodes, a.canonicalKey = b.canonicalKey → a = b := by
      decide +kernel
    exact hkeys a (cyclic_reach ha) b (cyclic_reach hb)
  few _ _ _ _ :=
    have hfew : cyclicRows.length ≤ lineageLimit := by decide +kernel
    ⟨fun _ => Nat.le_trans (List.length_filter_le _ _) hfew,
      fun _ => Nat.le_trans (List.length_filter_le _ _) hfew⟩

end Sample

open Sample in
/-- The lineage of the prior fact goes once around the cycle. -/
theorem lineage_returns_reachable_sample : ∃ result,
    lineage chrono json digests cyclic noon priorRoot .outgoing 5 ⟨none, none⟩ = .ok result ∧
    result.edges.length = 3 ∧ result.truncated = false ∧
    LineageSound chrono .outgoing cyclicRows 5 result ∧
    LineageComplete chrono .outgoing cyclicRows result := by
  obtain ⟨result, hresult, h⟩ := ok_of_any (p := fun result : LineageResult json =>
    decide (result.edges.length = 3 ∧ result.truncated = false))
    (show ((lineage chrono json digests cyclic noon priorRoot .outgoing 5
      ⟨none, none⟩).toOption.any fun result =>
        decide (result.edges.length = 3 ∧ result.truncated = false)) = true by decide +kernel)
  obtain ⟨t, ht, -⟩ := ok_of_any (p := fun _ => true) (show ((parseRfc3339 chrono
    (asOfTimeParams chrono ⟨none, none⟩ noon).1 "as_of_recorded").toOption.any
      fun _ => true) = true by decide +kernel)
  obtain ⟨-, -, hspec⟩ := @lineage_returns_reachable chrono json digests graph rfl
    [support priorRoot paper "edge-1", support paper ⟨"fact", "later"⟩ "edge-2",
      support ⟨"fact", "later"⟩ priorRoot "edge-3"] noon priorRoot .outgoing 5 ⟨none, none⟩ ⟨t, ht⟩
  obtain ⟨hsound, hcomplete⟩ := hspec result hresult
  exact ⟨result, hresult, (of_decide_eq_true h).1, (of_decide_eq_true h).2, hsound,
    hcomplete (cyclic_followable (by decide))⟩

open Sample in
/-- An accepted edge from an operation node that is named by no UUID makes the lineage of its target
fail; and where two nodes have one canonical key, the edge at the second one is missing from a
result that is not truncated. -/
theorem lineage_cut_short :
    (imported.provenanceEdges.rows.length = 1 ∧
      (lineage chrono json digests imported noon priorRoot .incoming 5
        ⟨none, none⟩).toOption.isNone = true) ∧
    collided.provenanceEdges.rows.length = 3 ∧
      (lineage chrono json digests collided noon priorRoot .outgoing 5 ⟨none, none⟩).toOption.any
        (fun result => result.edges.length = 2 && !result.truncated) = true := by
  decide +kernel

end Mnemes
