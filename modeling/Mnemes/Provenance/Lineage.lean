import Mathlib.Data.List.Dedup
import Mnemes.Provenance.Edges

/-!
# Lineage

The breadth-first traversal of `lineage` over bitemporal queries. Each node enters the queue at most
once, so a number of rounds bounded by the size of the edge table drains the queue
(`traverse_drains`), and no further round changes the result (`traverse_of_le`).
-/

namespace Mnemes

open Rfc3339

/-- `GraphDirection`. -/
inductive GraphDirection where
  | outgoing
  | incoming
  | both
  deriving DecidableEq, Repr

/-- `OperationId::parse`. -/
def OperationId.parse (P : Platform) (value : String) : Except MemoryError OperationId :=
  match P.uuidParseStr value with
  | .error error => .error (.invalidKey s!"invalid OperationId '{value}': {error}")
  | .ok parsed =>
    if !parsed.random || !parsed.rfc4122 then
      .error (.invalidKey s!"invalid OperationId '{value}': expected an RFC 4122 UUID v4")
    else .ok ⟨parsed.hyphenated⟩

/-- The variables of the traversal. The sets are lists without repetition. -/
structure Traversal (J : SerdeJson) where
  visitedNodes : List String
  queue : List (MemoryItemRef × Nat)
  edges : List (ProvenanceEdge J) := []
  seenEdges : List ProvenanceEdgeId := []
  operationIds : List String
  truncated : Bool := false

/-- The result of a traversal. -/
structure LineageResult (J : SerdeJson) where
  root : MemoryItemRef
  edges : List (ProvenanceEdge J)
  items : List MemoryItemRef
  operations : List OperationEnvelope
  truncated : Bool
  asOf : AsOf

section
variable {J : SerdeJson}

/-- The node an edge leads to from the current one. -/
def nextNode (direction : GraphDirection) (current : MemoryItemRef) (edge : ProvenanceEdge J) :
    Option MemoryItemRef :=
  match direction with
  | .outgoing => if edge.source = current then some edge.target else none
  | .incoming => if edge.target = current then some edge.source else none
  | .both =>
    if edge.source = current then some edge.target
    else if edge.target = current then some edge.source
    else none

/-- The operations that an edge names, added to a set. -/
def operationNodes (edge : ProvenanceEdge J) (operationIds : List String) : List String :=
  let operationIds :=
    if edge.source.kind = "operation" then operationIds.insert edge.source.id else operationIds
  if edge.target.kind = "operation" then operationIds.insert edge.target.id else operationIds

/-- Following an edge to its node: a new node is visited, and queued unless it is too deep. -/
def Traversal.enter (maxDepth depth : Nat) (t : Traversal J) (node : MemoryItemRef) : Traversal J :=
  if node.canonicalKey ∈ t.visitedNodes then t
  else
    let visitedNodes := t.visitedNodes ++ [node.canonicalKey]
    if depth + 1 < maxDepth then { t with visitedNodes, queue := t.queue ++ [(node, depth + 1)] }
    else { t with visitedNodes, truncated := true }

/-- The body of the inner loop, for one discovered edge. -/
def Traversal.visit (direction : GraphDirection) (maxDepth : Nat) (current : MemoryItemRef)
    (depth : Nat) (t : Traversal J) (edge : ProvenanceEdge J) : Traversal J :=
  if edge.edgeId ∈ t.seenEdges then t
  else
    let t := { t with
      seenEdges := t.seenEdges ++ [edge.edgeId]
      edges := t.edges ++ [edge]
      operationIds := operationNodes edge t.operationIds }
    match nextNode direction current edge with
    | none => t
    | some node => t.enter maxDepth depth node

/-- The outer loop, for a number of rounds. -/
def traverse (discover : MemoryItemRef → Except MnemesError (List (ProvenanceEdge J)))
    (direction : GraphDirection) (maxDepth : Nat) : Nat → Traversal J →
    Except MnemesError (Traversal J)
  | 0, t => .ok t
  | rounds + 1, t =>
    match t.queue with
    | [] => .ok t
    | (current, depth) :: queue =>
      if maxDepth ≤ depth then traverse discover direction maxDepth rounds { t with queue }
      else do
        let discovered ← discover current
        traverse discover direction maxDepth rounds
          (discovered.foldl (·.visit direction maxDepth current depth ·) { t with queue })

end

section
variable (C : Chrono) (J : SerdeJson)

/-- The edges at a node, in the direction of the traversal. -/
def discoverEdges (db : PooledDb) (now : DateTime) (direction : GraphDirection) (asOf : AsOf)
    (current : MemoryItemRef) : Except MnemesError (List (ProvenanceEdge J)) :=
  let outgoing := queryProvenanceEdges C J db now
    { source := some current, asOf, includeSuperseded := true, limit := 10000 }
  let incoming := queryProvenanceEdges C J db now
    { target := some current, asOf, includeSuperseded := true, limit := 10000 }
  match direction with
  | .outgoing => outgoing
  | .incoming => incoming
  | .both => do return (← outgoing) ++ (← incoming)

/-- The start of a traversal. -/
def Traversal.start (root : MemoryItemRef) : Traversal J where
  visitedNodes := [root.canonicalKey]
  queue := [(root, 0)]
  operationIds := if root.kind = "operation" then [root.id] else []

/-- Enough rounds for every traversal: the root and the two ends of every edge. -/
def roundLimit (db : PooledDb) : Nat := 2 * db.provenanceEdges.rows.length + 1

/-- The operations of a lineage that are visible at the cut-off, which is read as an instant. -/
def visibleOperations (P : Platform) (db : PooledDb) (recorded : DateTime) :
    List String → Except MnemesError (List OperationEnvelope)
  | [] => .ok []
  | operationId :: operationIds => do
    let operationId ← (OperationId.parse P operationId).mapError .memory
    match db.operations.find? operationId with
    | none => visibleOperations P db recorded operationIds
    | some operation =>
      let operationRecorded ← parseRfc3339 C operation.recordedAt "operation recorded_at"
      let operations ← visibleOperations P db recorded operationIds
      return if operationRecorded.instant ≤ recorded.instant then operation :: operations
        else operations

/-- `lineage`. The sets of the code are iterated in the order of insertion. -/
def lineage (P : Platform) (db : PooledDb) (now : DateTime) (root : MemoryItemRef)
    (direction : GraphDirection) (maxDepth : Nat) (asOf : AsOf) :
    Except MnemesError (LineageResult J) := do
  let t ← traverse (discoverEdges C J db now direction asOf) direction maxDepth (roundLimit db)
    (.start J root)
  let items := (t.visitedNodes.filterMap fun key => (MemoryItemRef.parseKey key).toOption).filter
    (·.kind ≠ "operation")
  let recorded ← parseRfc3339 C (asOfTimeParams C asOf now).1 "as_of_recorded"
  let operations ← visibleOperations C P db recorded t.operationIds
  return {
    root
    edges := t.edges
    items := items.insertionSort fun a b => textLe a.canonicalKey b.canonicalKey
    operations := operations.insertionSort fun a b => textLe a.recordedAt b.recordedAt
    truncated := t.truncated
    asOf }

/-- `as_of_item_lineage`. -/
def asOfItemLineage (P : Platform) (db : PooledDb) (now : DateTime) (item : MemoryItemRef)
    (asOf : AsOf) : Except MnemesError (LineageResult J) :=
  lineage C J P db now item .both ((2 ^ 64 - 1) / 2) asOf

/-- `operation_provenance`: whether the operation is visible is decided on instants. -/
def operationProvenance (db : PooledDb) (now : DateTime) (operationId : OperationId) (asOf : AsOf) :
    Except MnemesError (OperationEnvelope × List (ProvenanceEdge J)) := do
  let operation ← okOr (db.operations.find? operationId) (.provenanceEdgeNotFound operationId.text)
  let recorded ← parseRfc3339 C (asOfTimeParams C asOf now).1 "as_of_recorded"
  let operationRecorded ← parseRfc3339 C operation.recordedAt "operation recorded_at"
  if recorded.instant < operationRecorded.instant then
    throw (.provenanceEdgeNotFound s!"operation {operationId.text} not visible at requested as_of")
  let edges ← queryProvenanceEdges C J db now
    { operationId := some operationId, asOf, limit := 10000, includeSuperseded := true }
  return (operation, edges)

end

/-! ## The queue drains -/

section
variable {J : SerdeJson} {nodes : List String} {direction : GraphDirection} {maxDepth depth : Nat}
  {current : MemoryItemRef} {t : Traversal J}
  {discover : MemoryItemRef → Except MnemesError (List (ProvenanceEdge J))}

/-- The visited nodes are distinct and among the given ones. -/
structure Traversal.Within (t : Traversal J) (nodes : List String) : Prop where
  nodup : t.visitedNodes.Nodup
  subset : t.visitedNodes ⊆ nodes

/-- A bound on the rounds still to come: what is queued, and what may yet be queued. -/
def Traversal.pending (t : Traversal J) (nodes : List String) : Nat :=
  t.queue.length + (nodes.length - t.visitedNodes.length)

/-- Both ends of an edge are among the given nodes. -/
def EndsIn (nodes : List String) (edge : ProvenanceEdge J) : Prop :=
  edge.source.canonicalKey ∈ nodes ∧ edge.target.canonicalKey ∈ nodes

/-- Entering a node of the graph keeps a traversal within it, and adds no pending round. -/
theorem Traversal.Within.enter (h : t.Within nodes) {node : MemoryItemRef}
    (hnode : node.canonicalKey ∈ nodes) :
    (t.enter maxDepth depth node).Within nodes ∧
      (t.enter maxDepth depth node).pending nodes ≤ t.pending nodes := by
  unfold Traversal.enter
  split
  · exact ⟨h, Nat.le_refl _⟩
  · next hnew =>
    have hnodup : (t.visitedNodes ++ [node.canonicalKey]).Nodup := by
      rw [List.nodup_append]
      refine ⟨h.nodup, by simp, fun a ha b hb hab => hnew ?_⟩
      rw [List.mem_singleton] at hb
      exact hb ▸ hab ▸ ha
    have hsubset : t.visitedNodes ++ [node.canonicalKey] ⊆ nodes :=
      List.append_subset.2 ⟨h.subset, by simpa using hnode⟩
    have hlen := (List.subperm_of_subset hnodup hsubset).length_le
    rw [List.length_append, List.length_singleton] at hlen
    dsimp only
    split
    · refine ⟨⟨hnodup, hsubset⟩, ?_⟩
      simp only [Traversal.pending, List.length_append, List.length_singleton]
      omega
    · refine ⟨⟨hnodup, hsubset⟩, ?_⟩
      simp only [Traversal.pending, List.length_append, List.length_singleton]
      omega

/-- The next node of an edge of the graph is a node of the graph. -/
theorem nextNode_mem {edge : ProvenanceEdge J} {node : MemoryItemRef} (hedge : EndsIn nodes edge)
    (h : nextNode direction current edge = some node) : node.canonicalKey ∈ nodes := by
  obtain ⟨hsource, htarget⟩ := hedge
  cases direction with
  | outgoing =>
    simp only [nextNode, Option.ite_none_right_eq_some, Option.some.injEq] at h
    exact h.2 ▸ htarget
  | incoming =>
    simp only [nextNode, Option.ite_none_right_eq_some, Option.some.injEq] at h
    exact h.2 ▸ hsource
  | both =>
    simp only [nextNode] at h
    split at h
    · cases h
      exact htarget
    · rw [Option.ite_none_right_eq_some, Option.some.injEq] at h
      exact h.2 ▸ hsource

/-- Visiting an edge of the graph keeps a traversal within it, and adds no pending round. -/
theorem Traversal.Within.visit (h : t.Within nodes) {edge : ProvenanceEdge J}
    (hedge : EndsIn nodes edge) :
    (t.visit direction maxDepth current depth edge).Within nodes ∧
      (t.visit direction maxDepth current depth edge).pending nodes ≤ t.pending nodes := by
  unfold Traversal.visit
  split
  · exact ⟨h, Nat.le_refl _⟩
  · dsimp only
    have hseen : Traversal.Within { t with
        seenEdges := t.seenEdges ++ [edge.edgeId]
        edges := t.edges ++ [edge]
        operationIds := operationNodes edge t.operationIds } nodes := ⟨h.nodup, h.subset⟩
    split
    · exact ⟨hseen, Nat.le_refl _⟩
    · next node hnode => exact hseen.enter (nextNode_mem hedge hnode)

/-- So does visiting all edges of a node. -/
theorem Traversal.Within.visitAll {edges : List (ProvenanceEdge J)} (h : t.Within nodes)
    (hedges : ∀ edge ∈ edges, EndsIn nodes edge) :
    (edges.foldl (·.visit direction maxDepth current depth ·) t).Within nodes ∧
      (edges.foldl (·.visit direction maxDepth current depth ·) t).pending nodes ≤
        t.pending nodes := by
  induction edges generalizing t with
  | nil => exact ⟨h, Nat.le_refl _⟩
  | cons edge edges ih =>
    obtain ⟨hvisit, hle⟩ := h.visit (hedges edge List.mem_cons_self)
    obtain ⟨hrest, hle'⟩ := ih hvisit fun e he => hedges e (List.mem_cons_of_mem _ he)
    exact ⟨hrest, Nat.le_trans hle' hle⟩

/-- Where the edges found have their ends among the nodes, a traversal that returns after as many
rounds as are pending has drained its queue. -/
theorem traverse_drains
    (hdiscover : ∀ {current es}, discover current = .ok es → ∀ edge ∈ es, EndsIn nodes edge)
    {rounds : Nat} (h : t.Within nodes) (hrounds : t.pending nodes ≤ rounds) {t' : Traversal J}
    (hrun : traverse discover direction maxDepth rounds t = .ok t') : t'.queue = [] := by
  induction rounds generalizing t with
  | zero =>
    cases hrun
    exact List.length_eq_zero_iff.1 (by unfold Traversal.pending at hrounds; omega)
  | succ rounds ih =>
    unfold traverse at hrun
    split at hrun
    · next hqueue =>
      cases hrun
      exact hqueue
    · next current depth queue hqueue =>
      have hpop : Traversal.Within { t with queue } nodes := ⟨h.nodup, h.subset⟩
      have hpending : Traversal.pending { t with queue } nodes ≤ rounds := by
        simp only [Traversal.pending, hqueue, List.length_cons] at hrounds ⊢
        omega
      split at hrun
      · exact ih hpop hpending hrun
      · obtain ⟨found, hfound, hrun⟩ := bind_eq_ok.1 hrun
        obtain ⟨hvisit, hle⟩ := hpop.visitAll (hdiscover hfound)
        exact ih hvisit (Nat.le_trans hle hpending) hrun

/-- More rounds than are pending change nothing. -/
theorem traverse_of_le
    (hdiscover : ∀ {current es}, discover current = .ok es → ∀ edge ∈ es, EndsIn nodes edge)
    {rounds more : Nat} (h : t.Within nodes) (hrounds : t.pending nodes ≤ rounds)
    (hmore : rounds ≤ more) : traverse discover direction maxDepth more t =
      traverse discover direction maxDepth rounds t := by
  induction rounds generalizing t more with
  | zero =>
    have hqueue : t.queue = [] :=
      List.length_eq_zero_iff.1 (by unfold Traversal.pending at hrounds; omega)
    cases more with
    | zero => rfl
    | succ more => simp [traverse, hqueue]
  | succ rounds ih =>
    obtain ⟨more, rfl⟩ : ∃ m, more = m + 1 := ⟨more - 1, by omega⟩
    unfold traverse
    split
    · rfl
    · next current depth queue hqueue =>
      have hpop : Traversal.Within { t with queue } nodes := ⟨h.nodup, h.subset⟩
      have hpending : Traversal.pending { t with queue } nodes ≤ rounds := by
        simp only [Traversal.pending, hqueue, List.length_cons] at hrounds ⊢
        omega
      have hmore : rounds ≤ more := by omega
      split
      · exact ih hpop hpending hmore
      · cases hfound : discover current with
        | error e => rfl
        | ok found =>
          obtain ⟨hvisit, hle⟩ := hpop.visitAll (hdiscover hfound)
          exact ih hvisit (Nat.le_trans hle hpending) hmore

/-- The nodes that a traversal of a database from a root can visit. -/
def graphNodes (db : PooledDb) (root : MemoryItemRef) : List String :=
  root.canonicalKey ::
    db.provenanceEdges.rows.flatMap fun row => [row.source.canonicalKey, row.target.canonicalKey]

/-- The graph has as many nodes as there are rounds. -/
theorem graphNodes_length {db : PooledDb} {root : MemoryItemRef} :
    (graphNodes db root).length = roundLimit db := by
  rw [graphNodes, List.length_cons, roundLimit, List.length_flatMap]
  simp
  omega

variable {C : Chrono} {db : PooledDb} {now : DateTime} {root : MemoryItemRef} {asOf : AsOf}

/-- The edges of a query are read from rows of the database. -/
theorem queryProvenanceEdges_endsIn {query : ProvenanceQuery} {es : List (ProvenanceEdge J)}
    (h : queryProvenanceEdges C J db now query = .ok es) :
    ∀ edge ∈ es, EndsIn (graphNodes db root) edge := by
  intro edge hedge
  unfold queryProvenanceEdges at h
  dsimp only at h
  split at h
  · cases h
  · obtain ⟨row, hrow, hread⟩ := Lists.exists_of_mem_mapM h hedge
    have hrow := List.mem_of_mem_filter (List.mem_of_mem_take hrow)
    obtain ⟨hsource, htarget, -⟩ := mapRow_eq_ok hread
    refine ⟨List.mem_cons_of_mem _ (List.mem_flatMap.2 ⟨row, hrow, ?_⟩),
      List.mem_cons_of_mem _ (List.mem_flatMap.2 ⟨row, hrow, ?_⟩)⟩
    · simp [hsource]
    · simp [htarget]

/-- Edges that are discovered end in the graph. -/
theorem discoverEdges_endsIn {es : List (ProvenanceEdge J)}
    (h : discoverEdges C J db now direction asOf current = .ok es) :
    ∀ edge ∈ es, EndsIn (graphNodes db root) edge := by
  cases direction with
  | outgoing =>
    unfold discoverEdges at h
    exact queryProvenanceEdges_endsIn h
  | incoming =>
    unfold discoverEdges at h
    exact queryProvenanceEdges_endsIn h
  | both =>
    simp only [discoverEdges, bind_eq_ok] at h
    obtain ⟨outgoing, houtgoing, incoming, hincoming, h⟩ := h
    cases h
    intro edge hedge
    rcases List.mem_append.1 hedge with hedge | hedge
    · exact queryProvenanceEdges_endsIn houtgoing edge hedge
    · exact queryProvenanceEdges_endsIn hincoming edge hedge

/-- A traversal starts within the graph. -/
theorem Traversal.start_within : (Traversal.start J root).Within (graphNodes db root) where
  nodup := List.nodup_singleton _
  subset := by simp [Traversal.start, graphNodes]

/-- At its start, all rounds are pending. -/
theorem Traversal.start_pending :
    (Traversal.start J root).pending (graphNodes db root) = roundLimit db := by
  rw [Traversal.pending, graphNodes_length, roundLimit]
  simp only [Traversal.start, List.length_singleton]
  omega

/-- The traversal of `lineage` never runs out of rounds. -/
theorem lineage_drains {t : Traversal J} (h : traverse (discoverEdges C J db now direction asOf)
    direction maxDepth (roundLimit db) (.start J root) = .ok t) : t.queue = [] :=
  traverse_drains discoverEdges_endsIn Traversal.start_within
    (Nat.le_of_eq Traversal.start_pending) h

/-- Further rounds do not change the traversal of `lineage`. -/
theorem lineage_rounds (db : PooledDb) (now : DateTime) {rounds : Nat}
    (h : roundLimit db ≤ rounds) :
    traverse (discoverEdges C J db now direction asOf) direction maxDepth rounds (.start J root) =
      traverse (discoverEdges C J db now direction asOf) direction maxDepth (roundLimit db)
        (.start J root) :=
  traverse_of_le discoverEdges_endsIn Traversal.start_within
    (Nat.le_of_eq Traversal.start_pending) h

end

/-! ## Invariants of the traversal -/

section
variable {J : SerdeJson} {direction : GraphDirection} {maxDepth depth rounds : Nat}
  {current : MemoryItemRef} {t t' : Traversal J} {edge : ProvenanceEdge J}
  {discover : MemoryItemRef → Except MnemesError (List (ProvenanceEdge J))}

/-- What popping a node and visiting a discovered edge keep holds at the end. -/
theorem traverse_keeps {I : Traversal J → Prop}
    (hpop : ∀ {t : Traversal J} {queue}, I t → I { t with queue })
    (hvisit : ∀ {t : Traversal J} {current es depth}, discover current = .ok es → ∀ edge ∈ es, I t →
      I (t.visit direction maxDepth current depth edge))
    (h : I t) (hrun : traverse discover direction maxDepth rounds t = .ok t') : I t' := by
  have hvisitAll : ∀ {current es depth}, discover current = .ok es →
      ∀ (edges : List (ProvenanceEdge J)), edges ⊆ es → ∀ {t : Traversal J}, I t →
        I (edges.foldl (·.visit direction maxDepth current depth ·) t) := by
    intro current es depth hes edges hsub
    induction edges with
    | nil => exact id
    | cons edge edges ih =>
      intro t ht
      exact ih (fun e he => hsub (List.mem_cons_of_mem _ he))
        (hvisit hes edge (hsub List.mem_cons_self) ht)
  induction rounds generalizing t with
  | zero =>
    cases hrun
    exact h
  | succ rounds ih =>
    unfold traverse at hrun
    split at hrun
    · cases hrun
      exact h
    · split at hrun
      · exact ih (hpop h) hrun
      · obtain ⟨found, hfound, hrun⟩ := bind_eq_ok.1 hrun
        exact ih (hvisitAll hfound found (List.Subset.refl _) (hpop h)) hrun

/-- The traversal returns where every discovery does. -/
theorem traverse_returns (hdiscover : ∀ current, ∃ es, discover current = .ok es) :
    ∃ t', traverse discover direction maxDepth rounds t = .ok t' := by
  induction rounds generalizing t with
  | zero => exact ⟨t, rfl⟩
  | succ rounds ih =>
    unfold traverse
    split
    · exact ⟨t, rfl⟩
    · next current depth queue _ =>
      split
      · exact ih
      · obtain ⟨found, hfound⟩ := hdiscover current
        rw [hfound]
        exact ih

/-- What a visit does to the edges and the operations: nothing if the edge was seen, else it adds
them. -/
theorem visit_cases : let t' := t.visit direction maxDepth current depth edge
    (edge.edgeId ∈ t.seenEdges ∧ t' = t) ∨
      (edge.edgeId ∉ t.seenEdges ∧ t'.seenEdges = t.seenEdges ++ [edge.edgeId] ∧
        t'.edges = t.edges ++ [edge] ∧ t'.operationIds = operationNodes edge t.operationIds) := by
  unfold Traversal.visit
  split
  · next hseen => exact .inl ⟨hseen, rfl⟩
  · next hseen =>
    dsimp only
    split
    · exact .inr ⟨hseen, rfl, rfl, rfl⟩
    · unfold Traversal.enter
      split
      · exact .inr ⟨hseen, rfl, rfl, rfl⟩
      · dsimp only
        split <;> exact .inr ⟨hseen, rfl, rfl, rfl⟩

/-- An identity that was seen is that of a collected edge. -/
def Traversal.SeenIn (t : Traversal J) : Prop := t.seenEdges = t.edges.map (·.edgeId)

/-- Visiting an edge keeps the edges of the result among the seen ones. -/
theorem Traversal.SeenIn.visit (h : t.SeenIn) :
    (t.visit direction maxDepth current depth edge).SeenIn := by
  rcases @visit_cases J direction maxDepth depth current t edge with
    ⟨-, heq⟩ | ⟨-, hseen, hedges, -⟩
  · rw [heq]
    exact h
  · rw [Traversal.SeenIn, hseen, hedges, List.map_append, h]
    rfl

/-- The traversal asks for the edges at a node. -/
def Expands (discover : MemoryItemRef → Except MnemesError (List (ProvenanceEdge J)))
    (direction : GraphDirection) (maxDepth : Nat) (node : MemoryItemRef) :
    Nat → Traversal J → Prop
  | 0, _ => False
  | rounds + 1, t =>
    match t.queue with
    | [] => False
    | (current, depth) :: queue =>
      if maxDepth ≤ depth then Expands discover direction maxDepth node rounds { t with queue }
      else current = node ∨ ∃ discovered, discover current = .ok discovered ∧
        Expands discover direction maxDepth node rounds
          (discovered.foldl (·.visit direction maxDepth current depth ·) { t with queue })

/-- An edge that is visited is seen, and what was seen stays so. -/
theorem visit_seen : edge.edgeId ∈ (t.visit direction maxDepth current depth edge).seenEdges ∧
    t.seenEdges ⊆ (t.visit direction maxDepth current depth edge).seenEdges := by
  rcases @visit_cases J direction maxDepth depth current t edge with ⟨hmem, heq⟩ | ⟨-, hseen, -, -⟩
  · rw [heq]
    exact ⟨hmem, List.Subset.refl _⟩
  · rw [hseen]
    exact ⟨List.mem_append_right _ (List.mem_singleton_self _), List.subset_append_left _ _⟩

/-- So are all edges of a node. -/
theorem visitAll_seen {edges : List (ProvenanceEdge J)} :
    (∀ edge ∈ edges, edge.edgeId ∈
      (edges.foldl (·.visit direction maxDepth current depth ·) t).seenEdges) ∧
    t.seenEdges ⊆ (edges.foldl (·.visit direction maxDepth current depth ·) t).seenEdges := by
  induction edges generalizing t with
  | nil => exact ⟨fun _ h => absurd h List.not_mem_nil, List.Subset.refl _⟩
  | cons edge edges ih =>
    obtain ⟨hrest, hsub⟩ := @ih (t.visit direction maxDepth current depth edge)
    obtain ⟨hseen, hkept⟩ := @visit_seen J direction maxDepth depth current t edge
    refine ⟨fun e he => ?_, List.Subset.trans hkept hsub⟩
    rcases List.mem_cons.1 he with rfl | he
    · exact hsub hseen
    · exact hrest e he

/-- What was seen stays so to the end of a traversal. -/
theorem traverse_seen (hrun : traverse discover direction maxDepth rounds t = .ok t') :
    t.seenEdges ⊆ t'.seenEdges := by
  refine traverse_keeps (I := fun u => t.seenEdges ⊆ u.seenEdges) (fun h => h)
    (fun _ _ _ h => List.Subset.trans h visit_seen.2) (List.Subset.refl _) hrun

/-- A traversal that returns has seen every edge at a node that it asked about. -/
theorem Expands.seen {node : MemoryItemRef} {es : List (ProvenanceEdge J)}
    (h : Expands discover direction maxDepth node rounds t) (hes : discover node = .ok es)
    (hrun : traverse discover direction maxDepth rounds t = .ok t') :
    ∀ edge ∈ es, edge.edgeId ∈ t'.seenEdges := by
  induction rounds generalizing t with
  | zero => cases h
  | succ rounds ih =>
    unfold traverse at hrun
    unfold Expands at h
    split at hrun
    · next hqueue =>
      rw [hqueue] at h
      cases h
    · next current depth queue hqueue =>
      rw [hqueue] at h
      dsimp only at h
      split at hrun
      · next hdeep =>
        rw [if_pos hdeep] at h
        exact ih h hrun
      · next hdeep =>
        rw [if_neg hdeep] at h
        obtain ⟨found, hfound, hrun⟩ := bind_eq_ok.1 hrun
        rcases h with rfl | ⟨found', hfound', h⟩
        · rw [hes] at hfound
          cases hfound
          exact fun edge hedge => traverse_seen hrun (visitAll_seen.1 edge hedge)
        · rw [hfound] at hfound'
          cases hfound'
          exact ih h hrun

end

end Mnemes
