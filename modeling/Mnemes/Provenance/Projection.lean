import Mnemes.Provenance.Appends
import Mnemes.Provenance.Lineage

/-!
# The supersession projection

A query without `include_superseded` leaves out an edge whose target another visible `supersedes`
edge has as well. The nested query excludes the edge itself only, so two supersessions of one item
hide each other: the projection keeps a supersession of every superseded item exactly where no item
is superseded twice (`projection_keeps_iff`).
-/

namespace Mnemes

open Rfc3339 Relational

section
variable {C : Chrono} {J : SerdeJson} {db : PooledDb} {now : DateTime} {asOf : AsOf} {limit : Nat}
  {row other : ProvenanceEdgeRow} {recorded : String} {valid : Option String}

/-- A visible `supersedes` edge. -/
def ProvenanceEdgeRow.Supersession (row : ProvenanceEdgeRow) (recorded : String)
    (valid : Option String) : Prop :=
  row.edgeType = .supersedes ∧ row.visible recorded valid = true

/-- Some visible supersession other than the edge itself supersedes its target. -/
def SupersededBy (rows : List ProvenanceEdgeRow) (recorded : String) (valid : Option String)
    (row other : ProvenanceEdgeRow) : Prop :=
  other ∈ rows ∧ other.Supersession recorded valid ∧ other.target = row.target ∧
    other.edgeId ≠ row.edgeId

/-- The nested query finds a row exactly if one supersedes the row. -/
theorem supersededIn_iff {rows : List ProvenanceEdgeRow} :
    supersededIn rows recorded valid row = true ↔
      ∃ other, SupersededBy rows recorded valid row other := by
  simp only [supersededIn, List.any_eq_true, Bool.and_eq_true, decide_eq_true_eq, ne_eq,
    SupersededBy, ProvenanceEdgeRow.Supersession]
  constructor
  · rintro ⟨other, hother, ⟨⟨htype, hvisible⟩, htarget⟩, hid⟩
    exact ⟨other, hother, ⟨htype, hvisible⟩, htarget, hid⟩
  · rintro ⟨other, hother, ⟨htype, hvisible⟩, htarget, hid⟩
    exact ⟨other, hother, ⟨⟨htype, hvisible⟩, htarget⟩, hid⟩

/-- The query of the projection: no filter but the times. -/
def projection (asOf : AsOf) (limit : Nat) : ProvenanceQuery where
  asOf := asOf
  includeSuperseded := false
  limit := limit

/-- The projection returns an edge with a given property. -/
def Projects (C : Chrono) (J : SerdeJson) (db : PooledDb) (now : DateTime) (asOf : AsOf)
    (limit : Nat) (p : ProvenanceEdge J → Prop) : Prop :=
  ∃ found, queryProvenanceEdges C J db now (projection asOf limit) = .ok found ∧
    ∃ edge ∈ found, p edge

/-- What the projection shows of the supersessions: one for each superseded item, and it hides an
edge only behind another one. -/
structure ProjectionKeeps (C : Chrono) (J : SerdeJson) (db : PooledDb) (now : DateTime)
    (asOf : AsOf) (limit : Nat) : Prop where
  shown : ∀ row ∈ db.provenanceEdges.rows,
    row.Supersession (asOfTimeParams C asOf now).1 (asOfTimeParams C asOf now).2 →
      Projects C J db now asOf limit fun edge =>
        edge.edgeType = .supersedes ∧ edge.target = row.target
  hidden : ∀ row ∈ db.provenanceEdges.rows,
    row.visible (asOfTimeParams C asOf now).1 (asOfTimeParams C asOf now).2 = true →
      ¬ Projects C J db now asOf limit (fun edge => edge.edgeId = row.edgeId) →
        ∃ other, SupersededBy db.provenanceEdges.rows (asOfTimeParams C asOf now).1
          (asOfTimeParams C asOf now).2 row other

/-- No item has two visible supersessions. -/
def SupersededOnce (rows : List ProvenanceEdgeRow) (recorded : String) (valid : Option String) :
    Prop :=
  ∀ row ∈ rows, ∀ other ∈ rows, row.Supersession recorded valid →
    other.Supersession recorded valid → other.target = row.target → other.edgeId = row.edgeId

/-- The visible edges that nothing supersedes can be read. -/
def ProjectionReadable (C : Chrono) (J : SerdeJson) (rows : List ProvenanceEdgeRow)
    (recorded : String) (valid : Option String) : Prop :=
  ∀ row ∈ rows, row.visible recorded valid = true →
    (¬ ∃ other, SupersededBy rows recorded valid row other) →
      ∃ edge, mapRowToProvenanceEdge C J row = .ok edge

/-- A row is among those of the projection where it is visible and not superseded. -/
theorem mem_projection {rows : List ProvenanceEdgeRow} :
    row ∈ (projection asOf limit).matchingRows rows recorded valid ↔
      row ∈ rows ∧ row.visible recorded valid = true ∧
        ¬ ∃ other, SupersededBy rows recorded valid row other := by
  simp only [ProvenanceQuery.matchingRows, List.mem_filter, projection, ProvenanceQuery.selects,
    Option.all_none, List.isEmpty_nil, Bool.true_or, Bool.and_true, Bool.false_or,
    Bool.and_eq_true, Bool.not_eq_true', ← supersededIn_iff, Bool.not_eq_true]

/-- With a limit beyond the stored edges, the projection reads all of its rows. -/
theorem projection_eq (hrows : db.provenanceEdges.rows.length ≤ (projection asOf limit).rowLimit)
    (hlimit : (projection asOf limit).rowLimit < 2 ^ 63) :
    queryProvenanceEdges C J db now (projection asOf limit) =
      ((projection asOf limit).matchingRows db.provenanceEdges.rows (asOfTimeParams C asOf now).1
        (asOfTimeParams C asOf now).2).mapM (mapRowToProvenanceEdge C J) := by
  have htake := List.take_of_length_le (Nat.le_trans (List.length_filter_le
    (fun row => row.visible (asOfTimeParams C asOf now).1 (asOfTimeParams C asOf now).2 &&
      (projection asOf limit).selects row.source row.target row.operationId row.edgeType &&
      ((projection asOf limit).includeSuperseded || !supersededIn db.provenanceEdges.rows
        (asOfTimeParams C asOf now).1 (asOfTimeParams C asOf now).2 row))
    db.provenanceEdges.rows) hrows)
  unfold queryProvenanceEdges
  dsimp only
  rw [if_neg (Nat.not_le.2 hlimit)]
  exact congrArg (List.mapM (mapRowToProvenanceEdge C J)) htake

/-- Where the projection returns, it returns the edges of its rows and nothing else. -/
theorem projects_iff {p : ProvenanceEdge J → Prop}
    (hrows : db.provenanceEdges.rows.length ≤ (projection asOf limit).rowLimit)
    (hlimit : (projection asOf limit).rowLimit < 2 ^ 63)
    {found : List (ProvenanceEdge J)}
    (hfound : queryProvenanceEdges C J db now (projection asOf limit) = .ok found) :
    Projects C J db now asOf limit p ↔
      ∃ row ∈ (projection asOf limit).matchingRows db.provenanceEdges.rows
        (asOfTimeParams C asOf now).1 (asOfTimeParams C asOf now).2,
        ∃ edge, mapRowToProvenanceEdge C J row = .ok edge ∧ p edge := by
  have hread := hfound
  rw [projection_eq hrows hlimit] at hread
  constructor
  · rintro ⟨found', hfound', edge, hedge, hp⟩
    rw [hfound] at hfound'
    cases hfound'
    obtain ⟨row, hrow, hmap⟩ := Lists.exists_of_mem_mapM hread hedge
    exact ⟨row, hrow, edge, hmap, hp⟩
  · rintro ⟨row, hrow, edge, hmap, hp⟩
    exact ⟨found, hfound, edge, Lists.mem_of_mapM hread hrow hmap, hp⟩

/-- The projection returns where its rows can be read. -/
theorem projection_returns
    (hrows : db.provenanceEdges.rows.length ≤ (projection asOf limit).rowLimit)
    (hlimit : (projection asOf limit).rowLimit < 2 ^ 63)
    (hread : ProjectionReadable C J db.provenanceEdges.rows (asOfTimeParams C asOf now).1
      (asOfTimeParams C asOf now).2) :
    ∃ found, queryProvenanceEdges C J db now (projection asOf limit) = .ok found := by
  rw [projection_eq hrows hlimit]
  refine Lists.exists_mapM_eq_ok fun row hrow => ?_
  obtain ⟨hmem, hvisible, hfree⟩ := mem_projection.1 hrow
  exact hread row hmem hvisible hfree

/-- The projection keeps a supersession of every superseded item exactly where it can read its rows
and no item is superseded twice. -/
theorem projection_keeps_iff
    (hrows : db.provenanceEdges.rows.length ≤ (projection asOf limit).rowLimit)
    (hlimit : (projection asOf limit).rowLimit < 2 ^ 63) :
    ProjectionKeeps C J db now asOf limit ↔
      ProjectionReadable C J db.provenanceEdges.rows (asOfTimeParams C asOf now).1
        (asOfTimeParams C asOf now).2 ∧
      SupersededOnce db.provenanceEdges.rows (asOfTimeParams C asOf now).1
        (asOfTimeParams C asOf now).2 := by
  constructor
  · intro h
    refine ⟨fun row hrow hvisible hfree => ?_, fun row hrow other hother hsup hsup' htarget => ?_⟩
    · by_contra hread
      refine hfree (h.hidden row hrow hvisible ?_)
      rintro ⟨found, hfound, edge, hedge, hid⟩
      rw [projection_eq hrows hlimit] at hfound
      obtain ⟨edge, hmap⟩ := Lists.exists_of_mapM hfound (mem_projection.2 ⟨hrow, hvisible, hfree⟩)
      exact hread ⟨edge, hmap⟩
    · by_contra hid
      obtain ⟨found, hfound, hedge⟩ := h.shown row hrow hsup
      obtain ⟨shown, hshown, edge, hmap, htype, hedgeTarget⟩ :=
        (projects_iff hrows hlimit hfound).1 ⟨found, hfound, hedge⟩
      obtain ⟨hmem, -, hfree⟩ := mem_projection.1 hshown
      have hshownTarget : shown.target = row.target := (mapRow_eq_ok hmap).2.1 ▸ hedgeTarget
      -- whichever of the two edges is shown, the other one hides it
      by_cases hrowId : row.edgeId = shown.edgeId
      · exact hfree ⟨other, hother, hsup', htarget.trans hshownTarget.symm, fun he =>
          hid (he.trans hrowId.symm)⟩
      · exact hfree ⟨row, hrow, hsup, hshownTarget.symm, hrowId⟩
  · rintro ⟨hread, honce⟩
    obtain ⟨found, hfound⟩ := projection_returns hrows hlimit hread
    constructor
    · intro row hrow hsup
      have hfree : ¬ ∃ other, SupersededBy db.provenanceEdges.rows (asOfTimeParams C asOf now).1
          (asOfTimeParams C asOf now).2 row other := fun ⟨other, hother, hsup', htarget, hid⟩ =>
        hid (honce row hrow other hother hsup hsup' htarget)
      obtain ⟨edge, hmap⟩ := hread row hrow hsup.2 hfree
      obtain ⟨-, htarget, -, htype⟩ := mapRow_eq_ok hmap
      exact (projects_iff hrows hlimit hfound).2 ⟨row, mem_projection.2 ⟨hrow, hsup.2, hfree⟩, edge,
        hmap, htype.trans hsup.1, htarget⟩
    · intro row hrow hvisible hnot
      by_contra hfree
      obtain ⟨edge, hmap⟩ := hread row hrow hvisible hfree
      exact hnot ((projects_iff hrows hlimit hfound).2
        ⟨row, mem_projection.2 ⟨hrow, hvisible, hfree⟩, edge, hmap, mapRow_edgeId hmap⟩)

end

namespace Sample

/-- A second supersession of the prior fact. -/
def supersedeAgain : EdgeCall :=
  .supersede ⟨"fact", "newest"⟩ ⟨"fact", "prior"⟩ claim none none none
    ⟨⟨"edge-3"⟩, julyTime 13 0 0 0 (by decide)⟩

/-- The supported fact, superseded once and superseded twice. -/
def supersededFact : PooledDb := edgeRun chrono json supported [(supersedeCall, ⟨none, ""⟩)]

def supersededTwice : PooledDb := edgeRun chrono json supersededFact [(supersedeAgain, ⟨none, ""⟩)]

/-- No cut-off. -/
def everything : AsOf := ⟨none, none⟩

/-- The time of a query after both supersessions. -/
def evening : DateTime := julyTime 18 0 0 0 (by decide)

/-- The fact that was superseded twice is reached by recording it. -/
theorem supersededTwice_reachable : EdgesReachable chrono json supersededTwice :=
  ⟨graph, [(supportCall, ⟨none, ""⟩), (supersedeCall, ⟨none, ""⟩), (supersedeAgain, ⟨none, ""⟩)],
    rfl, rfl⟩

end Sample

open Sample in
/-- The projection of the fact that is superseded once shows its supersession. -/
theorem projection_keeps_sample :
    ProjectionKeeps chrono json supersededFact evening everything 10 := by
  refine (projection_keeps_iff (by decide +kernel) (by decide +kernel)).2 ⟨?_, by
    unfold SupersededOnce ProvenanceEdgeRow.Supersession
    decide +kernel⟩
  have hread : (supersededFact.provenanceEdges.rows.all fun row =>
      (mapRowToProvenanceEdge chrono json row).toOption.isSome) = true := by decide +kernel
  intro row hrow _ _
  obtain ⟨edge, hmap, -⟩ := ok_of_any (p := fun _ => true)
    (by simpa using List.all_eq_true.1 hread row hrow)
  exact ⟨edge, hmap⟩

open Sample in
/-- Two supersessions of one fact hide each other. -/
theorem supersessions_hide_each_other :
    ¬ ∀ db : PooledDb, EdgesReachable chrono json db →
      ∀ (now : DateTime) (asOf : AsOf) (limit : Nat),
      db.provenanceEdges.rows.length ≤ (projection asOf limit).rowLimit →
        (projection asOf limit).rowLimit < 2 ^ 63 →
          ProjectionKeeps chrono json db now asOf limit := by
  intro h
  have hkeeps := h supersededTwice supersededTwice_reachable evening everything 10
    (by decide +kernel) (by decide +kernel)
  have hrow : (supersededTwice.provenanceEdges.rows.any fun row => row.edgeType = .supersedes &&
      row.visible (asOfTimeParams chrono everything evening).1 none) = true := by decide +kernel
  obtain ⟨row, hmem, hsup⟩ := List.any_eq_true.1 hrow
  rw [Bool.and_eq_true, decide_eq_true_eq] at hsup
  obtain ⟨found, hfound, edge, hedge, -⟩ := hkeeps.shown row hmem hsup
  have hempty : (queryProvenanceEdges chrono json supersededTwice evening
      (projection everything 10)).toOption.any List.isEmpty = true := by decide +kernel
  rw [hfound] at hempty
  rw [List.isEmpty_iff.1 hempty] at hedge
  cases hedge

end Mnemes
