import Mnemes.Provenance.Past

/-!
# Bitemporal queries and the order of time

A query compares the texts of times, where its cut-offs and the edges mean instants. It returns the
edges that are recorded at or before the one instant and valid at the other, for every set of edges,
exactly where the texts of both cut-offs are faithful (`query_chronological_iff`).
-/

namespace Mnemes

open Relational Rfc3339

variable {C : Chrono} {J : SerdeJson} {db : PooledDb} {row : ProvenanceEdgeRow}
  {edge : ProvenanceEdge J}

/-- A row holds an edge: it reads as the edge, whose times it holds as `chrono` formats them, and
the times have RFC 3339 texts. -/
structure StoredAs (C : Chrono) (J : SerdeJson) (row : ProvenanceEdgeRow)
    (edge : ProvenanceEdge J) : Prop where
  read : mapRowToProvenanceEdge C J row = .ok edge
  recordedAt : row.recordedAt = C.toRfc3339 edge.recordedAt
  validFrom : row.validFrom = edge.validFrom.map C.toRfc3339
  validTo : row.validTo = edge.validTo.map C.toRfc3339
  recorded_fourDigit : edge.recordedAt.FourDigit
  from_fourDigit : ∀ t ∈ edge.validFrom, t.FourDigit
  to_fourDigit : ∀ t ∈ edge.validTo, t.FourDigit

/-- The edge is recorded at or before an instant, and valid at another if one is given. Its validity
includes its start and excludes its end. -/
def ProvenanceEdge.during (edge : ProvenanceEdge J) (recorded : Int) (valid : Option Int) : Bool :=
  edge.recordedAt.instant ≤ recorded && valid.all fun valid =>
    (edge.validFrom.all fun «from» => «from».instant ≤ valid) &&
      edge.validTo.all fun till => valid < till.instant

/-- Cut-offs as they are written. -/
def AsOf.written (recorded valid : Option Written) : AsOf where
  validAt := valid.map fun w => String.ofList w.text
  recordedAtOrBefore := recorded.map fun w => String.ofList w.text

/-- The instant of the recorded cut-off, the present by default. -/
def recordedInstant (recorded : Option Written) (now : DateTime) : Int :=
  (recorded.map Written.instant).getD now.instant

/-! ## Recorded edges are stored -/

/-- A time of a four-digit year is read back from its text. -/
theorem parseRfc3339_toRfc3339 (hC : C.Documented) {t : DateTime} (ht : t.FourDigit)
    (field : String) : parseRfc3339 C (C.toRfc3339 t) field = .ok t := by
  rw [parseRfc3339, hC.parse ht]
  rfl

/-- So is an optional one. -/
theorem parseOptionalRfc3339_map (hC : C.Documented) {t : Option DateTime}
    (ht : ∀ u ∈ t, u.FourDigit) (field : String) :
    parseOptionalRfc3339 C (t.map C.toRfc3339) field = .ok t := by
  cases t with
  | none => rfl
  | some t =>
    simp only [parseOptionalRfc3339, Option.map_some, parseRfc3339_toRfc3339 hC (ht t rfl)]
    rfl

/-- An end that is valid is accepted as it is. -/
theorem MemoryItemRef.new_of_valid {item : MemoryItemRef} (h : validateItemRef item = .ok ()) :
    MemoryItemRef.new item.kind item.id = .ok item := by
  unfold validateItemRef at h
  split at h
  · cases h
  · next hne =>
    rw [Bool.or_eq_true, not_or] at hne
    rw [MemoryItemRef.new, if_neg hne.1, if_neg hne.2]

/-- The row that a valid request with four-digit times leaves holds the edge that it returns. -/
theorem storedAs_of_request (hC : C.Documented) {request : ProvenanceEdgeRequest} {minted : Minted}
    {metadata : Option String} {value : Option J.Value}
    (hsource : validateItemRef request.source = .ok ())
    (htarget : validateItemRef request.target = .ok ())
    (hvalue : normalizedValue J metadata = .ok value)
    (hrecorded : (request.recordedAt.getD minted.now).FourDigit)
    (hfrom : ∀ t ∈ request.validFrom, t.FourDigit) (hto : ∀ t ∈ request.validTo, t.FourDigit)
    (hobserved : ∀ t ∈ request.observedAt, t.FourDigit) :
    StoredAs C J (request.row C minted metadata) (request.edge J minted value) where
  read := by
    have hmetadata : parseMetadataForResult J metadata = .ok value := by
      cases metadata with
      | none => exact hvalue
      | some text =>
        simp only [normalizedValue, parseMetadataForResult] at hvalue ⊢
        cases htext : J.fromStr text with
        | error e => simp [htext, Except.mapError, Except.map] at hvalue
        | ok v => simpa [htext, Except.mapError, Except.map] using hvalue
    simp only [mapRowToProvenanceEdge, ProvenanceEdgeRequest.row,
      MemoryItemRef.new_of_valid hsource,
      MemoryItemRef.new_of_valid htarget, parseOptionalRfc3339_map hC hfrom,
      parseOptionalRfc3339_map hC hto, parseOptionalRfc3339_map hC hobserved,
      parseRfc3339_toRfc3339 hC hrecorded, hmetadata]
    rfl
  recordedAt := rfl
  validFrom := rfl
  validTo := rfl
  recorded_fourDigit := hrecorded
  from_fourDigit := hfrom
  to_fourDigit := hto

/-! ## Faithful cut-offs -/

/-- A canonical text of `chrono` against a faithful cut-off. -/
theorem textLe_written (hC : C.Documented) {w : Written} (hw : w.Faithful) {t : DateTime}
    (ht : t.FourDigit) :
    textLe (C.toRfc3339 t) (String.ofList w.text) = decide (t.instant ≤ w.instant) := by
  rw [hC.format ht, textLe, String.toList_ofList, String.toList_ofList, Bool.eq_iff_iff,
    decide_eq_true_eq]
  exact Written.faithful_iff.1 hw t ht

/-- Under faithful cut-offs the conditions on texts are those on instants. -/
theorem visible_eq_during (hC : C.Documented) (h : StoredAs C J row edge) {w : Written}
    {valid : Option Written} (hw : w.Faithful) (hvalid : ∀ v ∈ valid, v.Faithful) :
    row.visible (String.ofList w.text) (valid.map fun v => String.ofList v.text) =
      edge.during w.instant (valid.map Written.instant) := by
  rw [ProvenanceEdgeRow.visible, ProvenanceEdge.during, h.recordedAt,
    textLe_written hC hw h.recorded_fourDigit, h.validFrom, h.validTo]
  congr 1
  cases valid with
  | none => rfl
  | some v =>
    have hv := hvalid v rfl
    simp only [Option.map_some, Option.all_some]
    congr 1
    · cases hfrom : edge.validFrom with
      | none => rfl
      | some t => simp [textLe_written hC hv (h.from_fourDigit t hfrom)]
    · cases hto : edge.validTo with
      | none => rfl
      | some t =>
        simp only [Option.map_some, Option.all_some, textLe_written hC hv (h.to_fourDigit t hto)]
        rw [← decide_not, decide_eq_decide]
        omega

/-- The recorded cut-off of a query, as a written timestamp. -/
theorem asOfTimeParams_written (hC : C.Documented) (recorded valid : Option Written)
    (hrecorded : ∀ w ∈ recorded, w.Faithful) {now : DateTime} (hnow : now.FourDigit) :
    ∃ w : Written, w.Faithful ∧ w.instant = recordedInstant recorded now ∧
      asOfTimeParams C (.written recorded valid) now =
        (String.ofList w.text, valid.map fun v => String.ofList v.text) := by
  cases recorded with
  | some w => exact ⟨w, hrecorded w rfl, rfl, rfl⟩
  | none =>
    refine ⟨now.written hnow, DateTime.faithful_written hnow, DateTime.instant_written hnow, ?_⟩
    rw [DateTime.text_written, ← hC.format hnow]
    rfl

/-- A query with faithful cut-offs returns the matching edges by the order of time. -/
theorem query_of_faithful (hC : C.Documented) {recorded valid : Option Written}
    (hrecorded : ∀ w ∈ recorded, w.Faithful) (hvalid : ∀ w ∈ valid, w.Faithful)
    {edges : List (ProvenanceEdge J)} {now : DateTime} {query : ProvenanceQuery}
    (hstored : List.Forall₂ (StoredAs C J) db.provenanceEdges.rows edges) (hnow : now.FourDigit)
    (hcut : query.asOf = .written recorded valid) (hincluded : query.includeSuperseded = true)
    (hlimit : query.rowLimit < 2 ^ 63) (henough : edges.length ≤ query.rowLimit) :
    queryProvenanceEdges C J db now query = .ok (edges.filter fun edge =>
      query.selects edge.source edge.target edge.operationId edge.edgeType &&
        edge.during (recordedInstant recorded now) (valid.map Written.instant)) := by
  obtain ⟨w, hw, hinstant, hparams⟩ := asOfTimeParams_written hC recorded valid hrecorded hnow
  have hrows := List.length_filter_le (fun row : ProvenanceEdgeRow =>
    row.visible (String.ofList w.text) (valid.map fun v => String.ofList v.text) &&
      query.selects row.source row.target row.operationId row.edgeType) db.provenanceEdges.rows
  have hlength := hstored.length_eq
  unfold queryProvenanceEdges
  rw [hcut, hparams, ← hinstant]
  simp only [ProvenanceQuery.matchingRows, hincluded, Bool.true_or, Bool.and_true]
  rw [if_neg (Nat.not_le.2 hlimit), List.take_of_length_le (by omega)]
  refine Lists.mapM_filter (hstored.imp fun row edge h => ⟨h.read, ?_⟩)
  obtain ⟨hsource, htarget, hoperation, htype⟩ := mapRow_eq_ok h.read
  rw [visible_eq_during hC h hw hvalid, hsource, htarget, hoperation, htype, Bool.and_comm]

/-! ## Unfaithful cut-offs -/

/-- A database with these rows and nothing else. -/
def PooledDb.ofEdges (edges : Table ProvenanceEdgeRow ProvenanceEdgeRow.edgeId) : PooledDb where
  devices := .empty
  actors := .empty
  operations := .empty
  deviceShards := .empty
  replication _ := ⟨.empty, .empty⟩
  provenanceEdges := edges

/-- A request for an edge with a given start of its validity. -/
def probe (validFrom : Option DateTime) : ProvenanceEdgeRequest where
  edgeType := .supports
  source := ⟨"fact", "a"⟩
  target := ⟨"fact", "b"⟩
  operationId := none
  validFrom := validFrom
  validTo := none
  metadata := none

/-- The edge of a probe and the row that holds it. -/
def probeEdge (J : SerdeJson) (recorded : DateTime) (validFrom : Option DateTime) :
    ProvenanceEdge J :=
  (probe validFrom).edge J ⟨⟨"edge"⟩, recorded⟩ none

def probeDb (C : Chrono) (recorded : DateTime) (validFrom : Option DateTime) : PooledDb :=
  .ofEdges ⟨[(probe validFrom).row C ⟨⟨"edge"⟩, recorded⟩ none], by simp⟩

/-- The row of the probe is the stored form of its edge. -/
theorem probeDb_stored (hC : C.Documented) {recorded : DateTime} {validFrom : Option DateTime}
    (hrecorded : recorded.FourDigit) (hfrom : ∀ t ∈ validFrom, t.FourDigit) :
    List.Forall₂ (StoredAs C J) (probeDb C recorded validFrom).provenanceEdges.rows
      [probeEdge J recorded validFrom] := by
  have ha : validateItemRef ⟨"fact", "a"⟩ = .ok () := by decide +kernel
  have hb : validateItemRef ⟨"fact", "b"⟩ = .ok () := by decide +kernel
  exact .cons (storedAs_of_request hC ha hb rfl hrecorded hfrom nofun nofun) .nil

/-- The chronological meaning of a query with these cut-offs, for every set of stored edges. -/
def AnswersByTime (C : Chrono) (J : SerdeJson) (recorded valid : Option Written) : Prop :=
  ∀ (db : PooledDb) (edges : List (ProvenanceEdge J)) (now : DateTime) (query : ProvenanceQuery),
    List.Forall₂ (StoredAs C J) db.provenanceEdges.rows edges → now.FourDigit →
    query.asOf = .written recorded valid → query.includeSuperseded = true →
    query.rowLimit < 2 ^ 63 → edges.length ≤ query.rowLimit →
    queryProvenanceEdges C J db now query = .ok (edges.filter fun edge =>
      query.selects edge.source edge.target edge.operationId edge.edgeType &&
        edge.during (recordedInstant recorded now) (valid.map Written.instant))

/-- A query without conditions but its cut-offs, on one row. -/
theorem queryProvenanceEdges_single (hrows : db.provenanceEdges.rows = [row])
    (hread : mapRowToProvenanceEdge C J row = .ok edge) (asOf : AsOf) (now : DateTime) :
    queryProvenanceEdges C J db now { asOf, includeSuperseded := true } =
      .ok (if row.visible (asOfTimeParams C asOf now).1 asOf.validAt then [edge] else []) := by
  have hlimit : ProvenanceQuery.rowLimit { asOf, includeSuperseded := true } = 100 := rfl
  simp only [queryProvenanceEdges, ProvenanceQuery.matchingRows, hrows, hlimit,
    ProvenanceQuery.selects, Option.all_none, List.isEmpty_nil, Bool.true_or, Bool.and_true,
    asOfTimeParams]
  rw [if_neg (by decide), List.filter_cons, List.filter_nil]
  split
  · next hvisible => simp [hvisible, hread, bind, Except.bind, pure, Except.pure]
  · next hvisible => simp [hvisible, pure, Except.pure]

/-- On one probe, a query that answers by time decides by time. -/
theorem AnswersByTime.probe {recorded valid : Option Written}
    (h : AnswersByTime C J recorded valid) (hC : C.Documented) {at' now : DateTime}
    (validFrom : Option DateTime) (hat : at'.FourDigit) (hfrom : ∀ t ∈ validFrom, t.FourDigit)
    (hnow : now.FourDigit) :
    ((Mnemes.probe validFrom).row C ⟨⟨"edge"⟩, at'⟩ none).visible
        (asOfTimeParams C (.written recorded valid) now).1
        (valid.map fun v => String.ofList v.text) =
      (probeEdge J at' validFrom).during (recordedInstant recorded now)
        (valid.map Written.instant) := by
  have hstored := probeDb_stored (J := J) hC hat hfrom
  have hread : mapRowToProvenanceEdge C J ((Mnemes.probe validFrom).row C ⟨⟨"edge"⟩, at'⟩ none) =
      .ok (probeEdge J at' validFrom) := by
    cases hstored with
    | cons h _ => exact h.read
  have hquery := h _ _ now { asOf := .written recorded valid, includeSuperseded := true } hstored
    hnow rfl rfl (Nat.lt_of_le_of_lt (Nat.le_refl 100) (by decide)) (Nat.le_of_ble_eq_true rfl)
  rw [queryProvenanceEdges_single rfl hread] at hquery
  have hvalidAt : (AsOf.written recorded valid).validAt =
      valid.map fun v => String.ofList v.text := rfl
  rw [hvalidAt] at hquery
  simp only [ProvenanceQuery.selects, Option.all_none, List.isEmpty_nil, Bool.true_or,
    Bool.true_and, List.filter_cons, List.filter_nil, Except.ok.injEq] at hquery
  split at hquery
  · next hvisible =>
    split at hquery
    · next hduring => rw [hvisible, hduring]
    · cases hquery
  · next hvisible =>
    split at hquery
    · cases hquery
    · next hduring => rw [Bool.eq_false_iff.2 hvisible, Bool.eq_false_iff.2 hduring]

/-- What a probe shows of a cut-off. -/
theorem probe_visible {recorded : String} {valid : Option Written} {at' : DateTime}
    {validFrom : Option DateTime} :
    ((probe validFrom).row C ⟨⟨"edge"⟩, at'⟩ none).visible recorded
        (valid.map fun v => String.ofList v.text) =
      (textLe (C.toRfc3339 at') recorded && valid.all fun v =>
        validFrom.all fun t => textLe (C.toRfc3339 t) (String.ofList v.text)) := by
  cases valid <;> cases validFrom <;>
    simp [ProvenanceEdgeRow.visible, ProvenanceEdgeRequest.row, probe]

/-- Whether the probe counts is decided by its two instants. -/
theorem probe_during {recorded : Int} {valid : Option Written} {at' : DateTime}
    {validFrom : Option DateTime} :
    (probeEdge J at' validFrom).during recorded (valid.map Written.instant) =
      (decide (at'.instant ≤ recorded) && valid.all fun v =>
        validFrom.all fun t => decide (t.instant ≤ v.instant)) := by
  cases valid <;> cases validFrom <;>
    simp [ProvenanceEdge.during, probeEdge, ProvenanceEdgeRequest.edge, probe] <;> rfl

/-- Queries answer by time for every set of stored edges exactly where their cut-offs are
faithful. -/
theorem query_chronological_iff (hC : C.Documented) (recorded valid : Option Written) :
    AnswersByTime C J recorded valid ↔
      (∀ w ∈ recorded, w.Faithful) ∧ ∀ w ∈ valid, w.Faithful := by
  constructor
  · intro h
    have hrecorded : ∀ w ∈ recorded, w.Faithful := by
      rintro w rfl
      -- an edge recorded at the time in question, valid always
      refine Written.faithful_iff.2 fun t ht => ?_
      have hprobe := h.probe hC none ht nofun DateTime.first_fourDigit
      have hinstant : recordedInstant (some w) DateTime.first = w.instant := rfl
      have hparam : (asOfTimeParams C (.written (some w) valid) DateTime.first).1 =
          String.ofList w.text := rfl
      rw [probe_visible, probe_during, hinstant, hparam] at hprobe
      have htext : textLe (C.toRfc3339 t) (String.ofList w.text) = true ↔
          t.instant ≤ w.instant := by
        cases valid with
        | none => simpa using congrArg (· = true) hprobe
        | some v => simpa using congrArg (· = true) hprobe
      rw [hC.format ht, textLe, String.toList_ofList, String.toList_ofList] at htext
      exact htext
    refine ⟨hrecorded, ?_⟩
    rintro v rfl
    -- an edge recorded at the first instant, valid from the time in question
    refine Written.faithful_iff.2 fun t ht => ?_
    have hprobe := h.probe hC (some t) DateTime.first_fourDigit
      (by rintro _ ⟨⟩; exact ht) DateTime.first_fourDigit
    obtain ⟨w, hw, hinstant, hparams⟩ :=
      asOfTimeParams_written hC recorded (some v) hrecorded DateTime.first_fourDigit
    have hfirst := Written.faithful_iff.1 hw _ DateTime.first_fourDigit
    rw [probe_visible, probe_during, hparams, ← hinstant,
      textLe_written hC hw DateTime.first_fourDigit] at hprobe
    have htext : textLe (C.toRfc3339 t) (String.ofList v.text) = true ↔ t.instant ≤ v.instant := by
      simpa [hfirst.1 w.first_textLe] using congrArg (· = true) hprobe
    rw [hC.format ht, textLe, String.toList_ofList, String.toList_ofList] at htext
    exact htext
  · rintro ⟨hrecorded, hvalid⟩ db edges now query hstored hnow hcut hincluded hlimit henough
    exact query_of_faithful hC hrecorded hvalid hstored hnow hcut hincluded hlimit henough

namespace Sample

/-- Ten o'clock with `Z`, and half a second later as the store writes it. -/
def zulu : Written where
  date := pastTen.date
  fourDigit := by decide
  lowerT := false
  time := pastTen.time
  fraction := []
  zone := .utc false

def canonical : Written := pastTen.written (by decide)

example : String.ofList zulu.text = "2026-07-19T10:00:00Z" ∧
    String.ofList canonical.text = "2026-07-19T10:00:00.500+00:00" := by decide +kernel

/-- The edge of the graph with one edge, recorded half a second after ten. -/
def supportEdge : ProvenanceEdge json :=
  supportRequest.edge json ⟨⟨"edge-1"⟩, pastTen⟩ none

/-- The graph with a support has its one row. -/
theorem supported_rows : supported.provenanceEdges.rows =
    [supportRequest.row chrono ⟨⟨"edge-1"⟩, pastTen⟩ none] := by
  decide +kernel

/-- The row is the stored form of the support. -/
theorem supportEdge_stored : StoredAs chrono json
    (supportRequest.row chrono ⟨⟨"edge-1"⟩, pastTen⟩ none) supportEdge := by
  have hsource : validateItemRef supportRequest.source = .ok () := by decide +kernel
  have htarget : validateItemRef supportRequest.target = .ok () := by decide +kernel
  exact storedAs_of_request chrono_documented hsource htarget rfl (by decide) nofun nofun nofun

end Sample

open Sample in
/-- A cut-off in the canonical form is answered by time. -/
theorem query_chronological_sample : AnswersByTime chrono json (some canonical) none :=
  (query_chronological_iff chrono_documented (some canonical) none).2
    ⟨by rintro _ ⟨⟩; decide, nofun⟩

open Sample in
/-- As of ten o'clock, written with `Z`, the edge recorded half a second later is returned. -/
theorem later_edge_returned :
    List.Forall₂ (StoredAs chrono json) supported.provenanceEdges.rows [supportEdge] ∧
    queryProvenanceEdges chrono json supported (julyTime 13 0 0 0 (by decide))
        { asOf := .written (some zulu) none, includeSuperseded := true } = .ok [supportEdge] ∧
    [supportEdge].filter (fun edge => edge.during zulu.instant none) = [] := by
  refine ⟨?_, ?_, ?_⟩
  · rw [supported_rows]
    exact .cons supportEdge_stored .nil
  · rw [queryProvenanceEdges_single supported_rows supportEdge_stored.read,
      if_pos (by decide +kernel)]
  · rw [List.filter_cons_of_neg (by decide +kernel), List.filter_nil]

end Mnemes
