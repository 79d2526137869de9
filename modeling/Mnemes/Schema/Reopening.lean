import Mnemes.Schema.Opening
import Mnemes.Server

/-!
# Opening the control plane twice

What an opening leaves of the tables whose earlier layouts it migrates, and what the next opening
does to the rows (`schema_opening`).
-/

namespace Mnemes

open Concurrency Sqlite

/-- The name of the marker's table. -/
abbrev schemaVersionTable : String := "_pooled_schema_version"

/-- The columns that the statements of the store use on the tables with an earlier layout. -/
def laterColumns : List (String × List String) :=
  [("actors", ["actor_id", "device_id", "actor_kind", "tool_profile", "provider_model",
      "recorded_at"]),
    ("audit_events", ["event_id", "device_id", "actor_id", "endpoint", "method", "outcome",
      "detail", "created_at"])]

/-- The columns are there, and the marker is the current one. -/
structure Usable (db : Database SqlValue) : Prop where
  columns : ∀ table ∈ laterColumns, ∀ column ∈ table.2, db.hasColumn table.1 column
  generation : schemaVersions db = .ok [pooledSchemaGeneration]

/-- Every table has the same rows. -/
def SameRows (db db' : Database SqlValue) : Prop := ∀ table, db'.rowsOf table = db.rowsOf table

/-- The actors may lack their tool profiles and the audit events their details; and the catalog has
the keys of the current layout. -/
structure EarlierLayout (db : Database SqlValue) : Prop where
  actors : ∀ t, db.tables "actors" = some t → ∀ column ∈ actorsLayout.columns,
    column.name ≠ "tool_profile" → t.hasColumn column.name
  auditEvents : ∀ t, db.tables "audit_events" = some t → ∀ column ∈ auditEventsLayout.columns,
    column.name ≠ "detail" → t.hasColumn column.name
  deviceShards : ∀ t, db.tables "device_shards" = some t → t.unique = deviceShardsLayout.unique

/-- The audit events, where there is a table of them, have details. -/
def HasDetail (db : Database SqlValue) : Prop :=
  ∀ t, db.tables "audit_events" = some t → t.hasColumn "detail" = true

/-! ## The tables after an opening -/

section
variable {P : Platform} {now now' : String} {file db db' : Database SqlValue} {name : String}

/-- Of the tables with rows, the schema batch touches the marker's only. -/
theorem schemaBatch_target (hname : name ≠ schemaVersionTable) :
    ∀ st ∈ schemaBatch now, st.target ≠ some name := by
  have hall : (schemaBatch now).all (fun st =>
      st.target = none || st.target = some schemaVersionTable) = true := rfl
  intro st hst htarget
  have := List.all_eq_true.1 hall st hst
  rw [htarget] at this
  simp [hname] at this

/-- Writing the marker touches the marker's table only. -/
theorem markGeneration_target (hname : name ≠ schemaVersionTable) :
    ∀ st ∈ markGeneration now, st.target ≠ some name := by
  intro st hst htarget
  simp only [markGeneration, List.mem_cons, List.not_mem_nil, or_false] at hst
  rcases hst with rfl | rfl <;> exact hname (Option.some.inj htarget).symm

/-- The migration of the actors touches the actors only. -/
theorem migrateActors_target (hname : name ≠ "actors") :
    ∀ st ∈ migrateActors, st.target ≠ some name := by
  intro st hst htarget
  simp only [migrateActors, List.mem_cons, List.not_mem_nil, or_false] at hst
  rcases hst with rfl | rfl <;> exact hname (Option.some.inj htarget).symm

/-- The migration of the audit events touches no table's rows. -/
theorem migrateAuditEvents_target : ∀ st ∈ migrateAuditEvents, st.target ≠ some name := by
  intro st hst htarget
  simp only [migrateAuditEvents, List.mem_cons, List.not_mem_nil, or_false] at hst
  rcases hst with rfl | rfl | rfl <;> cases htarget

/-- A catalog row is inserted for a device whose identity and status are read. -/
theorem insertDeviceShardRow_eq_ok {device : String × String × String} {st : Statement SqlValue} :
    insertDeviceShardRow P device = .ok st ↔ ∃ id status, DeviceId.parse P device.1 = .ok id ∧
      DeviceStatus.parse device.2.1 device.1 = .ok status ∧
      st = .insert "device_shards" (shardValues id status device.2.2) true := by
  simp only [insertDeviceShardRow, bind_eq_ok, mapError_eq_ok]
  constructor
  · rintro ⟨id, hid, status, hstatus, h⟩
    cases h
    exact ⟨id, status, hid, hstatus, rfl⟩
  · rintro ⟨id, status, hid, hstatus, rfl⟩
    exact ⟨id, hid, status, hstatus, rfl⟩

/-- The values of the marker's row. -/
def markerValues (now : String) : List (String × SqlValue) :=
  [("version", .integer pooledSchemaGeneration), ("applied_at", .text now)]

/-- What writing the marker leaves of its table. -/
theorem marked_of_markGeneration (h : applyAll now (markGeneration now) file = .ok db) :
    ∃ t, db.tables schemaVersionTable = some t ∧ t.hasColumn "version" = true ∧
      t.rows = [t.row now (markerValues now)] ∧
      ∀ t₀, file.tables schemaVersionTable = some t₀ → t.toLayout = t₀.toLayout := by
  obtain ⟨m, hdelete, h⟩ := applyAll_cons.1 h
  obtain ⟨m', hinsert, hnil⟩ := applyAll_cons.1 h
  cases hnil
  simp only [Statement.apply] at hdelete
  split at hdelete
  · cases hdelete
  next t₀ ht₀ =>
  cases hdelete
  simp only [Statement.apply, Database.set_tables, if_pos] at hinsert
  split at hinsert
  · cases hinsert
  next hcolumns =>
  split at hinsert
  · cases hinsert
  cases hinsert
  refine ⟨⟨t₀.toLayout, [t₀.row now (markerValues now)]⟩, by simp [markerValues], ?_, rfl, ?_⟩
  · have := List.find?_eq_none.1 hcolumns ("version", .integer pooledSchemaGeneration)
      List.mem_cons_self
    simpa using this
  · intro t₁ ht₁
    rw [ht₀] at ht₁
    cases ht₁
    rfl

namespace Opening

variable (o : Opening P now file db)

/-- The backfill touches the catalog only. -/
theorem statements_target (hname : name ≠ "device_shards") :
    ∀ st ∈ o.statements, st.target ≠ some name := by
  intro st hst htarget
  obtain ⟨device, -, hdevice⟩ := Lists.exists_of_mem_mapM o.insert hst
  obtain ⟨_, _, -, -, rfl⟩ := insertDeviceShardRow_eq_ok.1 hdevice
  exact hname (Option.some.inj htarget).symm

/-- The tool profiles are added to the actors only. -/
theorem profiled_keeps {t : Stored SqlValue} (hname : name ≠ "actors")
    (ht : o.marked.tables name = some t) : o.profiled.tables name = some t := by
  have := o.profile
  split at this
  · rw [this, ht]
  · exact applyAll_keeps this (migrateActors_target hname) ht

/-- Nothing is done to a table that is there for the audit events, not even to theirs. -/
theorem audited_keeps {t : Stored SqlValue} (ht : o.profiled.tables name = some t) :
    o.audited.tables name = some t := by
  have := o.audit
  split at this
  · rw [this, ht]
  · exact applyAll_keeps this migrateAuditEvents_target ht

/-- What is created with a layout, unless it is there. -/
theorem created_tables {layout : Layout SqlValue} (hname : name ≠ schemaVersionTable)
    (hcreates : (schemaBatch now).findSome? (·.creates name) = some layout) :
    o.created.tables name = some ((file.tables name).getD ⟨layout, []⟩) :=
  applyAll_creates o.create (schemaBatch_target hname) hcreates

include o in
/-- The audit events are those of the file, or an empty table. -/
theorem auditEvents : db.tables "audit_events" =
    some ((file.tables "audit_events").getD ⟨auditEventsLayout, []⟩) := by
  refine applyAll_keeps o.backfill (o.statements_target (by decide)) (o.audited_keeps
    (o.profiled_keeps (by decide) (applyAll_keeps o.mark (markGeneration_target (by decide))
      (o.created_tables (by decide) ?_))))
  simp [schemaBatch, Statement.creates]

/-- The columns of the actors before the tool profiles are added. -/
theorem marked_actors : o.marked.tables "actors" =
    some ((file.tables "actors").getD ⟨actorsLayout, []⟩) := by
  refine applyAll_keeps o.mark (markGeneration_target (by decide)) (o.created_tables (by decide) ?_)
  simp [schemaBatch, Statement.creates]

include o in
/-- The actors have the columns they had, and tool profiles. -/
theorem actors : ∃ t, db.tables "actors" = some t ∧ t.hasColumn "tool_profile" = true ∧
    ∀ column, ((file.tables "actors").getD ⟨actorsLayout, []⟩).hasColumn column = true →
      t.hasColumn column = true := by
  have hend : ∀ {t}, o.profiled.tables "actors" = some t → db.tables "actors" = some t := fun ht =>
    applyAll_keeps o.backfill (o.statements_target (by decide)) (o.audited_keeps ht)
  have hprofile := o.profile
  have hmarked := o.marked_actors
  generalize (file.tables "actors").getD ⟨actorsLayout, []⟩ = t at hmarked ⊢
  split at hprofile
  · next hcolumn =>
    refine ⟨t, hend (hprofile ▸ hmarked), ?_, fun _ h => h⟩
    simpa [Database.hasColumn, hmarked] using hcolumn
  · -- the column is added, and the rows filled
    simp only [migrateActors] at hprofile
    obtain ⟨m, hadd, hprofile⟩ := applyAll_cons.1 hprofile
    obtain ⟨m', hfill, hnil⟩ := applyAll_cons.1 hprofile
    cases hnil
    simp only [Statement.apply, hmarked] at hadd
    split at hadd
    · cases hadd
    split at hadd
    · cases hadd
      obtain ⟨t', ht', hlayout⟩ := apply_layout hfill (fun _ _ h => by cases h)
        (by rw [Database.set_tables, if_pos (rfl : "actors" = "actors")])
      refine ⟨t', hend ht', ?_, fun column h => ?_⟩
      · rw [hlayout]
        simp [Layout.hasColumn, defaulted]
      · rw [hlayout]
        simp only [Layout.hasColumn, List.any_append, Bool.or_eq_true] at h ⊢
        exact .inl h
    · cases hadd

include o in
/-- The marker: one row, of the current generation and the time of the opening, in a table whose
layout is that of the file. -/
theorem marker : ∃ t, db.tables schemaVersionTable = some t ∧ t.hasColumn "version" = true ∧
    t.rows = [t.row now (markerValues now)] ∧
    ∀ t₀, file.tables schemaVersionTable = some t₀ → t.toLayout = t₀.toLayout := by
  obtain ⟨t, ht, hcolumn, hrows, hlayout⟩ := marked_of_markGeneration o.mark
  refine ⟨t, applyAll_keeps o.backfill (o.statements_target (by decide)) (o.audited_keeps
    (o.profiled_keeps (by decide) ht)), hcolumn, hrows, fun t₀ ht₀ => ?_⟩
  have hadd : (schemaBatch now).all (fun
    | .addColumn .. => false
    | _ => true) = true := rfl
  obtain ⟨t₁, ht₁, hlayout₁⟩ := applyAll_layout o.create (fun st hst column check heq => by
    have := List.all_eq_true.1 hadd st hst
    rw [heq] at this
    cases this) ht₀
  rw [hlayout t₁ ht₁, hlayout₁]

include o in
/-- An opened store is usable where the audit events had their details. -/
theorem usable_iff (hfile : EarlierLayout file) : Usable db ↔ HasDetail file := by
  obtain ⟨actors, hactors, hprofile, hcolumns⟩ := o.actors
  have haudit := o.auditEvents
  -- the columns of a table that the opening may have created
  have hearlier : ∀ {name : String} {layout : Layout SqlValue} {missing column : String},
      (∀ t, file.tables name = some t → ∀ c ∈ layout.columns, c.name ≠ missing →
        t.hasColumn c.name) →
      layout.hasColumn column = true → column ≠ missing →
      ((file.tables name).getD ⟨layout, []⟩).hasColumn column = true := by
    intro name layout missing column hold hlayout hne
    cases ht : file.tables name with
    | none => exact hlayout
    | some t =>
      obtain ⟨c, hc, hname⟩ := List.any_eq_true.1 hlayout
      obtain rfl := of_decide_eq_true hname
      exact hold t ht c hc hne
  constructor
  · intro h t ht
    have := h.columns _ (List.mem_cons_of_mem _ List.mem_cons_self) "detail" (by decide)
    simpa [Database.hasColumn, haudit, ht] using this
  · intro hdetail
    refine ⟨fun table htable column hcolumn => ?_, ?_⟩
    · simp only [laterColumns, List.mem_cons, List.not_mem_nil, or_false] at htable
      rcases htable with rfl | rfl
      · simp only [Database.hasColumn, hactors, Option.any_some]
        by_cases hne : column = "tool_profile"
        · exact hne ▸ hprofile
        · refine hcolumns column (hearlier hfile.actors ?_ hne)
          revert column
          decide
      · simp only [Database.hasColumn, haudit, Option.any_some]
        by_cases hne : column = "detail"
        · subst hne
          cases ht : file.tables "audit_events" with
          | none => decide
          | some t => exact hdetail t ht
        · refine hearlier hfile.auditEvents ?_ hne
          revert column
          decide
    · obtain ⟨t, ht, hversion, hrows, -⟩ := o.marker
      have hcolumn : db.hasColumn schemaVersionTable "version" = true := by
        simpa [Database.hasColumn, ht] using hversion
      have hselect : select db schemaVersionTable ["version"] =
          .ok [t.row now (markerValues now)] := by
        simp [select, Database.rowsOf, ht, hcolumn, ← hrows]
      unfold schemaVersions
      rw [hselect]
      rfl

end Opening

/-! ## The rows after the next opening -/

/-- What a `SELECT` without a condition returns are the rows of the table. -/
theorem select_eq_ok {table : String} {columns : List String} {rows : List (Row SqlValue)}
    (h : select db table columns = .ok rows) : rows = db.rowsOf table := by
  unfold select at h
  split at h
  · cases h
  · split at h
    · cases h
    · cases h
      rfl

/-- The pending devices: rows of devices that the catalog does not list. -/
theorem mem_pendingDevices {pending : List (String × String × String)}
    (h : pendingDevices db = .ok pending) {device : String × String × String} :
    device ∈ pending ↔ ∃ row ∈ db.rowsOf "devices",
      notIn (row "device_id") ((db.rowsOf "device_shards").map (· "device_id")) = true ∧
        row "device_id" = .text device.1 ∧ row "status" = .text device.2.1 ∧
        row "created_at" = .text device.2.2 := by
  simp only [pendingDevices, bind_eq_ok] at h
  obtain ⟨devices, hdevices, shards, hshards, read, hread, h⟩ := h
  cases h
  rw [select_eq_ok hdevices, select_eq_ok hshards] at hread
  have htext : ∀ {value : SqlValue} {text : String}, value.text? = .ok text ↔
      value = .text text := by
    intro value text
    cases value <;> simp [SqlValue.text?]
  have hrow : ∀ {row : Row SqlValue} {device : String × String × String},
      (do return (← (row "device_id").text?, ← (row "status").text?, ← (row "created_at").text?) :
        Except String (String × String × String)) = .ok device ↔
      row "device_id" = .text device.1 ∧ row "status" = .text device.2.1 ∧
        row "created_at" = .text device.2.2 := by
    intro row device
    simp only [bind_eq_ok, htext]
    constructor
    · rintro ⟨_, h1, _, h2, _, h3, h⟩
      cases h
      exact ⟨h1, h2, h3⟩
    · rintro ⟨h1, h2, h3⟩
      exact ⟨_, h1, _, h2, _, h3, rfl⟩
  rw [List.mem_insertionSort]
  constructor
  · intro hmem
    obtain ⟨row, hmem, hdevice⟩ := Lists.exists_of_mem_mapM hread hmem
    obtain ⟨hmem, hnot⟩ := List.mem_filter.1 hmem
    exact ⟨row, hmem, hnot, hrow.1 hdevice⟩
  · rintro ⟨row, hmem, hnot, hdevice⟩
    exact Lists.mem_of_mapM hread (List.mem_filter.2 ⟨hmem, hnot⟩) (hrow.2 hdevice)

/-- What a larger list does not contain, a smaller one does not. -/
theorem notIn_of_subset {value : SqlValue} {values values' : List SqlValue}
    (hsub : values ⊆ values') (h : notIn value values' = true) : notIn value values = true := by
  simp only [notIn, Bool.or_eq_true, List.isEmpty_iff, Bool.and_eq_true, decide_eq_true_eq,
    Bool.not_eq_true', List.contains_eq_mem, decide_eq_false_iff_not] at h ⊢
  rcases h with rfl | ⟨⟨hnull, hnulls⟩, hnot⟩
  · exact .inl (List.subset_nil.1 hsub)
  · exact .inr ⟨⟨hnull, fun h => hnulls (hsub h)⟩, fun h => hnot (hsub h)⟩

variable (o : Opening P now file db) (o' : Opening P now' db db')

namespace Opening

include o in
/-- The backfill changes the rows of the catalog only. -/
theorem audited_rows (hname : name ≠ "device_shards") : db.rowsOf name = o.audited.rowsOf name :=
  applyAll_rows o.backfill (o.statements_target hname)

include o o'

/-- The next opening finds the tool profiles, and adds none. -/
theorem profiled_eq : o'.profiled = o'.marked := by
  obtain ⟨t, ht, hcolumn, -⟩ := o.actors
  have hmarked := o'.marked_actors
  rw [ht, Option.getD_some] at hmarked
  have := o'.profile
  rwa [if_pos (by simpa [Database.hasColumn, hmarked] using hcolumn)] at this

/-- Up to the catalog rows it changes the rows of the marker only. -/
theorem audited_rows_of_opened (hname : name ≠ schemaVersionTable) :
    o'.audited.rowsOf name = db.rowsOf name := by
  have hmarked : o'.marked.rowsOf name = db.rowsOf name := by
    rw [applyAll_rows o'.mark (markGeneration_target hname),
      applyAll_rows o'.create (schemaBatch_target hname)]
  have haudit := o'.audit
  rw [o.profiled_eq o'] at haudit
  split at haudit
  · rw [haudit, hmarked]
  · rw [applyAll_rows haudit migrateAuditEvents_target, hmarked]

/-- The catalog rows it would add were refused, or added, by the opening before. -/
theorem backfilled (hfile : EarlierLayout file) (hnow : now' = now) : db' = o'.audited := by
  subst hnow
  -- the catalog of the first opening
  obtain ⟨t, ht, hunique⟩ : ∃ t, o.audited.tables "device_shards" = some t ∧
      t.unique = deviceShardsLayout.unique := by
    refine ⟨_, o.audited_keeps (o.profiled_keeps (by decide)
      (applyAll_keeps o.mark (markGeneration_target (by decide))
        (o.created_tables (by decide) (?_ : _ = some deviceShardsLayout)))), ?_⟩
    · simp [schemaBatch, Statement.creates]
    · cases hold : file.tables "device_shards" with
      | none => rfl
      | some t => exact hfile.deviceShards t hold
  obtain ⟨t', ht', hlayout, hrows, hrefused⟩ := refuses_after_inserts o.backfill (t := t)
    (fun st hst => by
      obtain ⟨device, -, hdevice⟩ := Lists.exists_of_mem_mapM o.insert hst
      obtain ⟨id, status, -, -, rfl⟩ := insertDeviceShardRow_eq_ok.1 hdevice
      refine ⟨_, rfl, ["device_id"], by rw [hunique]; exact List.mem_cons_self, fun c hc => ?_⟩
      obtain rfl := List.mem_singleton.1 hc
      exact fun h => by cases h) ht
  have htables : o'.audited.tables "device_shards" = some t' := by
    refine o'.audited_keeps (o'.profiled_keeps (by decide)
      (applyAll_keeps o'.mark (markGeneration_target (by decide))
        (applyAll_keeps o'.create (schemaBatch_target (by decide)) ht')))
  refine applyAll_refused o'.backfill htables fun st hst => ?_
  obtain ⟨device, hmem, hdevice⟩ := Lists.exists_of_mem_mapM o'.insert hst
  obtain ⟨id, status, -, -, hst'⟩ := insertDeviceShardRow_eq_ok.1 hdevice
  refine ⟨_, hst', ?_⟩
  -- the device was pending before
  have hpending : device ∈ o.pending := by
    obtain ⟨row, hrow, hnot, hcells⟩ := (mem_pendingDevices o'.read).1 hmem
    refine (mem_pendingDevices o.read).2 ⟨row, ?_, notIn_of_subset ?_ hnot, hcells⟩
    · rwa [← o.audited_rows (by decide), ← o.audited_rows_of_opened o' (by decide)]
    · have hsub : o.audited.rowsOf "device_shards" ⊆ o'.audited.rowsOf "device_shards" := by
        simpa [Database.rowsOf, ht, htables] using hrows
      exact List.map_subset _ hsub
  have hrefuse := hrefused _ (hst' ▸ Lists.mem_of_mapM o.insert hpending hdevice)
  rw [← hlayout] at hrefuse
  refine refuses_mono (List.Subset.refl _) rfl ?_ hrefuse
  have hindexes : db.indexes ⊆ o'.marked.indexes :=
    List.Subset.trans (applyAll_indexes o'.create) (applyAll_indexes o'.mark)
  have haudit := o'.audit
  rw [o.profiled_eq o'] at haudit
  split at haudit
  · rw [haudit]
    exact hindexes
  · exact List.Subset.trans hindexes (applyAll_indexes haudit)

/-- The next opening leaves every row where it reads the same time. -/
theorem sameRows_iff (hfile : EarlierLayout file) : SameRows db db' ↔ now' = now := by
  obtain ⟨t, ht, -, hrows, -⟩ := o.marker
  obtain ⟨t', ht', -, hrows', hlayout⟩ := o'.marker
  have hmarker : db.rowsOf schemaVersionTable = [t.row now (markerValues now)] := by
    simp [Database.rowsOf, ht, ← hrows]
  have hmarker' : db'.rowsOf schemaVersionTable = [t.row now' (markerValues now')] := by
    rw [← hlayout t ht]
    simp [Database.rowsOf, ht', ← hrows']
  constructor
  · intro h
    have := h schemaVersionTable
    rw [hmarker, hmarker'] at this
    exact SqlValue.text.inj (congrFun (List.cons.inj this).1 "applied_at")
  · intro hnow table
    by_cases htable : table = schemaVersionTable
    · rw [htable, hmarker, hmarker', hnow]
    · rw [o.backfilled o' hfile hnow, o.audited_rows_of_opened o' htable]

end Opening

end

/-- An opening that fails leaves the file as it was. Where one succeeds, and then the next one, the
store is usable and no row has changed in between if and only if the audit events had their details,
where there was a table of them, and both openings read the same time. -/
theorem schema_opening {P : Platform} {now now' : String} {file : Database SqlValue}
    (hfile : EarlierLayout file) :
    (∀ xs error ys c, (initSchema P now).run.exec xs ⟨file, none⟩ = (some (.error error, ys), c) →
      c.close = file) ∧
    ∀ xs ys c xs' ys' c',
      (initSchema P now).run.exec xs ⟨file, none⟩ = (some (.ok (), ys), c) →
      (initSchema P now').run.exec xs' ⟨c.close, none⟩ = (some (.ok (), ys'), c') →
      ((Usable c.close ∧ SameRows c.close c'.close) ↔ HasDetail file ∧ now' = now) := by
  refine ⟨fun xs error ys c h => opens_initSchema.exec h, fun xs ys c xs' ys' c' h h' => ?_⟩
  obtain ⟨-, ⟨o⟩⟩ := opens_initSchema.exec h
  obtain ⟨-, ⟨o'⟩⟩ := opens_initSchema.exec h'
  rw [Connection.close, o.usable_iff hfile]
  exact and_congr_right fun _ => o.sameRows_iff o' hfile

namespace Sample

/-- A row with some cells. -/
def rowOf (values : List (String × SqlValue)) : Row SqlValue := fun column =>
  (values.lookup column).getD .null

/-- A layout without one of its columns. -/
def without (layout : Layout SqlValue) (column : String) : Layout SqlValue :=
  { layout with columns := layout.columns.filter (·.name ≠ column) }

/-- A store of the second generation, whose actors have no tool profiles, with a device that has no
catalog row; and its audit events, if there is a table of them. -/
def earlierFile (auditEvents : Option (Stored SqlValue)) : Database SqlValue where
  tables name :=
    if name = schemaVersionTable then
      some ⟨pooledSchemaVersionLayout,
        [rowOf [("version", .integer 2), ("applied_at", .text "before")]]⟩
    else if name = "devices" then
      some ⟨devicesLayout, [rowOf [("device_id", .text deviceA.text), ("status", .text "active"),
        ("created_at", .text "before")]]⟩
    else if name = "actors" then
      some ⟨without actorsLayout "tool_profile", [rowOf [("actor_id", .text "actor")]]⟩
    else if name = "audit_events" then auditEvents
    else none
  indexes := []

/-- Audit events without details. -/
def earlierAuditEvents : Stored SqlValue := ⟨without auditEventsLayout "detail", []⟩

/-- The sample store has an earlier layout. -/
theorem earlierFile_layout {auditEvents : Option (Stored SqlValue)}
    (h : ∀ t, auditEvents = some t → ∀ column ∈ auditEventsLayout.columns,
      column.name ≠ "detail" → t.hasColumn column.name) :
    EarlierLayout (earlierFile auditEvents) where
  actors t ht column hcolumn hne := by
    obtain rfl : _ = t := Option.some.inj ht
    simp only [without, Layout.hasColumn, List.any_filter]
    exact List.any_eq_true.2 ⟨column, hcolumn, by simp [hne]⟩
  auditEvents := h
  deviceShards t ht := by cases ht

/-- Choices without a fault. -/
def faultless : List (Option String) := List.replicate 200 none

/-- What an evaluated opening ended with. -/
theorem exec_eq_ok {P : Platform} {now : String} {xs : List (Option String)} {c : Connection}
    (h : ((initSchema P now).run.exec xs c).1.any (fun r => r.1 = .ok ()) = true) :
    ∃ ys, (initSchema P now).run.exec xs c =
      (some (.ok (), ys), ((initSchema P now).run.exec xs c).2) := by
  obtain ⟨⟨r, ys⟩, hr, hok⟩ := (Option.any_eq_true _ _).1 h
  obtain rfl : r = .ok () := of_decide_eq_true hok
  exact ⟨ys, Prod.ext hr rfl⟩

/-- A store of the second generation is opened, and opened again. -/
def opened : Connection :=
  ((initSchema platform "now").run.exec faultless ⟨earlierFile none, none⟩).2

def reopened : Connection :=
  ((initSchema platform "now").run.exec faultless ⟨opened.close, none⟩).2

end Sample

open Sample in
/-- A store of the second generation gets its catalog row, and the next opening changes none of its
rows. -/
theorem schema_opening_sample : opened.close.rowsOf "device_shards" ≠ [] ∧ Usable opened.close ∧
    SameRows opened.close reopened.close := by
  have hrun : ((initSchema platform "now").run.exec faultless ⟨earlierFile none, none⟩).1.any
        (fun r => r.1 = .ok ()) = true ∧
      ((initSchema platform "now").run.exec faultless ⟨opened.close, none⟩).1.any
        (fun r => r.1 = .ok ()) = true := by decide +kernel
  obtain ⟨ys, h⟩ := exec_eq_ok hrun.1
  obtain ⟨ys', h'⟩ := exec_eq_ok hrun.2
  have hlength : (opened.close.rowsOf "device_shards").length = 1 := by decide +kernel
  have hnil : opened.close.rowsOf "device_shards" ≠ [] := by
    intro hnil
    rw [hnil] at hlength
    cases hlength
  refine ⟨hnil, ?_⟩
  refine ((schema_opening (earlierFile_layout fun t h => ?_)).2 _ _ _ _ _ _ h h').2 ⟨?_, rfl⟩
  · cases h
  · intro t ht
    cases ht

open Sample in
/-- An opening succeeds on audit events without details, and they still have none. -/
theorem audit_detail_missing : ¬ ∀ (P : Platform) (now : String) (file : Database SqlValue) xs ys c,
    EarlierLayout file → (initSchema P now).run.exec xs ⟨file, none⟩ = (some (.ok (), ys), c) →
    Usable c.close := by
  intro hall
  have hrun : ((initSchema platform "now").run.exec faultless
      ⟨earlierFile (some earlierAuditEvents), none⟩).1.any (fun r => r.1 = .ok ()) = true := by
    decide +kernel
  obtain ⟨ys, h⟩ := exec_eq_ok hrun
  have husable := hall _ _ _ _ _ _ (earlierFile_layout fun t ht => ?_) h
  · have hmissing : ((initSchema platform "now").run.exec faultless
        ⟨earlierFile (some earlierAuditEvents), none⟩).2.close.hasColumn "audit_events" "detail" =
        false := by decide +kernel
    have := husable.columns _ (List.mem_cons_of_mem _ List.mem_cons_self) "detail" (by decide)
    rw [hmissing] at this
    cases this
  · cases ht
    decide

end Mnemes
