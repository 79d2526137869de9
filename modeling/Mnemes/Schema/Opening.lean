import Mnemes.Lib.Alone
import Mnemes.Lib.Lists
import Mnemes.Replication.Requests
import Mnemes.Schema.Statements

/-!
# Opening the control plane

`init_schema` checks the generation marker, and then brings the database to the current layout in
one transaction: it creates what is missing, rewrites the marker, adds the tool profiles of an
earlier `actors` table, and adds the catalog rows of devices that have none. An error leaves the
transaction open, and closing the connection takes back what it did (`opening_error`). Two things do
not end as they should: an earlier `audit_events` table is never given its missing column, since the
statement meant for it creates the table only where there is none; and the marker is written anew at
each opening, with the time of that opening (`schema_opening`).
-/

namespace Mnemes

open Concurrency Sqlite

/-! ## The connection -/

/-- The connection that opens the store: the file, and what its transaction made of it so far. -/
structure Connection where
  file : Database SqlValue
  transaction : Option (Database SqlValue) := none

/-- What the statements of the connection see. -/
def Connection.db (c : Connection) : Database SqlValue := c.transaction.getD c.file

@[simp] theorem Connection.db_transaction (file db : Database SqlValue) :
    (⟨file, some db⟩ : Connection).db = db := rfl

/-- A write, which stays in the transaction if there is one. -/
def Connection.write (c : Connection) (db : Database SqlValue) : Connection :=
  match c.transaction with
  | some _ => { c with transaction := some db }
  | none => { c with file := db }

/-- What is left when the connection is closed: a transaction that was not committed is lost. -/
def Connection.close (c : Connection) : Database SqlValue := c.file

/-- A call over a connection. Each of its actions may fail, with a text of the environment: a
statement, its foreign keys, or the file. -/
abbrev Sql (α : Type) := ExceptT MnemesError (Proc Connection (Option String) Empty) α

/-- One statement that reads. -/
def query {α : Type} (f : Database SqlValue → Except String α) : Sql α :=
  ExceptT.mk (Proc.atomic fun c fault =>
    match fault with
    | some error => (.error (.database error), c, [])
    | none => ((f c.db).mapError .database, c, []))

/-- One statement that writes. -/
def execute (now : String) (statement : Statement SqlValue) : Sql Unit :=
  ExceptT.mk (Proc.atomic fun c fault =>
    match fault with
    | some error => (.error (.database error), c, [])
    | none =>
      match statement.apply now c.db with
      | .error error => (.error (.database error), c, [])
      | .ok db => (.ok (), c.write db, []))

/-- A script, statement by statement. -/
def executeBatch (now : String) (script : List (Statement SqlValue)) : Sql Unit :=
  script.forM (execute now)

/-- `BEGIN IMMEDIATE`. -/
def beginImmediate : Sql Unit :=
  ExceptT.mk (Proc.atomic fun c fault =>
    match fault with
    | some error => (.error (.database error), c, [])
    | none => (.ok (), { c with transaction := some c.db }, []))

/-- `COMMIT`. -/
def commit : Sql Unit :=
  ExceptT.mk (Proc.atomic fun c fault =>
    match fault with
    | some error => (.error (.database error), c, [])
    | none => (.ok (), ⟨c.db, none⟩, []))

/-! ## The opening -/

/-- The text of a cell. -/
def SqlValue.text? : SqlValue → Except String String
  | .text value => .ok value
  | _ => .error "Invalid column type"

/-- The number in a cell. -/
def SqlValue.integer? : SqlValue → Except String Int64
  | .integer value => .ok value
  | _ => .error "Invalid column type"

/-- The rows of a table that has the columns a statement names. -/
def select (db : Database SqlValue) (table : String) (columns : List String) :
    Except String (List (Row SqlValue)) :=
  if (db.tables table).isNone then .error s!"no such table: {table}"
  else
    match columns.find? (!db.hasColumn table ·) with
    | some column => .error s!"no such column: {column}"
    | none => .ok (db.rowsOf table)

/-- The generations of the marker, `ORDER BY version ASC`. -/
def schemaVersions (db : Database SqlValue) : Except String (List Int64) := do
  let rows ← select db "_pooled_schema_version" ["version"]
  let versions ← rows.mapM fun row => (row "version").integer?
  return versions.insertionSort (· ≤ ·)

/-- `SELECT MAX(version)`. -/
def maxSchemaVersion (db : Database SqlValue) : Except String Int64 := do
  match (← schemaVersions db).getLast? with
  | some version => return version
  | none => throw "Invalid column type"

/-- The columns that a table must have. -/
def requireColumns (required : String × List String) : Sql Unit :=
  required.2.forM fun column => do
    let present ← query fun db => .ok (db.hasColumn required.1 column)
    if !present then
      throw (.invalidShardCatalog s!"{required.1} is missing required column {column}")

/-- `DeviceStatus::parse`. -/
def DeviceStatus.parse (value rowId : String) : Except MemoryError DeviceStatus :=
  if value = "active" then .ok .active
  else if value = "revoked" then .ok .revoked
  else if value = "quarantined" then .ok .quarantined
  else .error (.corruptData "devices" rowId s!"invalid status '{value}'")

/-- `ShardState::as_str`. -/
def ShardState.asStr : ShardState → String
  | .active => "active"
  | .quarantined => "quarantined"
  | .revoked => "revoked"

/-- The row of `insert_device_shard_row`. -/
def shardValues (device : DeviceId) (status : DeviceStatus) (createdAt : String) :
    List (String × SqlValue) :=
  [("device_id", .text device.text), ("relative_path", .text (shardRelativePath device)),
    ("state", .text (ShardState.ofDeviceStatus status).asStr), ("generation", .integer 1),
    ("routing_terms", .text ""), ("namespaces_json", .text "[]"), ("fact_count", .integer 0),
    ("document_count", .integer 0), ("chunk_count", .integer 0), ("message_count", .integer 0),
    ("search_count", .integer 0), ("ewma_latency_ms", .real), ("last_refreshed_at", .null),
    ("created_at", .text createdAt)]

/-- `value NOT IN (SELECT ...)`. -/
def notIn (value : SqlValue) (values : List SqlValue) : Bool :=
  values.isEmpty || value ≠ .null && !values.contains .null && !values.contains value

/-- The devices without a catalog row: identity, status and time of creation. -/
def pendingDevices (db : Database SqlValue) : Except String (List (String × String × String)) := do
  let devices ← select db "devices" ["device_id", "status", "created_at"]
  let shards ← select db "device_shards" ["device_id"]
  let pending ← (devices.filter fun row =>
    notIn (row "device_id") (shards.map (· "device_id"))).mapM fun row => do
      return (← (row "device_id").text?, ← (row "status").text?, ← (row "created_at").text?)
  return pending.insertionSort fun a b => a.1 ≤ b.1

/-- The statement of `insert_device_shard_row`, once identity and status of the device are read. -/
def insertDeviceShardRow (P : Platform) (pending : String × String × String) :
    Except MnemesError (Statement SqlValue) := do
  let deviceId ← (DeviceId.parse P pending.1).mapError .memory
  let status ← (DeviceStatus.parse pending.2.1 pending.1).mapError .memory
  return .insert "device_shards" (shardValues deviceId status pending.2.2) true

/-- `backfill_device_shards`. -/
def backfillCatalog (P : Platform) (now : String) : Sql Unit := do
  let pending ← query pendingDevices
  pending.forM fun device => do
    let statement ← liftM (insertDeviceShardRow P device)
    execute now statement

/-- The check of `init_schema` before its transaction: the marker, if there is one, is supported. -/
def checkGeneration : Sql Unit := do
  let versionTableExists ← query fun db => .ok (db.tables "_pooled_schema_version").isSome
  if versionTableExists then
    let versions ← query schemaVersions
    if versions ∉ supportedGenerations then
      throw (.invalidShardCatalog (s!"unsupported pooled schema generations {versions}; " ++
        "expected a supported generation marker"))

/-- `init_schema`, where `datetime('now')` is `now`. -/
def initSchema (P : Platform) (now : String) : Sql Unit := do
  checkGeneration
  -- the pragmas
  query fun _ => .ok ()
  beginImmediate
  executeBatch now (schemaBatch now)
  replicationColumns.forM requireColumns
  executeBatch now (markGeneration now)
  let schemaGeneration ← query maxSchemaVersion
  if schemaGeneration ≠ pooledSchemaGeneration then
    throw (.invalidShardCatalog (s!"unsupported pooled schema generation {schemaGeneration}; " ++
      s!"expected {pooledSchemaGeneration}"))
  let hasToolProfile ← query fun db => .ok (db.hasColumn "actors" "tool_profile")
  if !hasToolProfile then executeBatch now migrateActors
  let hasDetail ← query fun db => .ok (db.hasColumn "audit_events" "detail")
  if !hasDetail then executeBatch now migrateAuditEvents
  catalogColumns.forM requireColumns
  backfillCatalog P now
  commit

/-! ## What an opening does -/

/-- A call that failed left the file as it was, and one that succeeded is as `Q` says. -/
def SqlOutcome (file : Database SqlValue) (Q : Connection → Prop) (r : Except MnemesError Unit)
    (c : Connection) : Prop :=
  match r with
  | .error _ => c.file = file
  | .ok _ => Q c

section
variable {file db : Database SqlValue} {Q : Connection → Prop} {now : String} {α : Type}

/-- The rest of a call ends so, from the connection. -/
def Opens (file : Database SqlValue) (Q : Connection → Prop) (c : Connection) (t : Sql Unit) :
    Prop :=
  t.run.Ends (SqlOutcome file Q) c

/-- A call that fails while the file is as it was. -/
theorem opens_throw {c : Connection} {e : MnemesError} (hc : c.file = file) :
    Opens file Q c (throw e) := hc

/-- A query, and what follows it. -/
theorem opens_query {c : Connection} {f : Database SqlValue → Except String α} {k : α → Sql Unit}
    (hc : c.file = file) (hk : ∀ a, f c.db = .ok a → Opens file Q c (k a)) :
    Opens file Q c (query f >>= k) := by
  refine Proc.Ends.attempt_atomic fun fault => ?_
  cases fault with
  | some error => exact hc
  | none =>
    cases hf : f c.db with
    | error e =>
      simp only
      exact hc
    | ok a =>
      simp only
      exact hk a hf

/-- A computation outside the database, and what follows it. -/
theorem opens_lift {c : Connection} {r : Except MnemesError α} {k : α → Sql Unit}
    (hc : c.file = file) (hk : ∀ a, r = .ok a → Opens file Q c (k a)) :
    Opens file Q c ((liftM r : Sql α) >>= k) := by
  cases r with
  | ok a => exact hk a rfl
  | error e => exact hc

/-- A statement of the transaction, and what follows it. -/
theorem opens_execute {statement : Statement SqlValue} {k : Unit → Sql Unit}
    (hk : ∀ db', statement.apply now db = .ok db' → Opens file Q ⟨file, some db'⟩ (k ())) :
    Opens file Q ⟨file, some db⟩ (execute now statement >>= k) := by
  refine Proc.Ends.attempt_atomic fun fault => ?_
  cases fault with
  | some error => exact rfl
  | none =>
    cases hst : statement.apply now db with
    | error e =>
      simp only [Connection.db_transaction, hst]
      exact rfl
    | ok db' =>
      simp only [Connection.db_transaction, hst]
      exact hk db' hst

/-- A script of statements, and what follows it. -/
theorem opens_executeBatch {script : List (Statement SqlValue)} {k : Unit → Sql Unit}
    (hk : ∀ db', applyAll now script db = .ok db' → Opens file Q ⟨file, some db'⟩ (k ())) :
    Opens file Q ⟨file, some db⟩ (executeBatch now script >>= k) := by
  unfold executeBatch
  induction script generalizing db with
  | nil => exact hk db rfl
  | cons st script ih =>
    simp only [List.forM_eq_forM, List.forM_cons, bind_assoc]
    exact opens_execute fun m hst => ih fun db' hrest => hk db' (applyAll_cons.2 ⟨m, hst, hrest⟩)

/-- The check that a table has its columns, and what follows it. -/
theorem opens_requireColumns {c : Connection} {table : String × List String} {k : Unit → Sql Unit}
    (hc : c.file = file) (hk : Opens file Q c (k ())) :
    Opens file Q c (requireColumns table >>= k) := by
  unfold requireColumns
  induction table.2 with
  | nil => exact hk
  | cons column columns ih =>
    simp only [List.forM_eq_forM, List.forM_cons, bind_assoc]
    refine opens_query hc fun present _ => ?_
    split
    · exact opens_throw hc
    · exact ih

/-- The checks of several tables, and what follows them. -/
theorem opens_requireTables {c : Connection} {tables : List (String × List String)}
    {k : Unit → Sql Unit} (hc : c.file = file) (hk : Opens file Q c (k ())) :
    Opens file Q c (tables.forM requireColumns >>= k) := by
  induction tables with
  | nil => exact hk
  | cons table tables ih =>
    simp only [List.forM_eq_forM, List.forM_cons, bind_assoc]
    exact opens_requireColumns hc ih

/-- The check of the stored generation, and what follows it. -/
theorem opens_checkGeneration {c : Connection} {k : Unit → Sql Unit} (hc : c.file = file)
    (hk : Opens file Q c (k ())) : Opens file Q c (checkGeneration >>= k) := by
  unfold checkGeneration
  simp only [bind_assoc]
  refine opens_query hc fun versionTableExists _ => ?_
  split
  · simp only [bind_assoc]
    refine opens_query hc fun versions _ => ?_
    split
    · exact opens_throw hc
    · exact hk
  · exact hk

/-- The transaction starts from the file. -/
theorem opens_beginImmediate {k : Unit → Sql Unit} (hk : Opens file Q ⟨file, some file⟩ (k ())) :
    Opens file Q ⟨file, none⟩ (beginImmediate >>= k) := by
  refine Proc.Ends.attempt_atomic fun fault => ?_
  cases fault with
  | some error => exact rfl
  | none => exact hk

/-- The catalog rows of the pending devices are inserted one by one. -/
theorem opens_backfill {P : Platform} {pending : List (String × String × String)}
    {k : Unit → Sql Unit}
    (hk : ∀ statements db', pending.mapM (insertDeviceShardRow P) = .ok statements →
      applyAll now statements db = .ok db' → Opens file Q ⟨file, some db'⟩ (k ())) :
    Opens file Q ⟨file, some db⟩ ((pending.forM fun device => do
      let statement ← liftM (insertDeviceShardRow P device)
      execute now statement) >>= k) := by
  induction pending generalizing db with
  | nil => exact hk [] db rfl rfl
  | cons device pending ih =>
    simp only [List.forM_eq_forM, List.forM_cons, bind_assoc]
    refine opens_lift rfl fun st hst => opens_execute fun m hm => ih fun sts db' hsts hdb' => ?_
    refine hk (st :: sts) db' ?_ (applyAll_cons.2 ⟨m, hm, hdb'⟩)
    rw [List.mapM_cons, hst, ok_bind, hsts]
    rfl

/-- The transaction becomes the file. -/
theorem opens_commit (hQ : Q ⟨db, none⟩) : Opens file Q ⟨file, some db⟩ commit := by
  intro _ fault
  cases fault with
  | some error => exact rfl
  | none => exact hQ

end

/-- What the statements of an opening made of a file, in their order: what they created, the marker,
the tool profiles, the audit events, and the catalog rows. -/
structure Opening (P : Platform) (now : String) (file db : Database SqlValue) where
  created : Database SqlValue
  marked : Database SqlValue
  profiled : Database SqlValue
  audited : Database SqlValue
  pending : List (String × String × String)
  statements : List (Statement SqlValue)
  create : applyAll now (schemaBatch now) file = .ok created
  mark : applyAll now (markGeneration now) created = .ok marked
  profile : if marked.hasColumn "actors" "tool_profile" then profiled = marked
    else applyAll now migrateActors marked = .ok profiled
  audit : if profiled.hasColumn "audit_events" "detail" then audited = profiled
    else applyAll now migrateAuditEvents profiled = .ok audited
  read : pendingDevices audited = .ok pending
  insert : pending.mapM (insertDeviceShardRow P) = .ok statements
  backfill : applyAll now statements audited = .ok db

/-- An opening that fails leaves the file, and one that succeeds is committed. -/
theorem opens_initSchema {P : Platform} {now : String} {file : Database SqlValue} :
    Opens file (fun c => c.transaction = none ∧ Nonempty (Opening P now file c.file)) ⟨file, none⟩
      (initSchema P now) := by
  unfold initSchema
  refine opens_checkGeneration rfl (opens_query rfl fun _ _ => opens_beginImmediate ?_)
  refine opens_executeBatch fun created create => opens_requireTables rfl ?_
  refine opens_executeBatch fun marked mark => opens_query rfl fun schemaGeneration _ => ?_
  split
  · exact opens_throw rfl
  -- the catalog rows, once the two migrations are done
  have hend : ∀ profiled audited,
      (if marked.hasColumn "actors" "tool_profile" then profiled = marked
        else applyAll now migrateActors marked = .ok profiled) →
      (if profiled.hasColumn "audit_events" "detail" then audited = profiled
        else applyAll now migrateAuditEvents profiled = .ok audited) →
      Opens file (fun c => c.transaction = none ∧ Nonempty (Opening P now file c.file))
        ⟨file, some audited⟩ (do
          catalogColumns.forM requireColumns
          backfillCatalog P now
          commit) := by
    intro profiled audited profile audit
    refine opens_requireTables rfl ?_
    unfold backfillCatalog
    simp only [bind_assoc]
    refine opens_query rfl fun pending read =>
      opens_backfill fun statements db insert backfill => ?_
    exact opens_commit ⟨rfl, ⟨created, marked, profiled, audited, pending, statements, create, mark,
      profile, audit, read, insert, backfill⟩⟩
  have haudit : ∀ profiled,
      (if marked.hasColumn "actors" "tool_profile" then profiled = marked
        else applyAll now migrateActors marked = .ok profiled) →
      Opens file (fun c => c.transaction = none ∧ Nonempty (Opening P now file c.file))
        ⟨file, some profiled⟩ (do
          let hasDetail ← query fun db => .ok (db.hasColumn "audit_events" "detail")
          if !hasDetail then executeBatch now migrateAuditEvents
          catalogColumns.forM requireColumns
          backfillCatalog P now
          commit) := by
    intro profiled profile
    refine opens_query rfl fun hasDetail hcolumn => ?_
    obtain rfl := Except.ok.inj hcolumn
    split
    · next hmissing =>
      have hmissing : profiled.hasColumn "audit_events" "detail" = false := by simpa using hmissing
      refine opens_executeBatch fun audited audit => hend profiled audited profile ?_
      rw [if_neg (by simp [hmissing])]
      exact audit
    · next hpresent =>
      have hpresent : profiled.hasColumn "audit_events" "detail" = true := by simpa using hpresent
      exact hend profiled profiled profile (by rw [if_pos hpresent])
  refine opens_query rfl fun hasToolProfile hcolumn => ?_
  obtain rfl := Except.ok.inj hcolumn
  split
  · next hmissing =>
    have hmissing : marked.hasColumn "actors" "tool_profile" = false := by simpa using hmissing
    refine opens_executeBatch fun profiled profile => haudit profiled ?_
    rw [if_neg (by simp [hmissing])]
    exact profile
  · next hpresent =>
    have hpresent : marked.hasColumn "actors" "tool_profile" = true := by simpa using hpresent
    exact haudit marked (by rw [if_pos hpresent])

end Mnemes
