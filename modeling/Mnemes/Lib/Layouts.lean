import Mathlib.Data.List.Basic

/-!
# Tables with columns

A database file as SQLite keeps it: tables with named columns, their uniqueness keys and checks, and
rows of any cells; and the statements that create tables where they are missing, extend them, and
write rows (`Statement.apply`). A statement leaves every table but its target as it is
(`apply_tables`), so what a script does to a table is known from the statements on that table.

The default value of the type of cells is `NULL`. A foreign key is not a part of a layout.
-/

namespace Sqlite

/-- The cells of a row by the names of their columns. -/
abbrev Row (V : Type) := String → V

/-- A column as it is declared: its default may read the time of the statement. -/
structure Column (V : Type) where
  name : String
  notNull : Bool
  default : String → V

/-- What a table is declared with. -/
structure Layout (V : Type) where
  columns : List (Column V)
  /-- The primary key and the `UNIQUE` keys. -/
  unique : List (List String)
  check : Row V → Bool

/-- A table of a database. -/
structure Stored (V : Type) extends Layout V where
  rows : List (Row V)

/-- An index of a table. -/
structure Index where
  name : String
  table : String
  columns : List String
  unique : Bool

/-- A database: its tables by their names, and its indexes. -/
structure Database (V : Type) where
  tables : String → Option (Stored V)
  indexes : List Index

/-- A statement of a script. -/
inductive Statement (V : Type) where
  /-- `CREATE TABLE IF NOT EXISTS`. -/
  | createTable (name : String) (layout : Layout V)
  /-- `CREATE INDEX IF NOT EXISTS`. -/
  | createIndex (index : Index)
  /-- `ALTER TABLE ADD COLUMN`. -/
  | addColumn (table : String) (column : Column V) (check : Row V → Bool)
  /-- `UPDATE table SET column = value WHERE column IS NULL`. -/
  | fill (table column : String) (value : V)
  /-- `DELETE FROM table`. -/
  | deleteAll (table : String)
  /-- `INSERT INTO table` or `INSERT OR IGNORE INTO table`. -/
  | insert (table : String) (values : List (String × V)) (orIgnore : Bool)

variable {V : Type}

/-- The table has a column of that name (`PRAGMA table_info`). -/
def Layout.hasColumn (t : Layout V) (column : String) : Bool := t.columns.any (·.name = column)

namespace Database

variable (db : Database V)

/-- `PRAGMA table_info`, which shows no columns of a table that does not exist. -/
def hasColumn (table column : String) : Bool := (db.tables table).any (·.hasColumn column)

/-- The rows of a table, none where it does not exist. -/
def rowsOf (table : String) : List (Row V) := (db.tables table).elim [] (·.rows)

/-- The columns of the unique indexes of a table. -/
def keysOf (table : String) : List (List String) :=
  (db.indexes.filter fun index => index.unique && index.table = table).map (·.columns)

/-- The database with another table under that name. -/
def set (table : String) (t : Stored V) : Database V :=
  { db with tables := fun name => if name = table then some t else db.tables name }

@[simp] theorem set_tables (table : String) (t : Stored V) (name : String) :
    (db.set table t).tables name = if name = table then some t else db.tables name := rfl

@[simp] theorem set_indexes (table : String) (t : Stored V) :
    (db.set table t).indexes = db.indexes := rfl

end Database

variable [Inhabited V] [DecidableEq V]

/-- The row of an `INSERT`: the other columns take their defaults. -/
def Layout.row (t : Layout V) (now : String) (values : List (String × V)) : Row V := fun name =>
  match values.lookup name with
  | some value => value
  | none => (t.columns.find? (·.name = name)).elim default (·.default now)

/-- Two rows clash on a key; a `NULL` clashes with nothing. -/
def clash (key : List String) (r r' : Row V) : Bool :=
  key.all fun column => r column = r' column && r column ≠ default

/-- A row that the table's constraints refuse. -/
def Database.refuses (db : Database V) (table : String) (t : Stored V) (r : Row V) : Bool :=
  t.columns.any (fun column => column.notNull && r column.name = default) || !t.check r ||
    (t.unique ++ db.keysOf table).any fun key => t.rows.any fun r' => clash key r r'

/-- Two rows of the table clash on the key. -/
def Stored.clashes (t : Stored V) (key : List String) : Bool :=
  t.rows.tails.any fun
    | [] => false
    | r :: rest => rest.any (clash key r)

/-- What a statement does, at a time; an error is its text. -/
def Statement.apply (now : String) (db : Database V) : Statement V → Except String (Database V)
  | .createTable name layout =>
    .ok (if (db.tables name).isSome then db else db.set name ⟨layout, []⟩)
  | .createIndex index =>
    if db.indexes.any (·.name = index.name) then .ok db
    else
      match db.tables index.table with
      | none => .error s!"no such table: {index.table}"
      | some t =>
        match index.columns.find? (!t.hasColumn ·) with
        | some column => .error s!"no such column: {column}"
        | none =>
          if index.unique && t.clashes index.columns then
            .error s!"UNIQUE constraint failed: {index.table}"
          else .ok { db with indexes := db.indexes ++ [index] }
  | .addColumn table column check =>
    match db.tables table with
    | none => .error s!"no such table: {table}"
    | some t =>
      if t.hasColumn column.name then .error s!"duplicate column name: {column.name}"
      else
        let rows := t.rows.map fun r name =>
          if name = column.name then column.default now else r name
        if rows.all check then
          .ok (db.set table
            { t with
              columns := t.columns ++ [column], check := fun r => t.check r && check r, rows })
        else .error "CHECK constraint failed"
  | .fill table column value =>
    match db.tables table with
    | none => .error s!"no such table: {table}"
    | some t =>
      if t.hasColumn column then
        let rows := t.rows.map fun r name =>
          if name = column ∧ r column = default then value else r name
        .ok (db.set table { t with rows })
      else .error s!"no such column: {column}"
  | .deleteAll table =>
    match db.tables table with
    | none => .error s!"no such table: {table}"
    | some t => .ok (db.set table { t with rows := [] })
  | .insert table values orIgnore =>
    match db.tables table with
    | none => .error s!"no such table: {table}"
    | some t =>
      match values.find? (!t.hasColumn ·.1) with
      | some (column, _) => .error s!"table {table} has no column named {column}"
      | none =>
        let r := t.row now values
        if db.refuses table t r then
          if orIgnore then .ok db else .error s!"constraint failed: {table}"
        else .ok (db.set table { t with rows := t.rows ++ [r] })

/-- The table whose rows or columns a statement may change. -/
def Statement.target : Statement V → Option String
  | .createTable .. | .createIndex .. => none
  | .addColumn table .. | .fill table .. | .deleteAll table | .insert table .. => some table

/-- The layout that a statement creates a table of that name with. -/
def Statement.creates (name : String) : Statement V → Option (Layout V)
  | .createTable table layout => if table = name then some layout else none
  | _ => none

/-- What a script does, all its statements at one time. -/
def applyAll (now : String) (script : List (Statement V)) (db : Database V) :
    Except String (Database V) :=
  script.foldlM (Statement.apply now) db

section
variable {now : String} {db db' : Database V} {st : Statement V} {name : String}

/-- A statement leaves every table but its target. -/
theorem apply_tables (h : st.apply now db = .ok db') (hne : st.target ≠ some name) :
    db'.tables name = db.tables name ∨
      db.tables name = none ∧ ∃ layout, st.creates name = some layout ∧
        db'.tables name = some ⟨layout, []⟩ := by
  have hset : ∀ {table : String} {t : Stored V}, st.target = some table →
      (db.set table t).tables name = db.tables name := by
    intro table t htarget
    rw [Database.set_tables, if_neg]
    rintro rfl
    exact hne htarget
  cases st with
  | createTable table layout =>
    simp only [Statement.apply] at h
    split at h
    · cases h
      exact .inl rfl
    · next hnone =>
      cases h
      rw [Database.set_tables]
      split
      · next heq =>
        subst heq
        exact .inr ⟨by simpa using hnone, layout, by simp [Statement.creates], rfl⟩
      · exact .inl rfl
  | createIndex index =>
    simp only [Statement.apply] at h
    split at h
    · cases h
      exact .inl rfl
    · split at h
      · cases h
      · split at h
        · cases h
        · split at h
          · cases h
          · cases h
            exact .inl rfl
  | addColumn table column check =>
    simp only [Statement.apply] at h
    split at h
    · cases h
    · split at h
      · cases h
      · split at h
        · cases h
          exact .inl (hset rfl)
        · cases h
  | fill table column value =>
    simp only [Statement.apply] at h
    split at h
    · cases h
    · split at h
      · cases h
        exact .inl (hset rfl)
      · cases h
  | deleteAll table =>
    simp only [Statement.apply] at h
    split at h
    · cases h
    · cases h
      exact .inl (hset rfl)
  | insert table values orIgnore =>
    simp only [Statement.apply] at h
    split at h
    · cases h
    · split at h
      · cases h
      · split at h
        · split at h
          · cases h
            exact .inl rfl
          · cases h
        · cases h
          exact .inl (hset rfl)

/-- A table that is there is left as it is. -/
theorem apply_keeps {t : Stored V} (h : st.apply now db = .ok db') (hne : st.target ≠ some name)
    (ht : db.tables name = some t) : db'.tables name = some t := by
  rcases apply_tables h hne with heq | ⟨hnone, -⟩
  · rw [heq, ht]
  · rw [ht] at hnone
    cases hnone

/-- Only an added column changes the layout of a table that is there. -/
theorem apply_layout {t : Stored V} (h : st.apply now db = .ok db')
    (hadd : ∀ column check, st ≠ .addColumn name column check) (ht : db.tables name = some t) :
    ∃ t', db'.tables name = some t' ∧ t'.toLayout = t.toLayout := by
  have hset : ∀ rows, ∃ t', (db.set name { t with rows }).tables name = some t' ∧
      t'.toLayout = t.toLayout :=
    fun rows => ⟨{ t with rows }, by rw [Database.set_tables, if_pos rfl], rfl⟩
  by_cases htarget : st.target = some name
  · cases st with
    | createTable table layout => cases htarget
    | createIndex index => cases htarget
    | addColumn table column check =>
      cases htarget
      exact absurd rfl (hadd column check)
    | fill table column value =>
      cases htarget
      simp only [Statement.apply, ht] at h
      split at h
      · cases h
        exact hset _
      · cases h
    | deleteAll table =>
      cases htarget
      simp only [Statement.apply, ht] at h
      cases h
      exact hset _
    | insert table values orIgnore =>
      cases htarget
      simp only [Statement.apply, ht] at h
      split at h
      · cases h
      · split at h
        · split at h
          · cases h
            exact ⟨t, ht, rfl⟩
          · cases h
        · cases h
          exact hset _
  · exact ⟨t, apply_keeps h htarget ht, rfl⟩

/-- And its rows, where it is not there, too. -/
theorem apply_rows (h : st.apply now db = .ok db') (hne : st.target ≠ some name) :
    db'.rowsOf name = db.rowsOf name := by
  unfold Database.rowsOf
  rcases apply_tables h hne with heq | ⟨hnone, _, -, heq⟩
  · rw [heq]
  · rw [heq, hnone]
    rfl

end

section
variable {now : String} {db db' : Database V} {st : Statement V} {script : List (Statement V)}
  {name : String}

@[simp] theorem applyAll_nil : applyAll now [] db = .ok db := rfl

/-- A script runs statement by statement. -/
theorem applyAll_cons : applyAll now (st :: script) db = .ok db' ↔
    ∃ m, st.apply now db = .ok m ∧ applyAll now script m = .ok db' := by
  unfold applyAll
  rw [List.foldlM_cons]
  cases h : st.apply now db with
  | error e => exact ⟨fun h => (by cases h), fun ⟨_, h, _⟩ => by cases h⟩
  | ok m => exact ⟨fun h => ⟨m, rfl, h⟩, fun ⟨_, h, h'⟩ => by cases h; exact h'⟩

/-- A script that does not aim at a table leaves it. -/
theorem applyAll_keeps {t : Stored V} (h : applyAll now script db = .ok db')
    (hne : ∀ st ∈ script, st.target ≠ some name) (ht : db.tables name = some t) :
    db'.tables name = some t := by
  induction script generalizing db with
  | nil =>
    cases h
    exact ht
  | cons st script ih =>
    obtain ⟨m, hst, hrest⟩ := applyAll_cons.1 h
    exact ih hrest (fun st' hst' => hne st' (List.mem_cons_of_mem _ hst'))
      (apply_keeps hst (hne st List.mem_cons_self) ht)

/-- A script that adds no columns leaves the layout of a table as it is. -/
theorem applyAll_layout {t : Stored V} (h : applyAll now script db = .ok db')
    (hadd : ∀ st ∈ script, ∀ column check, st ≠ .addColumn name column check)
    (ht : db.tables name = some t) :
    ∃ t', db'.tables name = some t' ∧ t'.toLayout = t.toLayout := by
  induction script generalizing db t with
  | nil =>
    cases h
    exact ⟨t, ht, rfl⟩
  | cons st script ih =>
    obtain ⟨m, hst, hrest⟩ := applyAll_cons.1 h
    obtain ⟨t₁, ht₁, hlayout₁⟩ := apply_layout hst (hadd st List.mem_cons_self) ht
    obtain ⟨t', ht', hlayout'⟩ :=
      ih hrest (fun st' hst' => hadd st' (List.mem_cons_of_mem _ hst')) ht₁
    exact ⟨t', ht', hlayout'.trans hlayout₁⟩

/-- A script leaves the rows of a table alone that no statement of it targets. -/
theorem applyAll_rows (h : applyAll now script db = .ok db')
    (hne : ∀ st ∈ script, st.target ≠ some name) : db'.rowsOf name = db.rowsOf name := by
  induction script generalizing db with
  | nil =>
    cases h
    rfl
  | cons st script ih =>
    obtain ⟨m, hst, hrest⟩ := applyAll_cons.1 h
    rw [ih hrest fun st' hst' => hne st' (List.mem_cons_of_mem _ hst'),
      apply_rows hst (hne st List.mem_cons_self)]

/-- It creates the table where it was missing, with the layout of its first statement that does. -/
theorem applyAll_creates {layout : Layout V} (h : applyAll now script db = .ok db')
    (hne : ∀ st ∈ script, st.target ≠ some name)
    (hcreates : script.findSome? (·.creates name) = some layout) :
    db'.tables name = some ((db.tables name).getD ⟨layout, []⟩) := by
  cases ht : db.tables name with
  | some t => exact applyAll_keeps h hne ht
  | none =>
    induction script generalizing db with
    | nil => cases hcreates
    | cons st script ih =>
      obtain ⟨m, hst, hrest⟩ := applyAll_cons.1 h
      have hne' : ∀ st' ∈ script, st'.target ≠ some name :=
        fun st' hst' => hne st' (List.mem_cons_of_mem _ hst')
      rw [List.findSome?_cons] at hcreates
      rcases apply_tables hst (hne st List.mem_cons_self) with heq | ⟨-, layout', hc, heq⟩
      · cases hc : st.creates name with
        | none =>
          rw [hc] at hcreates
          exact ih hrest hne' hcreates (heq.trans ht)
        | some layout' =>
          -- the statement creates a table that was missing
          cases st with
          | createTable table l =>
            simp only [Statement.creates] at hc
            split at hc
            · next hname =>
              subst hname
              simp [Statement.apply, ht] at hst
              rw [← hst, Database.set_tables, if_pos rfl, ht] at heq
              cases heq
            · cases hc
          | _ => cases hc
      · rw [hc] at hcreates
        cases hcreates
        exact applyAll_keeps hrest hne' heq

end

/-! ## Rows that are refused -/

section
variable {now : String} {db db' : Database V} {table : String} {values : List (String × V)}
  {t t' : Stored V} {r : Row V} {script : List (Statement V)}

/-- A statement adds indexes. -/
theorem apply_indexes {st : Statement V} (h : st.apply now db = .ok db') :
    db.indexes ⊆ db'.indexes := by
  cases st with
  | createTable name layout =>
    simp only [Statement.apply] at h
    cases h
    split <;> exact List.Subset.refl _
  | createIndex index =>
    simp only [Statement.apply] at h
    split at h
    · cases h
      exact List.Subset.refl _
    · split at h
      · cases h
      · split at h
        · cases h
        · split at h
          · cases h
          · cases h
            exact List.subset_append_left _ _
  | _ =>
    simp only [Statement.apply] at h
    repeat' split at h
    all_goals
      cases h
      try exact List.Subset.refl _

/-- A script drops no index. -/
theorem applyAll_indexes (h : applyAll now script db = .ok db') : db.indexes ⊆ db'.indexes := by
  induction script generalizing db with
  | nil =>
    cases h
    exact List.Subset.refl _
  | cons st script ih =>
    obtain ⟨m, hst, hrest⟩ := applyAll_cons.1 h
    exact List.Subset.trans (apply_indexes hst) (ih hrest)

/-- What a table refuses it refuses with more rows and more indexes. -/
theorem refuses_mono (hrows : t.rows ⊆ t'.rows) (hlayout : t'.toLayout = t.toLayout)
    (hindexes : db.indexes ⊆ db'.indexes) (h : db.refuses table t r = true) :
    db'.refuses table t' r = true := by
  simp only [Database.refuses, Bool.or_eq_true, List.any_eq_true, hlayout] at h ⊢
  refine h.imp_right fun ⟨key, hkey, row, hrow, hclash⟩ => ⟨key, ?_, row, hrows hrow, hclash⟩
  refine (List.mem_append.1 hkey).elim (List.mem_append_left _) fun hkey => ?_
  obtain ⟨index, hindex, rfl⟩ := List.mem_map.1 hkey
  obtain ⟨hmem, hunique⟩ := List.mem_filter.1 hindex
  exact List.mem_append_right _
    (List.mem_map.2 ⟨index, List.mem_filter.2 ⟨hindexes hmem, hunique⟩, rfl⟩)

/-- What `INSERT OR IGNORE` does to a table that is there: it adds the row, unless it is refused. -/
theorem apply_insert (h : (Statement.insert table values true).apply now db = .ok db')
    (ht : db.tables table = some t) :
    db' = if db.refuses table t (t.row now values) then db
      else db.set table { t with rows := t.rows ++ [t.row now values] } := by
  simp only [Statement.apply, ht] at h
  split at h
  · cases h
  · split at h
    · next href =>
      cases h
      rw [if_pos href]
    · next href =>
      cases h
      rw [if_neg href]

/-- Rows that are refused are not added. -/
theorem applyAll_refused (h : applyAll now script db = .ok db') (ht : db.tables table = some t)
    (hscript : ∀ st ∈ script, ∃ values, st = .insert table values true ∧
      db.refuses table t (t.row now values) = true) : db' = db := by
  induction script with
  | nil =>
    cases h
    rfl
  | cons st script ih =>
    obtain ⟨m, hst, hrest⟩ := applyAll_cons.1 h
    obtain ⟨values, rfl, href⟩ := hscript st List.mem_cons_self
    have := apply_insert hst ht
    rw [if_pos href] at this
    subst this
    exact ih hrest fun st' hst' => hscript st' (List.mem_cons_of_mem _ hst')

/-- A row that was given to `INSERT OR IGNORE` is refused from then on, if the table has a key on
columns that the row has. -/
theorem refuses_after_insert (h : (Statement.insert table values true).apply now db = .ok db')
    (ht : db.tables table = some t) {key : List String} (hkey : key ∈ t.unique)
    (hvalues : ∀ column ∈ key, t.row now values column ≠ default) :
    ∃ t', db'.tables table = some t' ∧ t'.toLayout = t.toLayout ∧ t.rows ⊆ t'.rows ∧
      db'.refuses table t' (t.row now values) = true := by
  have := apply_insert h ht
  split at this
  · next href =>
    subst this
    exact ⟨t, ht, rfl, List.Subset.refl _, href⟩
  · subst this
    refine ⟨{ t with rows := t.rows ++ [t.row now values] },
      by rw [Database.set_tables, if_pos rfl], rfl, List.subset_append_left _ _, ?_⟩
    simp only [Database.refuses, Bool.or_eq_true, List.any_eq_true]
    refine .inr ⟨key, List.mem_append_left _ hkey, _,
      List.mem_append_right _ List.mem_cons_self, ?_⟩
    exact List.all_eq_true.2 fun column hcolumn => by simpa using hvalues column hcolumn

/-- The same over a script of such statements. -/
theorem refuses_after_inserts (h : applyAll now script db = .ok db')
    (hscript : ∀ st ∈ script, ∃ values, st = .insert table values true ∧
      ∃ key ∈ t.unique, ∀ column ∈ key, t.row now values column ≠ default)
    (ht : db.tables table = some t) :
    ∃ t', db'.tables table = some t' ∧ t'.toLayout = t.toLayout ∧ t.rows ⊆ t'.rows ∧
      ∀ values, .insert table values true ∈ script →
        db'.refuses table t' (t.row now values) = true := by
  induction script generalizing db t with
  | nil =>
    cases h
    exact ⟨t, ht, rfl, List.Subset.refl _, fun _ hmem => absurd hmem List.not_mem_nil⟩
  | cons st script ih =>
    obtain ⟨m, hst, hrest⟩ := applyAll_cons.1 h
    obtain ⟨values, rfl, key, hkey, hvalues⟩ := hscript st List.mem_cons_self
    obtain ⟨t₁, ht₁, hlayout₁, hrows₁, href₁⟩ := refuses_after_insert hst ht hkey hvalues
    have hrow : ∀ values, t₁.row now values = t.row now values := fun values => by rw [hlayout₁]
    obtain ⟨t', ht', hlayout', hrows', href'⟩ := ih hrest (t := t₁)
      (fun st' hst' => by
        obtain ⟨values', heq, hkey'⟩ := hscript st' (List.mem_cons_of_mem _ hst')
        refine ⟨values', heq, ?_⟩
        rw [hrow values', hlayout₁]
        exact hkey') ht₁
    refine ⟨t', ht', hlayout'.trans hlayout₁, List.Subset.trans hrows₁ hrows',
      fun values' hmem => ?_⟩
    rcases List.mem_cons.1 hmem with heq | hmem
    · cases heq
      exact refuses_mono hrows' hlayout' (applyAll_indexes hrest) href₁
    · rw [← hrow values']
      exact href' values' hmem

end

end Sqlite
