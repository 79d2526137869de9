import Mathlib.Data.List.Nodup

/-!
# Tables with a primary key

A table is a list of rows in insertion order whose keys are distinct, so a table that violates its
primary key cannot be built. The operations are the statements an SQL client runs: look a key up,
insert a row unless its key is taken, insert or replace, update the rows a condition selects. Each
is specified by what it does to `find?`, which is all that later proofs use.
-/

namespace Relational

/-- Rows of type `ρ` with primary key `key`. -/
structure Table (ρ : Type) {κ : Type} (key : ρ → κ) where
  rows : List ρ
  nodup : (rows.map key).Nodup

namespace Table

variable {ρ κ : Type} [DecidableEq κ] {key : ρ → κ}

/-- The table without rows. -/
def empty : Table ρ key := ⟨[], List.nodup_nil⟩

instance : Inhabited (Table ρ key) := ⟨empty⟩

/-- The row with key `k`. -/
def find? (t : Table ρ key) (k : κ) : Option ρ := t.rows.find? fun r => key r = k

/-- A row is found exactly if it is in the table, under its key. -/
theorem find?_eq_some {t : Table ρ key} {k : κ} {r : ρ} :
    t.find? k = some r ↔ r ∈ t.rows ∧ key r = k := by
  constructor
  · intro h
    exact ⟨List.mem_of_find?_eq_some h, by simpa using List.find?_some h⟩
  · rintro ⟨hr, rfl⟩
    obtain ⟨rows, hnd⟩ := t
    simp only [find?] at hr ⊢
    induction rows with
    | nil => cases hr
    | cons x xs ih =>
      rw [List.map_cons, List.nodup_cons] at hnd
      rcases List.mem_cons.1 hr with rfl | hr
      · simp
      · have hx : key x ≠ key r := fun he => hnd.1 (he ▸ List.mem_map_of_mem hr)
        rw [List.find?_cons_of_neg (by simpa using hx)]
        exact ih hnd.2 hr

/-- No row is found exactly if none has the key. -/
theorem find?_eq_none {t : Table ρ key} {k : κ} : t.find? k = none ↔ ∀ r ∈ t.rows, key r ≠ k := by
  simp [find?]

/-- Two rows with one key are one row. -/
theorem eq_of_key {t : Table ρ key} {r r' : ρ} (h : r ∈ t.rows) (h' : r' ∈ t.rows)
    (hk : key r = key r') : r = r' := by
  have h1 := find?_eq_some.2 ⟨h, hk⟩
  have h2 := find?_eq_some.2 ⟨h', rfl⟩
  exact Option.some.inj (h1.symm.trans h2)

omit [DecidableEq κ] in
/-- A table is its rows. -/
theorem eq_of_rows {t t' : Table ρ key} (h : t.rows = t'.rows) : t = t' := by
  cases t
  cases t'
  cases h
  rfl

@[simp] theorem find?_empty (k : κ) : (empty : Table ρ key).find? k = none := rfl

/-- `INSERT`: append `r`; `none` where its key is taken. -/
def insert? (t : Table ρ key) (r : ρ) : Option (Table ρ key) :=
  if h : t.find? (key r) = none then
    some ⟨t.rows ++ [r], by
      rw [List.map_append, List.nodup_append]
      refine ⟨t.nodup, by simp, fun a ha b hb hab => ?_⟩
      obtain ⟨x, hx, rfl⟩ := List.mem_map.1 ha
      rw [List.map_singleton, List.mem_singleton] at hb
      exact find?_eq_none.1 h x hx (hab.trans hb)⟩
  else none

/-- Inversion of an insertion. -/
theorem insert?_eq_some {t t' : Table ρ key} {r : ρ} (h : t.insert? r = some t') :
    t.find? (key r) = none ∧ t'.rows = t.rows ++ [r] := by
  unfold insert? at h
  split at h
  · next hn => cases h; exact ⟨hn, rfl⟩
  · cases h

/-- An insertion fails exactly if its key is taken. -/
theorem insert?_eq_none {t : Table ρ key} {r : ρ} :
    t.insert? r = none ↔ ∃ r', t.find? (key r) = some r' := by
  unfold insert?
  split
  · next h => simp [h]
  · next h => exact ⟨fun _ => Option.ne_none_iff_exists'.1 h, fun _ => rfl⟩

/-- After an insertion, the new row is found under its key, and the others as before. -/
theorem find?_insert {t t' : Table ρ key} {r : ρ} (h : t.insert? r = some t') (k : κ) :
    t'.find? k = if key r = k then some r else t.find? k := by
  obtain ⟨hn, hr⟩ := insert?_eq_some h
  simp only [find?, hr, List.find?_append]
  split
  · next hk =>
    subst hk
    rw [show t.rows.find? (fun x => decide (key x = key r)) = none from hn]
    simp
  · next hk => simp [hk]

/-- After an insertion, the rows are those before, and the new one. -/
theorem mem_insert {t t' : Table ρ key} {r x : ρ} (h : t.insert? r = some t') :
    x ∈ t'.rows ↔ x ∈ t.rows ∨ x = r := by
  simp [(insert?_eq_some h).2]

/-- An insertion keeps every row that was there. -/
theorem find?_insert_of_some {t t' : Table ρ key} {r x : ρ} {k : κ} (h : t.insert? r = some t')
    (hx : t.find? k = some x) : t'.find? k = some x := by
  rw [find?_insert h]
  split
  · next hk => subst hk; rw [(insert?_eq_some h).1] at hx; cases hx
  · exact hx

/-- `UPDATE … SET f WHERE p`, where `f` leaves the key alone. -/
def update (t : Table ρ key) (p : ρ → Bool) (f : ρ → ρ) (hf : ∀ r, key (f r) = key r) :
    Table ρ key :=
  ⟨t.rows.map fun r => if p r then f r else r, by
    rw [List.map_map]
    have : (key ∘ fun r => if p r then f r else r) = key := by
      funext r
      simp only [Function.comp_apply]
      split
      · exact hf r
      · rfl
    rw [this]
    exact t.nodup⟩

@[simp] theorem find?_update (t : Table ρ key) (p : ρ → Bool) (f : ρ → ρ)
    (hf : ∀ r, key (f r) = key r) (k : κ) :
    (t.update p f hf).find? k = (t.find? k).map fun r => if p r then f r else r := by
  simp only [find?, update, List.find?_map]
  congr 2
  funext r
  simp only [Function.comp_apply]
  split
  · rw [hf]
  · rfl

omit [DecidableEq κ] in
/-- After an update, the rows are those before, changed where they are selected. -/
theorem mem_update {t : Table ρ key} {p : ρ → Bool} {f : ρ → ρ} {hf : ∀ r, key (f r) = key r}
    {r : ρ} :
    r ∈ (t.update p f hf).rows ↔ ∃ x ∈ t.rows, (if p x then f x else x) = r := by
  simp [update]

/-- `DELETE … WHERE p`. -/
def delete (t : Table ρ key) (p : ρ → Bool) : Table ρ key :=
  ⟨t.rows.filter (!p ·), t.nodup.sublist (List.filter_sublist.map key)⟩

/-- After a deletion by key, no row is found under the key, and the others as before. -/
theorem find?_delete_key (t : Table ρ key) (a k : κ) :
    (t.delete fun r => key r = a).find? k = if k = a then none else t.find? k := by
  simp only [find?, delete, List.find?_filter]
  split
  · next hk =>
    rw [List.find?_eq_none]
    rintro r - hr
    simp [hk] at hr
  · next hk =>
    refine congrArg (List.find? · t.rows) (funext fun r => ?_)
    by_cases hr : key r = k <;> simp [hr, hk]

/-- `INSERT … ON CONFLICT DO UPDATE` of every other column: replace the row with `r`'s key, or
append. -/
def upsert (t : Table ρ key) (r : ρ) : Table ρ key :=
  match h : t.insert? r with
  | some t' => t'
  | none => ⟨t.rows.map fun x => if key x = key r then r else x, by
      rw [List.map_map]
      have : (key ∘ fun x => if key x = key r then r else x) = key := by
        funext x
        simp only [Function.comp_apply]
        split
        · next hk => exact hk.symm
        · rfl
      rw [this]
      exact t.nodup⟩

@[simp] theorem find?_upsert (t : Table ρ key) (r : ρ) (k : κ) :
    (t.upsert r).find? k = if key r = k then some r else t.find? k := by
  unfold upsert
  split
  · next t' h => exact find?_insert h k
  · next h =>
    obtain ⟨x, hx⟩ := insert?_eq_none.1 h
    simp only [find?, List.find?_map]
    split
    · next hk =>
      subst hk
      obtain ⟨hm, hk⟩ := find?_eq_some.1 hx
      have hc : ((fun x => decide (key x = key r)) ∘ fun x => if key x = key r then r else x) =
          fun x => decide (key x = key r) := by
        funext y
        simp only [Function.comp_apply]
        split
        · next hy => simp [hy]
        · rfl
      rw [hc, show t.rows.find? (fun x => decide (key x = key r)) = some x from hx]
      simp [hk]
    · next hk =>
      have hc : ((fun x => decide (key x = k)) ∘ fun x => if key x = key r then r else x) =
          fun x => decide (key x = k) := by
        funext y
        simp only [Function.comp_apply]
        split
        · next hy => simp [hy]
        · rfl
      rw [hc]
      cases hf : t.rows.find? fun x => decide (key x = k) with
      | none => rfl
      | some y =>
        have hy : key y = k := by simpa using List.find?_some hf
        simp [hy, Ne.symm hk]

end Table

end Relational
