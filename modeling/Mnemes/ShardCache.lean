import Mnemes.Lib.Recency
import Mnemes.Lib.Table
import Mnemes.Types

/-!
# The shard cache

`ShardStoreCache` keeps the open stores in a map and their keys in a queue (`store.rs`). A use moves
its key to the end of the queue; an insertion evicts from its front while the map is larger than the
capacity, which ends because the queue holds the keys of the map. The cache is exactly the most
recently used distinct keys that fit (`shard_cache_exact_lru`).
-/

namespace Mnemes

open Recency Relational

/-- The cache, with the handles of the stores as its values. -/
structure ShardStoreCache (V : Type) where
  capacity : Nat
  stores : Table (String × V) Prod.fst
  lru : List String
  totalOpens : UInt64

namespace ShardStoreCache

section
variable {V : Type}

/-- `new`. -/
def new (V : Type) (capacity : Nat) : ShardStoreCache V :=
  ⟨max capacity 1, .empty, [], 0⟩

/-- `get_key`. -/
def getKey (c : ShardStoreCache V) (key : String) : Option V × ShardStoreCache V :=
  match c.stores.find? key with
  | none => (none, c)
  | some (_, store) => (some store, { c with lru := c.lru.filter (· ≠ key) ++ [key] })

/-- The loop of `insert_key`, for a number of rounds. An empty queue changes nothing in a round. -/
def evict : Nat → ShardStoreCache V → Option (ShardStoreCache V)
  | 0, _ => none
  | rounds + 1, c =>
    if c.stores.rows.length ≤ c.capacity then some c
    else match c.lru with
      | [] => evict rounds c
      | evicted :: lru => evict rounds { c with lru, stores := c.stores.delete (·.1 = evicted) }

/-- `u64::saturating_add` of one. -/
def saturatingSucc (v : UInt64) : UInt64 := if v.toNat + 1 < 2 ^ 64 then v + 1 else v

/-- `insert_key`. -/
def insertKey (rounds : Nat) (c : ShardStoreCache V) (key : String) (store : V) :
    Option (ShardStoreCache V) :=
  evict rounds { c with
    stores := c.stores.upsert (key, store)
    lru := c.lru.filter (· ≠ key) ++ [key]
    totalOpens := saturatingSucc c.totalOpens }

/-- `clear_shard_cache`. -/
def clear (c : ShardStoreCache V) : ShardStoreCache V := { c with stores := .empty, lru := [] }

end

end ShardStoreCache

/-! ## Runs -/

/-- An operation on the cache. -/
inductive CacheCall (V : Type) where
  | get (key : String)
  | insert (key : String) (store : V)
  | clear

section
variable {V : Type}

/-- An operation, with the answer of a lookup. -/
def CacheCall.exec (rounds : Nat) (c : ShardStoreCache V) :
    CacheCall V → Option (Option V × ShardStoreCache V)
  | .get key => some (c.getKey key)
  | .insert key store => (c.insertKey rounds key store).map (none, ·)
  | .clear => some (none, c.clear)

/-- Operations one after the other, with their answers. -/
def cacheRun (rounds : Nat) (c : ShardStoreCache V) :
    List (CacheCall V) → Option (List (CacheCall V × Option V) × ShardStoreCache V)
  | [] => some ([], c)
  | call :: calls => do
    let (answer, c) ← call.exec rounds c
    let (trace, c) ← cacheRun rounds c calls
    return ((call, answer) :: trace, c)

/-! ## What an LRU cache holds -/

/-- A history of operations: the uses of keys since the last `clear`, in order, and what was last
inserted under each key since then. -/
structure CacheHistory (V : Type) where
  uses : List String
  inserted : String → Option V

namespace CacheHistory

/-- Nothing was used. -/
def empty : CacheHistory V := ⟨[], fun _ => none⟩

/-- What a cache of `n` keys holds under a key: what was last inserted under it, if it is among the
`n` distinct keys used most recently. -/
def held (n : Nat) (h : CacheHistory V) (key : String) : Option V :=
  if key ∈ recent n h.uses then h.inserted key else none

/-- What an operation adds: an insertion is a use, and so is a lookup of a key that is held. -/
def after (n : Nat) (h : CacheHistory V) : CacheCall V → CacheHistory V
  | .get key => if key ∈ recent n h.uses then { h with uses := h.uses ++ [key] } else h
  | .insert key store => ⟨h.uses ++ [key], Function.update h.inserted key (some store)⟩
  | .clear => empty

/-- A lookup is answered with what is held. -/
def answer (n : Nat) (h : CacheHistory V) : CacheCall V → Option V
  | .get key => h.held n key
  | .insert _ _ | .clear => none

/-- The answers to operations, one after the other. -/
def answers (n : Nat) (h : CacheHistory V) : List (CacheCall V) → List (Option V)
  | [] => []
  | call :: calls => h.answer n call :: (h.after n call).answers n calls

/-- A key that was just inserted is held. -/
theorem held_insert {n : Nat} {h : CacheHistory V} {key : String} {store : V} (hn : 1 ≤ n) :
    (h.after n (.insert key store)).held n key = some store := by
  have hlast : key ∈ recent n (h.uses ++ [key]) := recent_snoc n h.uses key ▸ mem_lastN_snoc hn
  exact (if_pos hlast).trans (Function.update_self ..)

end CacheHistory

/-! ## The queue and the map -/

/-- The queue holds each key of the map once, and no other one. -/
def ShardStoreCache.InStep (c : ShardStoreCache V) : Prop :=
  (c.stores.rows.map Prod.fst).Perm c.lru

/-- A store is found exactly if its key is there. -/
theorem find?_isSome {t : Table (String × V) Prod.fst} {key : String} :
    (t.find? key).isSome = true ↔ key ∈ t.rows.map Prod.fst := by
  rw [Option.isSome_iff_exists]
  constructor
  · rintro ⟨row, h⟩
    obtain ⟨hrow, rfl⟩ := Table.find?_eq_some.1 h
    exact List.mem_map_of_mem hrow
  · intro h
    obtain ⟨row, hrow, rfl⟩ := List.mem_map.1 h
    exact ⟨row, Table.find?_eq_some.2 ⟨hrow, rfl⟩⟩

namespace ShardStoreCache

variable {c c' : ShardStoreCache V} {key : String} {store : V}

/-- A cache in step has no key twice. -/
theorem InStep.nodup (h : c.InStep) : c.lru.Nodup := h.nodup_iff.1 c.stores.nodup

/-- A cache in step has the keys of its stores. -/
theorem InStep.mem_iff (h : c.InStep) : key ∈ c.lru ↔ (c.stores.find? key).isSome = true :=
  (List.Perm.mem_iff h).symm.trans find?_isSome.symm

/-- A cache in step has as many keys as stores. -/
theorem InStep.length (h : c.InStep) : c.stores.rows.length = c.lru.length := by
  rw [← h.length_eq, List.length_map]

/-- A map and a queue with the same keys are in step. -/
theorem inStep_of_mem (hnodup : c.lru.Nodup)
    (h : ∀ key, key ∈ c.lru ↔ (c.stores.find? key).isSome = true) : c.InStep :=
  (List.perm_ext_iff_of_nodup c.stores.nodup hnodup).2 fun key => by
    rw [← find?_isSome, h]

/-- A hit answers the store, which becomes the most recent one. -/
theorem getKey_of_some (h : c.stores.find? key = some (key, store)) :
    c.getKey key = (some store, { c with lru := touch key c.lru }) := by
  rw [getKey, h]
  rfl

/-- A miss changes nothing. -/
theorem getKey_of_none (h : c.stores.find? key = none) : c.getKey key = (none, c) := by
  rw [getKey, h]

/-- The least recent store leaves a cache in step. -/
theorem InStep.evicted {evicted : String} {lru : List String} (h : c.InStep)
    (hlru : c.lru = evicted :: lru) :
    InStep { c with lru, stores := c.stores.delete (·.1 = evicted) } := by
  have hnodup := h.nodup
  rw [hlru, List.nodup_cons] at hnodup
  refine inStep_of_mem hnodup.2 fun key => ?_
  change key ∈ lru ↔ ((c.stores.delete (·.1 = evicted)).find? key).isSome = true
  rw [Table.find?_delete_key]
  split
  · next hkey => simpa [hkey] using hnodup.1
  · next hkey => rw [← h.mem_iff, hlru, List.mem_cons, or_iff_right hkey]

/-- More rounds change nothing once the eviction has ended. -/
theorem evict_mono {rounds more : Nat} (h : evict rounds c = some c') (hle : rounds ≤ more) :
    evict more c = some c' := by
  induction rounds generalizing c more with
  | zero => cases h
  | succ rounds ih =>
    obtain ⟨more, rfl⟩ : ∃ m, more = m + 1 := ⟨more - 1, by omega⟩
    have hle : rounds ≤ more := Nat.le_of_succ_le_succ hle
    unfold evict at h ⊢
    split at h
    · next hfits =>
      rw [if_pos hfits]
      exact h
    · next hlarge =>
      rw [if_neg hlarge]
      split at h
      · exact ih h hle
      · exact ih h hle

/-- The eviction ends, and leaves the end of the queue that fits. -/
theorem evict_eq {rounds : Nat} (h : c.InStep) (hpos : 0 < rounds)
    (hrounds : c.lru.length < rounds + c.capacity) :
    ∃ c', evict rounds c = some c' ∧ c'.InStep ∧ c'.lru = lastN c.capacity c.lru ∧
      c'.capacity = c.capacity ∧
      ∀ key ∈ c'.lru, c'.stores.find? key = c.stores.find? key := by
  induction rounds generalizing c with
  | zero => exact absurd hpos (Nat.lt_irrefl 0)
  | succ rounds ih =>
    unfold evict
    split
    · next hle =>
      rw [h.length] at hle
      exact ⟨c, rfl, h, (lastN_of_le hle).symm, rfl, fun _ _ => rfl⟩
    · next hlarge =>
      rw [h.length] at hlarge
      cases hlru : c.lru with
      | nil => simp [hlru] at hlarge
      | cons evicted lru =>
        rw [hlru, List.length_cons] at hrounds hlarge
        obtain ⟨c', hevict, hstep, hlast, hcapacity, hfind⟩ :=
          ih (h.evicted hlru) (by omega) (show lru.length < rounds + c.capacity by omega)
        refine ⟨c', hevict, hstep, ?_, hcapacity, fun key hkey => ?_⟩
        · rw [hlast]
          exact (lastN_append_of_le (a := [evicted]) (show c.capacity ≤ lru.length by omega)).symm
        · rw [hfind key hkey, Table.find?_delete_key, if_neg]
          rintro rfl
          have hnodup := h.nodup
          rw [hlru, List.nodup_cons] at hnodup
          rw [hlast] at hkey
          exact hnodup.1 (List.mem_of_mem_drop hkey)

/-- An insertion takes two rounds: the key is used, and the queue is cut to the capacity. -/
theorem insertKey_eq (h : c.InStep)
    (hlength : c.lru.length ≤ c.capacity) (key : String) (store : V) :
    ∃ c', (∀ rounds ≥ 2, insertKey rounds c key store = some c') ∧ c'.InStep ∧
      c'.lru = lastN c.capacity (touch key c.lru) ∧ c'.capacity = c.capacity ∧
      ∀ k ∈ c'.lru, c'.stores.find? k =
        if key = k then some (key, store) else c.stores.find? k := by
  let used : ShardStoreCache V := { c with
    stores := c.stores.upsert (key, store)
    lru := touch key c.lru
    totalOpens := saturatingSucc c.totalOpens }
  have hstep : used.InStep := by
    refine inStep_of_mem (nodup_touch h.nodup) fun k => ?_
    change k ∈ touch key c.lru ↔ ((c.stores.upsert (key, store)).find? k).isSome = true
    rw [mem_touch, h.mem_iff, Table.find?_upsert]
    by_cases hk : key = k
    · simp [hk]
    · simp [hk, Ne.symm hk]
  have htouch : used.lru.length ≤ c.capacity + 1 := by
    change (touch key c.lru).length ≤ _
    rw [length_touch h.nodup]
    split <;> omega
  obtain ⟨c', hevict, hstep', hlru, hcapacity', hfind⟩ :=
    evict_eq hstep (show 0 < 2 by decide) (show used.lru.length < 2 + c.capacity by omega)
  refine ⟨c', fun rounds hrounds => evict_mono hevict hrounds, hstep', hlru, hcapacity',
    fun k hk => ?_⟩
  rw [hfind k hk]
  exact Table.find?_upsert ..

end ShardStoreCache

/-! ## The invariant -/

section
variable {c : ShardStoreCache V} {n : Nat} {h : CacheHistory V}

/-- The cache holds what the history of its operations leaves within the capacity. -/
structure ShardStoreCache.Recent (c : ShardStoreCache V) (n : Nat) (h : CacheHistory V) : Prop where
  inStep : c.InStep
  capacity : c.capacity = n
  lru : c.lru = recent n h.uses
  stores : ∀ key, (c.stores.find? key).map (·.2) = h.held n key

/-- What is held is found, and nothing else. -/
theorem ShardStoreCache.Recent.find?_isSome (hc : c.Recent n h) {key : String} :
    (c.stores.find? key).isSome = true ↔ key ∈ recent n h.uses := by
  rw [← hc.inStep.mem_iff, hc.lru]

/-- A lookup answers with what is held, and is a use if that is something. -/
theorem ShardStoreCache.Recent.getKey (hc : c.Recent n h) (key : String) :
    (c.getKey key).1 = h.held n key ∧ (c.getKey key).2.Recent n (h.after n (.get key)) := by
  cases hfind : c.stores.find? key with
  | none =>
    have hkey : key ∉ recent n h.uses := fun hmem => by
      simpa [hfind] using hc.find?_isSome.2 hmem
    rw [getKey_of_none hfind, CacheHistory.after, if_neg hkey, ← hc.stores, hfind]
    exact ⟨rfl, hc⟩
  | some row =>
    obtain ⟨k, store⟩ := row
    obtain rfl : k = key := (Table.find?_eq_some.1 hfind).2
    have hkey : k ∈ recent n h.uses := hc.find?_isSome.1 (by rw [hfind]; rfl)
    have hrecent : touch k c.lru = recent n (h.uses ++ [k]) := by
      rw [recent_snoc, ← hc.lru, lastN_of_le]
      rw [length_touch hc.inStep.nodup, if_pos (hc.lru ▸ hkey), hc.lru]
      exact length_recent_le n h.uses
    have hsame : ∀ x, x ∈ touch k c.lru ↔ x ∈ recent n h.uses := by
      intro x
      rw [mem_touch, hc.lru]
      exact or_iff_left_of_imp fun hx => hx ▸ hkey
    rw [getKey_of_some hfind, CacheHistory.after, if_pos hkey, ← hc.stores, hfind]
    refine ⟨rfl, ?_, hc.capacity, hrecent, fun x => ?_⟩
    · exact inStep_of_mem (nodup_touch hc.inStep.nodup) fun x => by
        rw [hsame, hc.find?_isSome]
    · show (c.stores.find? x).map (·.2) = _
      rw [hc.stores, CacheHistory.held, CacheHistory.held]
      simp only [← hrecent, hsame]

/-- An insertion ends, and is a use of its key. -/
theorem ShardStoreCache.Recent.insertKey (hc : c.Recent n h) (key : String) (store : V) :
    ∃ c', (∀ rounds ≥ 2, insertKey rounds c key store = some c') ∧
      c'.Recent n (h.after n (.insert key store)) := by
  obtain ⟨c', hinsert, hstep, hlru, hcapacity, hfind⟩ := insertKey_eq hc.inStep
    (by rw [hc.capacity, hc.lru]; exact length_recent_le n h.uses) key store
  have hrecent : c'.lru = recent n (h.uses ++ [key]) := by
    rw [recent_snoc, hlru, hc.lru, hc.capacity]
  refine ⟨c', hinsert, hstep, hcapacity.trans hc.capacity, hrecent, fun k => ?_⟩
  show _ = if k ∈ recent n (h.uses ++ [key]) then Function.update h.inserted key (some store) k
    else none
  rw [← hrecent]
  by_cases hk : k ∈ c'.lru
  · rw [if_pos hk, hfind k hk]
    by_cases hkey : key = k
    · subst hkey
      simp
    · -- a key that is still there was there before
      have hold : k ∈ recent n h.uses := by
        rw [hlru, hc.lru] at hk
        exact (mem_touch.1 (List.mem_of_mem_drop hk)).resolve_right (Ne.symm hkey)
      rw [if_neg hkey, hc.stores, CacheHistory.held, if_pos hold,
        Function.update_of_ne (Ne.symm hkey)]
  · have hnone : c'.stores.find? k = none := by
      rw [hstep.mem_iff, Bool.not_eq_true, Option.isSome_eq_false_iff] at hk
      exact Option.isNone_iff_eq_none.1 hk
    rw [if_neg hk, hnone]
    rfl

/-- An operation answers as its history says, and keeps the invariant. -/
theorem ShardStoreCache.Recent.exec (hc : c.Recent n h) (call : CacheCall V) :
    ∃ c', (∀ rounds ≥ 2, call.exec rounds c = some (h.answer n call, c')) ∧
      c'.Recent n (h.after n call) := by
  cases call with
  | get key =>
    obtain ⟨hanswer, hrecent⟩ := hc.getKey key
    exact ⟨_, fun _ _ => by rw [CacheCall.exec, CacheHistory.answer, ← hanswer], hrecent⟩
  | insert key store =>
    obtain ⟨c', hinsert, hrecent⟩ := hc.insertKey key store
    exact ⟨c', fun rounds hrounds => by rw [CacheCall.exec, hinsert rounds hrounds]; rfl, hrecent⟩
  | clear =>
    refine ⟨c.clear, fun _ _ => rfl, .nil, hc.capacity, ?_, fun _ => ?_⟩
    · exact (lastN_of_le (Nat.zero_le _)).symm
    · exact (ite_self _).symm

/-- Operations answer as their history says, and leave what it says. -/
theorem ShardStoreCache.Recent.run (hc : c.Recent n h) (calls : List (CacheCall V)) :
    ∃ c', (∀ rounds ≥ 2, cacheRun rounds c calls = some (calls.zip (h.answers n calls), c')) ∧
      c'.Recent n (calls.foldl (CacheHistory.after n) h) := by
  induction calls generalizing c h with
  | nil => exact ⟨c, fun _ _ => rfl, hc⟩
  | cons call calls ih =>
    obtain ⟨c₁, hexec, hrecent⟩ := hc.exec call
    obtain ⟨c₂, hrun, hrecent₂⟩ := ih hrecent
    refine ⟨c₂, fun rounds hrounds => ?_, hrecent₂⟩
    simp only [cacheRun, hexec rounds hrounds, Option.bind_eq_bind, Option.bind_some,
      hrun rounds hrounds]
    rfl

end

/-- The cache is an exact LRU. Every run of operations ends, with two rounds or more for each
eviction, and every lookup is answered with what was last inserted under its key if the key is among
the distinct ones used most recently since the last `clear`, as many as fit, and with nothing else.
In what a run leaves, the queue holds each key of the map once and no other one, the size is at most
the capacity, a key just inserted is there, and the map holds what a lookup would now answer. -/
theorem shard_cache_exact_lru (V : Type) (capacity : Nat) (calls : List (CacheCall V)) :
    ∃ c : ShardStoreCache V,
      (∀ rounds ≥ 2, cacheRun rounds (ShardStoreCache.new V capacity) calls =
        some (calls.zip (CacheHistory.empty.answers (max capacity 1) calls), c)) ∧
      (∀ key, c.lru.count key = if (c.stores.find? key).isSome then 1 else 0) ∧
      c.stores.rows.length ≤ max capacity 1 ∧
      (∀ key store, calls.getLast? = some (.insert key store) →
        c.stores.find? key = some (key, store)) ∧
      c.lru =
        recent (max capacity 1) (calls.foldl (CacheHistory.after (max capacity 1)) .empty).uses ∧
      ∀ key, (c.stores.find? key).map (·.2) =
        (calls.foldl (CacheHistory.after (max capacity 1)) .empty).held (max capacity 1) key := by
  have hnew : (ShardStoreCache.new V capacity).Recent (max capacity 1) .empty :=
    ⟨.nil, rfl, (lastN_of_le (Nat.zero_le _)).symm, fun _ => (ite_self _).symm⟩
  obtain ⟨c, hrun, hrecent⟩ := hnew.run calls
  refine ⟨c, hrun, fun key => ?_, ?_, fun key store hlast => ?_, hrecent.lru, hrecent.stores⟩
  · by_cases hkey : key ∈ c.lru
    · rw [if_pos (hrecent.inStep.mem_iff.1 hkey)]
      exact List.count_eq_one_of_mem hrecent.inStep.nodup hkey
    · rw [if_neg fun h => hkey (hrecent.inStep.mem_iff.2 h)]
      exact List.count_eq_zero_of_not_mem hkey
  · rw [hrecent.inStep.length, hrecent.lru]
    exact length_recent_le _ _
  · obtain ⟨before, rfl⟩ := List.getLast?_eq_some_iff.1 hlast
    have hheld := hrecent.stores key
    rw [List.foldl_append, List.foldl_cons, List.foldl_nil,
      CacheHistory.held_insert (Nat.le_max_right _ _)] at hheld
    obtain ⟨⟨k, v⟩, hfind, rfl⟩ := Option.map_eq_some_iff.1 hheld
    obtain rfl : k = key := (Table.find?_eq_some.1 hfind).2
    exact hfind

end

/-- A lookup keeps the older of two keys in the cache, and the other one is not found again. -/
theorem shard_cache_exact_lru_sample : ∃ c : ShardStoreCache Nat,
    cacheRun 2 (ShardStoreCache.new Nat 2)
      [.insert "a" 1, .insert "b" 2, .get "a", .insert "c" 3, .get "b", .get "a"] =
      some ([(.insert "a" 1, none), (.insert "b" 2, none), (.get "a", some 1),
        (.insert "c" 3, none), (.get "b", none), (.get "a", some 1)], c) ∧
      c.lru = ["c", "a"] := by
  obtain ⟨c, hrun, -, -, -, hlru, -⟩ := shard_cache_exact_lru Nat 2
    [.insert "a" 1, .insert "b" 2, .get "a", .insert "c" 3, .get "b", .get "a"]
  exact ⟨c, hrun 2 (Nat.le_refl 2), hlru⟩

end Mnemes
