import Mathlib.Data.List.Dedup

/-!
# Recency

The distinct members of a history in the order of their last use, oldest first, and the most recent
ones of them. What a further use does to these is `touch` and a cut (`recent_snoc`), so a queue that
is kept by touching and cutting holds the most recent members of its history.
-/

namespace Recency

variable {κ : Type}

/-- The last `n` members of a list. -/
def lastN (n : Nat) (l : List κ) : List κ := l.drop (l.length - n)

/-- The last elements are as many as asked for, if there are as many. -/
theorem length_lastN (n : Nat) (l : List κ) : (lastN n l).length = min n l.length := by
  rw [lastN, List.length_drop]
  omega

/-- A list that is short enough is kept whole. -/
theorem lastN_of_le {n : Nat} {l : List κ} (h : l.length ≤ n) : lastN n l = l := by
  rw [lastN, Nat.sub_eq_zero_of_le h, List.drop_zero]

/-- The last elements of an append are those of its second part, if that is long enough. -/
theorem lastN_append_of_le {n : Nat} {a b : List κ} (h : n ≤ b.length) :
    lastN n (a ++ b) = lastN n b := by
  have hlength : (a ++ b).length - n = a.length + (b.length - n) := by
    rw [List.length_append]
    omega
  rw [lastN, lastN, hlength, List.drop_append]
  simp

/-- The last element is among the last ones. -/
theorem mem_lastN_snoc {n : Nat} {l : List κ} {k : κ} (hn : 1 ≤ n) : k ∈ lastN n (l ++ [k]) := by
  rw [lastN, List.drop_append_of_le_length
    (by rw [List.length_append, List.length_singleton]; omega)]
  exact List.mem_append_right _ (List.mem_singleton_self k)

variable [DecidableEq κ]

/-- A use of `k`: it moves to the end. -/
def touch (k : κ) (l : List κ) : List κ := l.filter (· ≠ k) ++ [k]

/-- The `n` distinct members used most recently, oldest first. -/
def recent (n : Nat) (uses : List κ) : List κ := lastN n uses.dedup

@[simp] theorem mem_touch {k x : κ} {l : List κ} : x ∈ touch k l ↔ x ∈ l ∨ x = k := by
  by_cases hx : x = k <;> simp [touch, hx]

/-- A touch in an append removes from both parts, and adds at the end. -/
theorem touch_append (k : κ) (a b : List κ) :
    touch k (a ++ b) = a.filter (· ≠ k) ++ touch k b := by
  simp [touch]

/-- A key that is not there is added at the end. -/
theorem touch_of_notMem {k : κ} {l : List κ} (h : k ∉ l) : touch k l = l ++ [k] := by
  rw [touch, List.filter_eq_self.2 fun x hx => by simpa using ne_of_mem_of_not_mem hx h]

/-- A touch leaves no key twice. -/
theorem nodup_touch {k : κ} {l : List κ} (h : l.Nodup) : (touch k l).Nodup := by
  rw [touch, List.nodup_append]
  refine ⟨h.filter _, List.nodup_singleton k, fun a ha b hb hab => ?_⟩
  have hne := (List.mem_filter.1 ha).2
  rw [hab, List.mem_singleton.1 hb] at hne
  simp at hne

/-- A use of a member keeps the length, that of another one adds one. -/
theorem length_touch {k : κ} {l : List κ} (h : l.Nodup) :
    (touch k l).length = if k ∈ l then l.length else l.length + 1 := by
  split
  · next hk =>
    have herase := List.length_erase_of_mem hk
    have hpos := List.length_pos_of_mem hk
    rw [h.erase_eq_filter] at herase
    have hfilter : l.filter (fun x => decide (x ≠ k)) = l.filter (fun x => x != k) :=
      List.filter_congr fun x _ => by by_cases hx : x = k <;> simp [hx]
    rw [touch, List.length_append, List.length_singleton, hfilter, herase]
    omega
  · next hk => rw [touch_of_notMem hk, List.length_append, List.length_singleton]

/-- In a history, a further use moves its member to the end. -/
theorem dedup_snoc (uses : List κ) (k : κ) : (uses ++ [k]).dedup = touch k uses.dedup := by
  induction uses with
  | nil => rfl
  | cons x uses ih =>
    rw [List.cons_append, List.dedup_cons, List.dedup_cons, ih]
    by_cases hx : x ∈ uses
    · rw [if_pos (List.mem_append_left _ hx), if_pos hx]
    · by_cases hk : x = k
      · subst hk
        rw [if_pos (by simp), if_neg hx]
        simp [touch]
      · rw [if_neg (by simp [hx, hk]), if_neg hx]
        simp [touch, hk]

/-- No key is recent twice. -/
theorem nodup_recent (n : Nat) (uses : List κ) : (recent n uses).Nodup :=
  (List.nodup_dedup uses).sublist (List.drop_sublist _ _)

/-- No more keys are recent than there is room for. -/
theorem length_recent_le (n : Nat) (uses : List κ) : (recent n uses).length ≤ n := by
  rw [recent, length_lastN]
  exact Nat.min_le_left _ _

/-- A further use, to the most recent members. -/
theorem recent_snoc (n : Nat) (uses : List κ) (k : κ) :
    recent n (uses ++ [k]) = lastN n (touch k (recent n uses)) := by
  rw [recent, dedup_snoc]
  rcases Nat.le_total uses.dedup.length n with hle | hle
  · rw [recent, lastN_of_le hle]
  · -- what was cut before does not come back: at most one member leaves its place
    have hsplit : uses.dedup =
        uses.dedup.take (uses.dedup.length - n) ++ recent n uses := (List.take_append_drop _ _).symm
    have hlength : (recent n uses).length = n := by
      rw [recent, length_lastN]
      omega
    have htouch := length_touch (k := k) (nodup_recent n uses)
    rw [hsplit, touch_append]
    refine lastN_append_of_le ?_
    rw [htouch]
    split <;> omega

end Recency
