import Mathlib.Data.Finset.Card
import Mathlib.Data.List.Sort
import Mathlib.Data.List.TakeWhile

/-!
# Rankings of keyed lists

A list of entries that carry a key and a content is ranked by sorting it and keeping the first entry
of each key (`firsts`), which is the best entry of its key (`ranks_firsts`). A ranking is determined
up to ties: two rankings of the same entries agree position by position up to entries that precede
each other (`Ranks.forall₂`), and the position of an entry is the number of keys ahead of it
(`Ranks.ahead_eq`). A scan for two entries of one key with different contents finds the key of the
first one that clashes (`firstConflict_of_sorted`).
-/

namespace Ranking

section
variable {α κ γ : Type} {key : α → κ} {content : α → γ}

/-! ## Conflicts -/

/-- Two entries of one key with different contents. -/
def Conflicting (key : α → κ) (content : α → γ) (l : List α) : Prop :=
  ∃ a ∈ l, ∃ b ∈ l, key a = key b ∧ content a ≠ content b

/-- A conflict stays one in a longer list. -/
theorem Conflicting.mono {l l' : List α} (h : Conflicting key content l) (hsub : l ⊆ l') :
    Conflicting key content l' := by
  obtain ⟨a, ha, b, hb, hab⟩ := h
  exact ⟨a, hsub ha, b, hsub hb, hab⟩

/-- An entry that agrees with the entries of its key does not add a conflict. -/
theorem not_conflicting_append {l : List α} {a : α} (h : ¬ Conflicting key content l)
    (ha : ∀ x ∈ l, key x = key a → content x = content a) :
    ¬ Conflicting key content (l ++ [a]) := by
  rintro ⟨x, hx, y, hy, hkey, hcontent⟩
  simp only [List.mem_append, List.mem_singleton] at hx hy
  rcases hx with hx | rfl <;> rcases hy with hy | rfl
  · exact h ⟨x, hx, y, hy, hkey, hcontent⟩
  · exact hcontent (ha x hx hkey)
  · exact hcontent (ha y hy hkey.symm).symm
  · exact hcontent rfl

variable [DecidableEq κ]

/-- What has been seen of the entries so far: the content of the first entry of each key. -/
def Seen (key : α → κ) (content : α → γ) (seen : List (κ × γ)) (l : List α) : Prop :=
  ∀ k, seen.lookup k = (l.find? fun a => key a = k).map content

/-- Nothing is seen of an empty list. -/
theorem Seen.nil : Seen key content [] [] := fun _ => rfl

/-- An element of a known key adds nothing to what is seen. -/
theorem Seen.known {seen : List (κ × γ)} {l : List α} (h : Seen key content seen l) {a : α} {c : γ}
    (hlookup : seen.lookup (key a) = some c) : Seen key content seen (l ++ [a]) := by
  intro k
  rw [h k, List.find?_append]
  by_cases hk : key a = k
  · subst hk
    rw [h, Option.map_eq_some_iff] at hlookup
    obtain ⟨x, hx, -⟩ := hlookup
    rw [hx, Option.some_or]
  · simp [hk]

/-- An element of a new key is seen with its content. -/
theorem Seen.add {seen : List (κ × γ)} {l : List α} (h : Seen key content seen l) {a : α}
    (hlookup : seen.lookup (key a) = none) :
    Seen key content ((key a, content a) :: seen) (l ++ [a]) := by
  intro k
  rw [List.find?_append]
  by_cases hk : key a = k
  · subst hk
    rw [h, Option.map_eq_none_iff] at hlookup
    simp [hlookup]
  · have hne : (k == key a) = false := by simpa using Ne.symm hk
    rw [List.lookup_cons, hne, h k]
    simp [hk]

variable [DecidableEq γ]

/-- The scan: the first entry whose key was seen with another content. -/
def firstConflict (key : α → κ) (content : α → γ) : List (κ × γ) → List α → Option κ
  | _, [] => none
  | seen, a :: l =>
    match seen.lookup (key a) with
    | some existing =>
      if existing ≠ content a then some (key a) else firstConflict key content seen l
    | none => firstConflict key content ((key a, content a) :: seen) l

/-- The scan finds nothing where there is no conflict, and otherwise the key of the entry that ends
the longest prefix without one. -/
theorem firstConflict_spec {seen : List (κ × γ)} {done l : List α}
    (hseen : Seen key content seen done) (hdone : ¬ Conflicting key content done) :
    (firstConflict key content seen l = none ∧ ¬ Conflicting key content (done ++ l)) ∨
      ∃ mid b post, l = mid ++ b :: post ∧ firstConflict key content seen l = some (key b) ∧
        ¬ Conflicting key content (done ++ mid) ∧
        ∃ a ∈ done ++ mid, key a = key b ∧ content a ≠ content b := by
  induction l generalizing seen done with
  | nil => exact .inl ⟨rfl, by simpa using hdone⟩
  | cons a l ih =>
    unfold firstConflict
    split
    · next existing hlookup =>
      have hfirst := hlookup
      rw [hseen, Option.map_eq_some_iff] at hfirst
      obtain ⟨x, hx, hexisting⟩ := hfirst
      have hmem := List.mem_of_find?_eq_some hx
      have hkey : key x = key a := by simpa using List.find?_some hx
      split
      · next hne =>
        exact .inr ⟨[], a, l, rfl, rfl, by simpa using hdone, x, by simpa using hmem, hkey,
          hexisting ▸ hne⟩
      · next heq =>
        rw [not_not] at heq
        have hagree : ∀ y ∈ done, key y = key a → content y = content a := by
          intro y hy hykey
          by_contra hne
          exact hdone ⟨y, hy, x, hmem, hykey.trans hkey.symm, by rwa [hexisting, heq]⟩
        rcases ih (hseen.known hlookup) (not_conflicting_append hdone hagree) with
          ⟨hnone, hfree⟩ | ⟨mid, b, post, rfl, hsome, hfree, hclash⟩
        · exact .inl ⟨hnone, by simpa using hfree⟩
        · exact .inr ⟨a :: mid, b, post, rfl, hsome, by simpa using hfree, by simpa using hclash⟩
    · next hlookup =>
      have hfirst := hlookup
      rw [hseen, Option.map_eq_none_iff, List.find?_eq_none] at hfirst
      have hagree : ∀ y ∈ done, key y = key a → content y = content a :=
        fun y hy hykey => absurd (by simpa using hykey) (hfirst y hy)
      rcases ih (hseen.add hlookup) (not_conflicting_append hdone hagree) with
        ⟨hnone, hfree⟩ | ⟨mid, b, post, rfl, hsome, hfree, hclash⟩
      · exact .inl ⟨hnone, by simpa using hfree⟩
      · exact .inr ⟨a :: mid, b, post, rfl, hsome, by simpa using hfree, by simpa using hclash⟩

/-- No conflict is found exactly if there is none. -/
theorem firstConflict_eq_none {l : List α} :
    firstConflict key content [] l = none ↔ ¬ Conflicting key content l := by
  rcases firstConflict_spec (l := l) (Seen.nil : Seen key content [] [])
      (by simp [Conflicting]) with
    ⟨hnone, hfree⟩ | ⟨mid, b, post, rfl, hsome, -, a, ha, hkey, hcontent⟩
  · exact ⟨fun _ => hfree, fun _ => hnone⟩
  · rw [List.nil_append] at ha
    rw [hsome]
    exact ⟨fun hnone => absurd hnone (by simp), fun hfree => absurd
      ⟨a, List.mem_append_left _ ha, b, by simp, hkey, hcontent⟩ hfree⟩

/-- In a sorted list, the scan finds the key of an entry that no clashing entry is ahead of. -/
theorem firstConflict_of_sorted {r : α → α → Prop} [IsTrans α r] [Std.Total r] {l : List α}
    (hl : l.Pairwise r) {k : κ} (h : firstConflict key content [] l = some k) :
    ∃ b ∈ l, key b = k ∧ (∃ a ∈ l, key a = key b ∧ content a ≠ content b ∧ r a b) ∧
      ∀ b' ∈ l, (∃ a ∈ l, key a = key b' ∧ content a ≠ content b' ∧ r a b') → r b b' := by
  rcases firstConflict_spec (l := l) (Seen.nil : Seen key content [] [])
      (by simp [Conflicting]) with
    ⟨hnone, -⟩ | ⟨mid, b, post, rfl, hsome, hfree, a, ha, hkey, hcontent⟩
  · rw [hnone] at h
    cases h
  · rw [hsome] at h
    cases h
    rw [List.nil_append] at ha hfree
    obtain ⟨-, hpost, hmid⟩ := List.pairwise_append.1 hl
    obtain ⟨hb, -⟩ := List.pairwise_cons.1 hpost
    refine ⟨b, by simp, rfl, ⟨a, by simp [ha], hkey, hcontent, hmid a ha b List.mem_cons_self⟩, ?_⟩
    -- everything from `b` on comes after it
    have hafter : ∀ x ∈ mid ++ b :: post, x ∉ mid → r b x := by
      intro x hx hout
      rcases List.mem_cons.1 ((List.mem_append.1 hx).resolve_left hout) with rfl | hx
      · exact Std.Refl.refl x
      · exact hb x hx
    rintro b' hb' ⟨a', ha', hkey', hcontent', hle⟩
    by_cases hin : b' ∈ mid
    · have hout : a' ∉ mid := fun hin' => hfree ⟨a', hin', b', hin, hkey', hcontent'⟩
      exact Trans.trans (hafter a' ha' hout) hle
    · exact hafter b' hb' hin

/-- Sorted arrangements of the same entries have the same first conflict, where entries that precede
each other have the same key. -/
theorem firstConflict_perm {r : α → α → Prop} [IsTrans α r] [Std.Total r]
    (hkey : ∀ a b, r a b → r b a → key a = key b) {l l' : List α} (hperm : l.Perm l')
    (hl : l.Pairwise r) (hl' : l'.Pairwise r) :
    firstConflict key content [] l = firstConflict key content [] l' := by
  cases h : firstConflict key content [] l with
  | none =>
    symm
    rw [firstConflict_eq_none] at h ⊢
    exact fun hc => h (hc.mono hperm.symm.subset)
  | some k =>
    cases h' : firstConflict key content [] l' with
    | none =>
      rw [firstConflict_eq_none] at h'
      refine absurd ?_ h'
      obtain ⟨b, hb, -, ⟨a, ha, hab, hne, -⟩, -⟩ := firstConflict_of_sorted hl h
      exact ⟨a, hperm.subset ha, b, hperm.subset hb, hab, hne⟩
    | some k' =>
      obtain ⟨b, hb, rfl, ⟨a, ha, hclash⟩, hmin⟩ := firstConflict_of_sorted hl h
      obtain ⟨b', hb', rfl, ⟨a', ha', hclash'⟩, hmin'⟩ := firstConflict_of_sorted hl' h'
      rw [hkey _ _ (hmin b' (hperm.symm.subset hb') ⟨a', hperm.symm.subset ha', hclash'⟩)
        (hmin' b (hperm.subset hb) ⟨a, hperm.subset ha, hclash⟩)]

/-- The first conflict of a sorted list does not depend on the arrangement before the sort. -/
theorem firstConflict_sort_perm {r : α → α → Prop} [DecidableRel r] [IsTrans α r] [Std.Total r]
    (hkey : ∀ a b, r a b → r b a → key a = key b) {l l' : List α} (hperm : l.Perm l') :
    firstConflict key content [] (l'.insertionSort r) =
      firstConflict key content [] (l.insertionSort r) :=
  firstConflict_perm hkey (((List.perm_insertionSort r l').trans hperm.symm).trans
    (List.perm_insertionSort r l).symm) (List.pairwise_insertionSort r l')
    (List.pairwise_insertionSort r l)

omit [DecidableEq κ] [DecidableEq γ] in
/-- Sorting neither makes nor hides a conflict. -/
theorem conflicting_sort {r : α → α → Prop} [DecidableRel r] {l : List α} :
    Conflicting key content (l.insertionSort r) ↔ Conflicting key content l :=
  ⟨fun h => h.mono (List.perm_insertionSort r l).subset,
    fun h => h.mono (List.perm_insertionSort r l).symm.subset⟩

end

/-! ## Rankings -/

section
variable {α κ : Type} {key : α → κ} {r : α → α → Prop}

/-- `ranked` is a ranking of `l`: one entry of each key, the best one, in order. -/
structure Ranks (key : α → κ) (r : α → α → Prop) (l ranked : List α) : Prop where
  subset : ranked ⊆ l
  keys : (ranked.map key).Nodup
  covers : ∀ a ∈ l, ∃ b ∈ ranked, key b = key a ∧ r b a
  sorted : ranked.Pairwise r

/-- An entry is the best one of its key. -/
def Leads (key : α → κ) (r : α → α → Prop) (l : List α) (a : α) : Prop :=
  ∀ c ∈ l, key c = key a → r a c

/-- A ranking has one element of each key. -/
theorem Ranks.eq_of_key {l ranked : List α} (h : Ranks key r l ranked) {a b : α} (ha : a ∈ ranked)
    (hb : b ∈ ranked) (hkey : key a = key b) : a = b :=
  List.inj_on_of_nodup_map h.keys ha hb hkey

/-- What is ranked leads its key. -/
theorem Ranks.leads {l ranked : List α} (h : Ranks key r l ranked) {a : α} (ha : a ∈ ranked) :
    Leads key r l a := by
  intro c hc hkey
  obtain ⟨b, hb, hbkey, hbc⟩ := h.covers c hc
  rwa [h.eq_of_key ha hb (hkey.symm.trans hbkey.symm)]

/-- A ranking of a list is one of its permutations. -/
theorem Ranks.congr {l l' ranked : List α} (h : Ranks key r l ranked) (hperm : l.Perm l') :
    Ranks key r l' ranked where
  subset := fun _ ha => hperm.subset (h.subset ha)
  keys := h.keys
  covers := fun a ha => h.covers a (hperm.symm.subset ha)
  sorted := h.sorted

/-- A ranking in one order is one in every coarser order. -/
theorem Ranks.mono {r' : α → α → Prop} {l ranked : List α} (h : Ranks key r l ranked)
    (hle : ∀ a b, r a b → r' a b) : Ranks key r' l ranked where
  subset := h.subset
  keys := h.keys
  covers := fun a ha =>
    let ⟨b, hb, hkey, hba⟩ := h.covers a ha
    ⟨b, hb, hkey, hle b a hba⟩
  sorted := h.sorted.imp (hle _ _)

variable [DecidableEq κ]

/-- The first entry of each key, of those whose key has not been seen. -/
def firsts (key : α → κ) : List κ → List α → List α
  | _, [] => []
  | seen, a :: l => if key a ∈ seen then firsts key seen l else a :: firsts key (key a :: seen) l

/-- The first elements of each key keep their order. -/
theorem firsts_sublist {seen : List κ} {l : List α} : (firsts key seen l).Sublist l := by
  induction l generalizing seen with
  | nil => exact List.Sublist.refl []
  | cons a l ih =>
    unfold firsts
    split
    · exact ih.cons a
    · exact ih.cons_cons a

/-- A first element has a key that was not seen before. -/
theorem key_notMem_of_firsts {seen : List κ} {l : List α} {a : α} (h : a ∈ firsts key seen l) :
    key a ∉ seen := by
  induction l generalizing seen with
  | nil => cases h
  | cons b l ih =>
    unfold firsts at h
    split at h
    · exact ih h
    · next hnew =>
      rcases List.mem_cons.1 h with rfl | h
      · exact hnew
      · exact fun hmem => ih h (List.mem_cons_of_mem _ hmem)

/-- The first elements have different keys. -/
theorem firsts_keys {seen : List κ} {l : List α} : ((firsts key seen l).map key).Nodup := by
  induction l generalizing seen with
  | nil => exact List.nodup_nil
  | cons a l ih =>
    unfold firsts
    split
    · exact ih
    · rw [List.map_cons, List.nodup_cons, List.mem_map]
      refine ⟨?_, ih⟩
      rintro ⟨b, hb, hkey⟩
      exact key_notMem_of_firsts hb (hkey ▸ List.mem_cons_self)

/-- Of a sorted list, the first entry of each key precedes every entry of the key. -/
theorem firsts_covers [Std.Refl r] {seen : List κ} {l : List α} (hl : l.Pairwise r) {a : α}
    (ha : a ∈ l) (hnew : key a ∉ seen) : ∃ b ∈ firsts key seen l, key b = key a ∧ r b a := by
  induction l generalizing seen with
  | nil => cases ha
  | cons b l ih =>
    obtain ⟨hb, hl⟩ := List.pairwise_cons.1 hl
    unfold firsts
    split
    · next hseen =>
      rcases List.mem_cons.1 ha with rfl | ha
      · exact absurd hseen hnew
      · exact ih hl ha hnew
    · rcases List.mem_cons.1 ha with rfl | ha
      · exact ⟨a, List.mem_cons_self, rfl, Std.Refl.refl a⟩
      · by_cases hkey : key a = key b
        · exact ⟨b, List.mem_cons_self, hkey.symm, hb a ha⟩
        · obtain ⟨c, hc, hca⟩ := @ih (key b :: seen) hl ha (by simp [hkey, hnew])
          exact ⟨c, List.mem_cons_of_mem _ hc, hca⟩

/-- Sorting and keeping the first entry of each key ranks a list. -/
theorem ranks_firsts (key : α → κ) (r : α → α → Prop) [DecidableRel r] [IsTrans α r] [Std.Total r]
    (l : List α) :
    Ranks key r l (firsts key [] (l.insertionSort r)) where
  subset := fun _ ha => (List.mem_insertionSort r).1 (firsts_sublist.subset ha)
  keys := firsts_keys
  covers := fun _ ha => firsts_covers (List.pairwise_insertionSort r l)
    ((List.mem_insertionSort r).2 ha) List.not_mem_nil
  sorted := (List.pairwise_insertionSort r l).sublist firsts_sublist

/-- The number of keys with an entry ahead of the given one. -/
def ahead [DecidableRel r] (key : α → κ) (l : List α) (a : α) : Nat :=
  ((l.filter fun c => ¬ r a c).map key).toFinset.card

/-- Entries that precede each other have the same entries ahead of them. -/
theorem ahead_congr [DecidableRel r] [IsTrans α r] {l : List α} {a b : α} (hab : r a b)
    (hba : r b a) : ahead (r := r) key l a = ahead (r := r) key l b := by
  unfold ahead
  congr 3
  refine List.filter_congr fun c _ => ?_
  rw [decide_eq_decide, not_iff_not]
  exact ⟨fun hc => Trans.trans hba hc, fun hc => Trans.trans hab hc⟩

/-- The position of an entry in a ranking. -/
theorem Ranks.ahead_eq [DecidableRel r] [IsTrans α r] {l ranked : List α}
    (hkey : ∀ a b, r a b → r b a → key a = key b) (h : Ranks key r l ranked) {pre post : List α}
    {a : α} (heq : ranked = pre ++ a :: post) : ahead (r := r) key l a = pre.length := by
  subst heq
  have hkeys := h.keys
  rw [List.map_append, List.nodup_append] at hkeys
  obtain ⟨hpre, -, hdisjoint⟩ := hkeys
  obtain ⟨-, hafter, hbefore⟩ := List.pairwise_append.1 h.sorted
  obtain ⟨ha, -⟩ := List.pairwise_cons.1 hafter
  have hset : ((l.filter fun c => ¬ r a c).map key).toFinset = (pre.map key).toFinset := by
    ext k
    simp only [List.mem_toFinset, List.mem_map, List.mem_filter, decide_eq_true_eq]
    constructor
    · rintro ⟨c, ⟨hc, hnot⟩, rfl⟩
      obtain ⟨b, hb, hbkey, hbc⟩ := h.covers c hc
      rcases List.mem_append.1 hb with hb | hb
      · exact ⟨b, hb, hbkey⟩
      · rcases List.mem_cons.1 hb with rfl | hb
        · exact absurd hbc hnot
        · exact absurd (Trans.trans (ha b hb) hbc) hnot
    · rintro ⟨b, hb, rfl⟩
      refine ⟨b, ⟨h.subset (List.mem_append_left _ hb), fun hab => ?_⟩, rfl⟩
      refine hdisjoint _ (List.mem_map_of_mem hb) (key a) (by simp) ?_
      exact hkey _ _ (hbefore b hb a List.mem_cons_self) hab
  rw [ahead, hset, List.toFinset_card_of_nodup hpre, List.length_map]

/-- As many leaders are ahead of an element as its position in the ranking says. -/
theorem Ranks.ahead_getElem [DecidableRel r] [IsTrans α r] {l ranked : List α}
    (hkey : ∀ a b, r a b → r b a → key a = key b) (h : Ranks key r l ranked) {i : Nat}
    (hi : i < ranked.length) : ahead (r := r) key l ranked[i] = i := by
  have heq : ranked = ranked.take i ++ ranked[i] :: ranked.drop (i + 1) := by
    rw [List.getElem_cons_drop, List.take_append_drop]
  rw [h.ahead_eq hkey heq, List.length_take, Nat.min_eq_left hi.le]

/-- Rankings of the same entries agree position by position, up to entries that precede each
other. -/
theorem Ranks.forall₂ [DecidableRel r] [IsTrans α r] {l ranked ranked' : List α}
    (hkey : ∀ a b, r a b → r b a → key a = key b) (h : Ranks key r l ranked)
    (h' : Ranks key r l ranked') :
    List.Forall₂ (fun a b => key a = key b ∧ r a b ∧ r b a) ranked ranked' := by
  have hkeys : ∀ {s t : List α}, Ranks key r l s → Ranks key r l t → s.map key ⊆ t.map key := by
    intro s t hs ht k hk
    obtain ⟨a, ha, rfl⟩ := List.mem_map.1 hk
    obtain ⟨b, hb, hba, -⟩ := ht.covers a (hs.subset ha)
    exact hba ▸ List.mem_map_of_mem hb
  have hlen : ranked.length = ranked'.length := by
    have hle := (List.subperm_of_subset h.keys (hkeys h h')).length_le
    have hge := (List.subperm_of_subset h'.keys (hkeys h' h)).length_le
    rw [List.length_map, List.length_map] at hle hge
    omega
  rw [List.forall₂_iff_get]
  refine ⟨hlen, fun i hi hi' => ?_⟩
  rw [List.get_eq_getElem, List.get_eq_getElem]
  have hmem : ranked[i] ∈ ranked := List.getElem_mem hi
  obtain ⟨b, hb, hbkey, hba⟩ := h'.covers ranked[i] (h.subset hmem)
  have hab := h.leads hmem b (h'.subset hb) hbkey
  obtain ⟨j, hj, rfl⟩ := List.mem_iff_getElem.1 hb
  have hsame : ahead (r := r) key l ranked[i] = ahead (r := r) key l ranked'[j] :=
    ahead_congr hab hba
  rw [h.ahead_getElem hkey hi, h'.ahead_getElem hkey hj] at hsame
  subst hsame
  exact ⟨hbkey.symm, hab, hba⟩

/-- An element whose key is new where it stands is a first one. -/
theorem mem_firsts_append {seen : List κ} {pre post : List α} {a : α} (hnew : key a ∉ seen)
    (hpre : ∀ c ∈ pre, key c ≠ key a) : a ∈ firsts key seen (pre ++ a :: post) := by
  induction pre generalizing seen with
  | nil =>
    rw [List.nil_append, firsts, if_neg hnew]
    exact List.mem_cons_self
  | cons c pre ih =>
    obtain ⟨hc, hpre⟩ := List.forall_mem_cons.1 hpre
    rw [List.cons_append]
    unfold firsts
    split
    · exact ih hnew hpre
    · exact List.mem_cons_of_mem _ (ih (by simp [Ne.symm hc, hnew]) hpre)

/-- Of entries that tie, sorting a list keeps the one at its front. -/
theorem front_mem_firsts [DecidableRel r] {rest : List α} {a : α}
    (ha : Leads key r (a :: rest) a) : a ∈ firsts key [] ((a :: rest).insertionSort r) := by
  rw [List.insertionSort_cons_eq_take_drop]
  refine mem_firsts_append List.not_mem_nil fun c hc hkey => ?_
  have hnot := List.mem_takeWhile_imp hc
  have hmem := (List.mem_insertionSort r).1 ((List.takeWhile_sublist _).subset hc)
  exact absurd (ha c (List.mem_cons_of_mem _ hmem) hkey) (by simpa using hnot)

/-- The best entries of a list are the same for all its arrangements exactly where no two entries
tie for one of the places. -/
theorem take_firsts_perm_iff [DecidableRel r] [IsTrans α r] [Std.Total r]
    (hkey : ∀ a b, r a b → r b a → key a = key b) {l : List α} {k : Nat} :
    (∀ l', l.Perm l' → (firsts key [] (l'.insertionSort r)).take k =
        (firsts key [] (l.insertionSort r)).take k) ↔
      ∀ a ∈ l, ∀ b ∈ l, key a = key b → Leads key r l a → r b a →
        ahead (r := r) key l a < k → a = b := by
  classical
  constructor
  · intro h a ha b hb hab hlead hba hk
    have hplaced : ∀ x ∈ l, Leads key r l x → ahead (r := r) key l x < k →
        x ∈ (firsts key [] (l.insertionSort r)).take k := by
      intro x hx hlead hk
      have hperm : l.Perm (x :: l.erase x) := List.perm_cons_erase hx
      rw [← h _ hperm]
      have hranks := (ranks_firsts key r (x :: l.erase x)).congr hperm.symm
      have hmem := @front_mem_firsts α κ key r _ _ (l.erase x) x
        fun c hc => hlead c (hperm.symm.subset hc)
      obtain ⟨i, hi, hx⟩ := List.mem_iff_getElem.1 hmem
      refine List.mem_iff_getElem.2 ⟨i, ?_, by rw [List.getElem_take, hx]⟩
      have hpos := hranks.ahead_getElem hkey hi
      rw [hx] at hpos
      rw [List.length_take]
      omega
    have hleadb : Leads key r l b := fun c hc hcb =>
      Trans.trans hba (hlead c hc (hcb.trans hab.symm))
    have hahead : ahead (r := r) key l b = ahead (r := r) key l a :=
      ahead_congr hba (hlead b hb hab.symm)
    exact (ranks_firsts key r l).eq_of_key
      (List.mem_of_mem_take (hplaced a ha hlead hk))
      (List.mem_of_mem_take (hplaced b hb hleadb (hahead ▸ hk))) hab
  · intro h l' hperm
    have hranks := ranks_firsts key r l
    have hall := hranks.forall₂ hkey ((ranks_firsts key r l').congr hperm.symm)
    obtain ⟨hlen, hget⟩ := List.forall₂_iff_get.1 hall
    refine List.ext_getElem (by simp [hlen]) fun i hi hi' => ?_
    rw [List.getElem_take, List.getElem_take]
    rw [List.length_take] at hi hi'
    obtain ⟨hab, -, hba⟩ := hget i (by omega) (by omega)
    rw [List.get_eq_getElem, List.get_eq_getElem] at hab hba
    have hmem := @List.getElem_mem _ (firsts key [] (l.insertionSort r)) i (by omega)
    have hpos := hranks.ahead_getElem hkey (i := i) (by omega)
    refine (h _ (hranks.subset hmem) _ ?_ hab (hranks.leads hmem) hba (by omega)).symm
    have hmem' := @List.getElem_mem _ (firsts key [] (l'.insertionSort r)) i (by omega)
    exact hperm.symm.subset ((ranks_firsts key r l').subset hmem')

end

end Ranking
