import Mathlib.Data.List.Infix
import Mathlib.Data.List.Sort

/-!
# Lists as runs and as sorted selections

A run of a deterministic step is a fold over the list of its inputs; what it makes true was made
true by one of its steps (`exists_since`). Sorting commutes with selecting (`filter_insertionSort`).
Lists over an alphabet are ordered like their numbers (`lexLe`). A list of lists is read back from
its join with a separator exactly where it is one list that does not contain the separator
(`intercalate_unique_iff`), and pieces without a separator are what their join is split into
(`splitOnP_intercalate`). A traversal that may fail returns one result for each element
(`mapM_eq_ok`). A list is split at the first element that fails a condition
(`span_eq_cons`).
-/

namespace Lists

section
variable {σ ι : Type} {step : σ → ι → σ}

/-- What holds after a run and not before it was brought about by one of its steps, and has held
ever since. -/
theorem exists_since {Q : σ → Prop} {s : σ} {is : List ι} (h0 : ¬ Q s) (h : Q (is.foldl step s)) :
    ∃ pre i post, is = pre ++ i :: post ∧ ¬ Q (pre.foldl step s) ∧
      ∀ mid, mid <+: post → Q ((pre ++ i :: mid).foldl step s) := by
  induction is using List.reverseRecOn with
  | nil => exact absurd h h0
  | append_singleton is i ih =>
    by_cases hq : Q (is.foldl step s)
    · obtain ⟨pre, j, post, rfl, hpre, hpost⟩ := ih hq
      refine ⟨pre, j, post ++ [i], by simp, hpre, fun mid hmid => ?_⟩
      rcases List.prefix_concat_iff.1 hmid with rfl | hmid
      · simpa using h
      · exact hpost mid hmid
    · refine ⟨is, i, [], by simp, hq, fun mid hmid => ?_⟩
      rw [List.prefix_nil.1 hmid]
      exact h

end

section
variable {α : Type} {r : α → α → Prop} [DecidableRel r]

/-- An element that passes a filter is inserted before or after filtering alike. -/
theorem filter_orderedInsert [IsTrans α r] {p : α → Bool} {a : α} (hp : p a = true) :
    ∀ {l : List α}, l.Pairwise r →
      (l.orderedInsert r a).filter p = (l.filter p).orderedInsert r a
  | [], _ => by simp [hp]
  | b :: l, hl => by
    obtain ⟨hb, hl'⟩ := List.pairwise_cons.1 hl
    by_cases hab : r a b
    · have hall : ∀ c ∈ (b :: l).filter p, r a c := by
        intro c hc
        rcases List.mem_cons.1 (List.mem_filter.1 hc).1 with rfl | hc
        · exact hab
        · exact Trans.trans hab (hb c hc)
      rw [List.orderedInsert_cons_of_le r _ hab, List.filter_cons_of_pos hp]
      cases hf : (b :: l).filter p with
      | nil => rfl
      | cons c cs =>
        rw [List.orderedInsert_cons_of_le r _ (hall c (hf ▸ List.mem_cons_self))]
    · rw [List.orderedInsert_of_not_le r _ hab]
      by_cases hpb : p b
      · rw [List.filter_cons_of_pos hpb, List.filter_cons_of_pos hpb,
          List.orderedInsert_of_not_le r _ hab, filter_orderedInsert hp hl']
      · rw [List.filter_cons_of_neg hpb, List.filter_cons_of_neg hpb, filter_orderedInsert hp hl']

/-- Selecting from a sorted list is sorting the selection. -/
theorem filter_insertionSort [IsTrans α r] [Std.Total r] (p : α → Bool) (l : List α) :
    (l.insertionSort r).filter p = (l.filter p).insertionSort r := by
  induction l with
  | nil => rfl
  | cons a l ih =>
    rw [List.insertionSort_cons]
    by_cases hp : p a
    · rw [filter_orderedInsert hp (List.pairwise_insertionSort r l), ih,
        List.filter_cons_of_pos hp, List.insertionSort_cons]
    · rw [List.filter_cons_of_neg hp, ← ih]
      have hsub : ∀ m : List α, (m.orderedInsert r a).filter p = m.filter p := by
        intro m
        induction m with
        | nil => simp [hp]
        | cons b m ihm =>
          rw [List.orderedInsert_cons]
          split
          · rw [List.filter_cons_of_neg hp]
          · rw [List.filter_cons, List.filter_cons, ihm]
      exact hsub _

/-- Sorting depends only on the members of a list without repetition, where the order separates
them. -/
theorem insertionSort_congr [IsTrans α r] [Std.Total r] {l l' : List α} (hl : l.Nodup)
    (hl' : l'.Nodup) (hmem : ∀ a, a ∈ l ↔ a ∈ l')
    (hanti : ∀ a ∈ l, ∀ b ∈ l, r a b → r b a → a = b) : l.insertionSort r = l'.insertionSort r := by
  have hperm : (l.insertionSort r).Perm (l'.insertionSort r) :=
    ((List.perm_insertionSort r l).trans ((List.perm_ext_iff_of_nodup hl hl').2 hmem)).trans
      (List.perm_insertionSort r l').symm
  refine hperm.eq_of_pairwise (fun a b ha hb => ?_) (List.pairwise_insertionSort r l)
    (List.pairwise_insertionSort r l')
  exact hanti a ((List.mem_insertionSort r).1 ha) b
    ((hmem b).2 ((List.mem_insertionSort r).1 hb))

end

section
variable {α : Type} {key : α → Nat}

/-- The lexicographic order of lists, by the numbers of their elements. -/
def lexLe (key : α → Nat) : List α → List α → Bool
  | [], _ => true
  | _ :: _, [] => false
  | a :: as, b :: bs => key a < key b || (key a = key b && lexLe key as bs)

/-- Two nonempty lists are compared by their heads first. -/
theorem lexLe_cons {a b : α} {as bs : List α} :
    lexLe key (a :: as) (b :: bs) = true ↔
      key a < key b ∨ (key a = key b ∧ lexLe key as bs = true) := by
  simp [lexLe]

/-- Any two lists are comparable. -/
theorem lexLe_total : ∀ as bs : List α, lexLe key as bs = true ∨ lexLe key bs as = true
  | [], _ => .inl rfl
  | _ :: _, [] => .inr rfl
  | a :: as, b :: bs => by
    rw [lexLe_cons, lexLe_cons]
    rcases Nat.lt_trichotomy (key a) (key b) with h | h | h
    · exact .inl (.inl h)
    · exact (lexLe_total as bs).imp (fun hle => .inr ⟨h, hle⟩) fun hle => .inr ⟨h.symm, hle⟩
    · exact .inr (.inl h)

/-- The order is transitive. -/
theorem lexLe_trans : ∀ {as bs cs : List α}, lexLe key as bs = true → lexLe key bs cs = true →
    lexLe key as cs = true
  | [], _, _, _, _ => rfl
  | _ :: _, [], _, h, _ => nomatch h
  | _ :: _, _ :: _, [], _, h => nomatch h
  | a :: as, b :: bs, c :: cs, h, h' => by
    rw [lexLe_cons] at h h' ⊢
    rcases h with h | ⟨h, hle⟩ <;> rcases h' with h' | ⟨h', hle'⟩
    · exact .inl (by omega)
    · exact .inl (by omega)
    · exact .inl (by omega)
    · exact .inr ⟨by omega, lexLe_trans hle hle'⟩

/-- Lists that are each at most the other one are the same, if their keys tell elements apart. -/
theorem lexLe_antisymm (hkey : Function.Injective key) : ∀ {as bs : List α},
    lexLe key as bs = true → lexLe key bs as = true → as = bs
  | [], [], _, _ => rfl
  | [], _ :: _, _, h => nomatch h
  | _ :: _, [], h, _ => nomatch h
  | a :: as, b :: bs, h, h' => by
    rw [lexLe_cons] at h h'
    rcases h with h | ⟨h, hle⟩ <;> rcases h' with h' | ⟨h', hle'⟩
    · omega
    · omega
    · omega
    · rw [hkey h, lexLe_antisymm hkey hle hle']

end

section
variable {α : Type} {sep : α}

/-- The only list of lists that joins to a nonempty one without the separator. -/
theorem eq_singleton_of_intercalate {l : List (List α)} {x : List α} (hx : x ≠ [])
    (hsep : sep ∉ x) (h : [sep].intercalate l = x) : l = [x] := by
  match l with
  | [] => exact absurd h.symm hx
  | [y] =>
    rw [List.intercalate_singleton] at h
    rw [h]
  | y :: z :: zs =>
    rw [List.intercalate_cons_cons] at h
    exact absurd (h ▸ by simp) hsep

/-- A list of lists is determined by its join exactly where it is one nonempty list without the
separator: pieces can be joined, one with a separator split, and no piece is an empty piece. -/
theorem intercalate_unique_iff {l : List (List α)} :
    (∀ l', [sep].intercalate l' = [sep].intercalate l → l' = l) ↔
      ∃ x, l = [x] ∧ x ≠ [] ∧ sep ∉ x := by
  constructor
  · intro h
    match l with
    | [] => cases h [[]] rfl
    | [x] =>
      refine ⟨x, rfl, ?_, fun hmem => ?_⟩
      · rintro rfl
        cases h [] rfl
      · obtain ⟨before, after, rfl⟩ := List.append_of_mem hmem
        have := h [before, after] (by simp [List.intercalate_cons_cons])
        simp at this
    | x :: y :: zs =>
      have := congrArg List.length (h [[sep].intercalate (x :: y :: zs)] (by simp))
      simp at this
  · rintro ⟨x, rfl, hx, hsep⟩ l' h
    exact eq_singleton_of_intercalate hx hsep (by simpa using h)

end

section
variable {α : Type} {p : α → Bool}

/-- A list is split where its pieces were joined. -/
theorem splitOnP_intercalate {sep : α} (hsep : p sep = true) {pieces : List (List α)}
    (hne : pieces ≠ []) (h : ∀ piece ∈ pieces, ∀ a ∈ piece, p a = false) :
    ([sep].intercalate pieces).splitOnP p = pieces := by
  induction pieces with
  | nil => exact absurd rfl hne
  | cons piece pieces ih =>
    have hpiece := h piece (List.mem_cons_self ..)
    cases pieces with
    | nil => rw [List.intercalate_singleton, List.splitOnP_eq_singleton hpiece]
    | cons next pieces =>
      rw [List.intercalate_cons_cons, List.append_assoc, List.singleton_append,
        List.splitOnP_append_cons_of_forall_mem hpiece sep hsep,
        ih (by simp) fun piece hmem => h piece (List.mem_cons_of_mem _ hmem)]

/-- The pieces of a list hold no separator. -/
theorem not_of_mem_splitOnP {l piece : List α} (h : piece ∈ l.splitOnP p) :
    ∀ a ∈ piece, p a = false := by
  induction l generalizing piece with
  | nil =>
    rw [List.splitOnP_nil, List.mem_singleton] at h
    subst h
    simp
  | cons x l ih =>
    rw [List.splitOnP_cons_eq_if_modifyHead] at h
    split at h
    · rcases List.mem_cons.1 h with rfl | h
      · simp
      · exact ih h
    · next hx =>
      cases hl : l.splitOnP p with
      | nil => exact absurd hl (List.splitOnP_ne_nil p l)
      | cons first rest =>
        rw [hl, List.modifyHead_cons] at h
        rcases List.mem_cons.1 h with rfl | h
        · intro a ha
          rcases List.mem_cons.1 ha with rfl | ha
          · simpa using hx
          · exact ih (by rw [hl]; exact List.mem_cons_self ..) a ha
        · exact ih (by rw [hl]; exact List.mem_cons_of_mem _ h)

end

section
variable {α κ : Type} [DecidableEq κ] {key : α → κ}

/-- Where keys are distinct, an element is the only one of its key. -/
theorem filter_key_eq {l : List α} (h : (l.map key).Nodup) {a : α} (ha : a ∈ l) :
    l.filter (fun b => key b = key a) = [a] := by
  induction l with
  | nil => cases ha
  | cons b l ih =>
    rw [List.map_cons, List.nodup_cons] at h
    rcases List.mem_cons.1 ha with rfl | ha
    · have hnone : l.filter (fun b => key b = key a) = [] := by
        refine List.filter_eq_nil_iff.2 fun c hc heq => h.1 ?_
        exact of_decide_eq_true heq ▸ List.mem_map_of_mem hc
      rw [List.filter_cons_of_pos (by simp), hnone]
    · have hne : key b ≠ key a := fun heq => h.1 (heq ▸ List.mem_map_of_mem ha)
      rw [List.filter_cons_of_neg (by simpa using hne)]
      exact ih h.2 ha

/-- Where keys are distinct, only the element of a key adds something for it. -/
theorem flatMap_key_eq {β : Type} {l : List α} (h : (l.map key).Nodup) {a : α} (ha : a ∈ l)
    (g : α → List β) : l.flatMap (fun b => if key b = key a then g b else []) = g a := by
  have hfilter : ∀ l : List α, l.flatMap (fun b => if key b = key a then g b else []) =
      (l.filter fun b => key b = key a).flatMap g := by
    intro l
    induction l with
    | nil => rfl
    | cons b l ih =>
      by_cases hb : key b = key a
      · simp [hb, ih]
      · simp [hb, ih]
  rw [hfilter, filter_key_eq h ha, List.flatMap_singleton]

end

section
variable {α β κ : Type} {f : α → Option β} {key : α → κ} {key' : β → κ}

/-- Selecting and changing elements without changing their keys selects from the keys. -/
theorem map_filterMap_sublist (h : ∀ a b, f a = some b → key' b = key a) (l : List α) :
    ((l.filterMap f).map key').Sublist (l.map key) := by
  induction l with
  | nil => exact List.Sublist.refl _
  | cons a l ih =>
    cases hf : f a with
    | none =>
      rw [List.filterMap_cons_none hf]
      exact ih.cons _
    | some b =>
      rw [List.filterMap_cons_some hf, List.map_cons, List.map_cons, h a b hf]
      exact ih.cons_cons _

/-- Where a selection only looks at some of the elements, the others may be dropped first. -/
theorem filterMap_filter_of {p : α → Bool} (h : ∀ a, (f a).isSome = true → p a = true)
    (l : List α) : (l.filter p).filterMap f = l.filterMap f := by
  rw [List.filterMap_filter]
  refine List.filterMap_congr fun a _ => ?_
  cases hf : f a with
  | none => split <;> rfl
  | some b => rw [if_pos (h a (by simp [hf]))]

end

section
variable {ε α β : Type} {f : α → Except ε β}

/-- Every result of a traversal that returns is the result at some element. -/
theorem mapM_eq_ok {as : List α} {bs : List β} :
    as.mapM f = .ok bs ↔ List.Forall₂ (fun a b => f a = .ok b) as bs := by
  induction as generalizing bs with
  | nil => simp [pure, Except.pure, eq_comm]
  | cons a as ih =>
    rw [List.mapM_cons, List.forall₂_cons_left_iff]
    cases ha : f a with
    | error e => simp [bind, Except.bind]
    | ok b =>
      cases has : as.mapM f with
      | error e =>
        simp only [bind, Except.bind]
        constructor
        · nofun
        · rintro ⟨b', bs', -, h, rfl⟩
          rw [← ih, has] at h
          cases h
      | ok bs' =>
        simp only [bind, Except.bind, pure, Except.pure, Except.ok.injEq]
        constructor
        · rintro rfl
          exact ⟨b, bs', rfl, ih.1 has, rfl⟩
        · rintro ⟨b', bs'', rfl, h, rfl⟩
          rw [← ih, has] at h
          cases h
          rfl

/-- A traversal returns where it returns at every element. -/
theorem exists_mapM_eq_ok {as : List α} (h : ∀ a ∈ as, ∃ b, f a = .ok b) :
    ∃ bs, as.mapM f = .ok bs := by
  induction as with
  | nil => exact ⟨[], rfl⟩
  | cons a as ih =>
    obtain ⟨b, hb⟩ := h a List.mem_cons_self
    obtain ⟨bs, hbs⟩ := ih fun a' ha' => h a' (List.mem_cons_of_mem _ ha')
    exact ⟨b :: bs, mapM_eq_ok.2 (.cons hb (mapM_eq_ok.1 hbs))⟩

/-- Where a map succeeds, the function succeeded on each element. -/
theorem exists_of_mapM {as : List α} {bs : List β} (h : as.mapM f = .ok bs) {a : α} (ha : a ∈ as) :
    ∃ b, f a = .ok b := by
  have hall := mapM_eq_ok.1 h
  clear h
  induction hall with
  | nil => cases ha
  | @cons a' b' as bs hab' _ ih =>
    rcases List.mem_cons.1 ha with rfl | ha
    · exact ⟨b', hab'⟩
    · exact ih ha

/-- What the function returned for an element is among the results. -/
theorem mem_of_mapM {as : List α} {bs : List β} (h : as.mapM f = .ok bs) {a : α} {b : β}
    (ha : a ∈ as) (hab : f a = .ok b) : b ∈ bs := by
  have hall := mapM_eq_ok.1 h
  clear h
  induction hall with
  | nil => cases ha
  | @cons a' b' as bs hab' _ ih =>
    rcases List.mem_cons.1 ha with rfl | ha
    · rw [hab] at hab'
      cases hab'
      exact List.mem_cons_self
    · exact List.mem_cons_of_mem _ (ih ha)

/-- Each result is that of an element. -/
theorem exists_of_mem_mapM {as : List α} {bs : List β} (h : as.mapM f = .ok bs) {b : β}
    (hb : b ∈ bs) : ∃ a ∈ as, f a = .ok b := by
  obtain ⟨i, hi, rfl⟩ := List.mem_iff_getElem.1 hb
  have hall := mapM_eq_ok.1 h
  have hlen := hall.length_eq
  exact ⟨as[i], List.getElem_mem _, (List.forall₂_iff_get.1 hall).2 i (by omega) hi⟩

/-- Selecting before a traversal is selecting from its results, where the selections correspond. -/
theorem mapM_filter {p : α → Bool} {q : β → Bool} {as : List α} {bs : List β}
    (h : List.Forall₂ (fun a b => f a = .ok b ∧ p a = q b) as bs) :
    (as.filter p).mapM f = .ok (bs.filter q) := by
  rw [mapM_eq_ok]
  induction h with
  | nil => exact .nil
  | @cons a b as bs hab _ ih =>
    rw [List.filter_cons, List.filter_cons, hab.2]
    split
    · exact .cons hab.1 ih
    · exact ih

/-- A traversal of a sublist returns a sublist. -/
theorem mapM_sublist {as as' : List α} (hsub : as.Sublist as') {bs' : List β}
    (h : as'.mapM f = .ok bs') : ∃ bs, as.mapM f = .ok bs ∧ bs.Sublist bs' := by
  rw [mapM_eq_ok] at h
  simp only [mapM_eq_ok]
  induction hsub generalizing bs' with
  | slnil => exact ⟨[], .nil, List.nil_sublist _⟩
  | cons a hsub ih =>
    cases h with
    | cons _ hrest =>
      obtain ⟨bs, hbs, hle⟩ := ih hrest
      exact ⟨bs, hbs, hle.cons _⟩
  | cons_cons a hsub ih =>
    cases h with
    | cons hb hrest =>
      obtain ⟨bs, hbs, hle⟩ := ih hrest
      exact ⟨_ :: bs, .cons hb hbs, hle.cons_cons _⟩

end

/-! ## Splitting -/

/-- What `span` splits at is the first element that fails the condition. -/
theorem span_eq_cons {α : Type} {p : α → Bool} {l as bs : List α} {b : α} :
    l.span p = (as, b :: bs) ↔ l = as ++ b :: bs ∧ (∀ a ∈ as, p a = true) ∧ p b = false := by
  rw [List.span_eq_takeWhile_dropWhile, Prod.mk.injEq]
  constructor
  · rintro ⟨htake, hdrop⟩
    have hsplit := List.takeWhile_append_dropWhile (p := p) (l := l)
    have hall := List.all_takeWhile (p := p) (l := l)
    have hhead := List.head?_dropWhile_not p l
    rw [htake, hdrop] at hsplit
    rw [htake, List.all_eq_true] at hall
    rw [hdrop] at hhead
    exact ⟨hsplit.symm, hall, by simpa using hhead⟩
  · rintro ⟨rfl, hall, hb⟩
    rw [List.takeWhile_append_of_pos hall, List.dropWhile_append_of_pos hall,
      List.takeWhile_cons_of_neg (by simp [hb]), List.dropWhile_cons_of_neg (by simp [hb])]
    simp

end Lists
