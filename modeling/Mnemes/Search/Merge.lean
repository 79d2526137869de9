import Mnemes.Lib.Ranking
import Mnemes.Profile.Snapshot

/-!
# Merging search results

The results of the searched shards, or of the searched profile stores, are sorted by score and item
id, scanned for two contents of one item, and cut off after the first `top_k` items (`shards.rs`,
`store.rs`). The profile merge cuts off with `truncate`; the shard merge stops when it has emitted
exactly `top_k` items, so with `top_k = 0` it emits them all (`merge_meets_iff`). The profile merge
breaks ties by the store, the shard merge by the order of its input (`merge_order_independent_iff`).

The results of `semantic-memory` enter as a parameter.
-/

namespace Mnemes

open Ranking

/-! ## Results -/

/-- `f64`, by its bits. -/
structure F64 where
  bits : UInt64
  deriving DecidableEq, Repr

/-- The place of a number in the order of `f64::total_cmp`: its magnitude, below zero in reverse. -/
def F64.place (x : F64) : Int :=
  if x.bits.toNat < 2 ^ 63 then x.bits.toNat else 2 ^ 63 - 1 - x.bits.toNat

/-- The order of `total_cmp` tells all bit patterns apart. -/
theorem F64.place_inj {x y : F64} (h : x.place = y.place) : x = y := by
  have hbits : x.bits.toNat = y.bits.toNat := by
    unfold F64.place at h
    split at h <;> split at h <;> omega
  cases x
  cases y
  exact congrArg F64.mk (UInt64.toNat_inj.1 hbits)

/-- `SearchSource` of `semantic-memory`, with its `result_id`. -/
structure SearchSources where
  Source : Type
  resultId : Source → String

/-- `SearchResult` of `semantic-memory`. -/
structure SearchResult (S : SearchSources) where
  content : String
  source : S.Source
  score : F64
  bm25Rank : Option UInt64
  vectorRank : Option UInt64
  cosineSimilarity : Option F64

/-- One global result annotated with its owning shard and child receipt. -/
structure RoutedSearchResult (S : SearchSources) where
  result : SearchResult S
  deviceId : DeviceId
  shardGeneration : UInt64
  childReceiptId : Option String

/-- One result annotated with the profile store it was found in. -/
structure ProfileRoutedSearchResult (S : SearchSources) where
  result : SearchResult S
  storeId : String
  profileId : MemoryProfileId
  ownerDeviceId : DeviceId
  «namespace» : String
  childSearchReceiptId : Option String

section
variable {S : SearchSources}

/-- The item id of a result. -/
def SearchResult.itemId (result : SearchResult S) : String := S.resultId result.source

def RoutedSearchResult.itemId (r : RoutedSearchResult S) : String := r.result.itemId

def ProfileRoutedSearchResult.itemId (r : ProfileRoutedSearchResult S) : String := r.result.itemId

/-- The content of a result. -/
def RoutedSearchResult.content (r : RoutedSearchResult S) : String := r.result.content

def ProfileRoutedSearchResult.content (r : ProfileRoutedSearchResult S) : String := r.result.content

/-! ## Orders -/

/-- Score descending, then item id ascending. -/
def SearchResult.Before (a b : SearchResult S) : Prop :=
  b.score.place < a.score.place ∨ (a.score.place = b.score.place ∧ textLe a.itemId b.itemId = true)

/-- The order of `merge_routed_results`. -/
def RoutedSearchResult.Before (a b : RoutedSearchResult S) : Prop := a.result.Before b.result

/-- The order of the merge in `routed_search_for_profile`. -/
def ProfileRoutedSearchResult.Before (a b : ProfileRoutedSearchResult S) : Prop :=
  b.result.score.place < a.result.score.place ∨
    (a.result.score.place = b.result.score.place ∧ textLe a.itemId b.itemId = true ∧
      (a.itemId = b.itemId → textLe a.storeId b.storeId = true))

instance : DecidableRel (SearchResult.Before (S := S)) :=
  fun a b => inferInstanceAs (Decidable (_ ∨ _ ∧ textLe a.itemId b.itemId = true))

instance : DecidableRel (RoutedSearchResult.Before (S := S)) :=
  fun a b => inferInstanceAs (Decidable (a.result.Before b.result))

instance : DecidableRel (ProfileRoutedSearchResult.Before (S := S)) :=
  fun a b => inferInstanceAs (Decidable (_ ∨ _ ∧ textLe a.itemId b.itemId = true ∧
    (a.itemId = b.itemId → textLe a.storeId b.storeId = true)))

/-! ## The merges -/

/-- The emission of `merge_routed_results`: it stops when it has emitted `top_k` items. -/
def emitRouted (topK : Nat) : List String → List (RoutedSearchResult S) →
    List (RoutedSearchResult S) → List (RoutedSearchResult S)
  | _, merged, [] => merged
  | emitted, merged, result :: results =>
    if result.itemId ∈ emitted then emitRouted topK emitted merged results
    else
      let merged := merged ++ [result]
      if merged.length = topK then merged
      else emitRouted topK (result.itemId :: emitted) merged results

/-- `merge_routed_results`. -/
def mergeRoutedResults (results : List (RoutedSearchResult S)) (topK : Nat) :
    Except MnemesError (List (RoutedSearchResult S)) :=
  let results := results.insertionSort RoutedSearchResult.Before
  match firstConflict RoutedSearchResult.itemId RoutedSearchResult.content [] results with
  | some itemId => .error (.conflictingShardItem itemId)
  | none => .ok (emitRouted topK [] [] results)

/-- The loop of the merge in `routed_search_for_profile`, with the contents and the emitted ids. -/
def mergeProfileLoop : List (String × String) → List String → List (ProfileRoutedSearchResult S) →
    List (ProfileRoutedSearchResult S) → Except MnemesError (List (ProfileRoutedSearchResult S))
  | _, _, merged, [] => .ok merged
  | contentById, emitted, merged, result :: results =>
    match contentById.lookup result.itemId with
    | some existing =>
      if existing ≠ result.content then .error (.conflictingShardItem result.itemId)
      else if result.itemId ∈ emitted then mergeProfileLoop contentById emitted merged results
      else mergeProfileLoop contentById (result.itemId :: emitted) (merged ++ [result]) results
    | none =>
      let contentById := (result.itemId, result.content) :: contentById
      if result.itemId ∈ emitted then mergeProfileLoop contentById emitted merged results
      else mergeProfileLoop contentById (result.itemId :: emitted) (merged ++ [result]) results

/-- The merge in `routed_search_for_profile`. -/
def mergeProfileResults (results : List (ProfileRoutedSearchResult S)) (topK : Nat) :
    Except MnemesError (List (ProfileRoutedSearchResult S)) := do
  let merged ← mergeProfileLoop [] [] [] (results.insertionSort ProfileRoutedSearchResult.Before)
  return merged.take topK

/-! ## Their specification -/

instance : IsTrans (SearchResult S) SearchResult.Before where
  trans a b c hab hbc := by
    rcases hab with hab | ⟨hab, hid⟩ <;> rcases hbc with hbc | ⟨hbc, hid'⟩
    · exact .inl (by omega)
    · exact .inl (by omega)
    · exact .inl (by omega)
    · exact .inr ⟨by omega, textLe_trans hid hid'⟩

instance : Std.Total (SearchResult.Before (S := S)) where
  total a b := by
    rcases Int.lt_trichotomy a.score.place b.score.place with h | h | h
    · exact .inr (.inl h)
    · exact (textLe_total a.itemId b.itemId).imp (fun hid => .inr ⟨h, hid⟩)
        fun hid => .inr ⟨h.symm, hid⟩
    · exact .inl (.inl h)

instance : IsTrans (RoutedSearchResult S) RoutedSearchResult.Before where
  trans _ _ _ := IsTrans.trans (r := SearchResult.Before (S := S)) _ _ _

instance : Std.Total (RoutedSearchResult.Before (S := S)) where
  total a b := Std.Total.total (r := SearchResult.Before (S := S)) a.result b.result

instance : IsTrans (ProfileRoutedSearchResult S) ProfileRoutedSearchResult.Before where
  trans a b c hab hbc := by
    rcases hab with hab | ⟨hab, hid, hstore⟩ <;> rcases hbc with hbc | ⟨hbc, hid', hstore'⟩
    · exact .inl (by omega)
    · exact .inl (by omega)
    · exact .inl (by omega)
    · refine .inr ⟨by omega, textLe_trans hid hid', fun hac => ?_⟩
      have hab : a.itemId = b.itemId := textLe_antisymm hid (hac ▸ hid')
      exact textLe_trans (hstore hab) (hstore' (hab.symm.trans hac))

instance : Std.Total (ProfileRoutedSearchResult.Before (S := S)) where
  total a b := by
    rcases Int.lt_trichotomy a.result.score.place b.result.score.place with h | h | h
    · exact .inr (.inl h)
    · by_cases hid : a.itemId = b.itemId
      · have hrefl : textLe a.itemId b.itemId = true ∧ textLe b.itemId a.itemId = true := by
          rw [hid]
          exact ⟨(textLe_total _ _).elim id id, (textLe_total _ _).elim id id⟩
        exact (textLe_total a.storeId b.storeId).imp (fun hs => .inr ⟨h, hrefl.1, fun _ => hs⟩)
          fun hs => .inr ⟨h.symm, hrefl.2, fun _ => hs⟩
      · exact (textLe_total a.itemId b.itemId).imp
          (fun hle => .inr ⟨h, hle, fun he => absurd he hid⟩)
          fun hle => .inr ⟨h.symm, hle, fun he => absurd he.symm hid⟩
    · exact .inl (.inl h)

/-- Results that precede each other have one score and one item. -/
theorem SearchResult.Before.antisymm {a b : SearchResult S} (hab : a.Before b) (hba : b.Before a) :
    a.score = b.score ∧ a.itemId = b.itemId := by
  rcases hab with hab | ⟨hab, hid⟩ <;> rcases hba with hba | ⟨hba, hid'⟩
  · omega
  · omega
  · omega
  · exact ⟨F64.place_inj hab, textLe_antisymm hid hid'⟩

/-- The order of results with stores refines the one of their results. -/
theorem ProfileRoutedSearchResult.Before.result {a b : ProfileRoutedSearchResult S}
    (h : a.Before b) : a.result.Before b.result := h.imp id fun ⟨hscore, hid, _⟩ => ⟨hscore, hid⟩

/-- Results that precede each other have one score, one item and one store. -/
theorem ProfileRoutedSearchResult.Before.antisymm {a b : ProfileRoutedSearchResult S}
    (hab : a.Before b) (hba : b.Before a) :
    a.result.score = b.result.score ∧ a.itemId = b.itemId ∧ a.storeId = b.storeId := by
  obtain ⟨hscore, hid⟩ := hab.result.antisymm hba.result
  refine ⟨hscore, hid, ?_⟩
  rcases hab with hab | ⟨-, -, hstore⟩
  · rw [hscore] at hab
    omega
  · rcases hba with hba | ⟨-, -, hstore'⟩
    · rw [hscore] at hba
      omega
    · exact textLe_antisymm (hstore hid) (hstore' hid.symm)

/-- The emission keeps the first result of each item: `top_k` of them, or all with `top_k = 0`. -/
theorem emitRouted_eq {topK : Nat} {emitted : List String}
    {merged results : List (RoutedSearchResult S)} (h : merged.length < topK ∨ topK = 0) :
    emitRouted topK emitted merged results =
      if topK = 0 then merged ++ firsts RoutedSearchResult.itemId emitted results
      else merged ++
        (firsts RoutedSearchResult.itemId emitted results).take (topK - merged.length) := by
  induction results generalizing emitted merged with
  | nil => simp [emitRouted, firsts]
  | cons result results ih =>
    unfold emitRouted firsts
    by_cases hmem : result.itemId ∈ emitted
    · rw [if_pos hmem, if_pos hmem]
      exact ih h
    · rw [if_neg hmem, if_neg hmem]
      dsimp only
      by_cases hfull : (merged ++ [result]).length = topK
      · rw [if_pos hfull]
        rw [List.length_append, List.length_singleton] at hfull
        have htake : topK - merged.length = 1 := by omega
        rw [if_neg (by omega), htake]
        rfl
      · rw [if_neg hfull, ih (by simp at hfull ⊢; omega)]
        by_cases hzero : topK = 0
        · rw [if_pos hzero, if_pos hzero, List.append_assoc]
          rfl
        · rw [if_neg hzero, if_neg hzero, List.append_assoc]
          simp only [List.length_append, List.length_singleton] at hfull ⊢
          obtain ⟨k, hk⟩ : ∃ k, topK - merged.length = k + 1 := ⟨topK - merged.length - 1, by omega⟩
          have hk' : topK - (merged.length + 1) = k := by omega
          rw [hk, hk', List.take_succ_cons]
          rfl

/-- The number of items the shard merge emits at most. -/
def emitLimit (results : List (RoutedSearchResult S)) (topK : Nat) : Nat :=
  if topK = 0 then results.length else topK

/-- The shard merge fails on the first conflict, and otherwise keeps the first result of each item.
-/
theorem mergeRoutedResults_eq {results : List (RoutedSearchResult S)} {topK : Nat} :
    mergeRoutedResults results topK =
      match firstConflict RoutedSearchResult.itemId RoutedSearchResult.content []
        (results.insertionSort RoutedSearchResult.Before) with
      | some itemId => .error (.conflictingShardItem itemId)
      | none => .ok ((firsts RoutedSearchResult.itemId []
          (results.insertionSort RoutedSearchResult.Before)).take (emitLimit results topK)) := by
  unfold mergeRoutedResults
  dsimp only
  split
  · rfl
  · rw [emitRouted_eq (by simp; omega), emitLimit]
    by_cases hzero : topK = 0
    · rw [if_pos hzero, if_pos hzero, List.nil_append, List.take_of_length_le]
      exact (firsts_sublist.length_le).trans (List.length_insertionSort _ _).le
    · rw [if_neg hzero, if_neg hzero, List.nil_append, List.length_nil, Nat.sub_zero]

/-- The loop of the store merge fails on the first conflict, and otherwise adds the first result of
each item that it has not emitted. -/
theorem mergeProfileLoop_eq {contentById : List (String × String)} {emitted : List String}
    {merged results : List (ProfileRoutedSearchResult S)} :
    mergeProfileLoop contentById emitted merged results =
      match firstConflict ProfileRoutedSearchResult.itemId ProfileRoutedSearchResult.content
        contentById results with
      | some itemId => .error (.conflictingShardItem itemId)
      | none => .ok (merged ++ firsts ProfileRoutedSearchResult.itemId emitted results) := by
  induction results generalizing contentById emitted merged with
  | nil => simp [mergeProfileLoop, firstConflict, firsts]
  | cons result results ih =>
    unfold mergeProfileLoop firstConflict firsts
    cases hlookup : contentById.lookup result.itemId with
    | some existing =>
      dsimp only
      by_cases hne : existing ≠ result.content
      · rw [if_pos hne, if_pos hne]
      · rw [if_neg hne, if_neg hne]
        by_cases hmem : result.itemId ∈ emitted
        · rw [if_pos hmem, if_pos hmem, ih]
        · rw [if_neg hmem, if_neg hmem, ih, List.append_assoc]
          rfl
    | none =>
      dsimp only
      by_cases hmem : result.itemId ∈ emitted
      · rw [if_pos hmem, if_pos hmem, ih]
      · rw [if_neg hmem, if_neg hmem, ih, List.append_assoc]
        rfl

/-- The store merge fails on the first conflict, and otherwise keeps the first result of each item.
-/
theorem mergeProfileResults_eq {results : List (ProfileRoutedSearchResult S)} {topK : Nat} :
    mergeProfileResults results topK =
      match firstConflict ProfileRoutedSearchResult.itemId ProfileRoutedSearchResult.content []
        (results.insertionSort ProfileRoutedSearchResult.Before) with
      | some itemId => .error (.conflictingShardItem itemId)
      | none => .ok ((firsts ProfileRoutedSearchResult.itemId []
          (results.insertionSort ProfileRoutedSearchResult.Before)).take topK) := by
  unfold mergeProfileResults
  rw [mergeProfileLoop_eq]
  split <;> rfl

/-- What a merge is for: it fails exactly on two contents of one item, and otherwise returns the
first `top_k` of a ranking of the results, with the best result of each item by score and then by
item id. -/
def MergeMeets {α : Type} (result : α → SearchResult S) (results : List α) (topK : Nat)
    (outcome : Except MnemesError (List α)) : Prop :=
  (Conflicting (fun a => (result a).itemId) (fun a => (result a).content) results →
    ∃ itemId, outcome = .error (.conflictingShardItem itemId)) ∧
  (¬ Conflicting (fun a => (result a).itemId) (fun a => (result a).content) results →
    ∃ ranked, Ranks (fun a => (result a).itemId) (fun a b => (result a).Before (result b)) results
      ranked ∧ outcome = .ok (ranked.take topK))

/-- Sorting, scanning and keeping the first results of the items meets the specification, where the
cut-off is the one asked for. -/
theorem mergeMeets_of_eq {α : Type} {result : α → SearchResult S} {r : α → α → Prop}
    [DecidableRel r] [IsTrans α r] [Std.Total r] (hr : ∀ a b, r a b → (result a).Before (result b))
    {results : List α} {topK limit : Nat} {outcome : Except MnemesError (List α)}
    (houtcome : outcome =
      match firstConflict (fun a => (result a).itemId) (fun a => (result a).content) []
        (results.insertionSort r) with
      | some itemId => .error (.conflictingShardItem itemId)
      | none => .ok ((firsts (fun a => (result a).itemId) [] (results.insertionSort r)).take limit))
    (hlimit : limit = topK ∨ results = [] ∨
      Conflicting (fun a => (result a).itemId) (fun a => (result a).content) results) :
    MergeMeets result results topK outcome := by
  refine ⟨fun hconflict => ?_, fun hfree => ?_⟩
  · cases hscan : firstConflict (fun a => (result a).itemId) (fun a => (result a).content) []
      (results.insertionSort r) with
    | none => exact absurd (conflicting_sort.2 hconflict) (firstConflict_eq_none.1 hscan)
    | some itemId =>
      rw [hscan] at houtcome
      exact ⟨itemId, houtcome⟩
  · rw [firstConflict_eq_none.2 (mt conflicting_sort.1 hfree)] at houtcome
    refine ⟨_, (ranks_firsts _ r results).mono hr, ?_⟩
    rcases hlimit with rfl | rfl | hconflict
    · exact houtcome
    · rw [houtcome, List.insertionSort_nil, firsts, List.take_nil, List.take_nil]
    · exact absurd hconflict hfree

/-- The merge of `routed_search_for_profile` always meets its specification; the one of the shards
does unless `top_k` is zero while there are results, and no conflict. -/
theorem merge_meets_iff (results : List (RoutedSearchResult S))
    (storeResults : List (ProfileRoutedSearchResult S)) (topK : Nat) :
    (MergeMeets RoutedSearchResult.result results topK (mergeRoutedResults results topK) ∧
      MergeMeets ProfileRoutedSearchResult.result storeResults topK
        (mergeProfileResults storeResults topK)) ↔
      topK ≠ 0 ∨ results = [] ∨
        Conflicting RoutedSearchResult.itemId RoutedSearchResult.content results := by
  have hprofile : MergeMeets ProfileRoutedSearchResult.result storeResults topK
      (mergeProfileResults storeResults topK) :=
    mergeMeets_of_eq (fun _ _ h => h.result) mergeProfileResults_eq (.inl rfl)
  refine ⟨fun h => ?_, fun h => ⟨mergeMeets_of_eq (fun _ _ h => h) mergeRoutedResults_eq ?_,
    hprofile⟩⟩
  · by_contra hnot
    rw [not_or, not_or, not_not] at hnot
    obtain ⟨rfl, hne, hfree⟩ := hnot
    obtain ⟨ranked, -, houtcome⟩ := h.1.2 hfree
    rw [mergeRoutedResults_eq, firstConflict_eq_none.2 (mt conflicting_sort.1 hfree)] at houtcome
    obtain ⟨result, hresult⟩ := List.exists_mem_of_ne_nil results hne
    obtain ⟨best, hbest, -⟩ := (ranks_firsts RoutedSearchResult.itemId RoutedSearchResult.Before
      results).covers result hresult
    have hempty := Except.ok.inj houtcome
    rw [List.take_zero, emitLimit, if_pos rfl, List.take_of_length_le
      ((firsts_sublist.length_le).trans (List.length_insertionSort _ _).le)] at hempty
    rw [hempty] at hbest
    cases hbest
  · refine h.imp (fun hpos => ?_) id
    rw [emitLimit, if_neg hpos]

/-! ## Independence of the order -/

/-- What a profile search attributes a returned item to. -/
def ProfileRoutedSearchResult.attribution (r : ProfileRoutedSearchResult S) :
    String × String × F64 × String :=
  (r.itemId, r.content, r.result.score, r.storeId)

/-- No two results tie for one of the places of the ranking that the shard merge returns. -/
def TiesDecided (results : List (RoutedSearchResult S)) (topK : Nat) : Prop :=
  ∀ a ∈ results, ∀ b ∈ results, a.itemId = b.itemId →
    Leads RoutedSearchResult.itemId RoutedSearchResult.Before results a → b.Before a →
      ahead (r := RoutedSearchResult.Before) RoutedSearchResult.itemId results a <
        emitLimit results topK → a = b

/-- Arrangements of the same store results merge into the same items, from the same stores. -/
theorem mergeProfileResults_perm {results results' : List (ProfileRoutedSearchResult S)}
    (topK : Nat) (hperm : results.Perm results') :
    (mergeProfileResults results' topK).map (List.map ProfileRoutedSearchResult.attribution) =
      (mergeProfileResults results topK).map (List.map ProfileRoutedSearchResult.attribution) := by
  have hscan : firstConflict ProfileRoutedSearchResult.itemId ProfileRoutedSearchResult.content []
        (results'.insertionSort ProfileRoutedSearchResult.Before) =
      firstConflict ProfileRoutedSearchResult.itemId ProfileRoutedSearchResult.content []
        (results.insertionSort ProfileRoutedSearchResult.Before) :=
    firstConflict_sort_perm (fun a b hab hba => (hab.antisymm hba).2.1) hperm
  rw [mergeProfileResults_eq, mergeProfileResults_eq, hscan]
  cases hfree : firstConflict ProfileRoutedSearchResult.itemId ProfileRoutedSearchResult.content []
      (results.insertionSort ProfileRoutedSearchResult.Before) with
  | some itemId => rfl
  | none =>
    have hfree := mt conflicting_sort.2 (firstConflict_eq_none.1 hfree)
    have hranks := ranks_firsts ProfileRoutedSearchResult.itemId ProfileRoutedSearchResult.Before
      results
    have hranks' := (ranks_firsts ProfileRoutedSearchResult.itemId ProfileRoutedSearchResult.Before
      results').congr hperm.symm
    have hties := hranks'.forall₂ (fun a b hab hba => (hab.antisymm hba).2.1) hranks
    obtain ⟨hlen, hget⟩ := List.forall₂_iff_get.1 hties
    refine congrArg Except.ok ?_
    rw [List.map_take, List.map_take]
    refine congrArg (List.take topK) (List.ext_getElem (by simp [hlen]) fun i hi hi' => ?_)
    rw [List.length_map] at hi hi'
    obtain ⟨hid, hab, hba⟩ := hget i hi hi'
    rw [List.getElem_map, List.getElem_map]
    rw [List.get_eq_getElem, List.get_eq_getElem] at hid hab hba
    have hmem := hranks'.subset (List.getElem_mem hi)
    have hmem' := hranks.subset (List.getElem_mem hi')
    have hcontent : ∀ {a b : ProfileRoutedSearchResult S}, a ∈ results → b ∈ results →
        a.itemId = b.itemId → a.content = b.content := by
      intro a b ha hb hab
      by_contra hne
      exact hfree ⟨a, ha, b, hb, hab, hne⟩
    obtain ⟨hscore, -, hstore⟩ := hab.antisymm hba
    exact Prod.ext hid (Prod.ext (hcontent hmem hmem' hid) (Prod.ext hscore hstore))

/-- The outcome of the shard merge, and what the profile merge attributes its items to, are the same
for every arrangement of the results exactly where no two shard results tie for a returned place, or
the merge fails. -/
theorem merge_order_independent_iff (results : List (RoutedSearchResult S))
    (storeResults : List (ProfileRoutedSearchResult S)) (topK : Nat) :
    ((∀ results', results.Perm results' →
        mergeRoutedResults results' topK = mergeRoutedResults results topK) ∧
      ∀ storeResults', storeResults.Perm storeResults' →
        (mergeProfileResults storeResults' topK).map (List.map (·.attribution)) =
          (mergeProfileResults storeResults topK).map (List.map (·.attribution))) ↔
      Conflicting RoutedSearchResult.itemId RoutedSearchResult.content results ∨
        TiesDecided results topK := by
  have hscan : ∀ results', results.Perm results' →
      firstConflict RoutedSearchResult.itemId RoutedSearchResult.content []
          (results'.insertionSort RoutedSearchResult.Before) =
        firstConflict RoutedSearchResult.itemId RoutedSearchResult.content []
          (results.insertionSort RoutedSearchResult.Before) := fun results' hperm =>
    firstConflict_sort_perm (fun a b hab hba => (hab.antisymm hba).2) hperm
  have hcut := @take_firsts_perm_iff _ _ RoutedSearchResult.itemId RoutedSearchResult.Before _ _ _ _
    (fun a b hab hba => (hab.antisymm hba).2) results (emitLimit results topK)
  have hlimit :
      ∀ results', results.Perm results' → emitLimit results' topK = emitLimit results topK :=
    fun results' hperm => by rw [emitLimit, emitLimit, hperm.length_eq]
  rw [and_iff_left fun _ => mergeProfileResults_perm topK]
  by_cases hconflict : Conflicting RoutedSearchResult.itemId
      RoutedSearchResult.content results
  · rw [iff_true_right (.inl hconflict)]
    intro results' hperm
    rw [mergeRoutedResults_eq, mergeRoutedResults_eq, hscan results' hperm]
    cases hfree : firstConflict RoutedSearchResult.itemId RoutedSearchResult.content []
        (results.insertionSort RoutedSearchResult.Before) with
    | some itemId => rfl
    | none => exact absurd (conflicting_sort.2 hconflict) (firstConflict_eq_none.1 hfree)
  · rw [or_iff_right hconflict, TiesDecided, ← hcut]
    have hfree : firstConflict RoutedSearchResult.itemId RoutedSearchResult.content []
        (results.insertionSort RoutedSearchResult.Before) = none :=
      firstConflict_eq_none.2 (mt conflicting_sort.1 hconflict)
    refine forall_congr' fun results' => forall_congr' fun hperm => ?_
    rw [mergeRoutedResults_eq, mergeRoutedResults_eq, hscan results' hperm, hlimit results' hperm]
    rw [hfree]
    exact ⟨fun h => Except.ok.inj h, congrArg Except.ok⟩

end

namespace Sample

/-- Facts, by their ids. -/
def factSources : SearchSources where
  Source := String
  resultId id := "fact:" ++ id

/-- One fact, found with score `1.0` in the shard of a device. -/
def foundAt (device : DeviceId) : RoutedSearchResult factSources where
  result := {
    content := "the tide turns at noon"
    source := "tide"
    score := ⟨0x3ff0000000000000⟩
    bm25Rank := some 1
    vectorRank := none
    cosineSimilarity := none }
  deviceId := device
  shardGeneration := 1
  childReceiptId := none

/-- The devices of two shards that hold the fact. -/
def east : DeviceId := ⟨"3f2504e0-4f89-41d3-9a0c-0305e82c3301"⟩

def west : DeviceId := ⟨"9b2b4f56-6f0c-4c1d-8f3e-2a7d9c1e5b40"⟩

end Sample

open Sample in
/-- With `top_k = 0`, the shard merge returns the result it was given. -/
theorem zero_top_k_returns_results : ¬ ∀ (S : SearchSources) (results : List (RoutedSearchResult S))
    (storeResults : List (ProfileRoutedSearchResult S)) (topK : Nat),
    MergeMeets RoutedSearchResult.result results topK (mergeRoutedResults results topK) ∧
      MergeMeets ProfileRoutedSearchResult.result storeResults topK
        (mergeProfileResults storeResults topK) := by
  intro h
  obtain ⟨ranked, -, houtcome⟩ := (h factSources [foundAt east] [] 0).1.2 (by
    rintro ⟨a, ha, b, hb, -, hne⟩
    rw [List.mem_singleton.1 ha, List.mem_singleton.1 hb] at hne
    exact hne rfl)
  have hreturned : mergeRoutedResults [foundAt east] 0 = .ok [foundAt east] := rfl
  rw [hreturned, List.take_zero] at houtcome
  cases houtcome

open Sample in
/-- The fact is attributed to the shard whose result comes first. -/
theorem tied_owner_follows_order : ¬ ∀ (S : SearchSources) (results : List (RoutedSearchResult S))
    (storeResults : List (ProfileRoutedSearchResult S)) (topK : Nat),
    (∀ results', results.Perm results' →
        mergeRoutedResults results' topK = mergeRoutedResults results topK) ∧
      ∀ storeResults', storeResults.Perm storeResults' →
        (mergeProfileResults storeResults' topK).map (List.map (·.attribution)) =
          (mergeProfileResults storeResults topK).map (List.map (·.attribution)) := by
  intro h
  have hsame := (h factSources [foundAt east, foundAt west] [] 1).1 [foundAt west, foundAt east]
    (.swap _ _ _)
  have heast : mergeRoutedResults [foundAt east, foundAt west] 1 = .ok [foundAt east] := by rfl
  have hwest : mergeRoutedResults [foundAt west, foundAt east] 1 = .ok [foundAt west] := by rfl
  rw [heast, hwest] at hsame
  have howner := congrArg (fun r => r.toOption.map (List.map RoutedSearchResult.deviceId)) hsame
  exact absurd howner (by decide)

end Mnemes
