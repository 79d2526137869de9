import Mathlib
import Mnemes.Profile.Digest
import Mnemes.Search.Routed

/-!
# The ranking of the shards

`rank_shards` lists the eligible shards of the catalog in one order, whatever the order of the
catalog, and scores a shard by the set of its terms: `refresh_shard_summary` stores the terms of a
summary joined, sorted and each once, and tokenising what it stored finds the same set
(`ranking_canonical`).
-/

namespace Mnemes

open Concurrency

/-! ## Sets of texts -/

/-- `sort` and `dedup` keep the set of texts. -/
theorem mem_sortDedup {text : String} {texts : List String} :
    text ∈ sortDedup texts ↔ text ∈ texts := by
  have hmem : ∀ (first : String) (rest : List String),
      text ∈ rest.destutter' (· ≠ ·) first ↔ text = first ∨ text ∈ rest := by
    intro first rest
    induction rest generalizing first with
    | nil => simp
    | cons next rest ih =>
      rw [List.destutter'_cons]
      split
      · rw [List.mem_cons, ih, List.mem_cons]
      · next heq =>
        rw [not_not] at heq
        subst heq
        rw [ih, List.mem_cons]
        tauto
  rw [sortDedup, ← List.mem_insertionSort (textLe · ·) (l := texts)]
  cases texts.insertionSort (textLe · ·) with
  | nil => simp
  | cons first rest => rw [List.destutter_cons', hmem, List.mem_cons]

/-! ## Tokens -/

/-- A character that ends a token. -/
def separates (c : Char) : Bool := !c.isAlphanum

/-- A character ends a token in either case. -/
theorem separates_toLower (c : Char) : separates c.toLower = separates c := by
  unfold separates Char.isAlphanum
  by_cases hupper : c.isUpper
  · simp [Char.isAlpha, hupper]
  · rw [Char.toLower_eq_of_not_isUpper hupper]

/-- The tokens of a text: its longest runs of letters and digits, in lower case. -/
theorem mem_routingTokens {token value : String} :
    token ∈ routingTokens value ↔ ∃ run ∈ value.toList.splitOnP separates, run ≠ [] ∧
      String.ofList (run.map Char.toLower) = token := by
  unfold routingTokens
  rw [mem_sortDedup]
  simp only [List.mem_map, List.mem_filter, Bool.not_eq_true', List.isEmpty_eq_false_iff, and_assoc]
  rfl

/-- A token is a run of its own. -/
theorem splitOnP_token {token value : String} (h : token ∈ routingTokens value) :
    (∀ c ∈ token.toList, separates c = false) ∧ token.toList ≠ [] ∧
      token.toList.map Char.toLower = token.toList := by
  obtain ⟨run, hrun, hne, rfl⟩ := mem_routingTokens.1 h
  simp only [String.toList_ofList, List.mem_map, forall_exists_index, and_imp]
  refine ⟨?_, by simpa using hne, by simp⟩
  rintro _ c hc rfl
  rw [separates_toLower]
  exact Lists.not_of_mem_splitOnP hrun c hc

/-- Tokenising the joined tokens of a text finds its tokens. -/
theorem mem_routingTokens_join {token value : String} :
    token ∈ routingTokens (joinTexts " " (routingTokens value)) ↔ token ∈ routingTokens value := by
  by_cases hnil : routingTokens value = []
  · rw [hnil]
    simp [mem_routingTokens, joinTexts]
  · have hsplit : (joinTexts " " (routingTokens value)).toList.splitOnP separates =
        (routingTokens value).map String.toList := by
      rw [toList_joinTexts]
      refine Lists.splitOnP_intercalate (by decide) (by simpa using hnil) ?_
      intro piece hpiece
      obtain ⟨t, ht, rfl⟩ := List.mem_map.1 hpiece
      exact (splitOnP_token ht).1
    rw [mem_routingTokens, hsplit]
    simp only [List.mem_map, exists_exists_and_eq_and]
    constructor
    · rintro ⟨t, ht, -, rfl⟩
      rw [(splitOnP_token ht).2.2, String.ofList_toList]
      exact ht
    · intro h
      obtain ⟨-, hne, hlower⟩ := splitOnP_token h
      exact ⟨token, h, hne, by rw [hlower, String.ofList_toList]⟩

/-! ## Scores -/

/-- A score depends on the set of a shard's terms. -/
theorem routingScore_congr {query : String} {requester : DeviceId} {shard shard' : DeviceShard}
    (hdevice : shard'.deviceId = shard.deviceId)
    (hterms : ∀ token, token ∈ routingTokens shard'.routingTerms ↔
      token ∈ routingTokens shard.routingTerms)
    (hnamespaces : ∀ text, text ∈ shard'.namespaces ↔ text ∈ shard.namespaces) :
    routingScore query requester shard' = routingScore query requester shard := by
  have hcatalog : ∀ token, (token ∈ routingTokens shard'.routingTerms ++
      shard'.namespaces.flatMap routingTokens) ↔ (token ∈ routingTokens shard.routingTerms ++
      shard.namespaces.flatMap routingTokens) := by
    intro token
    simp only [List.mem_append, List.mem_flatMap, hterms, hnamespaces]
  unfold routingScore
  simp only [hcatalog, hdevice]

/-- The shard with its terms and namespaces, each as they are or as a refresh stores them. -/
def Summarizes (raw stored : DeviceShard × DeviceStatus) : Prop :=
  stored.2 = raw.2 ∧
    ∃ terms ∈ [raw.1.routingTerms, joinTexts " " (routingTokens raw.1.routingTerms)],
      ∃ namespaces ∈ [raw.1.namespaces, sortDedup raw.1.namespaces],
        stored.1 = { raw.1 with routingTerms := terms, namespaces := namespaces }

/-- A refreshed summary has the score of what it summarizes. -/
theorem Summarizes.score {raw stored : DeviceShard × DeviceStatus} (h : Summarizes raw stored)
    (query : String) (requester : DeviceId) :
    routingScore query requester stored.1 = routingScore query requester raw.1 := by
  obtain ⟨-, terms, hterms, namespaces, hnamespaces, hstored⟩ := h
  rw [hstored]
  refine routingScore_congr rfl (fun token => ?_) fun text => ?_
  · rcases List.mem_pair.1 hterms with rfl | rfl
    · rfl
    · exact mem_routingTokens_join
  · rcases List.mem_pair.1 hnamespaces with rfl | rfl
    · rfl
    · exact mem_sortDedup

/-! ## The order -/

/-- Score descending, then device ascending, strictly. -/
def RankedShard.Precedes (a b : RankedShard) : Prop :=
  b.score < a.score ∨
    (a.score = b.score ∧ textLe a.deviceId.text b.deviceId.text = true ∧ a.deviceId ≠ b.deviceId)

instance : Std.Total RankedShard.Before where
  total a b := by
    by_cases hscore : a.score = b.score
    · rcases textLe_total a.deviceId.text b.deviceId.text with h | h
      · exact .inl (.inr ⟨hscore, h⟩)
      · exact .inr (.inr ⟨hscore.symm, h⟩)
    · rcases UInt64.le_total a.score b.score with h | h
      · exact .inr (.inl (UInt64.lt_of_le_of_ne h hscore))
      · exact .inl (.inl (UInt64.lt_of_le_of_ne h (Ne.symm hscore)))

instance : IsTrans RankedShard RankedShard.Before where
  trans a b c := by
    rintro (h | ⟨h, hd⟩) (h' | ⟨h', hd'⟩)
    · exact .inl (UInt64.lt_trans h' h)
    · exact .inl (h' ▸ h)
    · exact .inl (h ▸ h')
    · exact .inr ⟨h.trans h', textLe_trans hd hd'⟩

/-- Entries that precede each other are the same. -/
theorem RankedShard.Before.antisymm {a b : RankedShard} (h : a.Before b) (h' : b.Before a) :
    a = b := by
  obtain ⟨⟨device⟩, score⟩ := a
  obtain ⟨⟨device'⟩, score'⟩ := b
  rcases h with h | ⟨h, hd⟩ <;> rcases h' with h' | ⟨h', hd'⟩
  · exact absurd (UInt64.lt_trans h h') (UInt64.lt_irrefl _)
  · exact absurd (h' ▸ h) (UInt64.lt_irrefl _)
  · exact absurd (h ▸ h') (UInt64.lt_irrefl _)
  · cases h
    cases textLe_antisymm hd hd'
    rfl

/-- Entries of distinct devices in order are strictly in order. -/
theorem pairwise_precedes {ranked : List RankedShard} (h : ranked.Pairwise RankedShard.Before)
    (hnodup : (ranked.map (·.deviceId)).Nodup) : ranked.Pairwise RankedShard.Precedes := by
  refine List.Pairwise.imp₂ ?_ h (List.pairwise_map.1 hnodup)
  rintro a b (hscore | ⟨hscore, hdevice⟩) hne
  · exact .inl hscore
  · exact .inr ⟨hscore, hdevice, hne⟩

/-- The ranking is that of any catalog with the same entries, up to what summaries store. -/
theorem rankShards_congr {query : String} {requester : DeviceId}
    {catalog catalog' : List (DeviceShard × DeviceStatus)}
    (h : List.Forall₂ Summarizes catalog catalog') :
    rankShards query requester catalog' = rankShards query requester catalog := by
  have hentries : (catalog'.filter fun entry => entry.1.eligible entry.2).map (fun entry =>
        (⟨entry.1.deviceId, routingScore query requester entry.1⟩ : RankedShard)) =
      (catalog.filter fun entry => entry.1.eligible entry.2).map fun entry =>
        ⟨entry.1.deviceId, routingScore query requester entry.1⟩ := by
    induction h with
    | nil => rfl
    | @cons raw stored catalog catalog' hentry _ ih =>
      have hscore := hentry.score query requester
      obtain ⟨hstatus, terms, -, namespaces, -, hstored⟩ := hentry
      have heligible : stored.1.eligible stored.2 = raw.1.eligible raw.2 := by
        rw [hstatus, hstored]
        rfl
      have hdevice : stored.1.deviceId = raw.1.deviceId := by rw [hstored]
      simp only [List.filter_cons, heligible]
      split
      · rw [List.map_cons, List.map_cons, ih, hscore, hdevice]
      · exact ih
  rw [rankShards, hentries, rankShards]

/-- The ranking does not depend on the order of the catalog. -/
theorem rankShards_perm {query : String} {requester : DeviceId}
    {catalog catalog' : List (DeviceShard × DeviceStatus)} (h : catalog.Perm catalog') :
    rankShards query requester catalog' = rankShards query requester catalog := by
  have hentries := (h.filter fun entry => entry.1.eligible entry.2).map fun entry =>
    (⟨entry.1.deviceId, routingScore query requester entry.1⟩ : RankedShard)
  refine List.Perm.eq_of_pairwise (fun a b _ _ => RankedShard.Before.antisymm)
    (List.pairwise_insertionSort _ _) (List.pairwise_insertionSort _ _) ?_
  exact (List.perm_insertionSort _ _).trans (hentries.symm.trans (List.perm_insertionSort _ _).symm)

/-! ## What a refresh stores -/

section
variable {M : SemanticMemory} {s s' : MnemesStore M} {x : Choice} (hx : x.fault = none)
include hx

/-- A refresh that runs alone returns the shard with the summary as it stores it. -/
theorem refreshShardSummary_summarizes {device : DeviceId} {terms : String}
    {namespaces : List String} {entry : DeviceShard × DeviceStatus}
    (h : (refreshShardSummary device terms namespaces).run.alone x s = (some (.ok entry), s')) :
    Summarizes ({ entry.1 with routingTerms := terms, namespaces := namespaces }, entry.2)
      entry := by
  unfold refreshShardSummary deviceMemory shardStats at h
  simp only [bind_assoc] at h
  rw [alone_poolRead hx] at h
  cases hfind : s.db.deviceShards.find? device with
  | none => simp [hfind] at h
  | some row =>
    simp only [hfind] at h
    split at h
    · cases h
    · rw [alone_memoryCall hx, alone_memoryCall hx] at h
      cases hstats : M.stats (s.shards device) with
      | error e => simp [hstats, Except.mapError] at h
      | ok stats =>
        simp only [hstats, Except.mapError] at h
        rw [alone_poolConn hx] at h
        simp only [hfind] at h
        rw [← bind_pure (poolRead _), alone_poolRead hx] at h
        split at h
        · next found hfound =>
          cases h
          have hfound := okOr_eq_ok.1 hfound
          have hdevice : entry.1.deviceId = device := by simpa using List.find?_some hfound
          obtain ⟨stored, hstored, hjoined⟩ :=
            List.mem_filterMap.1 (List.mem_of_find?_eq_some hfound)
          obtain ⟨_, -, rfl⟩ := Option.map_eq_some_iff.1 hjoined
          obtain ⟨old, -, hold⟩ := List.mem_map.1 ((List.mem_insertionSort _).1 hstored)
          split at hold
          · subst hold
            exact ⟨rfl, _, List.mem_pair.2 (.inr rfl), _, List.mem_pair.2 (.inr rfl), rfl⟩
          · next hother =>
            subst hold
            exact absurd hdevice (by simpa using hother)
        · cases h

end

/-! ## The ranking -/

/-- The ranking lists the eligible shards once each, strictly by score and device, whatever the
order of the catalog, and whether or not the summaries of its shards are as a refresh stores
them. -/
theorem ranking_canonical (query : String) (requester : DeviceId)
    {catalog : List (DeviceShard × DeviceStatus)}
    (hdistinct : (catalog.map (·.1.deviceId)).Nodup) :
    ((rankShards query requester catalog).map (·.deviceId)).Perm
      ((catalog.filter fun entry => entry.1.eligible entry.2).map (·.1.deviceId)) ∧
    ((rankShards query requester catalog).map (·.deviceId)).Nodup ∧
    (rankShards query requester catalog).Pairwise RankedShard.Precedes ∧
    (∀ catalog', catalog.Perm catalog' →
      rankShards query requester catalog' = rankShards query requester catalog) ∧
    (∀ catalog', List.Forall₂ Summarizes catalog catalog' →
      rankShards query requester catalog' = rankShards query requester catalog) ∧
    ∀ (M : SemanticMemory) (s s' : MnemesStore M) (x : Choice) device terms namespaces entry,
      x.fault = none →
      (refreshShardSummary device terms namespaces).run.alone x s = (some (.ok entry), s') →
      routingScore query requester entry.1 = routingScore query requester
        { entry.1 with routingTerms := terms, namespaces := namespaces } := by
  have hnodup := rankShards_nodup query requester hdistinct
  refine ⟨?_, hnodup, pairwise_precedes (List.pairwise_insertionSort _ _) hnodup,
    fun _ => rankShards_perm, fun _ => rankShards_congr, ?_⟩
  · refine ((List.perm_insertionSort _ _).map _).trans ?_
    rw [List.map_map]
    exact List.Perm.refl _
  · intro M s s' x device terms namespaces entry hx h
    exact (refreshShardSummary_summarizes hx h).score query requester

/-- An active shard of a device, with a summary. -/
def Sample.ranked (device routingTerms : String) : DeviceShard × DeviceStatus :=
  ({ deviceId := ⟨device⟩
     relativePath := shardRelativePath ⟨device⟩
     state := .active
     generation := 1
     routingTerms := routingTerms
     counts := ⟨0, 0, 0, 0⟩
     lastRefreshedAt := none }, .active)

open Sample in
/-- Three shards are ranked alike in two orders of the catalog. -/
theorem ranking_canonical_sample :
    rankShards "Garden notes" ⟨"b"⟩ [ranked "b" "", ranked "c" "notes", ranked "a" "garden"] =
      [⟨⟨"a"⟩, 2⟩, ⟨⟨"c"⟩, 2⟩, ⟨⟨"b"⟩, 1⟩] ∧
    rankShards "Garden notes" ⟨"b"⟩ [ranked "a" "garden", ranked "b" "", ranked "c" "notes"] =
      rankShards "Garden notes" ⟨"b"⟩ [ranked "b" "", ranked "c" "notes", ranked "a" "garden"] := by
  have hperm : [ranked "b" "", ranked "c" "notes", ranked "a" "garden"].Perm
      [ranked "a" "garden", ranked "b" "", ranked "c" "notes"] :=
    (List.Perm.cons _ (List.Perm.swap _ _ _)).trans (List.Perm.swap _ _ _)
  exact ⟨by decide +kernel,
    (ranking_canonical "Garden notes" ⟨"b"⟩ (by decide +kernel)).2.2.2.1 _ hperm⟩

end Mnemes
