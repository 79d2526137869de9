import Mnemes.Catalog
import Mnemes.Lib.Yields
import Mnemes.Profile.Authorization
import Mnemes.Profile.Bindings
import Mnemes.Receipts
import Mnemes.Search.Merge

/-!
# Routed searches

`routed_search` ranks the eligible shards of the catalog, searches the first of them, and goes on
one by one while the merged results are fewer than `top_k`; `routed_search_for_profile` searches the
stores of the actor's authorization snapshot. Both end with a receipt that they validate and store.
A sparse search refines the exhaustive one (`sparse_search_refines_exhaustive`), and the receipts
are valid in every interleaving and whatever the searched stores answer (`own_receipts_valid`).

What opening and searching a store ends with is a process that cannot fail. The statistics of a
shard's searches are left out.
-/

namespace Mnemes

open Concurrency

/-! ## Requests and answers -/

/-- `SearchSourceType` of `semantic-memory`, as far as the server names it. -/
inductive SearchSourceType where
  | facts
  | chunks
  | messages
  | episodes
  deriving DecidableEq, Repr

/-- Routed search request with safe sparse defaults. -/
structure RoutingSearchRequest where
  query : String
  topK : Nat
  namespaces : Option (List String) := none
  sourceTypes : Option (List SearchSourceType) := none
  shardBudget : Option Nat := none
  exhaustive : Bool := false
  deriving DecidableEq, Repr

/-- The number of ranked shards that are searched at once. -/
def RoutingSearchRequest.initialBudget (request : RoutingSearchRequest) (ranked : Nat) : Nat :=
  if request.exhaustive then ranked else min (request.shardBudget.getD (min ranked 2)) ranked

/-- `SearchResponse` of `semantic-memory`, with the identity of its receipt. -/
structure SearchResponse (S : SearchSources) where
  results : List (SearchResult S)
  receiptId : Option String

/-- How opening and searching a shard ended, and how long it took. -/
structure ShardAnswer (S : SearchSources) where
  latencyMs : UInt64
  response : Except String (SearchResponse S)

/-- How opening and searching a profile store ended, and how long it took. -/
structure StoreAnswer (S : SearchSources) where
  latencyMs : UInt64
  response : Except String (List (SearchResult S))

/-- The outcome of one shard search and its results. -/
structure ShardSearchExecution (S : SearchSources) where
  outcome : ShardSearchOutcome
  results : List (RoutedSearchResult S)

/-- Results plus their durable global routing receipt. -/
structure RoutedSearchResponse (S : SearchSources) where
  results : List (RoutedSearchResult S)
  routingReceipt : ShardRoutingReceipt

structure ProfileRoutedSearchResponse (S : SearchSources) where
  results : List (ProfileRoutedSearchResult S)
  routingReceipt : ProfileRoutingReceipt

/-! ## Ranking -/

/-- `DeviceShard::eligible`, of a shard with the status of its device. -/
def DeviceShard.eligible (shard : DeviceShard) (deviceStatus : DeviceStatus) : Bool :=
  shard.state = .active && deviceStatus = .active

/-- The number of the query's terms among the shard's, twice, and one for the requester's own shard,
saturating. -/
def routingScore (query : String) (requester : DeviceId) (shard : DeviceShard) : UInt64 :=
  let catalogTerms := routingTokens shard.routingTerms ++ shard.namespaces.flatMap routingTokens
  let overlap := ((routingTokens query).filter (· ∈ catalogTerms)).length
  let locality := if shard.deviceId = requester then 1 else 0
  UInt64.ofNat (min (min (overlap * 2) (2 ^ 64 - 1) + locality) (2 ^ 64 - 1))

/-- Score descending, then device ascending. -/
def RankedShard.Before (a b : RankedShard) : Prop :=
  b.score < a.score ∨ (a.score = b.score ∧ textLe a.deviceId.text b.deviceId.text = true)

instance : DecidableRel RankedShard.Before :=
  fun a b => inferInstanceAs (Decidable (_ ∨ _ ∧ textLe a.deviceId.text b.deviceId.text = true))

/-- `rank_shards`. -/
def rankShards (query : String) (requester : DeviceId)
    (shards : List (DeviceShard × DeviceStatus)) : List RankedShard :=
  ((shards.filter fun entry => entry.1.eligible entry.2).map fun entry =>
    ⟨entry.1.deviceId, routingScore query requester entry.1⟩).insertionSort RankedShard.Before

/-- The shard of a device in the catalog, where a later entry replaces an earlier one. -/
def byDevice (catalog : List (DeviceShard × DeviceStatus)) (device : DeviceId) :
    Option DeviceShard :=
  (catalog.reverse.find? (·.1.deviceId = device)).map (·.1)

/-- The shards of ranked devices. -/
def shardsOf (catalog : List (DeviceShard × DeviceStatus)) (ranked : List RankedShard) :
    List DeviceShard :=
  ranked.filterMap fun ranked => byDevice catalog ranked.deviceId

/-! ## Searching the shards -/

section
variable {M : SemanticMemory} {S : SearchSources}

/-- What `search_one_shard` returns for the answer of the shard. -/
def ShardAnswer.execution (answer : ShardAnswer S) (shard : DeviceShard) : ShardSearchExecution S :=
  let generation := UInt64.ofNat shard.generation
  match answer.response with
  | .ok response =>
    { outcome := {
        deviceId := shard.deviceId
        shardGeneration := generation
        latencyMs := answer.latencyMs
        resultCount := UInt64.ofNat response.results.length
        childSearchReceiptId := response.receiptId
        error := none }
      results := response.results.map fun result =>
        { result
          deviceId := shard.deviceId
          shardGeneration := generation
          childReceiptId := response.receiptId } }
  | .error error =>
    { outcome := {
        deviceId := shard.deviceId
        shardGeneration := generation
        latencyMs := answer.latencyMs
        resultCount := 0
        childSearchReceiptId := none
        error := some error }
      results := [] }

/-- `search_one_shard`. -/
def searchOneShard (search : DeviceShard → Proc (MnemesStore M) Choice Event (ShardAnswer S))
    (shard : DeviceShard) : Op M (ShardSearchExecution S) := do
  let answer ← liftM (search shard)
  return answer.execution shard

/-- `search_shard_batch`, one search after the other: whatever the other searches of the batch do
between two actions of a search, other calls may do as well. -/
def searchShardBatch (search : DeviceShard → Proc (MnemesStore M) Choice Event (ShardAnswer S))
    (shards : List DeviceShard) : Op M (List (ShardSearchExecution S)) :=
  shards.mapM (searchOneShard search)

/-- The shards searched so far. -/
structure Expansion (S : SearchSources) where
  executions : List (ShardSearchExecution S)
  allResults : List (RoutedSearchResult S)
  selectedCount : Nat

/-- The expansion: shard after shard, until the merge has `top_k` results. -/
def expandShards (search : DeviceShard → Proc (MnemesStore M) Choice Event (ShardAnswer S))
    (catalog : List (DeviceShard × DeviceStatus)) (topK : Nat) :
    Expansion S → List RankedShard → Op M (Expansion S)
  | expansion, [] => return expansion
  | expansion, next :: rest =>
    match byDevice catalog next.deviceId with
    | none => expandShards search catalog topK expansion rest
    | some shard => do
      let execution ← searchOneShard search shard
      let expansion : Expansion S :=
        { executions := expansion.executions ++ [execution]
          allResults := expansion.allResults ++ execution.results
          selectedCount := expansion.selectedCount + 1 }
      let merged ← liftM (mergeRoutedResults expansion.allResults topK)
      if topK ≤ merged.length then return expansion
      else expandShards search catalog topK expansion rest

/-- The search of the ranked shards, with the reason for the expansion. -/
def searchRanked (search : DeviceShard → Proc (MnemesStore M) Choice Event (ShardAnswer S))
    (catalog : List (DeviceShard × DeviceStatus)) (request : RoutingSearchRequest)
    (ranked : List RankedShard) : Op M (Expansion S × Option String) := do
  let initial := shardsOf catalog (ranked.take (request.initialBudget ranked.length))
  let executions ← searchShardBatch search initial
  let expansion : Expansion S :=
    { executions
      allResults := executions.flatMap (·.results)
      selectedCount := initial.length }
  if !request.exhaustive && expansion.selectedCount < ranked.length then
    let merged ← liftM (mergeRoutedResults expansion.allResults request.topK)
    if merged.length < request.topK then
      let expansion ← expandShards search catalog request.topK expansion
        (ranked.drop expansion.selectedCount)
      return (expansion, some "insufficient_results_expand")
    else return (expansion, none)
  else return (expansion, none)

/-- What the digest of a merge covers. -/
def mergeMaterial (P : Platform) (results : List (RoutedSearchResult S)) : String :=
  joinTexts "\n" (results.map fun result =>
    s!"{result.itemId}:{result.deviceId.text}:{sha256Hex P result.content}")

/-- The receipt of a search, with its digest. -/
def shardRoutingReceipt (P : Platform) (authKey : Bytes32) (receiptId recordedAt : String)
    (requester : DeviceId) (request : RoutingSearchRequest) (ranked : List RankedShard)
    (expansion : Expansion S) (fallbackReason : Option String)
    (results : List (RoutedSearchResult S)) : ShardRoutingReceipt :=
  let receipt : ShardRoutingReceipt :=
    { receiptId
      requesterDeviceId := requester
      querySha256 := sha256Hex P request.query
      shardBudget := UInt64.ofNat (request.initialBudget ranked.length)
      actualSelectedShardCount := UInt64.ofNat (ranked.take expansion.selectedCount).length
      exhaustive := request.exhaustive
      eligibleShards := ranked.map (·.deviceId)
      rankedShards := ranked
      selectedShards := (ranked.take expansion.selectedCount).map (·.deviceId)
      skippedShards := (ranked.drop expansion.selectedCount).map (·.deviceId)
      outcomes := expansion.executions.map (·.outcome)
      fallbackReason
      finalResultIds := results.map (·.itemId)
      mergeDigest := sha256Hex P (mergeMaterial P results)
      receiptDigest := ""
      recordedAt }
  { receipt with receiptDigest := routingReceiptDigest P authKey receipt }

/-- `routed_search`, with the identity and the time of its receipt. -/
def routedSearch (P : Platform) (authKey : Bytes32) (receiptId recordedAt : String)
    (search : DeviceShard → Proc (MnemesStore M) Choice Event (ShardAnswer S))
    (requester : DeviceId) (request : RoutingSearchRequest) : Op M (RoutedSearchResponse S) := do
  if (← getDevice requester).isNone then
    throw (.deviceNotFound requester.text)
  let catalog ← poolRead fun db => .ok db.listShards
  let ranked := rankShards request.query requester catalog
  let (expansion, fallbackReason) ← searchRanked search catalog request ranked
  let results ← liftM (mergeRoutedResults expansion.allResults request.topK)
  let receipt := shardRoutingReceipt P authKey receiptId recordedAt requester request ranked
    expansion fallbackReason results
  liftM (validateRoutingReceipt P authKey receipt)
  (persistRoutingReceipt P authKey receipt).op
  return ⟨results, receipt⟩

/-! ## Searching the stores of a profile -/

/-- What the search of an authorized store adds to the outcomes and the results. -/
def StoreAnswer.execution (answer : StoreAnswer S) (authorized : AuthorizedMemoryStore) :
    ProfileStoreSearchOutcome × List (ProfileRoutedSearchResult S) :=
  match answer.response with
  | .ok storeResults =>
    ({ storeId := authorized.storeId
       profileId := authorized.profileId
       latencyMs := answer.latencyMs
       resultCount := UInt64.ofNat storeResults.length
       childSearchReceiptId := none
       error := none },
      storeResults.map fun result =>
        { result
          storeId := authorized.storeId
          profileId := authorized.profileId
          ownerDeviceId := authorized.ownerDeviceId
          «namespace» := authorized.namespace
          childSearchReceiptId := none })
  | .error error =>
    ({ storeId := authorized.storeId
       profileId := authorized.profileId
       latencyMs := answer.latencyMs
       resultCount := 0
       childSearchReceiptId := none
       error := some error }, [])

/-- The loop over the authorized stores. -/
def searchStores
    (search : AuthorizedMemoryStore → Proc (MnemesStore M) Choice Event (StoreAnswer S))
    (authorizedStores : List AuthorizedMemoryStore) :
    Op M (List (ProfileStoreSearchOutcome × List (ProfileRoutedSearchResult S))) :=
  authorizedStores.mapM fun authorized => do
    let answer ← liftM (search authorized)
    return answer.execution authorized

/-- The receipt of a profile search, with its digest. -/
def profileRoutingReceipt (P : Platform) (authKey : Bytes32) (receiptId recordedAt : String)
    (actor : ActorId) (request : RoutingSearchRequest) (snapshot : AuthorizationSnapshot)
    (outcomes : List ProfileStoreSearchOutcome) (merged : List (ProfileRoutedSearchResult S)) :
    ProfileRoutingReceipt :=
  let receipt : ProfileRoutingReceipt :=
    { receiptId
      actorId := actor
      subjectProfileId := snapshot.subjectProfileId
      authorizationSnapshotDigest := snapshot.snapshotDigest
      authorizedStores := snapshot.authorizedStores
      selectedStores := snapshot.authorizedStores.map (·.storeId)
      skippedStores := []
      outcomes
      complete := outcomes.all (·.error.isNone)
      finalResultIds := merged.map (·.itemId)
      querySha256 := sha256Hex P request.query
      receiptDigest := ""
      recordedAt }
  { receipt with receiptDigest := profileRoutingReceiptDigest P authKey receipt }

/-- `routed_search_for_profile`, with the identity and the time of its receipt. -/
def routedSearchForProfile (P : Platform) (authKey : Bytes32) (receiptId recordedAt : String)
    (search : AuthorizedMemoryStore → Proc (MnemesStore M) Choice Event (StoreAnswer S))
    (actor : ActorId) (request : RoutingSearchRequest) (authorizationTime : UInt64) :
    Op M (ProfileRoutedSearchResponse S) := do
  let snapshot ← buildAuthorizationSnapshot P actor .search request.namespaces authorizationTime
  let executions ← searchStores search snapshot.authorizedStores
  let merged ← liftM (mergeProfileResults (executions.flatMap (·.2)) request.topK)
  let receipt := profileRoutingReceipt P authKey receiptId recordedAt actor request snapshot
    (executions.map (·.1)) merged
  liftM (validateProfileRoutingReceipt P authKey receipt)
  (persistProfileRoutingReceipt P authKey receipt).op
  return ⟨merged, receipt⟩

/-! ## The sections of a call among others -/

variable {α : Type} {I : MnemesStore M → Prop}

/-- A query that succeeds did so on some state it can meet. -/
theorem yields_poolRead_ok {f : PooledDb → Except MnemesError α} {a : α}
    (h : (poolRead f : Op M α).run.Yields I (.ok a)) : ∃ s, I s ∧ f s.db = .ok a := by
  obtain ⟨s, x, hs, h⟩ := Proc.yields_atomic.1 h
  refine ⟨s, hs, ?_⟩
  split at h
  · cases h
  · cases hf : f s.db with
    | error e => simp [hf, Except.map] at h
    | ok b =>
      simp only [hf, Except.map] at h
      cases h
      rfl

/-- A section that fails had a faulty statement, or failed on some state it can meet. -/
theorem yields_poolConn_error
    {f : PooledDb → Choice → Except MnemesError (α × PooledDb × List Event)} {e : MnemesError}
    (h : (poolConn f : Op M α).run.Yields I (.error e)) :
    (∃ detail, e = .database detail) ∨ ∃ s x, I s ∧ f s.db x = .error e := by
  obtain ⟨s, x, hs, h⟩ := Proc.yields_atomic.1 h
  split at h
  · cases h
    exact .inl ⟨_, rfl⟩
  · cases hf : f s.db x with
    | error e' =>
      simp only [hf] at h
      cases h
      exact .inr ⟨s, x, hs, hf⟩
    | ok r =>
      simp only [hf] at h
      cases h

/-- A query that fails had a faulty statement, or failed on some state it can meet. -/
theorem yields_poolRead_error {f : PooledDb → Except MnemesError α} {e : MnemesError}
    (h : (poolRead f : Op M α).run.Yields I (.error e)) :
    (∃ detail, e = .database detail) ∨ ∃ s, I s ∧ f s.db = .error e := by
  refine (yields_poolConn_error h).imp id ?_
  rintro ⟨s, x, hs, h⟩
  refine ⟨s, hs, ?_⟩
  cases hf : f s.db with
  | error e' =>
    rw [hf] at h
    cases h
    rfl
  | ok a =>
    rw [hf] at h
    cases h

/-- A query that fails for the database only. -/
theorem yields_query_error {f : PooledDb → α} {e : MnemesError}
    (h : (poolRead fun db => .ok (f db) : Op M α).run.Yields I (.error e)) :
    ∃ detail, e = .database detail := by
  refine (yields_poolRead_error h).resolve_right ?_
  rintro ⟨s, -, hs⟩
  cases hs

/-- Looking a device up does not fail. -/
theorem not_yields_getDevice {device : DeviceId} {e : MnemesError} :
    ¬ (getDevice device : Op M _).run.Yields I (.error e) := by
  intro h
  obtain ⟨s, x, -, h⟩ := Proc.yields_atomic.1 h
  split at h <;> cases h

/-! ## A sparse search -/

/-- The searches of ranked shards whose answers are fixed. -/
def searched (answers : DeviceShard → ShardAnswer S) (catalog : List (DeviceShard × DeviceStatus))
    (ranked : List RankedShard) : List (ShardSearchExecution S) :=
  (shardsOf catalog ranked).map fun shard => (answers shard).execution shard

/-- Their results. -/
def found (answers : DeviceShard → ShardAnswer S) (catalog : List (DeviceShard × DeviceStatus))
    (ranked : List RankedShard) : List (RoutedSearchResult S) :=
  (searched answers catalog ranked).flatMap (·.results)

/-- The results merge into fewer than `top_k`. -/
def Short (results : List (RoutedSearchResult S)) (topK : Nat) : Prop :=
  ∃ merged, mergeRoutedResults results topK = .ok merged ∧ merged.length < topK

/-- The results merge into `top_k` or more. -/
def Full (results : List (RoutedSearchResult S)) (topK : Nat) : Prop :=
  ∃ merged, mergeRoutedResults results topK = .ok merged ∧ topK ≤ merged.length

/-- Every ranked shard is in the catalog. -/
def Cataloged (catalog : List (DeviceShard × DeviceStatus)) (ranked : List RankedShard) : Prop :=
  ∀ r ∈ ranked, ∃ shard, byDevice catalog r.deviceId = some shard

section
variable {answers : DeviceShard → ShardAnswer S} {catalog : List (DeviceShard × DeviceStatus)}
  {ranked : List RankedShard}

/-- The catalog returns the shard of the device it is asked for. -/
theorem byDevice_deviceId {device : DeviceId} {shard : DeviceShard}
    (h : byDevice catalog device = some shard) : shard.deviceId = device := by
  obtain ⟨entry, hentry, rfl⟩ := Option.map_eq_some_iff.1 h
  simpa using List.find?_some hentry

/-- The ranked shards are in the catalog. -/
theorem rankShards_cataloged (query : String) (requester : DeviceId) :
    Cataloged catalog (rankShards query requester catalog) := by
  intro r hr
  obtain ⟨entry, hentry, rfl⟩ := List.mem_map.1 ((List.mem_insertionSort _).1 hr)
  unfold byDevice
  cases hfind : catalog.reverse.find? (·.1.deviceId = entry.1.deviceId) with
  | some found => exact ⟨found.1, rfl⟩
  | none =>
    have hnone := List.find?_eq_none.1 hfind entry (List.mem_reverse.2 (List.mem_filter.1 hentry).1)
    simp at hnone

/-- Whatever a shard answers, the outcome names its device. -/
theorem ShardAnswer.execution_deviceId (answer : ShardAnswer S) (shard : DeviceShard) :
    (answer.execution shard).outcome.deviceId = shard.deviceId := by
  unfold ShardAnswer.execution
  dsimp only
  split <;> rfl

/-- Shards among cataloged ones are cataloged. -/
theorem Cataloged.mono {ranked' : List RankedShard} (h : Cataloged catalog ranked)
    (hsub : ranked' ⊆ ranked) : Cataloged catalog ranked' :=
  fun r hr => h r (hsub hr)

/-- The shards of a ranking, by its first entry. -/
theorem shardsOf_cons {r : RankedShard} {shard : DeviceShard}
    (h : byDevice catalog r.deviceId = some shard) :
    shardsOf catalog (r :: ranked) = shard :: shardsOf catalog ranked :=
  List.filterMap_cons_some h

/-- The shards of two rankings, one after the other. -/
theorem shardsOf_append {ranked' : List RankedShard} :
    shardsOf catalog (ranked ++ ranked') = shardsOf catalog ranked ++ shardsOf catalog ranked' :=
  List.filterMap_append

/-- One shard for each ranked device, in the order of the ranking. -/
theorem shardsOf_deviceIds (h : Cataloged catalog ranked) :
    (shardsOf catalog ranked).map (·.deviceId) = ranked.map (·.deviceId) := by
  induction ranked with
  | nil => rfl
  | cons r ranked ih =>
    obtain ⟨⟨shard, hshard⟩, hranked⟩ := List.forall_mem_cons.1 h
    rw [shardsOf_cons hshard, List.map_cons, List.map_cons, byDevice_deviceId hshard, ih hranked]

/-- There are as many shards as ranked devices. -/
theorem shardsOf_length (h : Cataloged catalog ranked) :
    (shardsOf catalog ranked).length = ranked.length := by
  simpa using congrArg List.length (shardsOf_deviceIds h)

/-- The searches of two rankings, one after the other. -/
theorem searched_append {ranked' : List RankedShard} :
    searched answers catalog (ranked ++ ranked') =
      searched answers catalog ranked ++ searched answers catalog ranked' := by
  rw [searched, shardsOf_append, List.map_append]
  rfl

/-- The results of two rankings, one after the other. -/
theorem found_append {ranked' : List RankedShard} :
    found answers catalog (ranked ++ ranked') =
      found answers catalog ranked ++ found answers catalog ranked' := by
  rw [found, searched_append, List.flatMap_append]
  rfl

/-- The outcomes name the ranked devices, in their order. -/
theorem searched_deviceIds (h : Cataloged catalog ranked) :
    (searched answers catalog ranked).map (·.outcome.deviceId) = ranked.map (·.deviceId) := by
  rw [← shardsOf_deviceIds h, searched, List.map_map]
  exact List.map_congr_left fun shard _ => ShardAnswer.execution_deviceId _ shard

/-- The searches whose answers are fixed. -/
def fixed (answers : DeviceShard → ShardAnswer S) (shard : DeviceShard) :
    Proc (MnemesStore M) Choice Event (ShardAnswer S) :=
  pure (answers shard)

/-- A search whose answer is fixed returns the outcome of that answer. -/
theorem yields_searchOneShard {shard : DeviceShard}
    {r : Except MnemesError (ShardSearchExecution S)} :
    (searchOneShard (M := M) (fixed answers) shard).run.Yields I r ↔
      r = .ok ((answers shard).execution shard) := by
  exact Proc.yields_done

/-- A batch whose answers are fixed returns the outcomes of those answers. -/
theorem yields_searchShardBatch {shards : List DeviceShard}
    {executions : List (ShardSearchExecution S)}
    (h : (searchShardBatch (M := M) (fixed answers) shards).run.Yields I (.ok executions)) :
    executions = shards.map fun shard => (answers shard).execution shard := by
  have hall := (Proc.yields_mapM_ok h).imp fun _ _ hone => yields_searchOneShard.1 hone
  clear h
  induction hall with
  | nil => rfl
  | cons hone _ ih =>
    cases hone
    rw [List.map_cons, ih]

/-- The expansion searches a nonempty prefix of the rest of the ranking: with fewer shards the merge
would have had too few results, and it ends early only with enough of them. -/
theorem yields_expandShards {topK : Nat} {rest : List RankedShard}
    {expansion expansion' : Expansion S} (hrest : Cataloged catalog rest)
    (h : (expandShards (M := M) (fixed answers) catalog topK expansion rest).run.Yields I
      (.ok expansion')) :
    ∃ n ≤ rest.length,
      expansion'.executions = expansion.executions ++ searched answers catalog (rest.take n) ∧
      expansion'.allResults = expansion.allResults ++ found answers catalog (rest.take n) ∧
      expansion'.selectedCount = expansion.selectedCount + n ∧ (rest ≠ [] → 0 < n) ∧
      (∀ m, 0 < m → m < n →
        Short (expansion.allResults ++ found answers catalog (rest.take m)) topK) ∧
      (n < rest.length → Full expansion'.allResults topK) := by
  induction rest generalizing expansion with
  | nil =>
    cases Proc.yields_pure.1 h
    exact ⟨0, le_rfl, by simp [searched, shardsOf], by simp [found, searched, shardsOf], rfl,
      fun hne => absurd rfl hne, fun m _ hm => absurd hm (Nat.not_lt_zero m),
      fun hn => absurd hn (lt_irrefl _)⟩
  | cons next rest ih =>
    obtain ⟨⟨shard, hshard⟩, hrest⟩ := List.forall_mem_cons.1 hrest
    unfold expandShards at h
    rw [hshard] at h
    dsimp only at h
    rw [Proc.yields_bind_ok] at h
    obtain ⟨execution, hexecution, h⟩ := h
    cases yields_searchOneShard.1 hexecution
    rw [Proc.yields_bind_ok] at h
    obtain ⟨merged, hmerged, h⟩ := h
    have hmerged := (Proc.yields_lift.1 hmerged).symm
    have hone : ∀ tail, searched answers catalog (next :: tail) =
        (answers shard).execution shard :: searched answers catalog tail := fun tail => by
      rw [searched, shardsOf_cons hshard]
      rfl
    have hfound : ∀ tail, found answers catalog (next :: tail) =
        ((answers shard).execution shard).results ++ found answers catalog tail := fun tail => by
      rw [found, hone]
      rfl
    have hnil : found answers catalog [] = [] := rfl
    by_cases hfull : topK ≤ merged.length
    · rw [if_pos hfull] at h
      cases Proc.yields_pure.1 h
      refine ⟨1, by simp, by rw [List.take_succ_cons, hone]; rfl, by simp [hfound, hnil], rfl,
        fun _ => Nat.one_pos, fun m hpos hm => by omega, fun _ => ⟨merged, hmerged, hfull⟩⟩
    · rw [if_neg hfull] at h
      obtain ⟨n, hn, hexecutions, hresults, hcount, -, hshort, hlast⟩ := ih hrest h
      refine ⟨n + 1, by simp [hn], by simp [hexecutions, hone], by simp [hresults, hfound],
        by rw [hcount]; dsimp only; omega, fun _ => Nat.succ_pos n, fun m hpos hm => ?_,
        fun hlt => hlast (by simpa using hlt)⟩
      obtain ⟨m, rfl⟩ := Nat.exists_eq_succ_of_ne_zero hpos.ne'
      rw [List.take_succ_cons, hfound, ← List.append_assoc]
      rcases Nat.eq_zero_or_pos m with rfl | hm0
      · rw [List.take_zero, hnil, List.append_nil]
        exact ⟨merged, hmerged, Nat.lt_of_not_le hfull⟩
      · exact hshort m hm0 (by omega)

/-- The search covers a prefix of the ranking: the initial budget, and then as many shards as the
merge takes to have `top_k` results. -/
theorem yields_searchRanked {request : RoutingSearchRequest} {expansion : Expansion S}
    {fallbackReason : Option String} (hranked : Cataloged catalog ranked)
    (h : (searchRanked (M := M) (fixed answers) catalog request ranked).run.Yields I
      (.ok (expansion, fallbackReason))) :
    ∃ n ≤ ranked.length,
      expansion.executions = searched answers catalog (ranked.take n) ∧
      expansion.allResults = found answers catalog (ranked.take n) ∧ expansion.selectedCount = n ∧
      request.initialBudget ranked.length ≤ n ∧
      (fallbackReason.isSome ↔ request.initialBudget ranked.length < n) ∧
      (∀ m, request.initialBudget ranked.length ≤ m → m < n →
        Short (found answers catalog (ranked.take m)) request.topK) ∧
      (n < ranked.length → Full expansion.allResults request.topK) := by
  have hbudget : request.initialBudget ranked.length ≤ ranked.length := by
    unfold RoutingSearchRequest.initialBudget
    split
    · exact le_rfl
    · exact Nat.min_le_right _ _
  have htake : Cataloged catalog (ranked.take (request.initialBudget ranked.length)) :=
    hranked.mono (List.take_sublist _ _).subset
  have hinitial := shardsOf_length htake
  rw [List.length_take, Nat.min_eq_left hbudget] at hinitial
  unfold searchRanked at h
  dsimp only at h
  rw [Proc.yields_bind_ok] at h
  obtain ⟨executions, hexecutions, h⟩ := h
  obtain rfl := yields_searchShardBatch hexecutions
  rw [hinitial] at h
  by_cases hmore :
    (!request.exhaustive && request.initialBudget ranked.length < ranked.length) = true
  · rw [if_pos hmore, Proc.yields_bind_ok] at h
    obtain ⟨merged, hmerged, h⟩ := h
    have hmerged := (Proc.yields_lift.1 hmerged).symm
    have hlt : request.initialBudget ranked.length < ranked.length :=
      of_decide_eq_true (Bool.and_eq_true_iff.1 hmore).2
    by_cases hshort : merged.length < request.topK
    · rw [if_pos hshort, Proc.yields_bind_ok] at h
      obtain ⟨expansion', hexpansion, h⟩ := h
      cases Proc.yields_pure.1 h
      obtain ⟨n, hn, hall, hresults, hcount, hpos, hless, hfull⟩ :=
        yields_expandShards (hranked.mono (List.drop_sublist _ _).subset) hexpansion
      have hpos := hpos fun hnil => by simp at hnil; omega
      have hsplit : ∀ m, ranked.take (request.initialBudget ranked.length + m) =
          ranked.take (request.initialBudget ranked.length) ++
            (ranked.drop (request.initialBudget ranked.length)).take m := fun m => List.take_add
      rw [List.length_drop] at hn hfull
      refine ⟨request.initialBudget ranked.length + n, by omega, ?_, ?_, hcount, by omega, ?_, ?_,
        ?_⟩
      · rw [hall, hsplit, searched_append]
        rfl
      · rw [hresults, hsplit, found_append]
        rfl
      · simp only [Option.isSome_some, true_iff]
        omega
      · intro m hm hmn
        obtain ⟨k, rfl⟩ := Nat.exists_eq_add_of_le hm
        rw [hsplit, found_append]
        rcases Nat.eq_zero_or_pos k with rfl | hk
        · rw [List.take_zero]
          exact ⟨merged, by simpa [found, searched, shardsOf] using hmerged, hshort⟩
        · exact hless k hk (by omega)
      · intro hrest
        exact hfull (by omega)
    · rw [if_neg hshort] at h
      cases Proc.yields_pure.1 h
      exact ⟨_, hbudget, rfl, rfl, rfl, le_rfl, by simp, fun m hm hmn => absurd hmn (by omega),
        fun _ => ⟨merged, hmerged, Nat.le_of_not_lt hshort⟩⟩
  · rw [if_neg hmore] at h
    cases Proc.yields_pure.1 h
    refine ⟨_, hbudget, rfl, rfl, rfl, le_rfl, by simp, fun m hm hmn => absurd hmn (by omega),
      fun hlt => absurd hmore ?_⟩
    have hsparse : request.exhaustive = false := by
      by_contra he
      rw [Bool.not_eq_false] at he
      rw [RoutingSearchRequest.initialBudget, if_pos he] at hlt
      exact absurd hlt (lt_irrefl _)
    rw [not_not, hsparse, Bool.not_false, Bool.true_and, decide_eq_true_eq]
    exact hlt

end

/-- A successful search, step by step. -/
theorem yields_routedSearch_ok {P : Platform} {authKey : Bytes32} {receiptId recordedAt : String}
    {search : DeviceShard → Proc (MnemesStore M) Choice Event (ShardAnswer S)}
    {requester : DeviceId} {request : RoutingSearchRequest} {response : RoutedSearchResponse S}
    (h : (routedSearch P authKey receiptId recordedAt search requester request).run.Yields I
      (.ok response)) :
    ∃ s expansion fallbackReason, I s ∧
      (searchRanked search s.db.listShards request
        (rankShards request.query requester s.db.listShards)).run.Yields I
          (.ok (expansion, fallbackReason)) ∧
      mergeRoutedResults expansion.allResults request.topK = .ok response.results ∧
      response.routingReceipt = shardRoutingReceipt P authKey receiptId recordedAt requester request
        (rankShards request.query requester s.db.listShards) expansion fallbackReason
        response.results ∧
      validateRoutingReceipt P authKey response.routingReceipt = .ok () := by
  unfold routedSearch at h
  rw [Proc.yields_bind_ok] at h
  obtain ⟨device, -, h⟩ := h
  split at h
  · rw [Proc.yields_bind_ok] at h
    obtain ⟨_, hthrow, -⟩ := h
    cases Proc.yields_throw.1 hthrow
  rw [Proc.yields_bind_ok] at h
  obtain ⟨catalog, hcatalog, h⟩ := h
  obtain ⟨s, hs, hcatalog⟩ := yields_poolRead_ok hcatalog
  cases hcatalog
  rw [Proc.yields_bind_ok] at h
  obtain ⟨⟨expansion, fallbackReason⟩, hsearch, h⟩ := h
  dsimp only at h
  rw [Proc.yields_bind_ok] at h
  obtain ⟨results, hresults, h⟩ := h
  rw [Proc.yields_bind_ok] at h
  obtain ⟨⟨⟩, hvalid, h⟩ := h
  rw [Proc.yields_bind_ok] at h
  obtain ⟨⟨⟩, -, h⟩ := h
  cases Proc.yields_pure.1 h
  exact ⟨s, expansion, fallbackReason, hs, hsearch, (Proc.yields_lift.1 hresults).symm, rfl,
    (Proc.yields_lift.1 hvalid).symm⟩

/-- A successful sparse search searches exactly a prefix of the ranking of some catalog it found:
the initial budget, and beyond it no shard once the merge has `top_k` results. The reason for a
fallback is set exactly beyond the budget. With fewer than `top_k` results every eligible shard was
searched, and every successful exhaustive search that finds the same catalog returns the same
results. -/
theorem sparse_search_refines_exhaustive {P : Platform} {authKey : Bytes32}
    {receiptId recordedAt : String} {answers : DeviceShard → ShardAnswer S} {requester : DeviceId}
    {request : RoutingSearchRequest} {response : RoutedSearchResponse S}
    (h : (routedSearch P authKey receiptId recordedAt (fixed answers) requester
      request).run.Yields I (.ok response)) :
    ∃ s, I s ∧
      let catalog := s.db.listShards
      let ranked := rankShards request.query requester catalog
      let budget := request.initialBudget ranked.length
      ∃ n ≤ ranked.length,
        response.routingReceipt.rankedShards = ranked ∧
        response.routingReceipt.outcomes =
          (searched answers catalog (ranked.take n)).map (·.outcome) ∧
        response.routingReceipt.outcomes.map (·.deviceId) = (ranked.take n).map (·.deviceId) ∧
        budget ≤ n ∧ (response.routingReceipt.fallbackReason.isSome ↔ budget < n) ∧
        (∀ m, budget ≤ m → m < n → Short (found answers catalog (ranked.take m)) request.topK) ∧
        (response.results.length < request.topK →
          n = ranked.length ∧
            mergeRoutedResults (found answers catalog ranked) request.topK = .ok response.results ∧
            ∀ receiptId' recordedAt' response',
              (routedSearch P authKey receiptId' recordedAt' (fixed answers) requester
                { request with exhaustive := true }).run.Yields
                  (fun s' : MnemesStore M => s'.db.listShards = catalog) (.ok response') →
                response'.results = response.results) := by
  obtain ⟨s, expansion, fallbackReason, hs, hsearch, hmerge, hreceipt, -⟩ :=
    yields_routedSearch_ok h
  have hcataloged :
      Cataloged s.db.listShards (rankShards request.query requester s.db.listShards) :=
    rankShards_cataloged request.query requester
  obtain ⟨n, hn, hexecutions, hresults, hcount, hbudget, hfallback, hshort, hfull⟩ :=
    yields_searchRanked hcataloged hsearch
  have houtcomes : response.routingReceipt.outcomes =
      (searched answers s.db.listShards ((rankShards request.query requester
        s.db.listShards).take n)).map (·.outcome) := by
    rw [hreceipt, ← hexecutions]
    rfl
  refine ⟨s, hs, n, hn, by rw [hreceipt]; rfl, houtcomes, ?_, hbudget, ?_, hshort, fun hfew => ?_⟩
  · rw [houtcomes, List.map_map]
    exact searched_deviceIds (hcataloged.mono (List.take_sublist _ _).subset)
  · rw [hreceipt]
    exact hfallback
  · have hall : n = (rankShards request.query requester s.db.listShards).length := by
      by_contra hne
      obtain ⟨merged, hmerged, hle⟩ := hfull (by omega)
      rw [hmerge] at hmerged
      cases hmerged
      exact absurd hfew (Nat.not_lt.2 hle)
    rw [hresults, hall, List.take_length] at hmerge
    refine ⟨hall, hmerge, fun receiptId' recordedAt' response' h' => ?_⟩
    obtain ⟨s', expansion', fallbackReason', hs', hsearch', hmerge', -, -⟩ :=
      yields_routedSearch_ok h'
    rw [hs'] at hsearch'
    obtain ⟨n', hn', -, hresults', -, hbudget', -⟩ := yields_searchRanked hcataloged hsearch'
    have hexhaustive : n' = (rankShards request.query requester s.db.listShards).length :=
      le_antisymm hn' hbudget'
    rw [hresults', hexhaustive, List.take_length, hmerge] at hmerge'
    exact (Except.ok.inj hmerge').symm

/-! ## Receipts -/

section
variable {catalog : List (DeviceShard × DeviceStatus)} {ranked : List RankedShard}
  {search : DeviceShard → Proc (MnemesStore M) Choice Event (ShardAnswer S)}

/-- The outcome of a search names the device of its shard. -/
theorem yields_searchOneShard_deviceId {shard : DeviceShard} {execution : ShardSearchExecution S}
    (h : (searchOneShard search shard).run.Yields I (.ok execution)) :
    execution.outcome.deviceId = shard.deviceId := by
  unfold searchOneShard at h
  rw [Proc.yields_bind_ok] at h
  obtain ⟨answer, -, h⟩ := h
  cases Proc.yields_pure.1 h
  exact answer.execution_deviceId shard

/-- The search of a shard does not fail: its failure is an outcome. -/
theorem not_yields_searchOneShard {shard : DeviceShard} {e : MnemesError} :
    ¬ (searchOneShard search shard).run.Yields I (.error e) := by
  intro h
  unfold searchOneShard at h
  rw [Proc.yields_bind_error] at h
  rcases h with h | ⟨answer, -, h⟩
  · obtain ⟨answer, -, h⟩ := Proc.yields_liftProc.1 h
    cases h
  · cases Proc.yields_pure.1 h

/-- Whatever the shards answer, one outcome is added for each shard of a prefix of the rest. -/
theorem expandShards_covers {topK : Nat} {rest : List RankedShard}
    {expansion expansion' : Expansion S} (hrest : Cataloged catalog rest)
    (h : (expandShards search catalog topK expansion rest).run.Yields I (.ok expansion')) :
    ∃ n ≤ rest.length, expansion'.selectedCount = expansion.selectedCount + n ∧
      expansion'.executions.map (·.outcome.deviceId) =
        expansion.executions.map (·.outcome.deviceId) ++ (rest.take n).map (·.deviceId) := by
  induction rest generalizing expansion with
  | nil =>
    cases Proc.yields_pure.1 h
    exact ⟨0, le_rfl, rfl, by simp⟩
  | cons next rest ih =>
    obtain ⟨⟨shard, hshard⟩, hrest⟩ := List.forall_mem_cons.1 hrest
    unfold expandShards at h
    rw [hshard] at h
    dsimp only at h
    rw [Proc.yields_bind_ok] at h
    obtain ⟨execution, hexecution, h⟩ := h
    have hdevice := (yields_searchOneShard_deviceId hexecution).trans (byDevice_deviceId hshard)
    rw [Proc.yields_bind_ok] at h
    obtain ⟨merged, -, h⟩ := h
    split at h
    · cases Proc.yields_pure.1 h
      exact ⟨1, by simp, rfl, by simp [hdevice]⟩
    · obtain ⟨n, hn, hcount, hdevices⟩ := ih hrest h
      refine ⟨n + 1, by simp [hn], by rw [hcount]; dsimp only; omega, ?_⟩
      rw [hdevices, List.map_append, List.append_assoc, List.take_succ_cons]
      simp [hdevice]

/-- A batch has one outcome for each of its shards. -/
theorem searchShardBatch_covers {shards : List DeviceShard}
    {executions : List (ShardSearchExecution S)}
    (h : (searchShardBatch search shards).run.Yields I (.ok executions)) :
    executions.map (·.outcome.deviceId) = shards.map (·.deviceId) := by
  have hall := (Proc.yields_mapM_ok h).imp fun _ _ hone => yields_searchOneShard_deviceId hone
  clear h
  induction hall with
  | nil => rfl
  | cons hone _ ih => rw [List.map_cons, List.map_cons, hone, ih]

/-- The outcomes are those of the selected shards. -/
theorem searchRanked_covers {request : RoutingSearchRequest} {expansion : Expansion S}
    {fallbackReason : Option String} (hranked : Cataloged catalog ranked)
    (h : (searchRanked search catalog request ranked).run.Yields I
      (.ok (expansion, fallbackReason))) :
    expansion.executions.map (·.outcome.deviceId) =
      (ranked.take expansion.selectedCount).map (·.deviceId) := by
  have htake : Cataloged catalog (ranked.take (request.initialBudget ranked.length)) :=
    hranked.mono (List.take_sublist _ _).subset
  have hinitial := shardsOf_length htake
  unfold searchRanked at h
  dsimp only at h
  rw [Proc.yields_bind_ok] at h
  obtain ⟨executions, hexecutions, h⟩ := h
  have hdevices := (searchShardBatch_covers hexecutions).trans (shardsOf_deviceIds htake)
  have hselected : ranked.take (shardsOf catalog (ranked.take
      (request.initialBudget ranked.length))).length =
        ranked.take (request.initialBudget ranked.length) := by
    rw [hinitial, List.length_take, ← List.take_take, List.take_length]
  split at h
  · rw [Proc.yields_bind_ok] at h
    obtain ⟨merged, -, h⟩ := h
    split at h
    · rw [Proc.yields_bind_ok] at h
      obtain ⟨expansion', hexpansion, h⟩ := h
      cases Proc.yields_pure.1 h
      obtain ⟨n, -, hcount, hmore⟩ :=
        expandShards_covers (hranked.mono (List.drop_sublist _ _).subset) hexpansion
      rw [hmore, hcount, List.take_add, List.map_append, hdevices]
      dsimp only
      rw [hselected]
    · cases Proc.yields_pure.1 h
      rw [hdevices, hselected]
  · cases Proc.yields_pure.1 h
    rw [hdevices, hselected]

/-- A search of ranked shards fails with the error of a merge. -/
theorem searchRanked_error {request : RoutingSearchRequest} {e : MnemesError}
    (h : (searchRanked search catalog request ranked).run.Yields I (.error e)) :
    ∃ results, mergeRoutedResults (S := S) results request.topK = .error e := by
  have hexpand : ∀ rest expansion,
      (expandShards search catalog request.topK expansion rest).run.Yields I (.error e) →
        ∃ results, mergeRoutedResults (S := S) results request.topK = .error e := by
    intro rest
    induction rest with
    | nil =>
      intro expansion h
      cases Proc.yields_pure.1 h
    | cons next rest ih =>
      intro expansion h
      unfold expandShards at h
      split at h
      · exact ih expansion h
      · rw [Proc.yields_bind_error] at h
        rcases h with h | ⟨execution, -, h⟩
        · exact absurd h not_yields_searchOneShard
        · rw [Proc.yields_bind_error] at h
          rcases h with h | ⟨merged, -, h⟩
          · exact ⟨_, (Proc.yields_lift.1 h).symm⟩
          · split at h
            · cases Proc.yields_pure.1 h
            · exact ih _ h
  unfold searchRanked at h
  dsimp only at h
  rw [Proc.yields_bind_error] at h
  rcases h with h | ⟨executions, -, h⟩
  · obtain ⟨shard, -, h⟩ := Proc.yields_mapM_error h
    exact absurd h not_yields_searchOneShard
  split at h
  · rw [Proc.yields_bind_error] at h
    rcases h with h | ⟨merged, -, h⟩
    · exact ⟨_, (Proc.yields_lift.1 h).symm⟩
    split at h
    · rw [Proc.yields_bind_error] at h
      rcases h with h | ⟨expansion, -, h⟩
      · exact hexpand _ _ h
      · cases Proc.yields_pure.1 h
    · cases Proc.yields_pure.1 h
  · cases Proc.yields_pure.1 h

end

/-- The devices of the catalog are distinct. -/
theorem PooledDb.listShards_nodup (db : PooledDb) : (db.listShards.map (·.1.deviceId)).Nodup := by
  have hsub : (db.listShards.map (·.1.deviceId)).Sublist
      ((db.deviceShards.rows.insertionSort fun a b =>
        textLe a.deviceId.text b.deviceId.text).map (·.deviceId)) := by
    unfold PooledDb.listShards
    generalize db.deviceShards.rows.insertionSort
      (fun a b => textLe a.deviceId.text b.deviceId.text) = rows
    induction rows with
    | nil => exact List.Sublist.refl _
    | cons row rows ih =>
      cases hdevice : db.devices.find? row.deviceId with
      | none =>
        rw [List.filterMap_cons_none (by simp [hdevice]), List.map_cons]
        exact ih.cons _
      | some device =>
        rw [List.filterMap_cons_some (by simp [hdevice]; rfl), List.map_cons, List.map_cons]
        exact ih.cons_cons _
  exact (((List.perm_insertionSort _ _).map _).nodup_iff.2 db.deviceShards.nodup).sublist hsub

/-- The listed shards are no more than the rows of the catalog. -/
theorem PooledDb.listShards_length_le (db : PooledDb) :
    db.listShards.length ≤ db.deviceShards.rows.length := by
  unfold PooledDb.listShards
  exact (List.length_filterMap_le _ _).trans (List.length_insertionSort _ _).le

/-- A ranking names each device once. -/
theorem rankShards_nodup {catalog : List (DeviceShard × DeviceStatus)} (query : String)
    (requester : DeviceId) (h : (catalog.map (·.1.deviceId)).Nodup) :
    ((rankShards query requester catalog).map (·.deviceId)).Nodup := by
  refine ((List.perm_insertionSort _ _).map _).nodup_iff.2 ?_
  rw [List.map_map]
  exact h.sublist ((List.filter_sublist (l := catalog)).map _)

/-- A ranking is no longer than the catalog. -/
theorem rankShards_length_le {catalog : List (DeviceShard × DeviceStatus)} (query : String)
    (requester : DeviceId) : (rankShards query requester catalog).length ≤ catalog.length := by
  rw [rankShards, List.length_insertionSort, List.length_map]
  exact List.length_filter_le _ _

/-- The merged results of the shards have different items. -/
theorem mergeRoutedResults_ok {results merged : List (RoutedSearchResult S)} {topK : Nat}
    (h : mergeRoutedResults results topK = .ok merged) : (merged.map (·.itemId)).Nodup := by
  rw [mergeRoutedResults_eq] at h
  split at h
  · cases h
  · cases h
    exact Ranking.firsts_keys.sublist ((List.take_sublist _ _).map _)

/-- A failed merge of the shards' results names an item of two contents. -/
theorem mergeRoutedResults_error {results : List (RoutedSearchResult S)} {topK : Nat}
    {e : MnemesError} (h : mergeRoutedResults results topK = .error e) :
    ∃ itemId, e = .conflictingShardItem itemId ∧
      Ranking.Conflicting RoutedSearchResult.itemId RoutedSearchResult.content results := by
  rw [mergeRoutedResults_eq] at h
  split at h
  · next itemId hconflict =>
    cases h
    refine ⟨itemId, rfl, ?_⟩
    by_contra hfree
    rw [Ranking.firstConflict_eq_none.2 (mt Ranking.conflicting_sort.1 hfree)] at hconflict
    cases hconflict
  · cases h

/-- The receipt of a search whose outcomes are those of the selected shards is valid. -/
theorem shardRoutingReceipt_valid {P : Platform} {authKey : Bytes32} {receiptId recordedAt : String}
    {requester : DeviceId} {request : RoutingSearchRequest} {ranked : List RankedShard}
    {expansion : Expansion S} {fallbackReason : Option String}
    {results : List (RoutedSearchResult S)} (hranked : (ranked.map (·.deviceId)).Nodup)
    (hlength : ranked.length < 2 ^ 64) (hcovers : expansion.executions.map (·.outcome.deviceId) =
      (ranked.take expansion.selectedCount).map (·.deviceId))
    (hids : (results.map (·.itemId)).Nodup) :
    validateRoutingReceipt P authKey (shardRoutingReceipt P authKey receiptId recordedAt requester
      request ranked expansion fallbackReason results) = .ok () := by
  have hsets := consistentSets_cut hranked expansion.selectedCount
  rw [← List.map_take, ← List.map_drop] at hsets
  simp only [validateRoutingReceipt, guard_eq_ok]
  refine ⟨?_, ?_, ?_, ?_, ?_⟩
  · simp [shardRoutingReceipt, sha256Hex, routingReceiptDigest, materialDigest, isDigest_hex]
  · simp only [shardRoutingReceipt, List.length_map, not_not]
    exact UInt64.toNat_ofNat_of_lt' ((List.length_take_le' _ _).trans_lt hlength)
  · simp only [shardRoutingReceipt, List.map_map, Function.comp_def, hcovers, hsets,
      distinct_of_nodup hranked]
    simp
  · simp [shardRoutingReceipt, distinct_of_nodup hids]
  · exact if_neg (not_not.2 rfl)

/-- The admitted stores are among the given ones, in their order. -/
theorem yields_admitStores {subject : Subject} {stores : List MemoryStoreIdentity}
    {authorized : List AuthorizedMemoryStore}
    (h : (subject.admitStores stores : Op M _).run.Yields I (.ok authorized)) :
    (authorized.map (·.storeId)).Sublist (stores.map (·.storeId)) := by
  induction stores generalizing authorized with
  | nil =>
    cases Proc.yields_pure.1 h
    exact List.Sublist.refl _
  | cons store stores ih =>
    unfold Subject.admitStores at h
    split at h
    · exact (ih h).cons _
    rw [Proc.yields_bind_ok] at h
    obtain ⟨grants, -, h⟩ := h
    split at h
    · exact (ih h).cons _
    · rw [Proc.yields_bind_ok] at h
      obtain ⟨admitted, hadmitted, h⟩ := h
      cases Proc.yields_pure.1 h
      exact (ih hadmitted).cons_cons _

/-- The stores of a snapshot are distinct, and its digest is one. -/
theorem yields_buildAuthorizationSnapshot {P : Platform} {actor : ActorId}
    {effect : MemoryAccessEffect} {namespaces : Option (List String)} {at' : UInt64}
    {snapshot : AuthorizationSnapshot}
    (h : (buildAuthorizationSnapshot P actor effect namespaces at' : Op M _).run.Yields I
      (.ok snapshot)) :
    (snapshot.authorizedStores.map (·.storeId)).Nodup ∧
      isDigest snapshot.snapshotDigest = true := by
  unfold buildAuthorizationSnapshot at h
  rw [Proc.yields_bind_ok] at h
  obtain ⟨binding, -, h⟩ := h
  dsimp only at h
  rw [Proc.yields_bind_ok] at h
  obtain ⟨stores, hstores, h⟩ := h
  obtain ⟨s, -, hstores⟩ := yields_poolRead_ok hstores
  cases hstores
  rw [Proc.yields_bind_ok] at h
  obtain ⟨admitted, hadmitted, h⟩ := h
  cases Proc.yields_pure.1 h
  have hlive : (s.db.liveStores.map (·.storeId)).Nodup :=
    ((List.perm_insertionSort _ _).map _).nodup_iff.2
      (s.db.memoryStores.nodup.sublist ((List.filter_sublist ..).map _))
  have hsorted : ((admitted.insertionSort fun left right =>
      textLe left.storeId right.storeId).map AuthorizationSnapshot.sortGrants).map (·.storeId) =
        (admitted.insertionSort fun left right =>
          textLe left.storeId right.storeId).map (·.storeId) := by
    rw [List.map_map]
    rfl
  refine ⟨?_, isDigest_hex _⟩
  show (((admitted.insertionSort fun left right =>
    textLe left.storeId right.storeId).map AuthorizationSnapshot.sortGrants).map (·.storeId)).Nodup
  rw [hsorted]
  exact ((List.perm_insertionSort _ _).map _).nodup_iff.2
    (hlive.sublist (yields_admitStores hadmitted))

section
variable {search : AuthorizedMemoryStore → Proc (MnemesStore M) Choice Event (StoreAnswer S)}

/-- Whatever a store answers, the outcome names it. -/
theorem StoreAnswer.execution_storeId (answer : StoreAnswer S)
    (authorized : AuthorizedMemoryStore) :
    (answer.execution authorized).1.storeId = authorized.storeId := by
  unfold StoreAnswer.execution
  split <;> rfl

/-- One outcome for each authorized store. -/
theorem searchStores_covers {authorizedStores : List AuthorizedMemoryStore}
    {executions : List (ProfileStoreSearchOutcome × List (ProfileRoutedSearchResult S))}
    (h : (searchStores search authorizedStores).run.Yields I (.ok executions)) :
    executions.map (·.1.storeId) = authorizedStores.map (·.storeId) := by
  have hall := Proc.yields_mapM_ok h
  clear h
  induction hall with
  | nil => rfl
  | cons hone _ ih =>
    rw [Proc.yields_bind_ok] at hone
    obtain ⟨answer, -, hone⟩ := hone
    cases Proc.yields_pure.1 hone
    rw [List.map_cons, List.map_cons, answer.execution_storeId, ih]

/-- The search of the stores does not fail: a failure is an outcome. -/
theorem not_yields_searchStores {authorizedStores : List AuthorizedMemoryStore} {e : MnemesError} :
    ¬ (searchStores search authorizedStores).run.Yields I (.error e) := by
  intro h
  obtain ⟨authorized, -, h⟩ := Proc.yields_mapM_error h
  rw [Proc.yields_bind_error] at h
  rcases h with h | ⟨answer, -, h⟩
  · obtain ⟨answer, -, h⟩ := Proc.yields_liftProc.1 h
    cases h
  · cases Proc.yields_pure.1 h

end

/-- The merged results of the stores have different items. -/
theorem mergeProfileResults_ok {results merged : List (ProfileRoutedSearchResult S)} {topK : Nat}
    (h : mergeProfileResults results topK = .ok merged) : (merged.map (·.itemId)).Nodup := by
  rw [mergeProfileResults_eq] at h
  split at h
  · cases h
  · cases h
    exact Ranking.firsts_keys.sublist ((List.take_sublist _ _).map _)

/-- A failed merge of the stores' results names an item of two contents. -/
theorem mergeProfileResults_error {results : List (ProfileRoutedSearchResult S)} {topK : Nat}
    {e : MnemesError} (h : mergeProfileResults results topK = .error e) :
    ∃ itemId, e = .conflictingShardItem itemId ∧
      Ranking.Conflicting ProfileRoutedSearchResult.itemId ProfileRoutedSearchResult.content
        results := by
  rw [mergeProfileResults_eq] at h
  split at h
  · next itemId hconflict =>
    cases h
    refine ⟨itemId, rfl, ?_⟩
    by_contra hfree
    rw [Ranking.firstConflict_eq_none.2 (mt Ranking.conflicting_sort.1 hfree)] at hconflict
    cases hconflict
  · cases h

/-- The receipt of a search of all the stores of a snapshot is valid. -/
theorem profileRoutingReceipt_valid {P : Platform} {authKey : Bytes32}
    {receiptId recordedAt : String} {actor : ActorId} {request : RoutingSearchRequest}
    {snapshot : AuthorizationSnapshot} {outcomes : List ProfileStoreSearchOutcome}
    {merged : List (ProfileRoutedSearchResult S)}
    (hstores : (snapshot.authorizedStores.map (·.storeId)).Nodup)
    (hdigest : isDigest snapshot.snapshotDigest = true)
    (hcovers : outcomes.map (·.storeId) = snapshot.authorizedStores.map (·.storeId))
    (hids : (merged.map (·.itemId)).Nodup) :
    validateProfileRoutingReceipt P authKey (profileRoutingReceipt P authKey receiptId recordedAt
      actor request snapshot outcomes merged) = .ok () := by
  have hsets := consistentSets_cut hstores (snapshot.authorizedStores.map (·.storeId)).length
  rw [List.take_length, List.drop_length] at hsets
  simp only [validateProfileRoutingReceipt, guard_eq_ok]
  refine ⟨?_, ?_, ?_, ?_⟩
  · simp [profileRoutingReceipt, sha256Hex, profileRoutingReceiptDigest, materialDigest,
      isDigest_hex, hdigest]
  · simp [profileRoutingReceipt, hcovers, hsets]
  · simp [profileRoutingReceipt, distinct_of_nodup hids]
  · exact if_neg (not_not.2 rfl)

/-- A call of a method fails in its check, for a fault of its section, or in its section. -/
theorem yields_op_error {m : Method α} {e : MnemesError}
    (h : (m.op : Op M α).run.Yields I (.error e)) :
    m.check = .error e ∨ (∃ detail, e = .database detail) ∨ ∃ s x, I s ∧
      m.body s.db x = .error e := by
  unfold Method.op at h
  rw [Proc.yields_bind_error] at h
  rcases h with h | ⟨u, -, h⟩
  · exact .inl (Proc.yields_lift.1 h).symm
  · exact .inr (yields_poolConn_error h)

/-- A binding that is invalid is denied. -/
theorem ActorProfileBinding.validate_error {P : Platform} {binding : ActorProfileBinding}
    {e : MnemesError} (h : binding.validate P = .error e) :
    ∃ detail, e = .actorProfileBindingDenied detail := by
  simp only [ActorProfileBinding.validate, guard_eq_error, throw_guard_eq_error] at h
  rcases h with ⟨-, rfl⟩ | ⟨-, ⟨-, rfl⟩ | ⟨-, ⟨-, rfl⟩ | ⟨-, -, rfl⟩⟩⟩ <;> exact ⟨_, rfl⟩

/-- An actor whose profile is not resolved is denied. -/
theorem PooledDb.resolveActorProfile_error {P : Platform} {db : PooledDb} {actor : ActorId}
    {at' : Int64} {e : MnemesError} (h : db.resolveActorProfile P actor at' = .error e) :
    ∃ detail, e = .actorProfileBindingDenied detail := by
  unfold PooledDb.resolveActorProfile at h
  split at h
  · cases h
    exact ⟨_, rfl⟩
  · rw [ActorProfileBindingRow.read_eq, ok_bind, bind_eq_error] at h
    rcases h with h | ⟨u, -, h⟩
    · exact ActorProfileBinding.validate_error h
    · rw [guard_eq_error] at h
      rcases h with ⟨-, rfl⟩ | ⟨-, h⟩
      · exact ⟨_, rfl⟩
      · cases h
  · cases h
    exact ⟨_, rfl⟩

/-- Building a snapshot fails for the binding or for the database. -/
theorem yields_buildAuthorizationSnapshot_error {P : Platform} {actor : ActorId}
    {effect : MemoryAccessEffect} {namespaces : Option (List String)} {at' : UInt64}
    {e : MnemesError}
    (h : (buildAuthorizationSnapshot P actor effect namespaces at' : Op M _).run.Yields I
      (.error e)) :
    (∃ detail, e = .actorProfileBindingDenied detail) ∨ ∃ detail, e = .database detail := by
  have hstores : ∀ (subject : Subject) (stores : List MemoryStoreIdentity),
      (subject.admitStores stores : Op M _).run.Yields I (.error e) →
        ∃ detail, e = .database detail := by
    intro subject stores
    induction stores with
    | nil =>
      intro h
      cases Proc.yields_pure.1 h
    | cons store stores ih =>
      intro h
      unfold Subject.admitStores at h
      split at h
      · exact ih h
      rw [Proc.yields_bind_error] at h
      rcases h with h | ⟨grants, -, h⟩
      · refine (yields_poolRead_error h).resolve_right ?_
        rintro ⟨s, -, hs⟩
        rw [PooledDb.memoryGrants_eq] at hs
        cases hs
      split at h
      · exact ih h
      · rw [Proc.yields_bind_error] at h
        rcases h with h | ⟨admitted, -, h⟩
        · exact ih h
        · cases Proc.yields_pure.1 h
  unfold buildAuthorizationSnapshot at h
  rw [Proc.yields_bind_error] at h
  rcases h with h | ⟨binding, -, h⟩
  · rcases yields_op_error h with h | h | ⟨s, x, -, h⟩
    · simp only [resolveActorProfile, bind_eq_error, bindingInteger, okOr] at h
      rcases h with h | ⟨_, -, h⟩
      · split at h <;> cases h
        exact .inl ⟨_, rfl⟩
      · cases h
    · exact .inr h
    · cases hr : s.db.resolveActorProfile P actor at'.toInt64 with
      | ok binding => simp [resolveActorProfile, hr, Except.map] at h
      | error e' =>
        simp only [resolveActorProfile, hr, Except.map, Except.error.injEq] at h
        subst h
        exact .inl (PooledDb.resolveActorProfile_error hr)
  dsimp only at h
  rw [Proc.yields_bind_error] at h
  rcases h with h | ⟨stores, -, h⟩
  · exact .inr (yields_query_error h)
  rw [Proc.yields_bind_error] at h
  rcases h with h | ⟨admitted, -, h⟩
  · exact .inr (hstores _ _ h)
  · cases Proc.yields_pure.1 h

/-- A count that is too large for SQL is an error of the database. -/
theorem usizeToSql_error {v : UInt64} {e : MnemesError} (h : usizeToSql v = .error e) :
    ∃ detail, e = .database detail := by
  unfold usizeToSql at h
  split at h
  · cases h
  · cases h
    exact ⟨_, rfl⟩

/-- Storing a valid receipt fails for the database only. -/
theorem yields_persistRoutingReceipt_error {P : Platform} {authKey : Bytes32}
    {receipt : ShardRoutingReceipt} (hvalid : validateRoutingReceipt P authKey receipt = .ok ())
    {e : MnemesError}
    (h : ((persistRoutingReceipt P authKey receipt).op : Op M Unit).run.Yields I (.error e)) :
    ∃ detail, e = .database detail := by
  rcases yields_op_error h with h | h | ⟨s, x, -, h⟩
  · rw [persistRoutingReceipt, hvalid] at h
    cases h
  · exact h
  · simp only [persistRoutingReceipt, bind_eq_error, guard_eq_error] at h
    rcases h with h | ⟨_, -, h | ⟨_, -, ⟨-, rfl⟩ | ⟨-, ⟨-, rfl⟩ | ⟨-, h⟩⟩⟩⟩
    · exact usizeToSql_error h
    · exact usizeToSql_error h
    · exact ⟨_, rfl⟩
    · exact ⟨_, rfl⟩
    · cases h

/-- A valid receipt that is not stored was refused by the database. -/
theorem yields_persistProfileRoutingReceipt_error {P : Platform} {authKey : Bytes32}
    {receipt : ProfileRoutingReceipt}
    (hvalid : validateProfileRoutingReceipt P authKey receipt = .ok ()) {e : MnemesError}
    (h : ((persistProfileRoutingReceipt P authKey receipt).op : Op M Unit).run.Yields I
      (.error e)) :
    ∃ detail, e = .database detail := by
  rcases yields_op_error h with h | h | ⟨s, x, -, h⟩
  · rw [persistProfileRoutingReceipt, hvalid] at h
    cases h
  · exact h
  · simp only [persistProfileRoutingReceipt, guard_eq_error] at h
    rcases h with ⟨-, rfl⟩ | ⟨-, ⟨-, rfl⟩ | ⟨-, h⟩⟩
    · exact ⟨_, rfl⟩
    · exact ⟨_, rfl⟩
    · cases h

/-- A shard search fails for its requester, for the database, or for two contents of one item. -/
theorem yields_routedSearch_error {P : Platform} {authKey : Bytes32} {receiptId recordedAt : String}
    {search : DeviceShard → Proc (MnemesStore M) Choice Event (ShardAnswer S)}
    {requester : DeviceId} {request : RoutingSearchRequest} {e : MnemesError}
    (hvec : ∀ s, I s → s.db.deviceShards.rows.length < 2 ^ 64)
    (h : (routedSearch P authKey receiptId recordedAt search requester request).run.Yields I
      (.error e)) :
    e = .deviceNotFound requester.text ∨ (∃ detail, e = .database detail) ∨
      ∃ itemId results, e = .conflictingShardItem itemId ∧
        Ranking.Conflicting (RoutedSearchResult.itemId (S := S)) RoutedSearchResult.content
          results := by
  have hmerge : ∀ results, mergeRoutedResults (S := S) results request.topK = .error e →
      ∃ itemId results, e = .conflictingShardItem itemId ∧
        Ranking.Conflicting (RoutedSearchResult.itemId (S := S)) RoutedSearchResult.content
          results := fun results h =>
    let ⟨itemId, he, hconflict⟩ := mergeRoutedResults_error h
    ⟨itemId, results, he, hconflict⟩
  unfold routedSearch at h
  rw [Proc.yields_bind_error] at h
  rcases h with h | ⟨device, -, h⟩
  · exact absurd h not_yields_getDevice
  split at h
  · rw [Proc.yields_bind_error] at h
    rcases h with h | ⟨_, hthrow, -⟩
    · cases Proc.yields_throw.1 h
      exact .inl rfl
    · cases Proc.yields_throw.1 hthrow
  rw [Proc.yields_bind_error] at h
  rcases h with h | ⟨catalog, hcatalog, h⟩
  · exact .inr (.inl (yields_query_error h))
  obtain ⟨s, hs, hcatalog⟩ := yields_poolRead_ok hcatalog
  cases hcatalog
  have hranked : Cataloged s.db.listShards (rankShards request.query requester s.db.listShards) :=
    rankShards_cataloged request.query requester
  have hnodup := rankShards_nodup request.query requester s.db.listShards_nodup
  have hlength : (rankShards request.query requester s.db.listShards).length < 2 ^ 64 :=
    ((rankShards_length_le _ _).trans s.db.listShards_length_le).trans_lt (hvec s hs)
  rw [Proc.yields_bind_error] at h
  rcases h with h | ⟨⟨expansion, fallbackReason⟩, hsearch, h⟩
  · obtain ⟨results, hresults⟩ := searchRanked_error h
    exact .inr (.inr (hmerge results hresults))
  dsimp only at h
  rw [Proc.yields_bind_error] at h
  rcases h with h | ⟨results, hresults, h⟩
  · exact .inr (.inr (hmerge _ (Proc.yields_lift.1 h).symm))
  have hvalid : validateRoutingReceipt P authKey (shardRoutingReceipt P authKey receiptId recordedAt
      requester request (rankShards request.query requester s.db.listShards) expansion
      fallbackReason results) = .ok () :=
    shardRoutingReceipt_valid hnodup hlength (searchRanked_covers hranked hsearch)
      (mergeRoutedResults_ok (Proc.yields_lift.1 hresults).symm)
  rw [Proc.yields_bind_error] at h
  rcases h with h | ⟨_, -, h⟩
  · cases (Proc.yields_lift.1 h).trans hvalid
  rw [Proc.yields_bind_error] at h
  rcases h with h | ⟨_, -, h⟩
  · exact .inr (.inl (yields_persistRoutingReceipt_error hvalid h))
  · cases Proc.yields_pure.1 h

/-- A successful profile search, step by step. -/
theorem yields_routedSearchForProfile_ok {P : Platform} {authKey : Bytes32}
    {receiptId recordedAt : String}
    {search : AuthorizedMemoryStore → Proc (MnemesStore M) Choice Event (StoreAnswer S)}
    {actor : ActorId} {request : RoutingSearchRequest} {authorizationTime : UInt64}
    {response : ProfileRoutedSearchResponse S}
    (h : (routedSearchForProfile P authKey receiptId recordedAt search actor request
      authorizationTime).run.Yields I (.ok response)) :
    ∃ snapshot executions,
      (buildAuthorizationSnapshot P actor .search request.namespaces authorizationTime :
        Op M _).run.Yields I (.ok snapshot) ∧
      (searchStores search snapshot.authorizedStores).run.Yields I (.ok executions) ∧
      mergeProfileResults (executions.flatMap (·.2)) request.topK = .ok response.results ∧
      response.routingReceipt = profileRoutingReceipt P authKey receiptId recordedAt actor request
        snapshot (executions.map (·.1)) response.results ∧
      validateProfileRoutingReceipt P authKey response.routingReceipt = .ok () := by
  unfold routedSearchForProfile at h
  rw [Proc.yields_bind_ok] at h
  obtain ⟨snapshot, hsnapshot, h⟩ := h
  rw [Proc.yields_bind_ok] at h
  obtain ⟨executions, hexecutions, h⟩ := h
  rw [Proc.yields_bind_ok] at h
  obtain ⟨merged, hmerged, h⟩ := h
  rw [Proc.yields_bind_ok] at h
  obtain ⟨⟨⟩, hvalid, h⟩ := h
  rw [Proc.yields_bind_ok] at h
  obtain ⟨⟨⟩, -, h⟩ := h
  cases Proc.yields_pure.1 h
  exact ⟨snapshot, executions, hsnapshot, hexecutions, (Proc.yields_lift.1 hmerged).symm, rfl,
    (Proc.yields_lift.1 hvalid).symm⟩

/-- A profile search fails for its binding, for the database, or for two contents of one item. -/
theorem yields_routedSearchForProfile_error {P : Platform} {authKey : Bytes32}
    {receiptId recordedAt : String}
    {search : AuthorizedMemoryStore → Proc (MnemesStore M) Choice Event (StoreAnswer S)}
    {actor : ActorId} {request : RoutingSearchRequest} {authorizationTime : UInt64}
    {e : MnemesError} (h : (routedSearchForProfile P authKey receiptId recordedAt search actor
      request authorizationTime).run.Yields I (.error e)) :
    (∃ detail, e = .actorProfileBindingDenied detail) ∨ (∃ detail, e = .database detail) ∨
      ∃ itemId results, e = .conflictingShardItem itemId ∧
        Ranking.Conflicting (ProfileRoutedSearchResult.itemId (S := S))
          ProfileRoutedSearchResult.content results := by
  unfold routedSearchForProfile at h
  rw [Proc.yields_bind_error] at h
  rcases h with h | ⟨snapshot, hsnapshot, h⟩
  · exact (yields_buildAuthorizationSnapshot_error h).imp id .inl
  obtain ⟨hstores, hdigest⟩ := yields_buildAuthorizationSnapshot hsnapshot
  rw [Proc.yields_bind_error] at h
  rcases h with h | ⟨executions, hexecutions, h⟩
  · exact absurd h not_yields_searchStores
  have hcovers := searchStores_covers hexecutions
  rw [Proc.yields_bind_error] at h
  rcases h with h | ⟨merged, hmerged, h⟩
  · obtain ⟨itemId, he, hconflict⟩ := mergeProfileResults_error (Proc.yields_lift.1 h).symm
    exact .inr (.inr ⟨itemId, _, he, hconflict⟩)
  have hvalid : validateProfileRoutingReceipt P authKey (profileRoutingReceipt P authKey receiptId
      recordedAt actor request snapshot (executions.map (·.1)) merged) = .ok () :=
    profileRoutingReceipt_valid hstores hdigest (by rw [List.map_map]; exact hcovers)
      (mergeProfileResults_ok (Proc.yields_lift.1 hmerged).symm)
  rw [Proc.yields_bind_error] at h
  rcases h with h | ⟨_, -, h⟩
  · cases (Proc.yields_lift.1 h).trans hvalid
  rw [Proc.yields_bind_error] at h
  rcases h with h | ⟨_, -, h⟩
  · exact .inr (.inl (yields_persistProfileRoutingReceipt_error hvalid h))
  · cases Proc.yields_pure.1 h

/-- In every interleaving and whatever the searched shards and stores answer, the receipts of
successful searches are valid, and no search fails because its receipt is not. The catalog is one
that a `Vec` can hold. -/
theorem own_receipts_valid {P : Platform} {authKey : Bytes32} {receiptId recordedAt : String}
    (hvec : ∀ s, I s → s.db.deviceShards.rows.length < 2 ^ 64)
    (search : DeviceShard → Proc (MnemesStore M) Choice Event (ShardAnswer S))
    (storeSearch : AuthorizedMemoryStore → Proc (MnemesStore M) Choice Event (StoreAnswer S))
    (requester : DeviceId) (actor : ActorId) (request : RoutingSearchRequest)
    (authorizationTime : UInt64) :
    (∀ r, (routedSearch P authKey receiptId recordedAt search requester request).run.Yields I r →
      (∃ response, r = .ok response ∧
        validateRoutingReceipt P authKey response.routingReceipt = .ok ()) ∨
      r = .error (.deviceNotFound requester.text) ∨ (∃ detail, r = .error (.database detail)) ∨
      ∃ itemId results, r = .error (.conflictingShardItem itemId) ∧
        Ranking.Conflicting (RoutedSearchResult.itemId (S := S)) RoutedSearchResult.content
          results) ∧
    ∀ r, (routedSearchForProfile P authKey receiptId recordedAt storeSearch actor request
        authorizationTime).run.Yields I r →
      (∃ response, r = .ok response ∧
        validateProfileRoutingReceipt P authKey response.routingReceipt = .ok ()) ∨
      (∃ detail, r = .error (.actorProfileBindingDenied detail)) ∨
      (∃ detail, r = .error (.database detail)) ∨
      ∃ itemId results, r = .error (.conflictingShardItem itemId) ∧
        Ranking.Conflicting (ProfileRoutedSearchResult.itemId (S := S))
          ProfileRoutedSearchResult.content results := by
  refine ⟨fun r h => ?_, fun r h => ?_⟩
  · cases r with
    | ok response =>
      obtain ⟨_, _, _, -, -, -, -, hvalid⟩ := yields_routedSearch_ok h
      exact .inl ⟨response, rfl, hvalid⟩
    | error e => simpa using yields_routedSearch_error hvec h
  · cases r with
    | ok response =>
      obtain ⟨_, _, -, -, -, -, hvalid⟩ := yields_routedSearchForProfile_ok h
      exact .inl ⟨response, rfl, hvalid⟩
    | error e => simpa using yields_routedSearchForProfile_error h

/-- A registered requester's search returns where the merge does, under an identity that is free. -/
theorem routedSearch_returns {P : Platform} {authKey : Bytes32} {receiptId recordedAt : String}
    {search : DeviceShard → Proc (MnemesStore M) Choice Event (ShardAnswer S)}
    {requester : DeviceId} {request : RoutingSearchRequest} {s : MnemesStore M} {x : Choice}
    (hs : I s) (hx : x.fault = none) (hdevice : (s.db.devices.find? requester).isSome = true)
    (hfree : s.db.shardRoutingReceipts.find? (·.receiptId = .text receiptId) = none)
    (hlength : s.db.deviceShards.rows.length < 2 ^ 63) {expansion : Expansion S}
    {fallbackReason : Option String} {results : List (RoutedSearchResult S)}
    (hsearch : (searchRanked search s.db.listShards request
      (rankShards request.query requester s.db.listShards)).run.Yields I
        (.ok (expansion, fallbackReason)))
    (hmerge : mergeRoutedResults expansion.allResults request.topK = .ok results) :
    (routedSearch P authKey receiptId recordedAt search requester request).run.Yields I
      (.ok ⟨results, shardRoutingReceipt P authKey receiptId recordedAt requester request
        (rankShards request.query requester s.db.listShards) expansion fallbackReason
        results⟩) := by
  have hranked : (rankShards request.query requester s.db.listShards).length < 2 ^ 63 :=
    ((rankShards_length_le _ _).trans s.db.listShards_length_le).trans_lt hlength
  have hvalid : validateRoutingReceipt P authKey (shardRoutingReceipt P authKey receiptId recordedAt
      requester request (rankShards request.query requester s.db.listShards) expansion
      fallbackReason results) = .ok () :=
    shardRoutingReceipt_valid (rankShards_nodup _ _ s.db.listShards_nodup) (by omega)
      (searchRanked_covers (rankShards_cataloged _ _) hsearch) (mergeRoutedResults_ok hmerge)
  have hbudget : request.initialBudget (rankShards request.query requester s.db.listShards).length ≤
      (rankShards request.query requester s.db.listShards).length := by
    unfold RoutingSearchRequest.initialBudget
    split
    · exact le_rfl
    · exact Nat.min_le_right _ _
  have hnat : ∀ n : Nat, n ≤ (rankShards request.query requester s.db.listShards).length →
      (UInt64.ofNat n).toNat < 2 ^ 63 := fun n hn => by
    rw [UInt64.toNat_ofNat_of_lt' (lt_of_le_of_lt hn (hranked.trans (by decide)))]
    omega
  obtain ⟨rows, hstored⟩ := persistRoutingReceipt_accepts hvalid (hnat _ hbudget)
    (hnat _ (List.length_take_le' _ _)) hfree hdevice hx
  obtain ⟨device, hdevice⟩ := Option.isSome_iff_exists.1 hdevice
  unfold routedSearch
  refine Proc.yields_bind_ok.2 ⟨some device,
    Proc.yields_atomic.2 ⟨s, x, hs, by simp [hx, hdevice]⟩, ?_⟩
  refine Proc.yields_bind_ok.2 ⟨s.db.listShards, Proc.yields_atomic.2
    ⟨s, x, hs, by simp [hx, Except.map]⟩, ?_⟩
  refine Proc.yields_bind_ok.2 ⟨_, hsearch, ?_⟩
  refine Proc.yields_bind_ok.2 ⟨results, Proc.yields_lift.2 hmerge.symm, ?_⟩
  refine Proc.yields_bind_ok.2 ⟨(), Proc.yields_lift.2 hvalid.symm, ?_⟩
  refine Proc.yields_bind_ok.2 ⟨(), ?_, Proc.yields_pure.2 rfl⟩
  obtain ⟨-, -, es, hbody⟩ := Method.exec_eq_ok.1 hstored
  refine Proc.yields_bind_ok.2 ⟨(), Proc.yields_lift.2 hvalid.symm, Proc.yields_atomic.2
    ⟨s, x, hs, ?_⟩⟩
  simp only [hx, hbody]

end

namespace Sample

/-- The shard of the registry's device. -/
def laptopShard : DeviceShard where
  deviceId := laptop
  relativePath := "memory/devices/laptop"
  state := .active
  generation := 1
  counts := ⟨0, 0, 0, 0⟩
  lastRefreshedAt := none

/-- The registry's device with its shard in the catalog. -/
def searchStore : MnemesStore (journalMemory "shared") where
  db := { registry with deviceShards := ⟨[laptopShard], by decide⟩ }
  gate _ := none
  shards _ := []

/-- Every shard holds the fact. -/
def factAnswer (_ : DeviceShard) : ShardAnswer factSources where
  latencyMs := 3
  response := .ok ⟨[(foundAt east).result], some "child-1"⟩

/-- A search that goes beyond its budget. -/
def tideRequest : RoutingSearchRequest where
  query := "tide"
  topK := 1
  shardBudget := some 0

/-- The search of the one shard. -/
def tideSearch : Expansion factSources where
  executions := [(factAnswer laptopShard).execution laptopShard]
  allResults := ((factAnswer laptopShard).execution laptopShard).results
  selectedCount := 1

/-- The sample catalog ranks the one shard. -/
theorem searchStore_ranked :
    rankShards "tide" laptop searchStore.db.listShards = [⟨laptop, 1⟩] := by decide +kernel

/-- Its one result is what the merge returns. -/
theorem tideSearch_merged :
    mergeRoutedResults tideSearch.allResults 1 = .ok tideSearch.allResults := rfl

/-- The search beyond the budget, which was nothing. -/
theorem tideSearch_yields : (searchRanked (fixed factAnswer) searchStore.db.listShards tideRequest
    [⟨laptop, 1⟩]).run.Yields (· = searchStore)
      (.ok (tideSearch, some "insufficient_results_expand")) := by
  have hshard : byDevice searchStore.db.listShards laptop = some laptopShard := rfl
  have hempty : mergeRoutedResults (S := factSources) [] 1 = .ok [] := rfl
  unfold searchRanked
  refine Proc.yields_bind_ok.2 ⟨[], Proc.yields_pure.2 rfl, ?_⟩
  refine Proc.yields_bind_ok.2 ⟨[], Proc.yields_lift.2 rfl, ?_⟩
  refine Proc.yields_bind_ok.2 ⟨tideSearch, ?_, Proc.yields_pure.2 rfl⟩
  show (expandShards _ _ 1 _ [⟨laptop, 1⟩]).run.Yields _ _
  unfold expandShards
  rw [hshard]
  exact Proc.yields_bind_ok.2 ⟨_, yields_searchOneShard.2 rfl,
    Proc.yields_bind_ok.2 ⟨_, Proc.yields_lift.2 tideSearch_merged.symm, Proc.yields_pure.2 rfl⟩⟩

/-- The search with its receipt. -/
theorem tide_found : ∃ response, (routedSearch receiptPlatform receiptKey "route-1" "now"
    (fixed factAnswer) laptop tideRequest).run.Yields (· = searchStore) (.ok response) ∧
      response.results = tideSearch.allResults := by
  have hsearch := tideSearch_yields
  rw [← searchStore_ranked] at hsearch
  have hdevice : (searchStore.db.devices.find? laptop).isSome = true := by decide
  have hlength : searchStore.db.deviceShards.rows.length < 2 ^ 63 := by decide
  have hreturns : (routedSearch receiptPlatform receiptKey "route-1" "now" (fixed factAnswer) laptop
      tideRequest).run.Yields (· = searchStore) (.ok ⟨tideSearch.allResults, _⟩) :=
    routedSearch_returns (I := (· = searchStore)) (s := searchStore) (x := step) rfl rfl hdevice rfl
      hlength hsearch tideSearch_merged
  exact ⟨_, hreturns, rfl⟩

end Sample

open Sample in
/-- The search beyond its budget answers from a prefix of the ranking, and gives its reason. -/
theorem sparse_search_refines_exhaustive_sample : ∃ response : RoutedSearchResponse factSources,
    response.results.length = 1 ∧ ∃ s : MnemesStore (journalMemory "shared"), s = searchStore ∧
      ∃ n ≤ (rankShards "tide" laptop s.db.listShards).length,
        response.routingReceipt.outcomes.map (·.deviceId) =
          ((rankShards "tide" laptop s.db.listShards).take n).map (·.deviceId) ∧
        (response.routingReceipt.fallbackReason.isSome ↔
          tideRequest.initialBudget (rankShards "tide" laptop s.db.listShards).length < n) := by
  obtain ⟨response, hyields, hresults⟩ := tide_found
  obtain ⟨s, hs, n, hn, -, -, houtcomes, -, hfallback, -⟩ :=
    sparse_search_refines_exhaustive hyields
  exact ⟨response, by rw [hresults]; rfl, s, hs, n, hn, houtcomes, hfallback⟩

open Sample in
/-- The receipt of that search is valid. -/
theorem own_receipts_valid_sample : ∃ response : RoutedSearchResponse factSources,
    response.results.length = 1 ∧
      validateRoutingReceipt receiptPlatform receiptKey response.routingReceipt = .ok () := by
  obtain ⟨response, hyields, hresults⟩ := tide_found
  have hvec : ∀ s, s = searchStore → s.db.deviceShards.rows.length < 2 ^ 64 := by
    rintro s rfl
    decide
  obtain ⟨hshards, -⟩ := own_receipts_valid hvec (fixed factAnswer)
    (fun _ => pure (⟨3, .ok []⟩ : StoreAnswer factSources)) laptop alice tideRequest 50
  rcases hshards _ hyields with ⟨response', he, hvalid⟩ | he | ⟨_, he⟩ | ⟨_, _, he, -⟩
  · cases he
    exact ⟨response, by rw [hresults]; rfl, hvalid⟩
  all_goals cases he

end Mnemes
