import Mnemes.Search.Profile

/-!
# The namespaces of a profile search

Stores are authorized one namespace each, but a store on disk may hold items of several, and a
search passes the namespaces of the request on to every store. The results stay within the
namespaces their stores were admitted for exactly where the request names these and no others, or
asks for no results (`results_confined_iff`); without a list, or with an empty one, every item of an
authorized store can be found (`search_leaves_namespace`).
-/

namespace Mnemes

open Concurrency Relational

variable {M : SemanticMemory} {S : SearchSources}

/-! ## Confinement -/

/-- What `semantic-memory` documents of a search restricted to namespaces: it returns items of these
only. Nothing is said of a search without a list, or with an empty one, which is not restricted. -/
def StoreFiles.Documented (W : StoreFiles S) : Prop :=
  ∀ path query topK namespaces sourceTypes results, namespaces ≠ [] →
    W.search path query topK (some namespaces) sourceTypes = .ok results →
      ∀ result ∈ results, ∃ ns ∈ namespaces, W.itemNamespace path result.source = some ns

/-- Every result is an item whose namespace in its store is the one the store was admitted for. -/
def ProfileRoutedSearchResponse.Confined (response : ProfileRoutedSearchResponse S)
    (W : StoreFiles S) : Prop :=
  ∀ result ∈ response.results, ∃ entry ∈ response.routingReceipt.authorizedStores,
    entry.storeId = result.storeId ∧
      W.itemNamespace entry.relativePath result.result.source = some entry.namespace

/-- The request asks for the store: it names no namespaces, or the store's among them. -/
def RoutingSearchRequest.AsksFor (request : RoutingSearchRequest) (store : MemoryStoreIdentity) :
    Prop :=
  request.namespaces.getD [] = [] ∨ store.namespace ∈ request.namespaces.getD []

/-- The actor resolves to a profile that may search the store, and the request asks for it. -/
def PooledDb.Reaches (P : Platform) (db : PooledDb) (actor : ActorId)
    (request : RoutingSearchRequest) (at' : UInt64) (store : MemoryStoreIdentity) : Prop :=
  ∃ binding, at'.toNat < 2 ^ 63 ∧ db.resolveActorProfile P actor at'.toInt64 = .ok binding ∧
    db.Searchable binding.profileId at' store ∧ request.AsksFor store

section
variable {P : Platform} {authKey : Bytes32} {receiptId recordedAt : String} {db : PooledDb}
  {W : StoreFiles S} {memoryText : MemoryError → String} {latencyMs : String → UInt64}
  {actor : ActorId} {request : RoutingSearchRequest} {at' : UInt64}
  {snapshot : AuthorizationSnapshot}

/-- The entries of a snapshot, by the stores that the search reaches. -/
theorem PooledDb.snapshot_reaches
    (h : db.snapshot P actor .search request.namespaces at' = .ok snapshot)
    {storeId ns path : String} :
    (∃ entry ∈ snapshot.authorizedStores, entry.storeId = storeId ∧ entry.namespace = ns ∧
      entry.relativePath = path) ↔
    ∃ store, db.Reaches P actor request at' store ∧ store.storeId = storeId ∧
      store.namespace = ns ∧ store.relativePath = path := by
  obtain ⟨binding, hat, hb, rfl⟩ := snapshot_eq_ok.1 h
  simp only [AuthorizationSnapshot.new, List.mem_map, List.mem_insertionSort, List.mem_filterMap,
    mem_liveStores, admits_eq_some]
  constructor
  · rintro ⟨_, ⟨_, ⟨store, ⟨hstore, hlive⟩, hreq, -, hpermits, rfl⟩, rfl⟩, rfl, rfl, rfl⟩
    exact ⟨store, ⟨binding, hat, hb, ⟨hstore, hlive, hpermits⟩, requests_iff.1 hreq⟩, rfl, rfl, rfl⟩
  · rintro ⟨store, ⟨binding', -, hb', ⟨hstore, hlive, hpermits⟩, hreq⟩, rfl, rfl, rfl⟩
    cases hb.symm.trans hb'
    exact ⟨_, ⟨_, ⟨store, ⟨hstore, hlive⟩, requests_iff.2 hreq, hlive.1, hpermits, rfl⟩, rfl⟩, rfl,
      rfl, rfl⟩

/-- A result of an entry's search is an answer of the store at the entry's path. -/
theorem PooledDb.mem_storeExecution {store : MemoryStoreIdentity} {entry : AuthorizedMemoryStore}
    (hrow : store ∈ db.memoryStores.rows) (hlive : db.StoreLive store)
    (hid : entry.storeId = store.storeId) {result : ProfileRoutedSearchResult S}
    (h : result ∈ (db.storeExecution W memoryText latencyMs request entry).2) :
    result.storeId = entry.storeId ∧ ∃ results, W.search store.relativePath request.query
        request.topK request.namespaces request.sourceTypes = .ok results ∧
      result.result ∈ results := by
  unfold storeExecution StoreAnswer.execution at h
  dsimp only at h
  split at h
  · next results hread =>
    obtain ⟨found, hfound, rfl⟩ := List.mem_map.1 h
    simp only [StoreFiles.read, bind_eq_ok, mapError_eq_ok] at hread
    obtain ⟨path, hpath, ⟨⟩, -, hsearch⟩ := hread
    rw [hid] at hpath
    obtain ⟨-, rfl⟩ := (profileStorePath_eq_ok hrow hlive).1 hpath
    exact ⟨rfl, results, hsearch, hfound⟩
  · cases h

/-- What a profile search answers with are results of the entries' searches, at most `top_k`. -/
theorem PooledDb.profileAnswer_ok {response : ProfileRoutedSearchResponse S}
    (h : db.profileAnswer P authKey receiptId recordedAt W memoryText latencyMs actor request at' =
      .ok response) :
    ∃ snapshot, db.snapshot P actor .search request.namespaces at' = .ok snapshot ∧
      response.routingReceipt.authorizedStores = snapshot.authorizedStores ∧
      response.results.length ≤ request.topK ∧ ∀ result ∈ response.results,
        ∃ entry ∈ snapshot.authorizedStores,
          result ∈ (db.storeExecution W memoryText latencyMs request entry).2 := by
  obtain ⟨snapshot, hsnapshot, h⟩ := bind_eq_ok.1 h
  obtain ⟨merged, hmerged, h⟩ := bind_eq_ok.1 h
  cases h
  rw [mergeProfileResults_eq] at hmerged
  split at hmerged
  · cases hmerged
  · cases hmerged
    refine ⟨snapshot, hsnapshot, rfl, List.length_take_le _ _, fun result hresult => ?_⟩
    have hmem := Ranking.firsts_sublist.subset (List.mem_of_mem_take hresult)
    rw [List.mem_insertionSort, List.flatMap_map] at hmem
    exact List.mem_flatMap.1 hmem

/-- The results are confined where every store that the search reaches answers with items of its own
namespace. -/
theorem PooledDb.profileAnswer_confined {response : ProfileRoutedSearchResponse S}
    (hown : ∀ store, db.Reaches P actor request at' store → ∀ results,
      W.search store.relativePath request.query request.topK request.namespaces
        request.sourceTypes = .ok results →
      ∀ result ∈ results, W.itemNamespace store.relativePath result.source = some store.namespace)
    (h : db.profileAnswer P authKey receiptId recordedAt W memoryText latencyMs actor request at' =
      .ok response) : response.Confined W := by
  obtain ⟨snapshot, hsnapshot, hstores, -, hresults⟩ := profileAnswer_ok h
  intro result hresult
  obtain ⟨entry, hentry, hmem⟩ := hresults result hresult
  obtain ⟨store, hreaches, hid, hns, hpath⟩ :=
    (snapshot_reaches hsnapshot).1 ⟨entry, hentry, rfl, rfl, rfl⟩
  obtain ⟨binding, -, -, hsearchable, -⟩ := id hreaches
  obtain ⟨hstoreId, results, hsearch, hfound⟩ :=
    mem_storeExecution hsearchable.stored hsearchable.live hid.symm hmem
  refine ⟨entry, hstores ▸ hentry, hstoreId.symm, ?_⟩
  rw [← hpath, ← hns]
  exact hown store hreaches results hsearch result.result hfound

/-! ## A foreign item -/

/-- A list of namespaces lets the items of one through: it is absent or empty, or names it. -/
def lets (namespaces : Option (List String)) (ns : String) : Bool :=
  namespaces.getD [] = [] || ns ∈ namespaces.getD []

/-- One fact of a namespace in the store of a path, found by every search that does not name other
namespaces only, and nothing anywhere else. -/
def planted (path ns : String) (fact : SearchResult S) : StoreFiles S where
  openExisting _ := .ok ()
  search path' _ _ namespaces _ := .ok (if path' = path ∧ lets namespaces ns then [fact] else [])
  itemNamespace _ _ := some ns

/-- The planted files keep to the namespaces they are asked for. -/
theorem planted_documented {path ns : String} {fact : SearchResult S} :
    (planted path ns fact).Documented := by
  intro path' query topK namespaces sourceTypes results hne h result hresult
  simp only [planted, Except.ok.injEq] at h
  subst h
  split at hresult
  · next hcond => exact ⟨ns, by simpa [lets, hne] using hcond.2, rfl⟩
  · cases hresult

/-- A canonical path ends in the identity of its store. -/
theorem storeId_of_canonical {profile profile' : MemoryProfileId} {storeId storeId' path : String}
    (h : canonicalMemoryStoreRelativePath profile storeId = .ok path)
    (h' : canonicalMemoryStoreRelativePath profile' storeId' = .ok path) : storeId = storeId' := by
  have hlast : ∀ {profile : MemoryProfileId} {storeId : String},
      canonicalMemoryStoreRelativePath profile storeId = .ok path →
        path.toList.reverse.takeWhile (· ≠ '/') = storeId.toList.reverse := by
    intro profile storeId h
    obtain ⟨rfl, -, hslash⟩ := canonicalPath_eq h
    have htext : s!"memory/profiles/{profile.text}/{storeId}".toList =
        (s!"memory/profiles/{profile.text}".toList ++ ['/']) ++ storeId.toList := by
      simp [toString]
    rw [htext, List.reverse_append, List.reverse_append,
      List.takeWhile_append_of_pos (by simpa using fun c hc (he : c = '/') => hslash (he ▸ hc))]
    simp
  exact String.toList_inj.1 (List.reverse_inj.1 ((hlast h).symm.trans (hlast h')))

/-- The search of an entry whose store is another one, or holds the fact. -/
theorem PooledDb.storeExecution_planted (hdb : Reachable P db) {store : MemoryStoreIdentity}
    (hrow : store ∈ db.memoryStores.rows) (hlive : db.StoreLive store)
    {entry : AuthorizedMemoryStore} (hid : entry.storeId = store.storeId) {path ns : String}
    {fact : SearchResult S} (hnamed : lets request.namespaces ns = true) :
    (db.storeExecution (planted path ns fact) memoryText latencyMs request entry).2 =
      if store.relativePath = path then [⟨fact, entry.storeId, entry.profileId, entry.ownerDeviceId,
        entry.namespace, none⟩] else [] := by
  obtain ⟨-, -, -, -, -, hcanonical⟩ :=
    MemoryStoreIdentity.check_eq_ok.1 (hdb.storesValid store hrow)
  have hpath : db.profileStorePath entry.storeId = .ok store.relativePath := by
    rw [hid]
    exact (profileStorePath_eq_ok hrow hlive).2 ⟨hcanonical, rfl⟩
  have hread : (planted path ns fact).read memoryText request (db.profileStorePath entry.storeId) =
      .ok (if store.relativePath = path then [fact] else []) := by
    rw [hpath]
    simp [StoreFiles.read, planted, Except.mapError, ok_bind, hnamed]
  unfold storeExecution StoreAnswer.execution
  simp only [hread]
  split <;> rfl

/-- A fact in a store that the search reaches is its only result. -/
theorem PooledDb.profileAnswer_planted (P : Platform) (authKey : Bytes32)
    (receiptId recordedAt : String) (memoryText : MemoryError → String)
    (latencyMs : String → UInt64) (hdb : Reachable P db) {store : MemoryStoreIdentity}
    (hreaches : db.Reaches P actor request at' store) {ns : String}
    (hnamed : lets request.namespaces ns = true) (htop : request.topK ≠ 0)
    (fact : SearchResult S) :
    ∃ response, db.profileAnswer P authKey receiptId recordedAt (planted store.relativePath ns fact)
        memoryText latencyMs actor request at' = .ok response ∧
      ∃ entry, entry.storeId = store.storeId ∧ entry.namespace = store.namespace ∧
        response.results = [⟨fact, entry.storeId, entry.profileId, entry.ownerDeviceId,
          entry.namespace, none⟩] ∧
        ∀ other ∈ response.routingReceipt.authorizedStores, other.storeId = entry.storeId →
          other = entry := by
  obtain ⟨binding, hat, hb, hsearchable, hasks⟩ := id hreaches
  obtain ⟨snapshot, hsnapshot⟩ : ∃ snapshot,
      db.snapshot P actor .search request.namespaces at' = .ok snapshot :=
    ⟨_, snapshot_eq_ok.2 ⟨binding, hat, hb, rfl⟩⟩
  obtain ⟨entry, hentry, hid, hns, hpath⟩ :=
    (snapshot_reaches hsnapshot).2 ⟨store, hreaches, rfl, rfl, rfl⟩
  have hnodup := snapshot_nodup hsnapshot
  -- only the store itself is at its path
  have hone : ∀ other ∈ snapshot.authorizedStores,
      (db.storeExecution (planted store.relativePath ns fact) memoryText latencyMs request
        other).2 =
        if other.storeId = entry.storeId then [⟨fact, other.storeId, other.profileId,
          other.ownerDeviceId, other.namespace, none⟩] else [] := by
    intro other hother
    obtain ⟨store', ⟨binding', -, -, hsearchable', -⟩, hid', -, -⟩ :=
      (snapshot_reaches hsnapshot).1 ⟨other, hother, rfl, rfl, rfl⟩
    rw [storeExecution_planted hdb hsearchable'.stored hsearchable'.live hid'.symm hnamed]
    obtain ⟨-, -, -, -, -, hc⟩ :=
      MemoryStoreIdentity.check_eq_ok.1 (hdb.storesValid store hsearchable.stored)
    obtain ⟨-, -, -, -, -, hc'⟩ :=
      MemoryStoreIdentity.check_eq_ok.1 (hdb.storesValid store' hsearchable'.stored)
    have hiff : store'.relativePath = store.relativePath ↔ other.storeId = entry.storeId := by
      rw [hid, ← hid']
      constructor
      · intro he
        exact storeId_of_canonical hc' (he ▸ hc)
      · intro he
        rw [Table.eq_of_key hsearchable'.stored hsearchable.stored he]
    simp only [hiff]
  have hresults : ((snapshot.authorizedStores.map (db.storeExecution (planted store.relativePath ns
      fact) memoryText latencyMs request)).flatMap (·.2)) = [⟨fact, entry.storeId, entry.profileId,
        entry.ownerDeviceId, entry.namespace, none⟩] := by
    rw [List.flatMap_map, List.flatMap_congr hone]
    exact Lists.flatMap_key_eq hnodup hentry _
  have hmerged : mergeProfileResults [(⟨fact, entry.storeId, entry.profileId, entry.ownerDeviceId,
      entry.namespace, none⟩ : ProfileRoutedSearchResult S)] request.topK =
        .ok [⟨fact, entry.storeId, entry.profileId, entry.ownerDeviceId, entry.namespace,
          none⟩] := by
    obtain ⟨k, hk⟩ := Nat.exists_eq_succ_of_ne_zero htop
    rw [mergeProfileResults_eq, hk]
    simp [Ranking.firstConflict, Ranking.firsts]
  refine ⟨_, bind_eq_ok.2 ⟨snapshot, hsnapshot, bind_eq_ok.2 ⟨_, by rw [hresults, hmerged], rfl⟩⟩,
    entry, hid, hns, rfl, fun other hother hstore => ?_⟩
  exact List.inj_on_of_nodup_map hnodup hother hentry hstore

/-- A fact of another namespace than its store's is found, unless the request names only others. -/
theorem PooledDb.profileAnswer_escapes (P : Platform) (authKey : Bytes32)
    (receiptId recordedAt : String) (memoryText : MemoryError → String)
    (latencyMs : String → UInt64) (hdb : Reachable P db) {store : MemoryStoreIdentity}
    (hreaches : db.Reaches P actor request at' store) {ns : String} (hne : ns ≠ store.namespace)
    (hnamed : lets request.namespaces ns = true) (htop : request.topK ≠ 0)
    (fact : SearchResult S) :
    ∃ response, db.profileAnswer P authKey receiptId recordedAt (planted store.relativePath ns fact)
        memoryText latencyMs actor request at' = .ok response ∧
      ¬ response.Confined (planted store.relativePath ns fact) := by
  obtain ⟨response, hresponse, entry, hid, hns, hresults, hone⟩ := profileAnswer_planted P authKey
    receiptId recordedAt memoryText latencyMs hdb hreaches hnamed htop fact
  refine ⟨response, hresponse, fun hconfined => ?_⟩
  obtain ⟨other, hother, hstore, hitem⟩ :=
    hconfined _ (by rw [hresults]; exact List.mem_singleton.2 rfl)
  cases hone other hother hstore
  exact hne (Option.some.inj (hitem.trans (congrArg some hns)))

end

/-- Whatever an authorized store holds, the results of a profile search are items of the namespaces
their stores were admitted for, exactly where no results are asked for or the request names
namespaces, and none but that of every store it reaches. For given contents it is enough that each
store that the search reaches answers with items of its own namespace. -/
theorem results_confined_iff {P : Platform} {authKey : Bytes32} {receiptId recordedAt : String}
    {memoryText : MemoryError → String} {latencyMs : String → UInt64} {s : MnemesStore M}
    (hdb : Reachable P s.db) {x : Choice} (hx : x.fault = none)
    (hfree : s.db.profileRoutingReceipts.find? (·.receiptId = .text receiptId) = none)
    (actor : ActorId) (request : RoutingSearchRequest) (at' : UInt64) (fact : SearchResult S) :
    (∀ W : StoreFiles S, (∀ store, s.db.Reaches P actor request at' store → ∀ results,
        W.search store.relativePath request.query request.topK request.namespaces
          request.sourceTypes = .ok results →
        ∀ result ∈ results, W.itemNamespace store.relativePath result.source =
          some store.namespace) →
      ∀ response s', (routedSearchForProfile P authKey receiptId recordedAt
        (searchProfileStore W memoryText latencyMs request) actor request at').run.alone x s =
          (some (.ok response), s') → response.Confined W) ∧
    ((∀ W : StoreFiles S, W.Documented → ∀ response s',
        (routedSearchForProfile P authKey receiptId recordedAt
          (searchProfileStore W memoryText latencyMs request) actor request at').run.alone x s =
            (some (.ok response), s') → response.Confined W) ↔
      request.topK = 0 ∨ ∀ store, s.db.Reaches P actor request at' store →
        request.namespaces.getD [] ≠ [] ∧
          ∀ ns ∈ request.namespaces.getD [], ns = store.namespace) := by
  -- a run that succeeds returns the answer of the database
  have hanswer : ∀ (W : StoreFiles S) response s', (routedSearchForProfile P authKey receiptId
      recordedAt (searchProfileStore W memoryText latencyMs request) actor request
        at').run.alone x s = (some (.ok response), s') →
      s.db.profileAnswer P authKey receiptId recordedAt W memoryText latencyMs actor request at' =
        .ok response := by
    intro W response s' hrun
    have hfirst := congrArg Prod.fst hrun
    rw [routedSearchForProfile_answer hx hfree] at hfirst
    exact Option.some.inj hfirst
  refine ⟨fun W hown response s' hrun => PooledDb.profileAnswer_confined hown (hanswer W _ _ hrun),
    fun h => ?_, ?_⟩
  · by_contra hno
    rw [not_or] at hno
    obtain ⟨htop, hno⟩ := hno
    push Not at hno
    obtain ⟨store, hreaches, hothers⟩ := hno
    -- a namespace that the request lets through and that is not the store's
    obtain ⟨ns, hne, hnamed⟩ : ∃ ns, ns ≠ store.namespace ∧ lets request.namespaces ns = true := by
      by_cases hempty : request.namespaces.getD [] = []
      · exact ⟨store.namespace ++ "'", by simp, by simp [lets, hempty]⟩
      · obtain ⟨ns, hmem, hne⟩ := hothers hempty
        exact ⟨ns, hne, by simp [lets, hmem]⟩
    obtain ⟨response, hresponse, hescapes⟩ := PooledDb.profileAnswer_escapes P authKey receiptId
      recordedAt memoryText latencyMs hdb hreaches hne hnamed htop fact
    have hfirst : ((routedSearchForProfile P authKey receiptId recordedAt
        (searchProfileStore (planted store.relativePath ns fact) memoryText latencyMs request) actor
          request at').run.alone x s).1 = some (.ok response) := by
      rw [routedSearchForProfile_answer hx hfree, hresponse]
    exact hescapes (h _ planted_documented response _ (Prod.ext hfirst rfl))
  · rintro (htop | hnamed) W hW response s' hrun
    · obtain ⟨_, -, -, hlength, -⟩ := PooledDb.profileAnswer_ok (hanswer W _ _ hrun)
      rw [htop, Nat.le_zero, List.length_eq_zero_iff] at hlength
      intro result hresult
      rw [hlength] at hresult
      cases hresult
    · refine PooledDb.profileAnswer_confined
        (fun store hreaches results hsearch result hresult => ?_) (hanswer W _ _ hrun)
      obtain ⟨hne, hall⟩ := hnamed store hreaches
      cases hn : request.namespaces with
      | none => exact absurd (by rw [hn]; rfl) hne
      | some namespaces =>
        rw [hn] at hsearch hne hall
        obtain ⟨ns, hns, hitem⟩ := hW _ _ _ _ _ _ hne hsearch result hresult
        rw [hitem, hall ns hns]

namespace Sample

/-- The notes, which alice may search. -/
def notes : MemoryStoreIdentity := { storeOf "team" "notes" with createdAt := "now" }

/-- The request, for the namespace of the notes. -/
def namedRequest : RoutingSearchRequest := { tideRequest with namespaces := some ["shared"] }

/-- A request that asks for the notes reaches them, since alice may search them. -/
theorem notes_reached {request : RoutingSearchRequest} (h : request.AsksFor notes) :
    shared.Reaches digests alice request 50 notes := by
  have hresolve : (shared.resolveActorProfile digests alice (50 : UInt64).toInt64).toOption.any
      (·.profileId = ⟨"alice"⟩) = true := by decide +kernel
  obtain ⟨resolved, hr, hp⟩ := ok_of_any hresolve
  have hp : resolved.profileId = ⟨"alice"⟩ := of_decide_eq_true hp
  exact ⟨resolved, by decide, hr, by rw [hp]; exact (searchable_notes (.inl rfl)).2 rfl, h⟩

end Sample

open Sample in
/-- A request for the namespace of the notes gets items of that namespace. -/
theorem results_confined_sample :
    ∃ response s', (routedSearchForProfile digests receiptKey "route-1"
      "noon" (searchProfileStore (planted notes.relativePath "shared" (foundAt laptop).result)
        (fun _ => "") (fun _ => 3) namedRequest) alice
          namedRequest 50).run.alone step sharedStore =
      (some (.ok response), s') ∧
    response.Confined (planted notes.relativePath "shared" (foundAt laptop).result) := by
  have hfree : sharedStore.db.profileRoutingReceipts = [] := by decide +kernel
  have hreaches : shared.Reaches digests alice namedRequest 50
      notes := notes_reached (.inr (List.mem_singleton.2 rfl))
  have hnamed : lets namedRequest.namespaces "shared" = true := rfl
  obtain ⟨response, hresponse, -⟩ := PooledDb.profileAnswer_planted digests receiptKey "route-1"
    "noon" (fun _ => "") (fun _ => 3) shared_reachable hreaches hnamed (by decide)
    (foundAt laptop).result
  obtain ⟨s', ha⟩ : ∃ s', (routedSearchForProfile digests receiptKey "route-1" "noon"
      (searchProfileStore (planted notes.relativePath "shared" (foundAt laptop).result)
        (fun _ => "") (fun _ => 3) namedRequest) alice
          namedRequest 50).run.alone step sharedStore =
      (some (.ok response), s') := by
    rw [← hresponse]
    exact routedSearchForProfile_alone rfl (by rw [hfree]; rfl)
  refine ⟨response, s', ha, (results_confined_iff (s := sharedStore) shared_reachable rfl
    (by rw [hfree]; rfl) alice namedRequest 50
      (foundAt laptop).result).2.2 (.inr ?_) _ planted_documented response s' ha⟩
  rintro store ⟨resolved, -, hr, hsearchable, hasks⟩
  rcases hasks with hnone | hmem
  · cases hnone
  · exact ⟨List.cons_ne_nil _ _, fun ns hns =>
      (List.mem_singleton.1 hns).trans (List.mem_singleton.1 hmem).symm⟩

open Sample in
/-- A request without namespaces finds a fact of another namespace in the store that was shared. -/
theorem search_leaves_namespace : Reachable digests sharedStore.db ∧
    (planted notes.relativePath "private" (foundAt laptop).result).Documented ∧
    ∃ response s', (routedSearchForProfile digests receiptKey "route-1" "noon"
        (searchProfileStore (planted notes.relativePath "private" (foundAt laptop).result)
          (fun _ => "") (fun _ => 3) tideRequest) alice tideRequest 50).run.alone step sharedStore =
        (some (.ok response), s') ∧
      ¬ response.Confined (planted notes.relativePath "private" (foundAt laptop).result) := by
  have hfree : sharedStore.db.profileRoutingReceipts = [] := by decide +kernel
  have hreaches : shared.Reaches digests alice tideRequest 50 notes := notes_reached (.inl rfl)
  have hne : "private" ≠ notes.namespace := by decide
  obtain ⟨response, hresponse, hescapes⟩ := PooledDb.profileAnswer_escapes digests receiptKey
    "route-1" "noon" (fun _ => "") (fun _ => 3) shared_reachable hreaches hne rfl (by decide)
    (foundAt laptop).result
  obtain ⟨s', ha⟩ : ∃ s', (routedSearchForProfile digests receiptKey "route-1" "noon"
      (searchProfileStore (planted notes.relativePath "private" (foundAt laptop).result)
        (fun _ => "") (fun _ => 3) tideRequest) alice tideRequest 50).run.alone step sharedStore =
      (some (.ok response), s') := by
    rw [← hresponse]
    exact routedSearchForProfile_alone rfl (by rw [hfree]; rfl)
  exact ⟨shared_reachable, planted_documented, response, s', ha, hescapes⟩

end Mnemes
