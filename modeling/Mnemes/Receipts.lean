import Mathlib.Data.Finset.Card
import Mathlib.Logic.Relation
import Mnemes.Lib.Json
import Mnemes.Profile.Runs

/-!
# Routing receipts

The durable receipts of routed searches (`store.rs`, `shards.rs`). A receipt carries the HMAC of its
other fields under the server's key. The receipt of a shard search is stored column by column, the
one of a profile search as one JSON text beside its key; reading a receipt parses the cells and
checks the HMAC again. So what is read is a receipt the server stored, whatever the cells hold; but
only the columns of a shard receipt include its key (`receipt_lookup_authentic_iff`).

Reading JSON enters as a parameter. Writing the JSON of a receipt and taking a key of 32 bytes do
not fail.
-/

namespace Mnemes

/-! ## Receipts -/

/-- One deterministic catalog ranking decision. -/
structure RankedShard where
  deviceId : DeviceId
  score : UInt64
  deriving DecidableEq, Repr

/-- Per-shard execution evidence. -/
structure ShardSearchOutcome where
  deviceId : DeviceId
  shardGeneration : UInt64
  latencyMs : UInt64
  resultCount : UInt64
  childSearchReceiptId : Option String
  error : Option String
  deriving DecidableEq, Repr

/-- Typed durable receipt for one sparse or exhaustive routed search. -/
structure ShardRoutingReceipt where
  receiptId : String
  requesterDeviceId : DeviceId
  querySha256 : String
  shardBudget : UInt64
  actualSelectedShardCount : UInt64
  exhaustive : Bool
  eligibleShards : List DeviceId
  rankedShards : List RankedShard
  selectedShards : List DeviceId
  skippedShards : List DeviceId
  outcomes : List ShardSearchOutcome
  fallbackReason : Option String
  finalResultIds : List String
  mergeDigest : String
  receiptDigest : String
  recordedAt : String
  deriving DecidableEq, Repr

/-- Per-store execution evidence for one profile-bound routed search. -/
structure ProfileStoreSearchOutcome where
  storeId : String
  profileId : MemoryProfileId
  latencyMs : UInt64
  resultCount : UInt64
  childSearchReceiptId : Option String
  error : Option String
  deriving DecidableEq, Repr

/-- Durable global receipt for a profile-bound routed search. -/
structure ProfileRoutingReceipt where
  receiptId : String
  actorId : ActorId
  subjectProfileId : MemoryProfileId
  authorizationSnapshotDigest : String
  authorizedStores : List AuthorizedMemoryStore
  selectedStores : List String
  skippedStores : List String
  outcomes : List ProfileStoreSearchOutcome
  complete : Bool
  finalResultIds : List String
  querySha256 : String
  receiptDigest : String
  recordedAt : String
  deriving DecidableEq, Repr

/-! ## Their JSON -/

open Json (Value)

/-- `Option<String>`. -/
def optionJson : Option String → Value
  | none => .null
  | some text => .string text

/-- A `Vec`. -/
def arrayJson {α : Type} (json : α → Value) (entries : List α) : Value := .array (entries.map json)

/-- `Vec<String>`. -/
def textsJson (texts : List String) : Value := arrayJson .string texts

/-- `Vec<DeviceId>`. -/
def deviceIdsJson (devices : List DeviceId) : Value := textsJson (devices.map (·.text))

def RankedShard.json (shard : RankedShard) : Value :=
  .object [("device_id", .string shard.deviceId.text), ("score", .number shard.score.toNat)]

def ShardSearchOutcome.json (outcome : ShardSearchOutcome) : Value :=
  .object [("device_id", .string outcome.deviceId.text),
    ("shard_generation", .number outcome.shardGeneration.toNat),
    ("latency_ms", .number outcome.latencyMs.toNat),
    ("result_count", .number outcome.resultCount.toNat),
    ("child_search_receipt_id", optionJson outcome.childSearchReceiptId),
    ("error", optionJson outcome.error)]

def AuthorizedMemoryStore.json (store : AuthorizedMemoryStore) : Value :=
  .object [("store_id", .string store.storeId), ("profile_id", .string store.profileId.text),
    ("owner_device_id", .string store.ownerDeviceId.text), ("namespace", .string store.namespace),
    ("relative_path", .string store.relativePath),
    ("grant_ids", textsJson (store.grantIds.map (·.text))),
    ("authorization_expires_at", .number store.authorizationExpiresAt.toNat)]

def ProfileStoreSearchOutcome.json (outcome : ProfileStoreSearchOutcome) : Value :=
  .object [("store_id", .string outcome.storeId), ("profile_id", .string outcome.profileId.text),
    ("latency_ms", .number outcome.latencyMs.toNat),
    ("result_count", .number outcome.resultCount.toNat),
    ("child_search_receipt_id", optionJson outcome.childSearchReceiptId),
    ("error", optionJson outcome.error)]

def ProfileRoutingReceipt.json (receipt : ProfileRoutingReceipt) : Value :=
  .object [("receipt_id", .string receipt.receiptId), ("actor_id", .string receipt.actorId.text),
    ("subject_profile_id", .string receipt.subjectProfileId.text),
    ("authorization_snapshot_digest", .string receipt.authorizationSnapshotDigest),
    ("authorized_stores", arrayJson AuthorizedMemoryStore.json receipt.authorizedStores),
    ("selected_stores", textsJson receipt.selectedStores),
    ("skipped_stores", textsJson receipt.skippedStores),
    ("outcomes", arrayJson ProfileStoreSearchOutcome.json receipt.outcomes),
    ("complete", .bool receipt.complete),
    ("final_result_ids", textsJson receipt.finalResultIds),
    ("query_sha256", .string receipt.querySha256),
    ("receipt_digest", .string receipt.receiptDigest),
    ("recorded_at", .string receipt.recordedAt)]

/-- `serde_json::from_str` at the types that are read, with the texts of its errors. -/
structure ReceiptJson where
  deviceIds : String → Except String (List DeviceId)
  rankedShards : String → Except String (List RankedShard)
  outcomes : String → Except String (List ShardSearchOutcome)
  resultIds : String → Except String (List String)
  profileReceipt : String → Except String ProfileRoutingReceipt

/-! ## Digests -/

/-- The `hmac` crate's HMAC-SHA-256, with a key of 32 bytes. -/
def hmacSha256 (P : Platform) (key : Bytes32) (message : Bytes) : Bytes32 :=
  let block := key.toList ++ List.replicate 32 0
  P.sha256 (block.map (· ^^^ 0x5C) ++ (P.sha256 (block.map (· ^^^ 0x36) ++ message)).toList)

/-- What the digest of a receipt authenticates: a domain and the fields but the digest. -/
def ShardRoutingReceipt.material (receipt : ShardRoutingReceipt) : Value :=
  .array [.string "pooled-routing-receipt-hmac-v1", .string receipt.receiptId,
    .string receipt.requesterDeviceId.text, .string receipt.querySha256,
    .number receipt.shardBudget.toNat, .number receipt.actualSelectedShardCount.toNat,
    .bool receipt.exhaustive, deviceIdsJson receipt.eligibleShards,
    arrayJson RankedShard.json receipt.rankedShards, deviceIdsJson receipt.selectedShards,
    deviceIdsJson receipt.skippedShards, arrayJson ShardSearchOutcome.json receipt.outcomes,
    optionJson receipt.fallbackReason, textsJson receipt.finalResultIds,
    .string receipt.mergeDigest, .string receipt.recordedAt]

def ProfileRoutingReceipt.material (receipt : ProfileRoutingReceipt) : Value :=
  .array [.string "profile-routing-receipt-hmac-v1", .string receipt.receiptId,
    .string receipt.actorId.text, .string receipt.subjectProfileId.text,
    .string receipt.authorizationSnapshotDigest,
    arrayJson AuthorizedMemoryStore.json receipt.authorizedStores, textsJson receipt.selectedStores,
    textsJson receipt.skippedStores, arrayJson ProfileStoreSearchOutcome.json receipt.outcomes,
    .bool receipt.complete, textsJson receipt.finalResultIds, .string receipt.querySha256,
    .string receipt.recordedAt]

/-- The digest of some material. -/
def materialDigest (P : Platform) (authKey : Bytes32) (material : Value) : String :=
  hex (hmacSha256 P authKey (utf8 material.toText)).toList

/-- `routing_receipt_digest`. -/
def routingReceiptDigest (P : Platform) (authKey : Bytes32) (receipt : ShardRoutingReceipt) :
    String :=
  materialDigest P authKey receipt.material

/-- `profile_routing_receipt_digest`. -/
def profileRoutingReceiptDigest (P : Platform) (authKey : Bytes32)
    (receipt : ProfileRoutingReceipt) : String :=
  materialDigest P authKey receipt.material

/-! ## Validation -/

/-- The text of a digest: 64 hexadecimal digits of either case. -/
def isDigest (value : String) : Bool :=
  (utf8 value).length = 64 && (utf8 value).all fun byte =>
    (0x30 ≤ byte && byte ≤ 0x39) || (0x41 ≤ byte && byte ≤ 0x46) || (0x61 ≤ byte && byte ≤ 0x66)

/-- No entry is repeated. -/
def distinct {α : Type} [DecidableEq α] (entries : List α) : Bool :=
  entries.toFinset.card = entries.length

/-- The sets of a receipt fit together: no repetitions, every entry either selected or skipped, and
outcomes of exactly the selected ones. -/
def consistentSets {α : Type} [DecidableEq α] (all selected skipped outcomes : List α) : Bool :=
  distinct all && distinct selected && distinct skipped && distinct outcomes &&
    selected.toFinset ⊆ all.toFinset && skipped.toFinset ⊆ all.toFinset &&
    Disjoint selected.toFinset skipped.toFinset &&
    (selected.toFinset ∪ skipped.toFinset).card = all.toFinset.card &&
    outcomes.toFinset = selected.toFinset

/-- Hexadecimal digits are single bytes. -/
theorem hexDigit_bytes : ∀ n < 16, (String.utf8EncodeChar (hexDigit n)).length = 1 ∧
    (String.utf8EncodeChar (hexDigit n)).all (fun byte =>
      (0x30 ≤ byte && byte ≤ 0x39) || (0x41 ≤ byte && byte ≤ 0x46) ||
        (0x61 ≤ byte && byte ≤ 0x66)) = true := by
  decide +kernel

/-- The hexadecimal text of 32 bytes is a digest. -/
theorem isDigest_hex (digest : Bytes32) : isDigest (hex digest.toList) = true := by
  have hutf8 : utf8 (hex digest.toList) = digest.toList.flatMap fun b =>
      String.utf8EncodeChar (hexDigit (b.toNat / 16)) ++
        String.utf8EncodeChar (hexDigit (b.toNat % 16)) := by
    rw [hex, utf8_ofList, List.flatMap_assoc]
    simp
  have hhigh : ∀ b : UInt8, b.toNat / 16 < 16 := fun b => by have := b.toNat_lt; omega
  have hlow : ∀ b : UInt8, b.toNat % 16 < 16 := fun b => by omega
  rw [isDigest, hutf8, Bool.and_eq_true, decide_eq_true_eq, List.length_flatMap]
  refine ⟨?_, List.all_eq_true.2 fun byte hbyte => ?_⟩
  · have htwo : digest.toList.map (fun b => (String.utf8EncodeChar (hexDigit (b.toNat / 16)) ++
        String.utf8EncodeChar (hexDigit (b.toNat % 16))).length) =
          digest.toList.map fun _ => 2 := by
      refine List.map_congr_left fun b _ => ?_
      rw [List.length_append, (hexDigit_bytes _ (hhigh b)).1, (hexDigit_bytes _ (hlow b)).1]
    rw [htwo, List.map_const', List.sum_replicate_nat, Vector.length_toList]
  · obtain ⟨b, -, hb⟩ := List.mem_flatMap.1 hbyte
    rcases List.mem_append.1 hb with hb | hb
    · exact List.all_eq_true.1 (hexDigit_bytes _ (hhigh b)).2 byte hb
    · exact List.all_eq_true.1 (hexDigit_bytes _ (hlow b)).2 byte hb

/-- Entries without a repetition pass the check. -/
theorem distinct_of_nodup {α : Type} [DecidableEq α] {entries : List α} (h : entries.Nodup) :
    distinct entries = true :=
  decide_eq_true (List.toFinset_card_of_nodup h)

/-- A cut of distinct entries into those selected and the rest is consistent. -/
theorem consistentSets_cut {α : Type} [DecidableEq α] {all : List α} (h : all.Nodup) (n : Nat) :
    consistentSets all (all.take n) (all.drop n) (all.take n) = true := by
  have hcut : all.take n ++ all.drop n = all := List.take_append_drop n all
  have hunion : (all.take n).toFinset ∪ (all.drop n).toFinset = all.toFinset := by
    rw [← List.toFinset_append, hcut]
  have htake := h.sublist (List.take_sublist n all)
  have hdrop := h.sublist (List.drop_sublist n all)
  have hdisjoint : (all.take n).Disjoint (all.drop n) := List.disjoint_take_drop h le_rfl
  simp only [consistentSets, Bool.and_eq_true, decide_eq_true_eq, distinct_of_nodup h,
    distinct_of_nodup htake, distinct_of_nodup hdrop, hunion, true_and, and_true]
  refine ⟨⟨?_, ?_⟩, List.disjoint_toFinset_iff_disjoint.2 hdisjoint⟩
  · rw [← hunion]
    exact Finset.subset_union_left
  · rw [← hunion]
    exact Finset.subset_union_right

/-- `validate_routing_receipt`. -/
def validateRoutingReceipt (P : Platform) (authKey : Bytes32) (receipt : ShardRoutingReceipt) :
    Except MnemesError Unit := do
  if !isDigest receipt.querySha256 || !isDigest receipt.mergeDigest ||
      !isDigest receipt.receiptDigest then
    throw (.invalidShardCatalog "routing receipt contains an invalid digest")
  if receipt.actualSelectedShardCount.toNat ≠ receipt.selectedShards.length then
    throw (.invalidShardCatalog "actual selected shard count is inconsistent")
  let ranked := receipt.rankedShards.map (·.deviceId)
  if !(consistentSets receipt.eligibleShards receipt.selectedShards receipt.skippedShards
      (receipt.outcomes.map (·.deviceId)) && distinct ranked &&
      ranked.toFinset = receipt.eligibleShards.toFinset) then
    throw (.invalidShardCatalog "routing receipt shard sets are inconsistent")
  if !distinct receipt.finalResultIds then
    throw (.invalidShardCatalog "routing receipt contains duplicate final result IDs")
  if routingReceiptDigest P authKey receipt ≠ receipt.receiptDigest then
    throw (.invalidShardCatalog "routing receipt authentication mismatch")

/-- `validate_profile_routing_receipt`. -/
def validateProfileRoutingReceipt (P : Platform) (authKey : Bytes32)
    (receipt : ProfileRoutingReceipt) : Except MnemesError Unit := do
  if !isDigest receipt.authorizationSnapshotDigest || !isDigest receipt.querySha256 ||
      !isDigest receipt.receiptDigest then
    throw (.invalidShardCatalog "profile routing receipt contains an invalid digest")
  if !(consistentSets (receipt.authorizedStores.map (·.storeId)) receipt.selectedStores
      receipt.skippedStores (receipt.outcomes.map (·.storeId)) &&
      receipt.complete = receipt.outcomes.all (·.error.isNone)) then
    throw (.invalidShardCatalog "profile routing receipt store sets are inconsistent")
  if !distinct receipt.finalResultIds then
    throw (.invalidShardCatalog "profile routing receipt contains duplicate final result IDs")
  if profileRoutingReceiptDigest P authKey receipt ≠ receipt.receiptDigest then
    throw (.invalidShardCatalog "profile routing receipt authentication mismatch")

/-! ## Cells -/

namespace SqlValue

/-- The type of a cell, as `rusqlite` prints it. -/
def type : SqlValue → String
  | null => "Null"
  | integer _ => "Integer"
  | real => "Real"
  | text _ => "Text"
  | blob => "Blob"

/-- The error of a cell of another type. -/
def invalidType {α : Type} (value : SqlValue) (index : Nat) (name : String) :
    Except MnemesError α :=
  .error (.database s!"Invalid column type {value.type} at index: {index}, name: {name}")

/-- `row.get::<_, String>`. -/
def getString (value : SqlValue) (index : Nat) (name : String) : Except MnemesError String :=
  match value with
  | text v => .ok v
  | value => value.invalidType index name

/-- `row.get::<_, Option<String>>`. -/
def getOptionString (value : SqlValue) (index : Nat) (name : String) :
    Except MnemesError (Option String) :=
  match value with
  | null => .ok none
  | text v => .ok (some v)
  | value => value.invalidType index name

/-- `row.get::<_, usize>`. -/
def getUsize (value : SqlValue) (index : Nat) (name : String) : Except MnemesError UInt64 :=
  match value with
  | integer v =>
    match u64TryFrom v with
    | some x => .ok x
    | none => .error (.database s!"Integer {v.toInt} out of range at index {index}")
  | value => value.invalidType index name

/-- `row.get::<_, bool>`. -/
def getBool (value : SqlValue) (index : Nat) (name : String) : Except MnemesError Bool :=
  match value with
  | integer v => .ok (v != 0)
  | value => value.invalidType index name

end SqlValue

/-! ## Storage -/

/-- A number for an `INTEGER` cell. -/
def usizeToSql (v : UInt64) : Except MnemesError SqlValue :=
  match i64TryFrom v with
  | some x => .ok (.integer x)
  | none => .error (.database "out of range integral type conversion attempted")

/-- `persist_routing_receipt`. The checks of the table's columns hold of a receipt that is valid. -/
def persistRoutingReceipt (P : Platform) (authKey : Bytes32) (receipt : ShardRoutingReceipt) :
    Method Unit where
  check := validateRoutingReceipt P authKey receipt
  body db _ := do
    let shardBudget ← usizeToSql receipt.shardBudget
    let actualSelectedShardCount ← usizeToSql receipt.actualSelectedShardCount
    let row : ShardRoutingReceiptRow :=
      { receiptId := .text receipt.receiptId
        requesterDeviceId := .text receipt.requesterDeviceId.text
        querySha256 := .text receipt.querySha256
        shardBudget := shardBudget
        actualSelectedShardCount := actualSelectedShardCount
        exhaustive := .integer (if receipt.exhaustive then 1 else 0)
        eligibleShardsJson := .text (deviceIdsJson receipt.eligibleShards).toText
        rankedShardsJson := .text (arrayJson RankedShard.json receipt.rankedShards).toText
        selectedShardsJson := .text (deviceIdsJson receipt.selectedShards).toText
        skippedShardsJson := .text (deviceIdsJson receipt.skippedShards).toText
        outcomesJson := .text (arrayJson ShardSearchOutcome.json receipt.outcomes).toText
        fallbackReason := receipt.fallbackReason.elim .null .text
        finalResultIdsJson := .text (textsJson receipt.finalResultIds).toText
        mergeDigest := .text receipt.mergeDigest
        receiptDigest := .text receipt.receiptDigest
        recordedAt := .text receipt.recordedAt }
    if (db.shardRoutingReceipts.find? (·.receiptId = .text receipt.receiptId)).isSome then
      throw (.database "UNIQUE constraint failed: shard_routing_receipts.receipt_id")
    if (db.devices.find? receipt.requesterDeviceId).isNone then
      throw (.database "FOREIGN KEY constraint failed")
    return ((), { db with shardRoutingReceipts := db.shardRoutingReceipts ++ [row] }, [])

/-- The receipt in a row, before it is validated. -/
def ShardRoutingReceiptRow.receipt (P : Platform) (J : ReceiptJson) (row : ShardRoutingReceiptRow) :
    Except MnemesError ShardRoutingReceipt := do
  let receiptId ← row.receiptId.getString 0 "receipt_id"
  let requesterDeviceId ← row.requesterDeviceId.getString 1 "requester_device_id"
  let querySha256 ← row.querySha256.getString 2 "query_sha256"
  let shardBudget ← row.shardBudget.getUsize 3 "shard_budget"
  let actualSelectedShardCount ←
    row.actualSelectedShardCount.getUsize 4 "actual_selected_shard_count"
  let exhaustive ← row.exhaustive.getBool 5 "exhaustive"
  let eligible ← row.eligibleShardsJson.getString 6 "eligible_shards_json"
  let ranked ← row.rankedShardsJson.getString 7 "ranked_shards_json"
  let selected ← row.selectedShardsJson.getString 8 "selected_shards_json"
  let skipped ← row.skippedShardsJson.getString 9 "skipped_shards_json"
  let outcomes ← row.outcomesJson.getString 10 "outcomes_json"
  let fallbackReason ← row.fallbackReason.getOptionString 11 "fallback_reason"
  let finalIds ← row.finalResultIdsJson.getString 12 "final_result_ids_json"
  let mergeDigest ← row.mergeDigest.getString 13 "merge_digest"
  let receiptDigest ← row.receiptDigest.getString 14 "receipt_digest"
  let recordedAt ← row.recordedAt.getString 15 "recorded_at"
  let requesterDeviceId ← (DeviceId.parse P requesterDeviceId).mapError .memory
  let eligibleShards ← (J.deviceIds eligible).mapError .invalidShardCatalog
  let rankedShards ← (J.rankedShards ranked).mapError .invalidShardCatalog
  let selectedShards ← (J.deviceIds selected).mapError .invalidShardCatalog
  let skippedShards ← (J.deviceIds skipped).mapError .invalidShardCatalog
  let outcomes ← (J.outcomes outcomes).mapError .invalidShardCatalog
  let finalResultIds ← (J.resultIds finalIds).mapError .invalidShardCatalog
  return {
    receiptId, requesterDeviceId, querySha256, shardBudget, actualSelectedShardCount, exhaustive,
    eligibleShards, rankedShards, selectedShards, skippedShards, outcomes, fallbackReason,
    finalResultIds, mergeDigest, receiptDigest, recordedAt }

/-- `get_routing_receipt`. -/
def getRoutingReceipt (P : Platform) (J : ReceiptJson) (authKey : Bytes32) (receiptId : String) :
    Method (Option ShardRoutingReceipt) where
  body db _ :=
    match db.shardRoutingReceipts.find? (·.receiptId = .text receiptId) with
    | none => .ok (none, db, [])
    | some row => do
      let receipt ← row.receipt P J
      validateRoutingReceipt P authKey receipt
      return (some receipt, db, [])

/-- `persist_profile_routing_receipt`. The checks of the table's columns hold of a receipt that is
valid. -/
def persistProfileRoutingReceipt (P : Platform) (authKey : Bytes32)
    (receipt : ProfileRoutingReceipt) : Method Unit where
  check := validateProfileRoutingReceipt P authKey receipt
  body db _ := do
    let row : ProfileRoutingReceiptRow :=
      { receiptId := .text receipt.receiptId
        requesterActorId := .text receipt.actorId.text
        subjectProfileId := .text receipt.subjectProfileId.text
        authorizationSnapshotDigest := .text receipt.authorizationSnapshotDigest
        receiptJson := .text receipt.json.toText
        receiptDigest := .text receipt.receiptDigest
        recordedAt := .text receipt.recordedAt }
    if (db.profileRoutingReceipts.find? (·.receiptId = .text receipt.receiptId)).isSome then
      throw (.database "UNIQUE constraint failed: profile_routing_receipts.receipt_id")
    if (db.actors.find? receipt.actorId).isNone ||
        (db.memoryProfiles.find? receipt.subjectProfileId).isNone then
      throw (.database "FOREIGN KEY constraint failed")
    return ((), { db with profileRoutingReceipts := db.profileRoutingReceipts ++ [row] }, [])

/-- `get_profile_routing_receipt`: only the JSON of the row is read. -/
def getProfileRoutingReceipt (P : Platform) (J : ReceiptJson) (authKey : Bytes32)
    (receiptId : String) : Method (Option ProfileRoutingReceipt) where
  body db _ :=
    match db.profileRoutingReceipts.find? (·.receiptId = .text receiptId) with
    | none => .ok (none, db, [])
    | some row => do
      let payload ← row.receiptJson.getString 0 "receipt_json"
      let receipt ← (J.profileReceipt payload).mapError .invalidShardCatalog
      validateProfileRoutingReceipt P authKey receipt
      return (some receipt, db, [])

/-! ## Runs -/

/-- The database and the receipts that were stored in it so far. -/
structure ReceiptLog where
  db : PooledDb
  routing : List ShardRoutingReceipt
  profile : List ProfileRoutingReceipt

/-- The text is the canonical one of a UUID v4. -/
def CanonicalUuid (P : Platform) (text : String) : Prop :=
  ∃ parsed, P.uuidParseStr text = .ok parsed ∧ parsed.random = true ∧ parsed.rfc4122 = true ∧
    parsed.hyphenated = text

/-- The identities in a receipt are values of their types. -/
structure ShardRoutingReceipt.Typed (P : Platform) (receipt : ShardRoutingReceipt) : Prop where
  requester : CanonicalUuid P receipt.requesterDeviceId.text
  eligible : ∀ d ∈ receipt.eligibleShards, CanonicalUuid P d.text
  ranked : ∀ shard ∈ receipt.rankedShards, CanonicalUuid P shard.deviceId.text
  selected : ∀ d ∈ receipt.selectedShards, CanonicalUuid P d.text
  skipped : ∀ d ∈ receipt.skippedShards, CanonicalUuid P d.text
  outcomes : ∀ outcome ∈ receipt.outcomes, CanonicalUuid P outcome.deviceId.text

/-- The identities in a receipt are values of their types. -/
structure ProfileRoutingReceipt.Typed (P : Platform) (receipt : ProfileRoutingReceipt) : Prop where
  actor : CanonicalUuid P receipt.actorId.text
  owners : ∀ store ∈ receipt.authorizedStores, CanonicalUuid P store.ownerDeviceId.text

/-- What `serde_json` documents: a value that was written is read back. -/
structure ReceiptJson.Documented (P : Platform) (J : ReceiptJson) : Prop where
  deviceIds {devices : List DeviceId} : (∀ d ∈ devices, CanonicalUuid P d.text) →
    J.deviceIds (deviceIdsJson devices).toText = .ok devices
  rankedShards {shards : List RankedShard} : (∀ s ∈ shards, CanonicalUuid P s.deviceId.text) →
    J.rankedShards (arrayJson RankedShard.json shards).toText = .ok shards
  outcomes {outcomes : List ShardSearchOutcome} :
    (∀ outcome ∈ outcomes, CanonicalUuid P outcome.deviceId.text) →
    J.outcomes (arrayJson ShardSearchOutcome.json outcomes).toText = .ok outcomes
  resultIds {ids : List String} : J.resultIds (textsJson ids).toText = .ok ids
  profileReceipt {receipt : ProfileRoutingReceipt} : receipt.Typed P →
    J.profileReceipt receipt.json.toText = .ok receipt

/-- What the server does: it stores a receipt, or changes other tables. -/
inductive ServerStep (P : Platform) (authKey : Bytes32) : ReceiptLog → ReceiptLog → Prop where
  | persistRouting {log : ReceiptLog} {receipt : ShardRoutingReceipt} {x : Choice} {db : PooledDb} :
    receipt.Typed P → (persistRoutingReceipt P authKey receipt).exec log.db x = .ok ((), db) →
    ServerStep P authKey log { log with db := db, routing := log.routing ++ [receipt] }
  | persistProfile {log : ReceiptLog} {receipt : ProfileRoutingReceipt} {x : Choice}
    {db : PooledDb} : receipt.Typed P →
    (persistProfileRoutingReceipt P authKey receipt).exec log.db x = .ok ((), db) →
    ServerStep P authKey log { log with db := db, profile := log.profile ++ [receipt] }
  | other {log : ReceiptLog} {db : PooledDb} :
    db.shardRoutingReceipts = log.db.shardRoutingReceipts →
    db.profileRoutingReceipts = log.db.profileRoutingReceipts →
    ServerStep P authKey log { log with db := db }

/-- A step of the server, or of somebody who writes into the receipt tables whatever they want. -/
inductive ReceiptStep (P : Platform) (authKey : Bytes32) : ReceiptLog → ReceiptLog → Prop where
  | server {log log' : ReceiptLog} : ServerStep P authKey log log' → ReceiptStep P authKey log log'
  | tamper {log : ReceiptLog} (shard : List ShardRoutingReceiptRow)
    (profile : List ProfileRoutingReceiptRow) :
    ReceiptStep P authKey log { log with db := { log.db with
      shardRoutingReceipts := shard, profileRoutingReceipts := profile } }

/-- The logs that are reached from one without receipts. -/
def ReceiptLog.Reached (P : Platform) (authKey : Bytes32) (log : ReceiptLog) : Prop :=
  ∃ db : PooledDb, db.shardRoutingReceipts = [] ∧ db.profileRoutingReceipts = [] ∧
    Relation.ReflTransGen (ReceiptStep P authKey) ⟨db, [], []⟩ log

/-- The messages whose HMAC the server handed out with a stored receipt. -/
def ReceiptLog.messages (log : ReceiptLog) : List Bytes :=
  (log.routing.map (·.material) ++ log.profile.map (·.material)).map fun m => utf8 m.toText

/-- The HMAC is not forged: a digest in the tables verifies only for a message of the server. -/
structure ReceiptLog.Unforged (P : Platform) (J : ReceiptJson) (authKey : Bytes32)
    (log : ReceiptLog) : Prop where
  routing : ∀ row ∈ log.db.shardRoutingReceipts, ∀ digest message,
    row.receiptDigest = .text digest → hex (hmacSha256 P authKey message).toList = digest →
    message ∈ log.messages
  profile : ∀ row ∈ log.db.profileRoutingReceipts, ∀ payload receipt message,
    row.receiptJson = .text payload → J.profileReceipt payload = .ok receipt →
    hex (hmacSha256 P authKey message).toList = receipt.receiptDigest → message ∈ log.messages

/-- Lookups return receipts of the identity that was asked for which the server stored, and a
receipt that is stored is returned as it is until somebody else writes into the tables. -/
structure ReceiptLog.Authentic (P : Platform) (J : ReceiptJson) (authKey : Bytes32)
    (log : ReceiptLog) : Prop where
  routing : ∀ id x receipt db,
    (getRoutingReceipt P J authKey id).exec log.db x = .ok (some receipt, db) →
    receipt.receiptId = id ∧ receipt ∈ log.routing
  profile : ∀ id x receipt db,
    (getProfileRoutingReceipt P J authKey id).exec log.db x = .ok (some receipt, db) →
    receipt.receiptId = id ∧ receipt ∈ log.profile
  routingBack : ∀ (receipt : ShardRoutingReceipt) x db, receipt.Typed P →
    (persistRoutingReceipt P authKey receipt).exec log.db x = .ok ((), db) →
    ∀ log', Relation.ReflTransGen (ServerStep P authKey)
      { log with db := db, routing := log.routing ++ [receipt] } log' →
    ∀ y : Choice, y.fault = none →
      (getRoutingReceipt P J authKey receipt.receiptId).exec log'.db y = .ok (some receipt, log'.db)
  profileBack : ∀ (receipt : ProfileRoutingReceipt) x db, receipt.Typed P →
    (persistProfileRoutingReceipt P authKey receipt).exec log.db x = .ok ((), db) →
    ∀ log', Relation.ReflTransGen (ServerStep P authKey)
      { log with db := db, profile := log.profile ++ [receipt] } log' →
    ∀ y : Choice, y.fault = none →
      (getProfileRoutingReceipt P J authKey receipt.receiptId).exec log'.db y =
        .ok (some receipt, log'.db)

/-- The row that a profile receipt's identity finds does not hold the JSON of a receipt that was
stored under another identity. -/
def ReceiptLog.KeysKept (J : ReceiptJson) (log : ReceiptLog) : Prop :=
  ∀ id row payload receipt,
    log.db.profileRoutingReceipts.find? (·.receiptId = .text id) = some row →
    row.receiptJson = .text payload → J.profileReceipt payload = .ok receipt →
    receipt ∈ log.profile → receipt.receiptId = id

/-! ## What the digests bind -/

/-- Optional texts are told apart by their JSON. -/
theorem optionJson_inj {a b : Option String} : optionJson a = optionJson b ↔ a = b := by
  cases a <;> cases b <;> simp [optionJson]

/-- Lists are told apart by their JSON, if their elements are. -/
theorem arrayJson_inj {α : Type} {json : α → Value} (hjson : ∀ {a b}, json a = json b → a = b)
    {as bs : List α} : arrayJson json as = arrayJson json bs ↔ as = bs := by
  rw [arrayJson, arrayJson, Value.array.injEq]
  exact (List.map_injective_iff.2 fun _ _ h => hjson h).eq_iff

/-- Lists of texts are told apart by their JSON. -/
theorem textsJson_inj {as bs : List String} : textsJson as = textsJson bs ↔ as = bs :=
  arrayJson_inj Value.string.inj

/-- Lists of devices are told apart by their JSON. -/
theorem deviceIdsJson_inj {as bs : List DeviceId} :
    deviceIdsJson as = deviceIdsJson bs ↔ as = bs := by
  rw [deviceIdsJson, deviceIdsJson, textsJson_inj]
  exact (List.map_injective_iff.2 fun a b h => by cases a; cases b; cases h; rfl).eq_iff

/-- Ranked shards are told apart by their JSON. -/
theorem RankedShard.json_inj {a b : RankedShard} (h : a.json = b.json) : a = b := by
  obtain ⟨⟨device⟩, score⟩ := a
  obtain ⟨⟨device'⟩, score'⟩ := b
  simpa [json, UInt64.toNat_inj] using h

/-- Outcomes of shards are told apart by their JSON. -/
theorem ShardSearchOutcome.json_inj {a b : ShardSearchOutcome} (h : a.json = b.json) : a = b := by
  obtain ⟨⟨device⟩, _, _, _, _, _⟩ := a
  obtain ⟨⟨device'⟩, _, _, _, _, _⟩ := b
  simpa [json, UInt64.toNat_inj, optionJson_inj] using h

/-- Authorized stores are told apart by their JSON. -/
theorem AuthorizedMemoryStore.json_inj {a b : AuthorizedMemoryStore} (h : a.json = b.json) :
    a = b := by
  have hgrants : ∀ as bs : List MemoryGrantId, as.map (·.text) = bs.map (·.text) ↔ as = bs :=
    fun as bs => (List.map_injective_iff.2 fun a b h => by cases a; cases b; cases h; rfl).eq_iff
  obtain ⟨_, ⟨_⟩, ⟨_⟩, _, _, _, _⟩ := a
  obtain ⟨_, ⟨_⟩, ⟨_⟩, _, _, _, _⟩ := b
  simpa [json, UInt64.toNat_inj, textsJson_inj, hgrants] using h

/-- Outcomes of stores are told apart by their JSON. -/
theorem ProfileStoreSearchOutcome.json_inj {a b : ProfileStoreSearchOutcome}
    (h : a.json = b.json) : a = b := by
  obtain ⟨_, ⟨_⟩, _, _, _, _⟩ := a
  obtain ⟨_, ⟨_⟩, _, _, _, _⟩ := b
  simpa [json, UInt64.toNat_inj, optionJson_inj] using h

/-- A shard receipt is its material and its digest. -/
theorem ShardRoutingReceipt.eq_of_material {a b : ShardRoutingReceipt}
    (h : a.material = b.material) (hdigest : a.receiptDigest = b.receiptDigest) : a = b := by
  obtain ⟨_, ⟨_⟩, _, _, _, _, _, _, _, _, _, _, _, _, _, _⟩ := a
  obtain ⟨_, ⟨_⟩, _, _, _, _, _, _, _, _, _, _, _, _, _, _⟩ := b
  simp only [material, Value.array.injEq, List.cons.injEq, Value.string.injEq, Value.number.injEq,
    Value.bool.injEq, UInt64.toNat_inj, deviceIdsJson_inj, optionJson_inj, textsJson_inj,
    arrayJson_inj RankedShard.json_inj, arrayJson_inj ShardSearchOutcome.json_inj, true_and,
    and_true] at h
  simp only at hdigest
  simpa [hdigest] using h

/-- A profile receipt is its material and its digest. -/
theorem ProfileRoutingReceipt.eq_of_material {a b : ProfileRoutingReceipt}
    (h : a.material = b.material) (hdigest : a.receiptDigest = b.receiptDigest) : a = b := by
  obtain ⟨_, ⟨_⟩, ⟨_⟩, _, _, _, _, _, _, _, _, _, _⟩ := a
  obtain ⟨_, ⟨_⟩, ⟨_⟩, _, _, _, _, _, _, _, _, _, _⟩ := b
  simp only [material, Value.array.injEq, List.cons.injEq, Value.string.injEq, Value.bool.injEq,
    textsJson_inj, arrayJson_inj AuthorizedMemoryStore.json_inj,
    arrayJson_inj ProfileStoreSearchOutcome.json_inj, true_and, and_true] at h
  simp only at hdigest
  simpa [hdigest] using h

/-- The domains keep the two kinds of receipts apart. -/
theorem material_ne (a : ShardRoutingReceipt) (b : ProfileRoutingReceipt) :
    a.material ≠ b.material := by
  intro h
  have hdomain := (List.cons.inj (Value.array.inj h)).1
  exact absurd (Value.string.inj hdomain) (by decide)

/-- A message of the server is the text of one of its receipts' materials. -/
theorem ReceiptLog.mem_messages {log : ReceiptLog} {material : Value} :
    utf8 material.toText ∈ log.messages ↔
      (∃ r ∈ log.routing, r.material = material) ∨ ∃ r ∈ log.profile, r.material = material := by
  have htext : ∀ m : Value, utf8 m.toText = utf8 material.toText ↔ m = material := fun m =>
    ⟨fun h => Json.toText_injective (utf8_inj.1 h), fun h => by rw [h]⟩
  simp only [messages, List.mem_map, htext, exists_eq_right, List.mem_append]

/-! ## Lookups -/

section
variable {P : Platform} {J : ReceiptJson} {authKey : Bytes32} {log log' : ReceiptLog}
  {db db' : PooledDb} {x : Choice}

/-- A valid receipt carries its own digest. -/
theorem validateRoutingReceipt_digest {receipt : ShardRoutingReceipt}
    (h : validateRoutingReceipt P authKey receipt = .ok ()) :
    routingReceiptDigest P authKey receipt = receipt.receiptDigest := by
  simp only [validateRoutingReceipt, guard_eq_ok] at h
  obtain ⟨-, -, -, -, h⟩ := h
  split at h
  · cases h
  · next hdigest => exact not_not.1 hdigest

/-- So does a valid receipt of a profile search. -/
theorem validateProfileRoutingReceipt_digest {receipt : ProfileRoutingReceipt}
    (h : validateProfileRoutingReceipt P authKey receipt = .ok ()) :
    profileRoutingReceiptDigest P authKey receipt = receipt.receiptDigest := by
  simp only [validateProfileRoutingReceipt, guard_eq_ok] at h
  obtain ⟨-, -, -, h⟩ := h
  split at h
  · cases h
  · next hdigest => exact not_not.1 hdigest

/-- A text is read exactly from a cell that holds it. -/
theorem SqlValue.getString_eq_ok {value : SqlValue} {index : Nat} {name text : String} :
    value.getString index name = .ok text ↔ value = .text text := by
  cases value <;> simp [getString, invalidType]

/-- The columns of a shard receipt that its row is found by and authenticated with. -/
theorem ShardRoutingReceiptRow.receipt_columns {row : ShardRoutingReceiptRow}
    {receipt : ShardRoutingReceipt} (h : row.receipt P J = .ok receipt) :
    row.receiptId = .text receipt.receiptId ∧ row.receiptDigest = .text receipt.receiptDigest := by
  simp only [ShardRoutingReceiptRow.receipt, bind_eq_ok, SqlValue.getString_eq_ok] at h
  obtain ⟨_, hid, _, -, _, -, _, -, _, -, _, -, _, -, _, -, _, -, _, -, _, -, _, -, _, -, _, -, _,
    hdigest, _, -, _, -, _, -, _, -, _, -, _, -, _, -, _, -, h⟩ := h
  cases h
  exact ⟨hid, hdigest⟩

/-- What a lookup of a shard receipt returns. -/
theorem getRoutingReceipt_eq_some {id : String} {receipt : ShardRoutingReceipt} :
    (getRoutingReceipt P J authKey id).exec db x = .ok (some receipt, db') ↔
      x.fault = none ∧ db' = db ∧ ∃ row,
        db.shardRoutingReceipts.find? (·.receiptId = .text id) = some row ∧
        row.receipt P J = .ok receipt ∧ validateRoutingReceipt P authKey receipt = .ok () := by
  rw [Method.exec_eq_ok]
  simp only [getRoutingReceipt, true_and]
  refine and_congr_right fun _ => ?_
  cases db.shardRoutingReceipts.find? (·.receiptId = .text id) with
  | none => simp
  | some row =>
    simp only [bind_eq_ok, Option.some.injEq]
    constructor
    · rintro ⟨es, r, hr, _, hvalid, h⟩
      cases h
      exact ⟨rfl, row, rfl, hr, hvalid⟩
    · rintro ⟨rfl, _, rfl, hr, hvalid⟩
      exact ⟨[], receipt, hr, (), hvalid, rfl⟩

/-- What a lookup of a profile receipt returns. -/
theorem getProfileRoutingReceipt_eq_some {id : String} {receipt : ProfileRoutingReceipt} :
    (getProfileRoutingReceipt P J authKey id).exec db x = .ok (some receipt, db') ↔
      x.fault = none ∧ db' = db ∧ ∃ row payload,
        db.profileRoutingReceipts.find? (·.receiptId = .text id) = some row ∧
        row.receiptJson = .text payload ∧ J.profileReceipt payload = .ok receipt ∧
        validateProfileRoutingReceipt P authKey receipt = .ok () := by
  rw [Method.exec_eq_ok]
  simp only [getProfileRoutingReceipt, true_and]
  refine and_congr_right fun _ => ?_
  cases db.profileRoutingReceipts.find? (·.receiptId = .text id) with
  | none => simp
  | some row =>
    simp only [bind_eq_ok, SqlValue.getString_eq_ok, mapError_eq_ok, Option.some.injEq]
    constructor
    · rintro ⟨es, payload, hpayload, r, hr, _, hvalid, h⟩
      cases h
      exact ⟨rfl, row, payload, rfl, hpayload, hr, hvalid⟩
    · rintro ⟨rfl, _, payload, rfl, hpayload, hr, hvalid⟩
      exact ⟨[], payload, hpayload, receipt, hr, (), hvalid, rfl⟩

/-! ## What is stored -/

/-- A number that was written is read back. -/
theorem getUsize_of_usizeToSql {v : UInt64} {cell : SqlValue} (h : usizeToSql v = .ok cell)
    (index : Nat) (name : String) : cell.getUsize index name = .ok v := by
  unfold usizeToSql at h
  split at h
  · next y hy =>
    cases h
    obtain ⟨hlt, rfl⟩ := i64TryFrom_eq_some hy
    simp [SqlValue.getUsize, u64TryFrom_toInt64 hlt]
  · cases h

/-- A canonical identity parses to its device. -/
theorem parse_canonical {device : DeviceId} (h : CanonicalUuid P device.text) :
    DeviceId.parse P device.text = .ok device := by
  obtain ⟨parsed, hparsed, hrandom, hrfc, htext⟩ := h
  simp [DeviceId.parse, hparsed, hrandom, hrfc, htext]

/-- Storing a shard receipt appends a row that holds it. -/
theorem persistRoutingReceipt_eq_ok (hJ : J.Documented P) {receipt : ShardRoutingReceipt}
    (ht : receipt.Typed P)
    (h : (persistRoutingReceipt P authKey receipt).exec db x = .ok ((), db')) :
    validateRoutingReceipt P authKey receipt = .ok () ∧
      db.shardRoutingReceipts.find? (·.receiptId = .text receipt.receiptId) = none ∧
      db'.profileRoutingReceipts = db.profileRoutingReceipts ∧
      ∃ row, row.receiptId = .text receipt.receiptId ∧ row.receipt P J = .ok receipt ∧
        db'.shardRoutingReceipts = db.shardRoutingReceipts ++ [row] := by
  obtain ⟨hvalid, -, es, h⟩ := Method.exec_eq_ok.1 h
  simp only [persistRoutingReceipt, bind_eq_ok, guard_eq_ok] at hvalid h
  obtain ⟨budget, hbudget, count, hcount, hfree, -, h⟩ := h
  cases h
  refine ⟨hvalid, by simpa using hfree, rfl, _, rfl, ?_, rfl⟩
  have hexhaustive : ((if receipt.exhaustive then 1 else 0 : Int64) != 0) = receipt.exhaustive := by
    cases receipt.exhaustive <;> rfl
  have hreason : (receipt.fallbackReason.elim SqlValue.null .text).getOptionString 11
      "fallback_reason" = .ok receipt.fallbackReason := by
    cases receipt.fallbackReason <;> rfl
  simp only [ShardRoutingReceiptRow.receipt, SqlValue.getString, SqlValue.getBool, ok_bind,
    getUsize_of_usizeToSql hbudget, getUsize_of_usizeToSql hcount, hexhaustive, hreason,
    parse_canonical ht.requester, hJ.deviceIds ht.eligible, hJ.rankedShards ht.ranked,
    hJ.deviceIds ht.selected, hJ.deviceIds ht.skipped, hJ.outcomes ht.outcomes, hJ.resultIds,
    Except.mapError]
  rfl

/-- Storing a profile receipt appends a row that holds it. -/
theorem persistProfileRoutingReceipt_eq_ok {receipt : ProfileRoutingReceipt}
    (h : (persistProfileRoutingReceipt P authKey receipt).exec db x = .ok ((), db')) :
    validateProfileRoutingReceipt P authKey receipt = .ok () ∧
      db.profileRoutingReceipts.find? (·.receiptId = .text receipt.receiptId) = none ∧
      db'.shardRoutingReceipts = db.shardRoutingReceipts ∧
      ∃ row, row.receiptId = .text receipt.receiptId ∧
        row.receiptJson = .text receipt.json.toText ∧
        db'.profileRoutingReceipts = db.profileRoutingReceipts ++ [row] := by
  obtain ⟨hvalid, -, es, h⟩ := Method.exec_eq_ok.1 h
  simp only [persistProfileRoutingReceipt, guard_eq_ok] at hvalid h
  obtain ⟨hfree, -, h⟩ := h
  cases h
  exact ⟨hvalid, by simpa using hfree, rfl, _, rfl, rfl, rfl⟩

/-- A valid shard receipt of a registered requester is stored, unless its identity is taken or a
count does not fit its column. -/
theorem persistRoutingReceipt_accepts {receipt : ShardRoutingReceipt}
    (hvalid : validateRoutingReceipt P authKey receipt = .ok ())
    (hbudget : receipt.shardBudget.toNat < 2 ^ 63)
    (hcount : receipt.actualSelectedShardCount.toNat < 2 ^ 63)
    (hfree : db.shardRoutingReceipts.find? (·.receiptId = .text receipt.receiptId) = none)
    (hdevice : (db.devices.find? receipt.requesterDeviceId).isSome = true) (hx : x.fault = none) :
    ∃ shardRoutingReceipts, (persistRoutingReceipt P authKey receipt).exec db x =
      .ok ((), { db with shardRoutingReceipts }) := by
  obtain ⟨device, hdevice⟩ := Option.isSome_iff_exists.1 hdevice
  have hbody : ∃ shardRoutingReceipts, (persistRoutingReceipt P authKey receipt).body db x =
      .ok ((), { db with shardRoutingReceipts }, []) := by
    simp only [persistRoutingReceipt, usizeToSql, i64TryFrom_of_lt hbudget,
      i64TryFrom_of_lt hcount, ok_bind, hfree, hdevice, Option.isSome_none, Option.isNone_some,
      Bool.false_eq_true, if_false]
    exact ⟨_, rfl⟩
  exact hbody.imp fun rows h => Method.exec_eq_ok.2 ⟨hvalid, hx, [], h⟩

/-- A valid profile receipt of a registered actor and profile is stored, unless its identity is
taken. -/
theorem persistProfileRoutingReceipt_accepts {receipt : ProfileRoutingReceipt}
    (hvalid : validateProfileRoutingReceipt P authKey receipt = .ok ())
    (hfree : db.profileRoutingReceipts.find? (·.receiptId = .text receipt.receiptId) = none)
    (hactor : (db.actors.find? receipt.actorId).isSome = true)
    (hprofile : (db.memoryProfiles.find? receipt.subjectProfileId).isSome = true)
    (hx : x.fault = none) :
    ∃ profileRoutingReceipts, (persistProfileRoutingReceipt P authKey receipt).exec db x =
      .ok ((), { db with profileRoutingReceipts }) := by
  obtain ⟨actor, hactor⟩ := Option.isSome_iff_exists.1 hactor
  obtain ⟨profile, hprofile⟩ := Option.isSome_iff_exists.1 hprofile
  have hbody :
      ∃ profileRoutingReceipts, (persistProfileRoutingReceipt P authKey receipt).body db x =
      .ok ((), { db with profileRoutingReceipts }, []) := by
    simp only [persistProfileRoutingReceipt, hfree, hactor, hprofile, Option.isSome_none,
      Option.isNone_some, Bool.or_self, Bool.false_eq_true, if_false]
    exact ⟨_, rfl⟩
  exact hbody.imp fun rows h => Method.exec_eq_ok.2 ⟨hvalid, hx, [], h⟩

/-! ## Rows that stay -/

/-- Steps of the server only append rows. -/
theorem ServerStep.prefixes (hJ : J.Documented P) (h : ServerStep P authKey log log') :
    log.db.shardRoutingReceipts <+: log'.db.shardRoutingReceipts ∧
      log.db.profileRoutingReceipts <+: log'.db.profileRoutingReceipts := by
  cases h with
  | persistRouting ht h =>
    obtain ⟨-, -, hprofile, row, -, -, hrows⟩ := persistRoutingReceipt_eq_ok hJ ht h
    exact ⟨hrows ▸ List.prefix_append _ _, hprofile ▸ List.prefix_rfl⟩
  | persistProfile _ h =>
    obtain ⟨-, -, hshard, row, -, -, hrows⟩ := persistProfileRoutingReceipt_eq_ok h
    exact ⟨hshard ▸ List.prefix_rfl, hrows ▸ List.prefix_append _ _⟩
  | other hshard hprofile => exact ⟨hshard ▸ List.prefix_rfl, hprofile ▸ List.prefix_rfl⟩

/-- The steps of the server only add receipts. -/
theorem prefixes_of_server (hJ : J.Documented P)
    (h : Relation.ReflTransGen (ServerStep P authKey) log log') :
    log.db.shardRoutingReceipts <+: log'.db.shardRoutingReceipts ∧
      log.db.profileRoutingReceipts <+: log'.db.profileRoutingReceipts := by
  induction h with
  | refl => exact ⟨List.prefix_rfl, List.prefix_rfl⟩
  | tail _ hstep ih =>
    obtain ⟨hshard, hprofile⟩ := hstep.prefixes hJ
    exact ⟨ih.1.trans hshard, ih.2.trans hprofile⟩

/-- A row that is found first stays the one that is found. -/
theorem find?_of_prefix {α : Type} {p : α → Bool} {rows rows' : List α} {row : α}
    (hfree : rows.find? p = none) (hrow : p row = true) (h : rows ++ [row] <+: rows') :
    rows'.find? p = some row := by
  obtain ⟨more, rfl⟩ := h
  simp [List.find?_append, hfree, hrow]

/-- The receipts that were stored are valid. -/
theorem ReceiptLog.Reached.valid (hJ : J.Documented P) (h : log.Reached P authKey) :
    (∀ r ∈ log.routing, validateRoutingReceipt P authKey r = .ok ()) ∧
      ∀ r ∈ log.profile, validateProfileRoutingReceipt P authKey r = .ok () := by
  obtain ⟨db, -, -, h⟩ := h
  induction h with
  | refl => exact ⟨fun _ hr => absurd hr List.not_mem_nil, fun _ hr => absurd hr List.not_mem_nil⟩
  | tail _ hstep ih =>
    obtain ⟨hrouting, hprofile⟩ := ih
    cases hstep with
    | tamper => exact ⟨hrouting, hprofile⟩
    | server hstep =>
      cases hstep with
      | other => exact ⟨hrouting, hprofile⟩
      | persistRouting ht h =>
        refine ⟨fun r hr => ?_, hprofile⟩
        rcases List.mem_append.1 hr with hr | hr
        · exact hrouting r hr
        · rw [List.mem_singleton.1 hr]
          exact (persistRoutingReceipt_eq_ok hJ ht h).1
      | persistProfile _ h =>
        refine ⟨hrouting, fun r hr => ?_⟩
        rcases List.mem_append.1 hr with hr | hr
        · exact hprofile r hr
        · rw [List.mem_singleton.1 hr]
          exact (persistProfileRoutingReceipt_eq_ok h).1

/-! ## What lookups return -/

/-- A shard receipt that a lookup returns is the one stored under the identity. -/
theorem ReceiptLog.routing_authentic (hJ : J.Documented P) (hlog : log.Reached P authKey)
    (hmac : log.Unforged P J authKey) {id : String} {receipt : ShardRoutingReceipt}
    (h : (getRoutingReceipt P J authKey id).exec log.db x = .ok (some receipt, db')) :
    receipt.receiptId = id ∧ receipt ∈ log.routing := by
  obtain ⟨-, -, row, hrow, hreceipt, hvalid⟩ := getRoutingReceipt_eq_some.1 h
  have hkey : row.receiptId = .text id := by simpa using List.find?_some hrow
  obtain ⟨hid, hdigest⟩ := ShardRoutingReceiptRow.receipt_columns hreceipt
  have hself := validateRoutingReceipt_digest hvalid
  refine ⟨SqlValue.text.inj (hid.symm.trans hkey), ?_⟩
  have hsent := hmac.routing row (List.mem_of_find?_eq_some hrow) _
    (utf8 receipt.material.toText) hdigest hself
  rcases mem_messages.1 hsent with ⟨stored, hstored, hmaterial⟩ | ⟨stored, -, hmaterial⟩
  · -- one material has one digest
    have hdigests : stored.receiptDigest = receipt.receiptDigest := by
      rw [← hself, ← validateRoutingReceipt_digest ((hlog.valid hJ).1 stored hstored),
        routingReceiptDigest, routingReceiptDigest, hmaterial]
    exact ShardRoutingReceipt.eq_of_material hmaterial hdigests ▸ hstored
  · exact absurd hmaterial.symm (material_ne receipt stored)

/-- A profile receipt that a lookup returns was stored. -/
theorem ReceiptLog.profile_stored (hJ : J.Documented P) (hlog : log.Reached P authKey)
    (hmac : log.Unforged P J authKey) {id : String} {receipt : ProfileRoutingReceipt}
    (h : (getProfileRoutingReceipt P J authKey id).exec log.db x = .ok (some receipt, db')) :
    receipt ∈ log.profile := by
  obtain ⟨-, -, row, payload, hrow, hpayload, hreceipt, hvalid⟩ :=
    getProfileRoutingReceipt_eq_some.1 h
  have hself := validateProfileRoutingReceipt_digest hvalid
  have hsent := hmac.profile row (List.mem_of_find?_eq_some hrow) payload receipt
    (utf8 receipt.material.toText) hpayload hreceipt hself
  rcases mem_messages.1 hsent with ⟨stored, -, hmaterial⟩ | ⟨stored, hstored, hmaterial⟩
  · exact absurd hmaterial (material_ne stored receipt)
  · have hdigests : stored.receiptDigest = receipt.receiptDigest := by
      rw [← hself, ← validateProfileRoutingReceipt_digest ((hlog.valid hJ).2 stored hstored),
        profileRoutingReceiptDigest, profileRoutingReceiptDigest, hmaterial]
    exact ProfileRoutingReceipt.eq_of_material hmaterial hdigests ▸ hstored

/-- In every log that is reached, whatever was written into the tables, the lookups are authentic
exactly where no JSON of a profile receipt stands under the key of another. -/
theorem receipt_lookup_authentic_iff (hJ : J.Documented P) (hlog : log.Reached P authKey)
    (hmac : log.Unforged P J authKey) : log.Authentic P J authKey ↔ log.KeysKept J := by
  constructor
  · intro h id row payload receipt hrow hpayload hreceipt hstored
    have hvalid := (hlog.valid hJ).2 receipt hstored
    exact (h.profile id ⟨none, ""⟩ receipt log.db (getProfileRoutingReceipt_eq_some.2
      ⟨rfl, rfl, row, payload, hrow, hpayload, hreceipt, hvalid⟩)).1
  · intro h
    refine ⟨fun id x receipt db hget => ReceiptLog.routing_authentic hJ hlog hmac hget,
      fun id x receipt db hget => ?_, fun receipt x db ht hput log' hserver y hy => ?_,
      fun receipt x db ht hput log' hserver y hy => ?_⟩
    · have hstored := ReceiptLog.profile_stored hJ hlog hmac hget
      obtain ⟨-, -, row, payload, hrow, hpayload, hreceipt, -⟩ :=
        getProfileRoutingReceipt_eq_some.1 hget
      exact ⟨h id row payload receipt hrow hpayload hreceipt hstored, hstored⟩
    · obtain ⟨hvalid, hfree, -, row, hkey, hreceipt, hrows⟩ :=
        persistRoutingReceipt_eq_ok hJ ht hput
      have hprefix := (prefixes_of_server hJ hserver).1
      rw [hrows] at hprefix
      exact getRoutingReceipt_eq_some.2 ⟨hy, rfl, row,
        find?_of_prefix hfree (decide_eq_true hkey) hprefix, hreceipt, hvalid⟩
    · obtain ⟨hvalid, hfree, -, row, hkey, hpayload, hrows⟩ :=
        persistProfileRoutingReceipt_eq_ok hput
      have hprefix := (prefixes_of_server hJ hserver).2
      rw [hrows] at hprefix
      exact getProfileRoutingReceipt_eq_some.2 ⟨hy, rfl, row, _,
        find?_of_prefix hfree (decide_eq_true hkey) hprefix, hpayload, hJ.profileReceipt ht, hvalid⟩

end

/-! ## A reader -/

section
variable {α : Type} {json : α → Value} {typed : α → Prop}

open Classical in
/-- The reader that accepts what is written of some values, and nothing else. -/
noncomputable def readWritten (json : α → Value) (typed : α → Prop) (text : String) :
    Except String α :=
  if h : ∃ a, typed a ∧ (json a).toText = text then .ok h.choose
  else .error "expected value at line 1 column 1"

/-- A value is read back from the JSON that was written of it. -/
theorem readWritten_toText (hinj : ∀ {a b}, json a = json b → a = b) {a : α} (ha : typed a) :
    readWritten json typed (json a).toText = .ok a := by
  have h : ∃ b, typed b ∧ (json b).toText = (json a).toText := ⟨a, ha, rfl⟩
  rw [readWritten, dif_pos h, hinj (Json.toText_injective h.choose_spec.2)]

end

/-- A profile receipt is read back from its JSON. -/
theorem ProfileRoutingReceipt.json_inj {a b : ProfileRoutingReceipt} (h : a.json = b.json) :
    a = b := by
  refine eq_of_material ?_ ?_
  · simp only [json, Value.object.injEq, List.cons.injEq, Prod.mk.injEq, true_and] at h
    obtain ⟨h1, h2, h3, h4, h5, h6, h7, h8, h9, h10, h11, -, h13, -⟩ := h
    simp only [material, h1, h2, h3, h4, h5, h6, h7, h8, h9, h10, h11, h13]
  · simp only [json, Value.object.injEq, List.cons.injEq, Prod.mk.injEq, true_and] at h
    exact Value.string.inj h.2.2.2.2.2.2.2.2.2.2.2.1

/-- The reader of what is written. -/
noncomputable def writtenJson (P : Platform) : ReceiptJson where
  deviceIds := readWritten deviceIdsJson fun devices => ∀ d ∈ devices, CanonicalUuid P d.text
  rankedShards := readWritten (arrayJson RankedShard.json) fun shards =>
    ∀ s ∈ shards, CanonicalUuid P s.deviceId.text
  outcomes := readWritten (arrayJson ShardSearchOutcome.json) fun outcomes =>
    ∀ outcome ∈ outcomes, CanonicalUuid P outcome.deviceId.text
  resultIds := readWritten textsJson fun _ => True
  profileReceipt := readWritten (·.json) (·.Typed P)

/-- A reader of what was written behaves as documented. -/
theorem writtenJson_documented (P : Platform) : (writtenJson P).Documented P where
  deviceIds h := readWritten_toText deviceIdsJson_inj.1 h
  rankedShards h := readWritten_toText (arrayJson_inj RankedShard.json_inj).1 h
  outcomes h := readWritten_toText (arrayJson_inj ShardSearchOutcome.json_inj).1 h
  resultIds := readWritten_toText textsJson_inj.1 trivial
  profileReceipt h := readWritten_toText ProfileRoutingReceipt.json_inj h

namespace Sample

/-- The key of the server. -/
def receiptKey : Bytes32 := Vector.replicate 32 7

/-- The receipt of a search that failed on the only shard. -/
def routeReceipt : ShardRoutingReceipt where
  receiptId := "route-1"
  requesterDeviceId := laptop
  querySha256 := "a8b771920b8319e47251d1360f5e880bc18e8d329b0f0d003ea3c7e615558947"
  shardBudget := 1
  actualSelectedShardCount := 1
  exhaustive := false
  eligibleShards := [laptop]
  rankedShards := [⟨laptop, 1⟩]
  selectedShards := [laptop]
  skippedShards := []
  outcomes := [⟨laptop, 1, 3, 0, none, some "timeout"⟩]
  fallbackReason := some "insufficient_results_expand"
  finalResultIds := []
  mergeDigest := "e3b0c44298fc1c149afbf4c8996fb92427ae41e4649b934ca495991b7852b855"
  receiptDigest := "a4dcac2000e7a7d24f27e0fa094ae181ea54f5fc2a08c938cdbc27b1f3146a31"
  recordedAt := "2026-01-01T00:00:00+00:00"

/-- The receipt of a search of the operator's profile. -/
def profileReceipt : ProfileRoutingReceipt where
  receiptId := "route-2"
  actorId := alice
  subjectProfileId := ⟨"alice"⟩
  authorizationSnapshotDigest := "16a0eeb0791b6c92451fd284dd9f599e0a7dbe7f6ebea6e2d2d06c7f74aec112"
  authorizedStores :=
    [⟨"notes", ⟨"alice"⟩, laptop, "shared", "memory/profiles/alice/notes", [], 90⟩]
  selectedStores := ["notes"]
  skippedStores := []
  outcomes := [⟨"notes", ⟨"alice"⟩, 3, 1, none, none⟩]
  complete := true
  finalResultIds := ["fact-1"]
  querySha256 := "a8b771920b8319e47251d1360f5e880bc18e8d329b0f0d003ea3c7e615558947"
  receiptDigest := "cc0c518bb9e59a548375d73be48216d362b210b92bc2606bf2d6c859c9be738e"
  recordedAt := "2026-01-01T00:00:00+00:00"

/-- The key of the server, masked with a byte. -/
def maskedKey (mask : UInt8) : Bytes :=
  (receiptKey.toList ++ List.replicate 32 0).map (· ^^^ mask)

def routeMessage : Bytes := utf8 routeReceipt.material.toText

def profileMessage : Bytes := utf8 profileReceipt.material.toText

/-- The inner hash of the HMAC of each receipt, and the HMAC. -/
def routeInner : Bytes32 :=
  #v[210, 118, 53, 238, 76, 31, 235, 69, 123, 161, 89, 43, 57, 96, 38, 64, 101, 53, 61, 225, 75, 52,
    192, 180, 62, 248, 38, 69, 229, 243, 77, 192]

def routeMac : Bytes32 :=
  #v[164, 220, 172, 32, 0, 231, 167, 210, 79, 39, 224, 250, 9, 74, 225, 129, 234, 84, 245, 252, 42,
    8, 201, 56, 205, 188, 39, 177, 243, 20, 106, 49]

def profileInner : Bytes32 :=
  #v[102, 231, 90, 181, 226, 28, 16, 56, 207, 224, 48, 66, 70, 92, 49, 92, 32, 73, 109, 121, 179,
    155, 139, 226, 56, 4, 83, 30, 229, 157, 31, 47]

def profileMac : Bytes32 :=
  #v[204, 12, 81, 139, 185, 229, 154, 84, 131, 117, 215, 59, 228, 130, 22, 211, 98, 178, 16, 185,
    43, 194, 96, 107, 242, 214, 200, 89, 201, 190, 115, 142]

/-- The crates, on these receipts. -/
def receiptPlatform : Platform where
  uuidParseStr value :=
    if value = laptop.text ∨ value = alice.text then .ok ⟨value, true, true⟩
    else .error "invalid character"
  uuid_canonical h := by split at h <;> cases h; simp [*]
  sha256 bytes :=
    if bytes = maskedKey 0x36 ++ routeMessage then routeInner
    else if bytes = maskedKey 0x5C ++ routeInner.toList then routeMac
    else if bytes = maskedKey 0x36 ++ profileMessage then profileInner
    else if bytes = maskedKey 0x5C ++ profileInner.toList then profileMac
    else Vector.replicate 32 0
  verifyingKey _ := .ok ()
  verify _ _ _ := .ok ()
  verifyingKeyOf seed := seed
  sign _ _ := Vector.replicate 64 0

/-- The operator has a profile. -/
def receiptDb : PooledDb :=
  { registry with memoryProfiles := ⟨[profile "alice"], by decide⟩ }

/-- The device of the sample is canonical. -/
theorem canonical_laptop : CanonicalUuid receiptPlatform laptop.text :=
  ⟨⟨laptop.text, true, true⟩, by simp [receiptPlatform], rfl, rfl, rfl⟩

/-- So is the actor. -/
theorem canonical_alice : CanonicalUuid receiptPlatform alice.text :=
  ⟨⟨alice.text, true, true⟩, by simp [receiptPlatform], rfl, rfl, rfl⟩

/-- The receipt has the types of its columns. -/
theorem routeReceipt_typed : routeReceipt.Typed receiptPlatform where
  requester := canonical_laptop
  eligible d hd := by rw [List.mem_singleton.1 hd]; exact canonical_laptop
  ranked d hd := by rw [List.mem_singleton.1 hd]; exact canonical_laptop
  selected d hd := by rw [List.mem_singleton.1 hd]; exact canonical_laptop
  skipped _ hd := absurd hd List.not_mem_nil
  outcomes d hd := by rw [List.mem_singleton.1 hd]; exact canonical_laptop

/-- So has the receipt of the profile search. -/
theorem profileReceipt_typed : profileReceipt.Typed receiptPlatform where
  actor := canonical_alice
  owners d hd := by rw [List.mem_singleton.1 hd]; exact canonical_laptop

/-- A value of the hash function has the input it was given for. -/
theorem sha256_input {bytes : Bytes} {digest : Bytes32} (h : receiptPlatform.sha256 bytes = digest)
    (hdigest : digest ≠ Vector.replicate 32 0) :
    bytes = maskedKey 0x36 ++ routeMessage ∧ digest = routeInner ∨
      bytes = maskedKey 0x5C ++ routeInner.toList ∧ digest = routeMac ∨
      bytes = maskedKey 0x36 ++ profileMessage ∧ digest = profileInner ∨
      bytes = maskedKey 0x5C ++ profileInner.toList ∧ digest = profileMac := by
  subst h
  simp only [receiptPlatform] at hdigest ⊢
  split
  · next h => exact .inl ⟨h, rfl⟩
  split
  · next h => exact .inr (.inl ⟨h, rfl⟩)
  split
  · next h => exact .inr (.inr (.inl ⟨h, rfl⟩))
  split
  · next h => exact .inr (.inr (.inr ⟨h, rfl⟩))
  · simp_all

/-- The HMAC of a stored receipt is that of its message alone. -/
theorem eq_of_routeMac {message : Bytes}
    (h : hmacSha256 receiptPlatform receiptKey message = routeMac) : message = routeMessage := by
  rcases sha256_input h (by decide) with ⟨-, h⟩ | ⟨hinput, -⟩ | ⟨-, h⟩ | ⟨-, h⟩
  · exact absurd h (by decide)
  · have hinner := Vector.toList_inj.1 (List.append_cancel_left hinput)
    rcases sha256_input hinner (by decide) with ⟨hinput, -⟩ | ⟨-, h⟩ | ⟨-, h⟩ | ⟨-, h⟩
    · exact List.append_cancel_left hinput
    all_goals exact absurd h (by decide)
  all_goals exact absurd h (by decide)

/-- No other message has the MAC of the profile receipt. -/
theorem eq_of_profileMac {message : Bytes}
    (h : hmacSha256 receiptPlatform receiptKey message = profileMac) :
    message = profileMessage := by
  rcases sha256_input h (by decide) with ⟨-, h⟩ | ⟨-, h⟩ | ⟨-, h⟩ | ⟨hinput, -⟩
  · exact absurd h (by decide)
  · exact absurd h (by decide)
  · exact absurd h (by decide)
  · have hinner := Vector.toList_inj.1 (List.append_cancel_left hinput)
    rcases sha256_input hinner (by decide) with ⟨-, h⟩ | ⟨-, h⟩ | ⟨hinput, -⟩ | ⟨-, h⟩
    · exact absurd h (by decide)
    · exact absurd h (by decide)
    · exact List.append_cancel_left hinput
    · exact absurd h (by decide)

/-- The two masks of the key differ from the first byte on. -/
theorem maskedKey_ne {a b : Bytes} : maskedKey 0x5C ++ a ≠ maskedKey 0x36 ++ b := by
  intro h
  have hkeys := (List.append_inj h (by decide)).1
  exact absurd hkeys (by decide)

/-- The MAC of the receipt is that of its message. -/
theorem hmac_route : hmacSha256 receiptPlatform receiptKey routeMessage = routeMac := by
  have hinner : receiptPlatform.sha256 (maskedKey 0x36 ++ routeMessage) = routeInner := by
    simp only [receiptPlatform, if_true]
  have houter : receiptPlatform.sha256 (maskedKey 0x5C ++ routeInner.toList) = routeMac := by
    simp only [receiptPlatform, maskedKey_ne, if_false, if_true]
  change receiptPlatform.sha256 (maskedKey 0x5C ++
    (receiptPlatform.sha256 (maskedKey 0x36 ++ routeMessage)).toList) = routeMac
  rw [hinner, houter]

/-- So is that of the profile receipt. -/
theorem hmac_profile : hmacSha256 receiptPlatform receiptKey profileMessage = profileMac := by
  have hmessage : maskedKey 0x36 ++ profileMessage ≠ maskedKey 0x36 ++ routeMessage := fun h =>
    material_ne routeReceipt profileReceipt
      (Json.toText_injective (utf8_inj.1 (List.append_cancel_left h))).symm
  have hmac : maskedKey 0x5C ++ profileInner.toList ≠ maskedKey 0x5C ++ routeInner.toList :=
    fun h => absurd (List.append_cancel_left h) (by decide)
  have hinner : receiptPlatform.sha256 (maskedKey 0x36 ++ profileMessage) = profileInner := by
    simp only [receiptPlatform, hmessage, maskedKey_ne.symm, if_false, if_true]
  have houter : receiptPlatform.sha256 (maskedKey 0x5C ++ profileInner.toList) = profileMac := by
    simp only [receiptPlatform, maskedKey_ne, hmac, if_false, if_true]
  change receiptPlatform.sha256 (maskedKey 0x5C ++
    (receiptPlatform.sha256 (maskedKey 0x36 ++ profileMessage)).toList) = profileMac
  rw [hinner, houter]

/-- The receipt carries its MAC. -/
theorem routeReceipt_digest : routeReceipt.receiptDigest = hex routeMac.toList := by decide +kernel

/-- So does the profile receipt. -/
theorem profileReceipt_digest : profileReceipt.receiptDigest = hex profileMac.toList := by
  decide +kernel

/-- The receipt is valid. -/
theorem routeReceipt_valid :
    validateRoutingReceipt receiptPlatform receiptKey routeReceipt = .ok () := by
  have hdigest : routingReceiptDigest receiptPlatform receiptKey routeReceipt =
      routeReceipt.receiptDigest := by
    rw [routeReceipt_digest, ← hmac_route]
    rfl
  simp only [validateRoutingReceipt, guard_eq_ok]
  refine ⟨by decide +kernel, by decide, by decide +kernel, by decide, ?_⟩
  exact if_neg (not_not.2 hdigest)

/-- So is the profile receipt. -/
theorem profileReceipt_valid :
    validateProfileRoutingReceipt receiptPlatform receiptKey profileReceipt = .ok () := by
  have hdigest : profileRoutingReceiptDigest receiptPlatform receiptKey profileReceipt =
      profileReceipt.receiptDigest := by
    rw [profileReceipt_digest, ← hmac_profile]
    rfl
  simp only [validateProfileRoutingReceipt, guard_eq_ok]
  refine ⟨by decide +kernel, by decide +kernel, by decide, ?_⟩
  exact if_neg (not_not.2 hdigest)

/-- Both receipts are stored, one after the other. -/
theorem receipts_stored : ∃ db db',
    (persistRoutingReceipt receiptPlatform receiptKey routeReceipt).exec receiptDb step =
      .ok ((), db) ∧
    (persistProfileRoutingReceipt receiptPlatform receiptKey profileReceipt).exec db step =
      .ok ((), db') := by
  have hroute : ∃ rows, (persistRoutingReceipt receiptPlatform receiptKey routeReceipt).exec
      receiptDb step = .ok ((), { receiptDb with shardRoutingReceipts := rows }) :=
    persistRoutingReceipt_accepts routeReceipt_valid (by decide) (by decide) rfl (by decide) rfl
  obtain ⟨rows, hput⟩ := hroute
  have hactor : (receiptDb.actors.find? profileReceipt.actorId).isSome = true := by decide
  have hsubject :
      (receiptDb.memoryProfiles.find? profileReceipt.subjectProfileId).isSome = true := by
    decide
  have hprofile : ∃ rows', (persistProfileRoutingReceipt receiptPlatform receiptKey
      profileReceipt).exec { receiptDb with shardRoutingReceipts := rows } step =
        .ok ((), { receiptDb with
          shardRoutingReceipts := rows
          profileRoutingReceipts := rows' }) :=
    persistProfileRoutingReceipt_accepts profileReceipt_valid rfl hactor hsubject rfl
  obtain ⟨rows', hput'⟩ := hprofile
  exact ⟨_, _, hput, hput'⟩

/-- The log after both. -/
theorem receipts_logged : ∃ db, (⟨db, [routeReceipt], [profileReceipt]⟩ : ReceiptLog).Reached
      receiptPlatform receiptKey ∧
    (∀ row ∈ db.shardRoutingReceipts, row.receiptDigest = .text routeReceipt.receiptDigest) ∧
    ∃ row : ProfileRoutingReceiptRow, row.receiptId = .text "route-2" ∧
      row.receiptJson = .text profileReceipt.json.toText ∧ db.profileRoutingReceipts = [row] := by
  obtain ⟨db, db', hput, hput'⟩ := receipts_stored
  obtain ⟨-, -, hprofile, row, -, hreceipt, hrows⟩ :=
    persistRoutingReceipt_eq_ok (writtenJson_documented _) routeReceipt_typed hput
  obtain ⟨-, -, hshard, row', hkey', hpayload, hrows'⟩ := persistProfileRoutingReceipt_eq_ok hput'
  have hfirst : ReceiptStep receiptPlatform receiptKey ⟨receiptDb, [], []⟩
      ⟨db, [routeReceipt], []⟩ := .server (.persistRouting routeReceipt_typed hput)
  have hsecond : ReceiptStep receiptPlatform receiptKey ⟨db, [routeReceipt], []⟩
      ⟨db', [routeReceipt], [profileReceipt]⟩ :=
    .server (.persistProfile profileReceipt_typed hput')
  refine ⟨db', ⟨receiptDb, rfl, rfl, .tail (.single hfirst) hsecond⟩, ?_, row', hkey', hpayload, ?_⟩
  · intro r hr
    rw [hshard, hrows, List.mem_append] at hr
    rcases hr with hr | hr
    · exact absurd hr List.not_mem_nil
    · rw [List.mem_singleton.1 hr]
      exact (ShardRoutingReceiptRow.receipt_columns hreceipt).2
  · rw [hrows', hprofile]
    rfl

/-- The HMAC is not forged in tables that hold the digests and the JSON of these receipts only. -/
theorem receipts_unforged {log : ReceiptLog} (hrouting : log.routing = [routeReceipt])
    (hprofile : log.profile = [profileReceipt])
    (hrows : ∀ row ∈ log.db.shardRoutingReceipts,
      row.receiptDigest = .text routeReceipt.receiptDigest)
    (hrows' : ∀ row ∈ log.db.profileRoutingReceipts,
      row.receiptJson = .text profileReceipt.json.toText) :
    log.Unforged receiptPlatform (writtenJson receiptPlatform) receiptKey where
  routing row hrow digest message hdigest hmac := by
    have hmac' : hex (hmacSha256 receiptPlatform receiptKey message).toList = hex routeMac.toList :=
      hmac.trans ((SqlValue.text.inj (hdigest.symm.trans (hrows row hrow))).trans
        routeReceipt_digest)
    rw [eq_of_routeMac (Vector.toList_inj.1 (hex_inj hmac'))]
    exact ReceiptLog.mem_messages.2 (.inl ⟨routeReceipt, by simp [hrouting], rfl⟩)
  profile row hrow payload receipt message hpayload hreceipt hmac := by
    obtain rfl := SqlValue.text.inj (hpayload.symm.trans (hrows' row hrow))
    rw [(writtenJson_documented _).profileReceipt profileReceipt_typed] at hreceipt
    cases hreceipt
    have hmac' :
        hex (hmacSha256 receiptPlatform receiptKey message).toList = hex profileMac.toList :=
      hmac.trans profileReceipt_digest
    rw [eq_of_profileMac (Vector.toList_inj.1 (hex_inj hmac'))]
    exact ReceiptLog.mem_messages.2 (.inr ⟨profileReceipt, by simp [hprofile], rfl⟩)

end Sample

open Sample in
/-- Two receipts that the server issued are looked up as they were issued. -/
theorem receipt_lookup_authentic_sample : ∃ log : ReceiptLog,
    log.routing = [routeReceipt] ∧ log.profile = [profileReceipt] ∧
      log.Authentic receiptPlatform (writtenJson receiptPlatform) receiptKey := by
  obtain ⟨db, hreached, hrows, row, hkey, hpayload, hrows'⟩ := receipts_logged
  refine ⟨_, rfl, rfl, (receipt_lookup_authentic_iff (writtenJson_documented _) hreached
    (receipts_unforged rfl rfl hrows ?_)).2 ?_⟩
  · intro r hr
    rw [hrows', List.mem_singleton] at hr
    rw [hr, hpayload]
  · intro id found payload receipt hfound _ _ hstored
    rw [List.mem_singleton.1 hstored]
    have hmem := List.mem_of_find?_eq_some hfound
    rw [hrows', List.mem_singleton] at hmem
    have hid : found.receiptId = .text id := by simpa using List.find?_some hfound
    rw [hmem, hkey] at hid
    exact SqlValue.text.inj hid

open Sample in
/-- The row of a profile receipt whose key is changed is returned under its new key. -/
theorem receipt_returned_under_other_id : ¬ ∀ (P : Platform) (J : ReceiptJson) (authKey : Bytes32)
    (log : ReceiptLog), J.Documented P → log.Reached P authKey → log.Unforged P J authKey →
      log.Authentic P J authKey := by
  intro h
  obtain ⟨db, hreached, hrows, row, -, hpayload, -⟩ := receipts_logged
  have htampered :
      (⟨{ db with profileRoutingReceipts := [{ row with receiptId := .text "route-9" }] },
      [routeReceipt], [profileReceipt]⟩ : ReceiptLog).Reached receiptPlatform receiptKey := by
    obtain ⟨db₀, h1, h2, h3⟩ := hreached
    exact ⟨db₀, h1, h2, h3.tail (.tamper db.shardRoutingReceipts _)⟩
  have hauthentic := h receiptPlatform (writtenJson receiptPlatform) receiptKey _
    (writtenJson_documented _) htampered (receipts_unforged rfl rfl hrows fun r hr => by
      rw [List.mem_singleton.1 hr]
      exact hpayload)
  have hget := hauthentic.profile "route-9" step profileReceipt _
    (getProfileRoutingReceipt_eq_some.2 ⟨rfl, rfl, _, _, rfl, hpayload,
      (writtenJson_documented _).profileReceipt profileReceipt_typed, profileReceipt_valid⟩)
  exact absurd hget.1 (by decide)

end Mnemes
