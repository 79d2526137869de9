import Mnemes.Lib.Layouts
import Mnemes.Store

/-!
# The schema of the control plane

The script that opening `pooled.db` runs (`init_schema`): its tables and indexes in the order of the
source, each created where it is missing. The `CHECK`s are written for the table that opening writes
rows of data to.
-/

namespace Mnemes

open Sqlite

instance : Inhabited SqlValue := ⟨.null⟩

/-- A column without a constraint. -/
def nullable (name : String) : Column SqlValue := ⟨name, false, fun _ => .null⟩

/-- A column that is `NOT NULL`. -/
def required (name : String) : Column SqlValue := ⟨name, true, fun _ => .null⟩

/-- A column that is `NOT NULL`, with a default. -/
def defaulted (name : String) (value : SqlValue) : Column SqlValue := ⟨name, true, fun _ => value⟩

/-- A column that is `NOT NULL DEFAULT (datetime('now'))`. -/
def stamped (name : String) : Column SqlValue := ⟨name, true, fun now => .text now⟩

/-- A table whose `CHECK`s are not written out. -/
def unchecked : Row SqlValue → Bool := fun _ => true

/-- The check of a counter. -/
def atLeast (n : Int64) : SqlValue → Bool
  | .integer v => n ≤ v
  | _ => true

/-- `_pooled_schema_version`. -/
def pooledSchemaVersionLayout : Layout SqlValue where
  columns := [nullable "version", required "applied_at"]
  unique := [["version"]]
  check := unchecked

/-- `devices`. -/
def devicesLayout : Layout SqlValue where
  columns := [nullable "device_id", required "label", required "platform", required "hostname",
    nullable "credential_fingerprint", required "first_seen_at", required "last_seen_at",
    defaulted "status" (.text "active"), stamped "created_at"]
  unique := [["device_id"]]
  check := unchecked

/-- `actors`. -/
def actorsLayout : Layout SqlValue where
  columns := [nullable "actor_id", required "device_id", required "actor_kind",
    defaulted "tool_profile" (.text "agent"), nullable "provider_model", required "recorded_at",
    stamped "created_at"]
  unique := [["actor_id"]]
  check := unchecked

/-- `memory_profiles`. -/
def memoryProfilesLayout : Layout SqlValue where
  columns := [nullable "profile_id", required "owner_device_id", required "label",
    defaulted "status" (.text "active"), required "created_at"]
  unique := [["profile_id"]]
  check := unchecked

/-- `memory_stores`. -/
def memoryStoresLayout : Layout SqlValue where
  columns := [nullable "store_id", required "profile_id", required "owner_device_id",
    required "namespace", required "relative_path", defaulted "status" (.text "active"),
    required "created_at"]
  unique := [["store_id"], ["relative_path"]]
  check := unchecked

/-- `memory_access_grants`. -/
def memoryAccessGrantsLayout : Layout SqlValue where
  columns := [nullable "grant_id", required "grantee_profile_id", required "store_id",
    required "namespace", required "effect", required "issued_by_actor_id", required "valid_from",
    required "expires_at", nullable "revoked_at", required "created_at"]
  unique := [["grant_id"], ["grantee_profile_id", "store_id", "namespace", "effect", "valid_from"]]
  check := unchecked

/-- `actor_profile_bindings`. -/
def actorProfileBindingsLayout : Layout SqlValue where
  columns := [nullable "binding_id", required "actor_id", required "profile_id",
    required "owner_device_id", required "issued_by_actor_id", required "valid_from",
    required "expires_at", nullable "revoked_at", required "binding_epoch",
    required "binding_digest", required "recorded_at"]
  unique := [["binding_id"], ["actor_id", "binding_epoch"]]
  check := unchecked

/-- `profile_routing_receipts`. -/
def profileRoutingReceiptsLayout : Layout SqlValue where
  columns := [nullable "receipt_id", required "requester_actor_id", required "subject_profile_id",
    required "authorization_snapshot_digest", required "receipt_json", required "receipt_digest",
    required "recorded_at"]
  unique := [["receipt_id"]]
  check := unchecked

/-- `audit_events`. -/
def auditEventsLayout : Layout SqlValue where
  columns := [nullable "event_id", nullable "device_id", nullable "actor_id", required "endpoint",
    required "method", required "outcome", nullable "detail", required "created_at"]
  unique := [["event_id"]]
  check := unchecked

/-- `operation_envelopes`. -/
def operationEnvelopesLayout : Layout SqlValue where
  columns := [nullable "operation_id", required "idempotency_key",
    required "requesting_device_id", required "requesting_actor_id",
    required "recording_device_id", required "recording_server_id", required "operation_kind",
    required "target_kind", required "target_id", required "content_digest",
    nullable "observed_at", nullable "valid_time", required "recorded_at", nullable "receipt_id",
    stamped "created_at"]
  unique := [["operation_id"]]
  check := unchecked

/-- `provenance_edges`. -/
def provenanceEdgesLayout : Layout SqlValue where
  columns := [nullable "edge_id", required "edge_type", required "source_kind",
    required "source_id", required "target_kind", required "target_id", nullable "operation_id",
    nullable "actor_id", nullable "device_id", nullable "valid_from", nullable "valid_to",
    nullable "observed_at", required "recorded_at", nullable "content_digest",
    nullable "metadata", nullable "supersedes_edge_id", stamped "created_at"]
  unique := [["edge_id"]]
  check := unchecked

/-- `device_shards`. -/
def deviceShardsLayout : Layout SqlValue where
  columns := [nullable "device_id", required "relative_path", defaulted "state" (.text "active"),
    defaulted "generation" (.integer 1), defaulted "routing_terms" (.text ""),
    defaulted "namespaces_json" (.text "[]"), defaulted "fact_count" (.integer 0),
    defaulted "document_count" (.integer 0), defaulted "chunk_count" (.integer 0),
    defaulted "message_count" (.integer 0), defaulted "search_count" (.integer 0),
    defaulted "ewma_latency_ms" .real, nullable "last_refreshed_at", required "created_at"]
  unique := [["device_id"], ["relative_path"]]
  check r :=
    [.text "active", .text "quarantined", .text "revoked"].any (r "state" = ·) &&
      atLeast 1 (r "generation") && atLeast 0 (r "fact_count") && atLeast 0 (r "document_count") &&
      atLeast 0 (r "chunk_count") && atLeast 0 (r "message_count") && atLeast 0 (r "search_count")

/-- `shard_routing_receipts`. -/
def shardRoutingReceiptsLayout : Layout SqlValue where
  columns := [nullable "receipt_id", required "requester_device_id", required "query_sha256",
    required "shard_budget", required "actual_selected_shard_count", required "exhaustive",
    required "eligible_shards_json", required "ranked_shards_json",
    required "selected_shards_json", required "skipped_shards_json", required "outcomes_json",
    nullable "fallback_reason", required "final_result_ids_json", required "merge_digest",
    required "receipt_digest", required "recorded_at"]
  unique := [["receipt_id"]]
  check := unchecked

/-- `fact_create_admissions`. -/
def factCreateAdmissionsLayout : Layout SqlValue where
  columns := [required "device_id", required "store_id", required "namespace",
    required "principal_id", required "key_version", required "public_key",
    required "activated_at", required "cutoff_at", defaulted "revoked" (.integer 0),
    required "stream_epoch", required "fencing_token"]
  unique := [["device_id", "store_id", "namespace", "principal_id", "key_version"]]
  check := unchecked

/-- `fact_create_acks`. -/
def factCreateAcksLayout : Layout SqlValue where
  columns := [nullable "batch_id", required "request_digest", required "home_device_id",
    required "store_id", required "stream_epoch", required "accepted_head",
    required "disposition"]
  unique := [["batch_id"]]
  check := unchecked

/-- `fact_supersede_admissions`. -/
def factSupersedeAdmissionsLayout : Layout SqlValue where
  columns := [required "device_id", required "store_id", required "replacement_namespace",
    required "principal_id", required "key_version", required "public_key",
    required "activated_at", required "cutoff_at", defaulted "revoked" (.integer 0),
    required "store_epoch", required "writer_epoch", required "fencing_token"]
  unique := [["device_id", "store_id", "replacement_namespace", "principal_id", "key_version"]]
  check := unchecked

/-- `fact_supersede_acks`. -/
def factSupersedeAcksLayout : Layout SqlValue where
  columns := [nullable "batch_id", required "request_digest", required "home_device_id",
    required "store_id", required "owner_stream_epoch", required "accepted_head",
    required "disposition"]
  unique := [["batch_id"]]
  check := unchecked

/-- The script that creates what is missing, with the marker of the first generation. -/
def schemaBatch (now : String) : List (Statement SqlValue) :=
  [.createTable "_pooled_schema_version" pooledSchemaVersionLayout,
    .insert "_pooled_schema_version" [("version", .integer 1), ("applied_at", .text now)] true,
    .createTable "devices" devicesLayout,
    .createTable "actors" actorsLayout,
    .createIndex ⟨"idx_actors_device", "actors", ["device_id"], false⟩,
    .createTable "memory_profiles" memoryProfilesLayout,
    .createTable "memory_stores" memoryStoresLayout,
    .createIndex ⟨"idx_memory_stores_profile", "memory_stores", ["profile_id", "status"], false⟩,
    .createTable "memory_access_grants" memoryAccessGrantsLayout,
    .createIndex ⟨"idx_memory_access_grants_lookup", "memory_access_grants",
      ["grantee_profile_id", "store_id", "namespace", "effect", "revoked_at"], false⟩,
    .createTable "actor_profile_bindings" actorProfileBindingsLayout,
    .createIndex ⟨"idx_actor_profile_bindings_resolve", "actor_profile_bindings",
      ["actor_id", "valid_from", "expires_at", "revoked_at"], false⟩,
    .createTable "profile_routing_receipts" profileRoutingReceiptsLayout,
    .createIndex ⟨"idx_profile_routing_receipts_actor", "profile_routing_receipts",
      ["requester_actor_id", "recorded_at"], false⟩,
    .createTable "audit_events" auditEventsLayout,
    .createIndex ⟨"idx_audit_events_created_at", "audit_events", ["created_at"], false⟩,
    .createIndex ⟨"idx_audit_events_endpoint", "audit_events", ["endpoint", "method"], false⟩,
    .createTable "operation_envelopes" operationEnvelopesLayout,
    .createIndex ⟨"idx_operation_envelopes_idempotency", "operation_envelopes",
      ["idempotency_key"], false⟩,
    .createIndex ⟨"idx_operation_envelopes_device", "operation_envelopes",
      ["requesting_device_id"], false⟩,
    .createIndex ⟨"idx_operation_envelopes_recorded", "operation_envelopes",
      ["recorded_at"], false⟩,
    .createTable "provenance_edges" provenanceEdgesLayout,
    .createIndex ⟨"idx_edges_source", "provenance_edges",
      ["source_kind", "source_id", "recorded_at"], false⟩,
    .createIndex ⟨"idx_edges_target", "provenance_edges",
      ["target_kind", "target_id", "recorded_at"], false⟩,
    .createIndex ⟨"idx_edges_type", "provenance_edges", ["edge_type", "recorded_at"], false⟩,
    .createIndex ⟨"idx_edges_operation", "provenance_edges",
      ["operation_id", "recorded_at"], false⟩,
    .createIndex ⟨"idx_edges_valid", "provenance_edges", ["valid_from", "valid_to"], false⟩,
    .createIndex ⟨"idx_edges_recorded", "provenance_edges", ["recorded_at"], false⟩,
    .createIndex ⟨"idx_edges_supersedes", "provenance_edges", ["supersedes_edge_id"], false⟩,
    .createIndex ⟨"idx_edges_idempotency", "provenance_edges",
      ["operation_id", "edge_type", "source_kind", "source_id", "target_kind", "target_id",
        "content_digest"], true⟩,
    .createTable "device_shards" deviceShardsLayout,
    .createIndex ⟨"idx_device_shards_state", "device_shards", ["state"], false⟩,
    .createTable "shard_routing_receipts" shardRoutingReceiptsLayout,
    .createIndex ⟨"idx_shard_routing_receipts_requester", "shard_routing_receipts",
      ["requester_device_id", "recorded_at"], false⟩,
    .createTable "fact_create_admissions" factCreateAdmissionsLayout,
    .createIndex ⟨"idx_fact_create_admission_scope", "fact_create_admissions",
      ["device_id", "store_id", "namespace"], false⟩,
    .createTable "fact_create_acks" factCreateAcksLayout,
    .createTable "fact_supersede_admissions" factSupersedeAdmissionsLayout,
    .createIndex ⟨"idx_fact_supersede_admission_scope", "fact_supersede_admissions",
      ["device_id", "store_id", "replacement_namespace"], false⟩,
    .createTable "fact_supersede_acks" factSupersedeAcksLayout]

/-- `POOLED_SCHEMA_GENERATION`. -/
def pooledSchemaGeneration : Int64 := 3

/-- The markers of a store that can be opened. -/
def supportedGenerations : List (List Int64) := [[1], [2], [3], [1, 2], [1, 2, 3]]

/-- The statements that write the marker of the current generation. -/
def markGeneration (now : String) : List (Statement SqlValue) :=
  [.deleteAll "_pooled_schema_version",
    .insert "_pooled_schema_version"
      [("version", .integer pooledSchemaGeneration), ("applied_at", .text now)] false]

/-- The migration of an `actors` table without tool profiles. -/
def migrateActors : List (Statement SqlValue) :=
  [.addColumn "actors" (defaulted "tool_profile" (.text "agent"))
      fun r => [.text "agent", .text "operator"].any (r "tool_profile" = ·),
    .fill "actors" "tool_profile" (.text "agent")]

/-- What is run for an `audit_events` table without details. -/
def migrateAuditEvents : List (Statement SqlValue) :=
  [.createTable "audit_events" auditEventsLayout,
    .createIndex ⟨"idx_audit_events_created_at", "audit_events", ["created_at"], false⟩,
    .createIndex ⟨"idx_audit_events_endpoint", "audit_events", ["endpoint", "method"], false⟩]

/-- The columns that the replication tables must have. -/
def replicationColumns : List (String × List String) :=
  [("fact_create_admissions", ["device_id", "store_id", "namespace", "principal_id", "key_version",
      "public_key", "activated_at", "cutoff_at", "revoked", "stream_epoch", "fencing_token"]),
    ("fact_create_acks", ["batch_id", "request_digest", "home_device_id", "store_id",
      "stream_epoch", "accepted_head", "disposition"]),
    ("fact_supersede_admissions", ["device_id", "store_id", "replacement_namespace",
      "principal_id", "key_version", "public_key", "activated_at", "cutoff_at", "revoked",
      "store_epoch", "writer_epoch", "fencing_token"]),
    ("fact_supersede_acks", ["batch_id", "request_digest", "home_device_id", "store_id",
      "owner_stream_epoch", "accepted_head", "disposition"])]

/-- The columns that the catalog and its receipts must have. -/
def catalogColumns : List (String × List String) :=
  [("device_shards", ["device_id", "relative_path", "state", "generation", "routing_terms",
      "namespaces_json", "fact_count", "document_count", "chunk_count", "message_count",
      "search_count", "ewma_latency_ms", "last_refreshed_at", "created_at"]),
    ("shard_routing_receipts", ["receipt_id", "requester_device_id", "query_sha256",
      "shard_budget", "actual_selected_shard_count", "exhaustive", "eligible_shards_json",
      "ranked_shards_json", "selected_shards_json", "skipped_shards_json", "outcomes_json",
      "fallback_reason", "final_result_ids_json", "merge_digest", "receipt_digest",
      "recorded_at"])]

end Mnemes
