import Hypeterm.Library.Table
import Hypeterm.Settings.Value

/-! The setting registry.  Declarations are listed in the order of the source;
how a change takes effect and the operator-facing description are left out, as
neither reading nor validating a value looks at them. -/
namespace Hypeterm.Settings

open Library

/-- Hard ceiling for the per-terminal replay window, decimal 1.5 MB. -/
def replayCapacityHardMax : Int64 := 1500000

namespace Keys

def serverListenAddress : String := "server.listen_address"
def serverHealthListenAddress : String := "server.health_listen_address"
def serverTlsEnabled : String := "server.tls_enabled"
def serverTlsCertificatePath : String := "server.tls_certificate_path"
def serverTlsPrivateKeyPath : String := "server.tls_private_key_path"
def serverPublicOrigin : String := "server.public_origin"
def securityTrustedProxyNetworks : String := "security.trusted_proxy_networks"
def authSupportedKeyAlgorithms : String := "auth.supported_key_algorithms"
def authIdentityTokenScopes : String := "auth.identity_token_scopes"
def authDeviceTokenScopes : String := "auth.device_token_scopes"
def authClientTokenScopes : String := "auth.client_token_scopes"
def authOperatorTokenHash : String := "auth.operator_token_hash"
def limitsMaxOutputFrameBytes : String := "limits.max_output_frame_bytes"
def limitsMaxUnackedOutputBytes : String := "limits.max_unacked_output_bytes"
def limitsMaxPageSize : String := "limits.max_page_size"
def limitsDefaultPageSize : String := "limits.default_page_size"
def terminalReplayCapacityBytes : String := "terminal.replay_capacity_bytes"
def persistenceFlushBytes : String := "persistence.flush_bytes"
def persistenceMemoryPressureDirtyBytes : String := "persistence.memory_pressure_dirty_bytes"
def persistenceCommitRetryInitialMs : String := "persistence.commit_retry_initial_ms"
def persistenceCommitRetryMaxMs : String := "persistence.commit_retry_max_ms"
def websocketHeartbeatIntervalSeconds : String := "websocket.heartbeat_interval_seconds"
def websocketHeartbeatTimeoutSeconds : String := "websocket.heartbeat_timeout_seconds"

end Keys

def defs : List SettingDef := [
    -- server / network
    .str Keys.serverListenAddress "0.0.0.0:8080",
    .str Keys.serverHealthListenAddress "",
    .bool Keys.serverTlsEnabled false,
    .str Keys.serverTlsCertificatePath "",
    .str Keys.serverTlsPrivateKeyPath "",
    .str Keys.serverPublicOrigin "http://localhost:8080",
    .int "server.shutdown_deadline_seconds" 30 1 600,
    .int "server.connection_drain_seconds" 10 0 600,
    .int "server.request_timeout_seconds" 30 1 600,
    .int "server.max_concurrent_connections" 4096 1 1000000,
    -- transport security
    .bool "security.require_secure_transport" true,
    .bool "security.allow_insecure_loopback" true,
    .bool "security.trusted_proxy_enabled" false,
    .list "security.tls_terminated_by_networks" [],
    .list Keys.securityTrustedProxyNetworks [],
    .str "security.forwarded_for_header" "x-forwarded-for",
    .str "security.forwarded_proto_header" "x-forwarded-proto",
    .int "security.revocation_recheck_seconds" 10 1 30,
    -- authentication
    .list Keys.authSupportedKeyAlgorithms ["ed25519"],
    .int "auth.challenge_ttl_seconds" 300 5 300,
    .int "auth.challenge_bytes" 32 32 128,
    .int "auth.access_token_ttl_seconds" 900 30 900,
    .int "auth.websocket_ticket_ttl_seconds" 60 5 60,
    .list Keys.authIdentityTokenScopes
      ["devices:read", "devices:write", "terminals:read", "terminals:mirror", "terminals:input"],
    .list Keys.authDeviceTokenScopes ["terminals:write", "terminals:publish"],
    .list Keys.authClientTokenScopes ["terminals:read", "terminals:mirror", "terminals:input"],
    .int "auth.signing_key_rotation_seconds" 2592000 3600 31536000,
    .int "auth.signing_key_overlap_seconds" 3600 60 86400,
    .int "auth.max_clock_skew_seconds" 5 0 60,
    .secretStr Keys.authOperatorTokenHash "",
    -- feature switches
    .bool "features.identity_registration_enabled" true,
    .bool "features.device_registration_enabled" true,
    .bool "features.publish_enabled" true,
    .bool "features.mirror_enabled" true,
    .bool "features.metrics_endpoint_enabled" true,
    .bool "features.input_enabled" true,
    .bool "features.client_resize_enabled" true,
    .bool "features.terminal_create_enabled" false,
    -- rate limits
    .bool "ratelimit.enabled" true,
    .int "ratelimit.challenges_per_minute_per_source" 30 1 100000,
    .int "ratelimit.challenges_per_minute_per_fingerprint" 10 1 100000,
    .int "ratelimit.identity_registrations_per_hour_per_source" 10 1 100000,
    .int "ratelimit.token_requests_per_minute_per_fingerprint" 60 1 100000,
    .int "ratelimit.requests_per_minute_per_principal" 600 1 10000000,
    .int "ratelimit.websocket_connections_per_minute_per_principal" 60 1 100000,
    .int "ratelimit.input_frames_per_minute_per_subscriber" 6000 60 1000000,
    .int "ratelimit.terminal_creates_per_hour_per_principal" 20 1 10000,
    .int "ratelimit.terminal_creates_per_hour_per_device" 20 1 10000,
    .int "ratelimit.input_bytes_per_minute_per_subscriber" 1048576 4096 104857600,
    .int "ratelimit.retry_after_seconds" 60 1 3600,
    -- limits
    .int "limits.max_request_body_bytes" 65536 1024 10485760,
    .int "limits.max_devices_per_identity" 100 1 100000,
    .int "limits.max_active_terminals_per_device" 50 1 10000,
    .int "limits.max_connections_per_principal" 20 1 10000,
    .int Keys.limitsMaxOutputFrameBytes 262144 1024 8388608,
    .int Keys.limitsMaxUnackedOutputBytes 4194304 65536 268435456,
    .int "limits.max_input_frame_bytes" 4096 64 65536,
    .int "limits.max_input_queue_frames" 256 8 65536,
    .int "limits.max_control_message_bytes" 65536 512 1048576,
    .int "limits.max_pending_open_requests_per_device" 4 1 64,
    .int "limits.max_pending_open_requests_total" 64 1 4096,
    .int "terminal.open_request_timeout_seconds" 15 1 30,
    .int "limits.max_label_bytes" 200 1 8192,
    .int "limits.max_local_ref_bytes" 128 1 8192,
    .int "limits.max_term_bytes" 64 1 1024,
    .int "limits.max_device_name_bytes" 200 1 8192,
    .int "limits.max_process_label_bytes" 200 1 8192,
    .int "limits.max_terminal_cols" 10000 1 1000000,
    .int "limits.max_terminal_rows" 10000 1 1000000,
    .int Keys.limitsMaxPageSize 100 1 1000,
    .int Keys.limitsDefaultPageSize 50 1 1000,
    -- terminals
    .int Keys.terminalReplayCapacityBytes 1500000 1024 1500000,
    .int "terminal.publisher_reconnect_grace_seconds" 60 0 86400,
    .int "terminal.closed_retention_seconds" 86400 60 31536000,
    .bool "terminal.allow_process_label" false,
    -- persistence
    .int "persistence.flush_interval_ms" 5000 10 60000,
    .int Keys.persistenceFlushBytes 262144 4096 67108864,
    .int Keys.persistenceMemoryPressureDirtyBytes 33554432 65536 4294967296,
    .int "persistence.backpressure_wait_ms" 5000 10 60000,
    .int Keys.persistenceCommitRetryInitialMs 50 1 60000,
    .int Keys.persistenceCommitRetryMaxMs 5000 1 300000,
    .int "persistence.commit_retry_max_attempts" 10 1 1000,
    .int "persistence.storage_quota_bytes" 5000000000 1048576 1000000000000,
    .int "persistence.retention_sweep_interval_seconds" 300 5 86400,
    .enum "persistence.sqlite_synchronous" "normal" ["off", "normal", "full"],
    .int "persistence.sqlite_wal_autocheckpoint_pages" 4000 0 1000000,
    .int "persistence.sqlite_busy_timeout_ms" 5000 0 60000,
    .int "persistence.sqlite_cache_size_kib" 8192 64 4194304,
    -- mirror fan-out
    .int "mirror.subscriber_queue_bytes" 4194304 65536 268435456,
    .int "mirror.subscriber_queue_messages" 1024 8 1048576,
    .int "mirror.replay_chunk_bytes" 65536 1024 1048576,
    -- websocket
    .int Keys.websocketHeartbeatIntervalSeconds 20 1 3600,
    .int Keys.websocketHeartbeatTimeoutSeconds 60 2 7200,
    .int "websocket.handshake_timeout_seconds" 10 1 300,
    -- settings plumbing
    .int "settings.propagation_interval_ms" 1000 50 60000,
    -- observability
    .enum "logging.level" "info" ["trace", "debug", "info", "warn", "error"],
    .enum "logging.format" "json" ["json", "text"],
    .bool "metrics.require_operator_auth" true,
    -- idempotency
    .bool "idempotency.enabled" true,
    .int "idempotency.retention_seconds" 172800 86400 2592000]

def findDef (name : String) : Option SettingDef := lookup SettingDef.name name defs

theorem defs_names_nodup : (defs.map SettingDef.name).Nodup := by
  decide +kernel

theorem findDef_name {name : String} {definition : SettingDef}
    (found : findDef name = some definition) : definition.name = name :=
  key_of_lookup found

theorem findDef_of_mem {definition : SettingDef} (declared : definition ∈ defs) :
    findDef definition.name = some definition :=
  lookup_of_mem defs_names_nodup declared

theorem findDef_mem {name : String} {definition : SettingDef}
    (found : findDef name = some definition) : definition ∈ defs :=
  mem_of_lookup found

theorem defs_secret :
    ∀ definition ∈ defs, definition.secret = true ↔ definition.kind = .secret := by
  decide +kernel

theorem defs_default_valid :
    ∀ definition ∈ defs, validateValue definition definition.defaultValue = .ok () := by
  decide +kernel

end Hypeterm.Settings
