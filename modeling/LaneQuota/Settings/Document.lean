import LaneQuota.Settings.Encoding
import LaneQuota.Toml.Reader
import LaneQuota.Toml.Writer

namespace LaneQuota

def Toml.isEmptyPayload : Json → Bool
  | .obj [] => true
  | .arr [] => true
  | _ => false

def Toml.recordForm : Json.RecordForm := ⟨isEmptyPayload, true⟩

def Settings.ofDocument? (text : String) : Option Settings :=
  (Toml.read? text).bind (Settings.ofJson? Toml.recordForm)

def LaneKey.section (header : String) (k : LaneKey) : Toml.Section :=
  ⟨header, [("lane", .text k.lane), ("provider", .text k.provider)]⟩

def LaneLimit.section (e : LaneLimit) : Toml.Section :=
  ⟨"[[limits]]\n", [("lane", .text e.key.lane), ("provider", .text e.key.provider)] ++
    Toml.pairOf "daily_token_limit" (fun n => .whole n.toNat) e.limits.dailyTokens ++
    Toml.pairOf "lifetime_cost_limit" .float e.limits.lifetimeCost ++
    [("hard_stop", .flag e.limits.hardStop)]⟩

def LedgerSettings.section (s : LedgerSettings) : Toml.Section :=
  ⟨"[ledger]\n", [("state_path", .text s.statePath), ("timezone", .text s.timezone),
    ("safety_buffer_ratio", .float s.safetyBufferRatio), ("fallback_lane", .text s.fallbackLane),
    ("fallback_provider", .text s.fallbackProvider),
    ("hourly_retention_hours", .whole s.hourlyRetentionHours.toNat)]⟩

def RoutingSettings.sections (s : RoutingSettings) : List Toml.Section :=
  [⟨"[routing]\n", ("audit_capacity", .whole s.auditCapacity.toNat) ::
      Toml.pairOf "audit_path" .text s.auditPath⟩,
    s.instant.section "[routing.instant]\n", s.task.section "[routing.task]\n",
    s.agentLoop.section "[routing.agent_loop]\n"]

def SyncSettings.section (s : SyncSettings) : Toml.Section :=
  ⟨"[sync]\n", Toml.pairOf "base_url" .text s.baseUrl ++
    [("token_env", .text s.tokenEnv), ("lane", .text s.lane), ("provider", .text s.provider),
      ("lookback_days", .whole s.lookbackDays.toNat), ("timeout_ms", .whole s.timeoutMs.toNat),
      ("large_commit_tokens", .whole s.largeCommitTokens.toNat),
      ("interval_secs", .whole s.intervalSecs.toNat)]⟩

def Settings.sections (s : Settings) : List Toml.Section :=
  [⟨"", if s.limits.isEmpty then [("limits", .emptyList)] else []⟩, s.ledger.section] ++
  s.limits.map LaneLimit.section ++ s.routing.sections ++ [s.sync.section,
    ⟨"[observability]\n", [("log_format", .text s.logFormat.name)]⟩]

def Settings.documentText (s : Settings) : String := Toml.documentText s.sections

end LaneQuota
