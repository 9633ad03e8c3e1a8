import LaneQuota.Json.Record
import LaneQuota.Settings.Basic

namespace LaneQuota

open Json (RecordForm)

def LaneKey.ofRecord? (form : RecordForm) (j : Json) : Option LaneKey := do
  match ← form.record? ["lane", "provider"] j with
  | [lane, provider] =>
    let lane ← Json.required? Json.asText? lane
    let provider ← Json.required? Json.asText? provider
    return ⟨lane, provider⟩
  | _ => none

def LaneKey.record (k : LaneKey) : Json :=
  .obj [("lane", .str k.lane), ("provider", .str k.provider)]

def uint64Json (n : UInt64) : Json := .nat n.toNat

def uint32Json (n : UInt32) : Json := .nat n.toNat

def LaneLimit.ofJson? (form : RecordForm) (j : Json) : Option LaneLimit := do
  match ← form.record?
      ["lane", "provider", "daily_token_limit", "lifetime_cost_limit", "hard_stop"] j with
  | [lane, provider, daily, lifetime, hardStop] =>
    let lane ← Json.required? Json.asText? lane
    let provider ← Json.required? Json.asText? provider
    let daily ← Json.optional? Json.asUInt64? daily
    let lifetime ← Json.optional? Json.asFloat? lifetime
    let hardStop ← Json.defaulted? true Json.asBool? hardStop
    return ⟨⟨lane, provider⟩, ⟨daily, lifetime, hardStop⟩⟩
  | _ => none

def Limits.members (l : Limits) : List (String × Json) :=
  [("daily_token_limit", Json.ofOption uint64Json l.dailyTokens),
    ("lifetime_cost_limit", Json.ofOption Json.ofFloat l.lifetimeCost),
    ("hard_stop", .bool l.hardStop)]

def Limits.json (l : Limits) : Json := .obj l.members

def LaneLimit.json (e : LaneLimit) : Json :=
  .obj ([("lane", .str e.key.lane), ("provider", .str e.key.provider)] ++ e.limits.members)

def LedgerSettings.ofJson? (form : RecordForm) (j : Json) : Option LedgerSettings := do
  let d := LedgerSettings.standard
  match ← form.record? ["state_path", "timezone", "safety_buffer_ratio", "fallback_lane",
      "fallback_provider", "hourly_retention_hours"] j with
  | [path, zone, ratio, lane, provider, hours] =>
    let path ← Json.defaulted? d.statePath Json.asText? path
    let zone ← Json.defaulted? d.timezone Json.asText? zone
    let ratio ← Json.defaulted? d.safetyBufferRatio Json.asFloat? ratio
    let lane ← Json.defaulted? d.fallbackLane Json.asText? lane
    let provider ← Json.defaulted? d.fallbackProvider Json.asText? provider
    let hours ← Json.defaulted? d.hourlyRetentionHours Json.asUInt32? hours
    return ⟨path, zone, ratio, lane, provider, hours⟩
  | _ => none

def LedgerSettings.json (s : LedgerSettings) : Json :=
  .obj [("state_path", .str s.statePath), ("timezone", .str s.timezone),
    ("safety_buffer_ratio", Json.ofFloat s.safetyBufferRatio),
    ("fallback_lane", .str s.fallbackLane), ("fallback_provider", .str s.fallbackProvider),
    ("hourly_retention_hours", uint32Json s.hourlyRetentionHours)]

def RoutingSettings.ofJson? (form : RecordForm) (j : Json) : Option RoutingSettings := do
  let d := RoutingSettings.standard
  match ← form.record? ["instant", "task", "agent_loop", "audit_capacity", "audit_path"] j with
  | [instant, task, agentLoop, capacity, path] =>
    let instant ← Json.defaulted? d.instant (LaneKey.ofRecord? form) instant
    let task ← Json.defaulted? d.task (LaneKey.ofRecord? form) task
    let agentLoop ← Json.defaulted? d.agentLoop (LaneKey.ofRecord? form) agentLoop
    let capacity ← Json.defaulted? d.auditCapacity Json.asUInt64? capacity
    let path ← Json.optional? Json.asText? path
    return ⟨instant, task, agentLoop, capacity, path⟩
  | _ => none

def RoutingSettings.json (s : RoutingSettings) : Json :=
  .obj [("instant", s.instant.record), ("task", s.task.record), ("agent_loop", s.agentLoop.record),
    ("audit_capacity", uint64Json s.auditCapacity), ("audit_path", Json.ofOption .str s.auditPath)]

def SyncSettings.ofJson? (form : RecordForm) (j : Json) : Option SyncSettings := do
  let d := SyncSettings.standard
  match ← form.record? ["base_url", "token_env", "lane", "provider", "lookback_days", "timeout_ms",
      "large_commit_tokens", "interval_secs"] j with
  | [url, token, lane, provider, lookback, timeout, large, interval] =>
    let url ← Json.optional? Json.asText? url
    let token ← Json.defaulted? d.tokenEnv Json.asText? token
    let lane ← Json.defaulted? d.lane Json.asText? lane
    let provider ← Json.defaulted? d.provider Json.asText? provider
    let lookback ← Json.defaulted? d.lookbackDays Json.asUInt32? lookback
    let timeout ← Json.defaulted? d.timeoutMs Json.asUInt64? timeout
    let large ← Json.defaulted? d.largeCommitTokens Json.asUInt64? large
    let interval ← Json.defaulted? d.intervalSecs Json.asUInt64? interval
    return ⟨url, token, lane, provider, lookback, timeout, large, interval⟩
  | _ => none

def SyncSettings.json (s : SyncSettings) : Json :=
  .obj [("base_url", Json.ofOption .str s.baseUrl), ("token_env", .str s.tokenEnv),
    ("lane", .str s.lane), ("provider", .str s.provider),
    ("lookback_days", uint32Json s.lookbackDays), ("timeout_ms", uint64Json s.timeoutMs),
    ("large_commit_tokens", uint64Json s.largeCommitTokens),
    ("interval_secs", uint64Json s.intervalSecs)]

def LogFormat.name : LogFormat → String
  | .json => "json"
  | .pretty => "pretty"

def LogFormat.ofJson? (form : RecordForm) (j : Json) : Option LogFormat :=
  form.choice? [("json", .json), ("pretty", .pretty)] j

def Settings.ofJson? (form : RecordForm) (j : Json) : Option Settings := do
  let d := Settings.standard
  match ← form.record? ["ledger", "limits", "routing", "sync", "observability"] j with
  | [ledger, limits, routing, sync, observability] =>
    let ledger ← Json.defaulted? d.ledger (LedgerSettings.ofJson? form) ledger
    let limits ← Json.defaulted? d.limits (Json.asList? (LaneLimit.ofJson? form)) limits
    let routing ← Json.defaulted? d.routing (RoutingSettings.ofJson? form) routing
    let sync ← Json.defaulted? d.sync (SyncSettings.ofJson? form) sync
    let format ← Json.defaulted? d.logFormat (fun j => do
      match ← form.record? ["log_format"] j with
      | [format] => Json.defaulted? d.logFormat (LogFormat.ofJson? form) format
      | _ => none) observability
    return ⟨ledger, limits, routing, sync, format⟩
  | _ => none

def Settings.json (s : Settings) : Json :=
  .obj [("ledger", s.ledger.json), ("limits", .arr (s.limits.map LaneLimit.json)),
    ("routing", s.routing.json), ("sync", s.sync.json),
    ("observability", .obj [("log_format", .str s.logFormat.name)])]

end LaneQuota
