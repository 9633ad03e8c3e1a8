import LaneQuota.Calendar.Timestamp
import LaneQuota.Json.Reader
import LaneQuota.Json.Record
import LaneQuota.Json.Writer
import LaneQuota.Ledger.Query
import LaneQuota.Settings.Encoding

namespace LaneQuota

def Usage.ofJson? (j : Json) : Option Usage := do
  match ← Json.record? ["tokensIn", "tokensOut", "costUnits"] j with
  | [tokensIn, tokensOut, cost] =>
    let tokensIn ← Json.defaulted? 0 Json.asUInt64? tokensIn
    let tokensOut ← Json.defaulted? 0 Json.asUInt64? tokensOut
    let cost ← Json.defaulted? 0.0 Json.asFloat? cost
    return ⟨tokensIn, tokensOut, cost⟩
  | _ => none

def Usage.json (u : Usage) : Json :=
  .obj [("tokensIn", uint64Json u.tokensIn), ("tokensOut", uint64Json u.tokensOut),
    ("costUnits", Json.ofFloat u.cost)]

def Instant.ofJson? (j : Json) : Option Instant := (Json.asText? j).bind Timestamp.read?

def Bucket.ofJson? (j : Json) : Option Bucket := do
  match ← Json.record?
      ["windowDay", "windowMonth", "used", "reserved", "hardStopped", "lastUpdate"] j with
  | [day, month, used, reserved, hardStopped, lastUpdate] =>
    let day ← Json.required? Json.asText? day
    let month ← Json.required? Json.asText? month
    let used ← Json.defaulted? Usage.zero Usage.ofJson? used
    let reserved ← Json.defaulted? Usage.zero Usage.ofJson? reserved
    let hardStopped ← Json.defaulted? false Json.asBool? hardStopped
    let lastUpdate ← Json.required? Instant.ofJson? lastUpdate
    return ⟨day, month, used, reserved, hardStopped, lastUpdate⟩
  | _ => none

def Bucket.json (b : Bucket) : Json :=
  .obj [("windowDay", .str b.day), ("windowMonth", .str b.month), ("used", b.used.json),
    ("reserved", b.reserved.json), ("hardStopped", .bool b.hardStopped),
    ("lastUpdate", .str b.lastUpdate.text)]

def HourlyLog.ofJson? (j : Json) : Option HourlyLog := Json.asMap? Usage.ofJson? j

def HourlyLog.json (log : HourlyLog) : Json := Json.ofMap Usage.json log

namespace LedgerState

def ofJson? (j : Json) : Option LedgerState := do
  match ← Json.record? ["globalBuckets", "globalHistory", "userBuckets", "userHistory",
      "globalHourly", "userHourly", "unlimitedMode", "unlimitedUsers"] j with
  | [sharedBuckets, sharedHistory, tenantBuckets, tenantHistory, sharedHourly, tenantHourly,
      unlimited, exempt] =>
    let buckets := Json.asMap? Bucket.ofJson?
    let histories := Json.asMap? (Json.asList? Bucket.ofJson?)
    let logs := Json.asMap? HourlyLog.ofJson?
    let sharedBuckets ← Json.defaulted? ∅ buckets sharedBuckets
    let sharedHistory ← Json.defaulted? ∅ histories sharedHistory
    let tenantBuckets ← Json.defaulted? ∅ (Json.asMap? buckets) tenantBuckets
    let tenantHistory ← Json.defaulted? ∅ (Json.asMap? histories) tenantHistory
    let sharedHourly ← Json.defaulted? ∅ logs sharedHourly
    let tenantHourly ← Json.defaulted? ∅ (Json.asMap? logs) tenantHourly
    let unlimited ← Json.defaulted? false Json.asBool? unlimited
    let exempt ← Json.defaulted? ∅ Json.asSet? exempt
    return ⟨sharedBuckets, sharedHistory, tenantBuckets, tenantHistory, sharedHourly, tenantHourly,
      unlimited, exempt⟩
  | _ => none

def json (s : LedgerState) : Json :=
  let buckets := Json.ofMap Bucket.json
  let histories := Json.ofMap (fun bs : List Bucket => .arr (bs.map Bucket.json))
  let logs := Json.ofMap HourlyLog.json
  .obj [("globalBuckets", buckets s.sharedBuckets), ("globalHistory", histories s.sharedHistory),
    ("userBuckets", Json.ofMap buckets s.tenantBuckets),
    ("userHistory", Json.ofMap histories s.tenantHistory),
    ("globalHourly", logs s.sharedHourly), ("userHourly", Json.ofMap logs s.tenantHourly),
    ("unlimitedMode", .bool s.unlimited), ("unlimitedUsers", Json.ofSet s.exempt)]

def documentText (s : LedgerState) : String := s.json.pretty

def ofDocument? (text : String) : Option LedgerState := (Json.read? text).bind ofJson?

end LedgerState

def CallDecision.json (d : CallDecision) : Json :=
  .obj [("allowed", .bool d.allowed), ("reason", .str d.reason),
    ("exhausted", Json.ofOption (fun b => .str b.name) d.exhausted),
    ("fallback", Json.ofOption (fun k => .str k.text) d.fallback)]

def SyncOutcome.json (o : SyncOutcome) : Json :=
  .obj [("updated", .bool o.updated), ("drift_added", uint64Json o.driftAdded)]

def RemainingBudget.json (r : RemainingBudget) : Json :=
  .obj [("tokens", Json.ofOption uint64Json r.tokens),
    ("cost_units", Json.ofOption Json.ofFloat r.cost)]

def BucketStatus.json (b : BucketStatus) : Json :=
  .obj [("tenant_id", Json.ofOption .str b.tenant), ("key", .str b.key), ("window_day", .str b.day),
    ("used", b.used.json), ("reserved", b.reserved.json), ("hard_stopped", .bool b.hardStopped),
    ("daily_token_limit", Json.ofOption uint64Json b.dailyTokens),
    ("lifetime_cost_limit", Json.ofOption Json.ofFloat b.lifetimeCost),
    ("usage_ratio", Json.ofOption Json.ofFloat b.usageRatio)]

end LaneQuota
