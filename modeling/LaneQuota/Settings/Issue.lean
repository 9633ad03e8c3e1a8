import LaneQuota.Decimal.Notation
import LaneQuota.Settings.Basic

namespace LaneQuota

inductive Severity where
  | error
  | warning
deriving DecidableEq, Repr

inductive Issue where
  | bufferOutOfRange (ratio : Float)
  | unknownTimezone (name : String)
  | emptyName (index : Nat)
  | colonInLane (index : Nat)
  | badCost (index : Nat)
  | unlimited (index : Nat) (key : LaneKey)
  | limitedFallback (key : LaneKey)
  | missingToken (variableName : String)
  | noAuditRoom
deriving DecidableEq

namespace Issue

def severity : Issue → Severity
  | emptyName _ | colonInLane _ | badCost _ | noAuditRoom => .error
  | _ => .warning

def entryName (index : Nat) : String := "limits[" ++ natText index ++ "]"

def field : Issue → String
  | bufferOutOfRange _ => "ledger.safety_buffer_ratio"
  | unknownTimezone _ => "ledger.timezone"
  | emptyName i => entryName i
  | colonInLane i => entryName i ++ ".lane"
  | badCost i => entryName i ++ ".lifetime_cost_limit"
  | unlimited i _ => entryName i
  | limitedFallback _ => "ledger.fallback_lane"
  | missingToken _ => "sync.token_env"
  | noAuditRoom => "routing.audit_capacity"

def message : Issue → String
  | bufferOutOfRange ratio => floatText .plain ratio ++ " is outside (0, 1]; it will be clamped"
  | unknownTimezone name => "unknown timezone '" ++ name ++ "', UTC will be used"
  | emptyName _ => "lane and provider must not be empty"
  | colonInLane _ => "lane names must not contain ':'"
  | badCost _ => "must be a non-negative number"
  | unlimited _ key => key.text ++ " has no limit set"
  | limitedFallback key =>
    "fallback lane " ++ key.text ++ " has enforced limits and may also be denied"
  | missingToken name => name ++ " is not set; usage sync will fail"
  | noAuditRoom => "must be greater than 0"

def text (i : Issue) : String :=
  let tag := match i.severity with
    | .error => "ERROR"
    | .warning => "WARN"
  "[" ++ tag ++ "] " ++ i.field ++ ": " ++ i.message

end Issue

def Issue.when (condition : Bool) (i : Issue) : List Issue := if condition then [i] else []

def LaneLimit.issues (index : Nat) (e : LaneLimit) : List Issue :=
  Issue.when (e.key.lane.isEmpty || e.key.provider.isEmpty) (.emptyName index) ++
  Issue.when (e.key.lane.toList.contains ':') (.colonInLane index) ++
  Issue.when (e.limits.lifetimeCost.any (fun cost => !cost.isFinite || cost < 0.0))
    (.badCost index) ++
  Issue.when (e.limits.dailyTokens.isNone && e.limits.lifetimeCost.isNone)
    (.unlimited index e.key)

def limitIssues (index : Nat) : List LaneLimit → List Issue
  | [] => []
  | e :: rest => e.issues index ++ limitIssues (index + 1) rest

def LedgerSettings.issues (s : LedgerSettings) (known : KnownZones) : List Issue :=
  let ratio := s.safetyBufferRatio
  Issue.when (!ratio.isFinite || ratio <= 0.0 || ratio > 1.0) (.bufferOutOfRange ratio) ++
  Issue.when (known s.timezone).isNone (.unknownTimezone s.timezone)

def Settings.issues (s : Settings) (known : KnownZones) (env : Environment) : List Issue :=
  s.ledger.issues known ++
  limitIssues 0 s.limits ++
  Issue.when (s.limitsTable.enforced? s.ledger.fallbackKey).isSome
    (.limitedFallback s.ledger.fallbackKey) ++
  Issue.when (s.sync.baseUrl.isSome && (s.sync.token? env).isNone)
    (.missingToken s.sync.tokenEnv) ++
  Issue.when (s.routing.auditCapacity == 0) .noAuditRoom

end LaneQuota
