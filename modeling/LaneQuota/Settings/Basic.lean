import LaneQuota.Calendar.Zone
import LaneQuota.Decimal.Reader
import LaneQuota.Settings.Limits
import LaneQuota.SortedMap
import LaneQuota.Text.Basic

namespace LaneQuota

structure LedgerSettings where
  statePath : String
  timezone : String
  safetyBufferRatio : Float
  fallbackLane : String
  fallbackProvider : String
  hourlyRetentionHours : UInt32
deriving DecidableEq

namespace LedgerSettings

def defaultBufferRatio : Float := 0.95

def standard : LedgerSettings where
  statePath := "./data/ledger.json"
  timezone := "UTC"
  safetyBufferRatio := defaultBufferRatio
  fallbackLane := "local"
  fallbackProvider := "local"
  hourlyRetentionHours := 168

def zone (s : LedgerSettings) (known : KnownZones) : Zone := (known s.timezone).getD .utc

/-- The share in force, at most the whole; a share that is not positive gives way to the default. -/
def bufferRatio (s : LedgerSettings) : Float :=
  let r := s.safetyBufferRatio
  if !r.isFinite || r <= 0.0 then defaultBufferRatio
  else if r < 1.0 then r
  else 1.0

def fallbackKey (s : LedgerSettings) : LaneKey := ⟨s.fallbackLane, s.fallbackProvider⟩

end LedgerSettings

structure RoutingSettings where
  instant : LaneKey
  task : LaneKey
  agentLoop : LaneKey
  auditCapacity : UInt64
  auditPath : Option String
deriving DecidableEq

def RoutingSettings.standard : RoutingSettings where
  instant := ⟨"local", "local"⟩
  task := ⟨"stable", "openai"⟩
  agentLoop := ⟨"high", "openai"⟩
  auditCapacity := 500
  auditPath := none

structure SyncSettings where
  baseUrl : Option String
  tokenEnv : String
  lane : String
  provider : String
  lookbackDays : UInt32
  timeoutMs : UInt64
  largeCommitTokens : UInt64
  intervalSecs : UInt64
deriving DecidableEq

namespace SyncSettings

def standard : SyncSettings where
  baseUrl := none
  tokenEnv := "LG_USAGE_TOKEN"
  lane := "stable"
  provider := "openai"
  lookbackDays := 0
  timeoutMs := 10000
  largeCommitTokens := 50000
  intervalSecs := 300

def key (s : SyncSettings) : LaneKey := ⟨s.lane, s.provider⟩

def interval (s : SyncSettings) : Nat := max s.intervalSecs.toNat 1

end SyncSettings

inductive LogFormat where
  | json
  | pretty
deriving DecidableEq, Repr

structure Settings where
  ledger : LedgerSettings
  limits : List LaneLimit
  routing : RoutingSettings
  sync : SyncSettings
  logFormat : LogFormat
deriving DecidableEq

namespace Settings

def standard : Settings where
  ledger := LedgerSettings.standard
  limits := []
  routing := RoutingSettings.standard
  sync := SyncSettings.standard
  logFormat := .json

def limitsTable (s : Settings) : LimitsTable := ⟨s.limits⟩

end Settings

abbrev Environment := SortedMap String

def Environment.filled? (env : Environment) (name : String) : Option String :=
  ((env.get? name).map trimmed).filter (fun s => !s.isEmpty)

def LedgerSettings.overridden (s : LedgerSettings) (env : Environment) : LedgerSettings where
  statePath := (env.filled? "LG_STATE_PATH").getD s.statePath
  timezone := (env.filled? "LG_TIMEZONE").getD s.timezone
  safetyBufferRatio :=
    (((env.get? "LG_SAFETY_BUFFER").bind (fun raw => readFloat? (trimBlanks raw.toList)))).getD
      s.safetyBufferRatio
  fallbackLane := s.fallbackLane
  fallbackProvider := s.fallbackProvider
  hourlyRetentionHours := s.hourlyRetentionHours

def Settings.overridden (s : Settings) (env : Environment) : Settings :=
  { s with ledger := s.ledger.overridden env }

def SyncSettings.token? (s : SyncSettings) (env : Environment) : Option String :=
  (env.get? s.tokenEnv).filter (fun t => !t.isEmpty)

end LaneQuota
