import LaneQuota.Ledger.Basic

namespace LaneQuota

structure RemainingBudget where
  tokens : Option UInt64
  cost : Option Float
deriving DecidableEq

structure BucketStatus where
  tenant : Option String
  key : String
  day : String
  used : Usage
  reserved : Usage
  hardStopped : Bool
  dailyTokens : Option UInt64
  lifetimeCost : Option Float
  usageRatio : Option Float
deriving DecidableEq

def Limits.usageRatio (limits : Limits) (b : Bucket) (historyCost : Float) : Option Float :=
  match limits.dailyTokens.filter (fun d => 0 < d) with
  | some daily => some (b.used.totalTokens.toFloat / daily.toFloat)
  | none =>
    (limits.lifetimeCost.filter (fun cap => 0.0 < cap)).map
      (fun cap => (historyCost + b.used.cost) / cap)

namespace LedgerPolicy

def bufferedTokens (p : LedgerPolicy) (daily : UInt64) : UInt64 :=
  (daily.toFloat * p.bufferRatio).toUInt64

def remaining (p : LedgerPolicy) (limits : Limits) (b : Bucket) (historyCost : Float) :
    RemainingBudget where
  tokens := limits.dailyTokens.map (fun daily => subTokens (p.bufferedTokens daily) b.heldTokens)
  cost := limits.lifetimeCost.map (fun cap => aboveZero (cap - historyCost - b.heldCost))

end LedgerPolicy

namespace Ledger

def ask {α : Type} (l : Ledger) (now : Instant) (key : LaneKey) (tenant : Option String)
    (f : Bucket → Float → α) : Step α :=
  let scope := Scope.ofTenant tenant
  let found := l.state.current scope key.text (l.window now) now
  ⟨f found.bucket (found.state.historyCost scope key.text), { l with state := found.state },
    found.rolled⟩

def currentUsage (l : Ledger) (now : Instant) (key : LaneKey) (tenant : Option String) :
    Step Usage := l.ask now key tenant (fun b _ => b.used)

def reservedUsage (l : Ledger) (now : Instant) (key : LaneKey) (tenant : Option String) :
    Step Usage := l.ask now key tenant (fun b _ => b.reserved)

def usageRatio (l : Ledger) (now : Instant) (key : LaneKey) (tenant : Option String) :
    Step (Option Float) :=
  match l.policy.limits.get? key with
  | none => ⟨none, l, false⟩
  | some limits => l.ask now key tenant limits.usageRatio

def remainingBudget (l : Ledger) (now : Instant) (key : LaneKey) (tenant : Option String) :
    Step RemainingBudget :=
  l.ask now key tenant (fun b historyCost =>
    match l.policy.limits.get? key with
    | none => ⟨none, none⟩
    | some limits => l.policy.remaining limits b historyCost)

def history (l : Ledger) (key : LaneKey) (tenant : Option String) : List Bucket :=
  l.state.history (Scope.ofTenant tenant) key.text

def hourly (l : Ledger) (key : LaneKey) (tenant : Option String) : HourlyLog :=
  l.state.hourly (Scope.ofTenant tenant) key.text

def row (l : Ledger) (tenant : Option String) (key : String) (b : Bucket) : BucketStatus :=
  let limits := (LaneKey.read? key).bind l.policy.limits.get?
  { tenant := tenant
    key := key
    day := b.day
    used := b.used
    reserved := b.reserved
    hardStopped := b.hardStopped
    dailyTokens := limits.bind Limits.dailyTokens
    lifetimeCost := limits.bind Limits.lifetimeCost
    usageRatio := limits.bind (fun limits =>
      limits.usageRatio b (l.state.historyCost (Scope.ofTenant tenant) key)) }

def rows (l : Ledger) (tenant : Option String) (buckets : Buckets) : List BucketStatus :=
  buckets.entries.map (fun e => l.row tenant e.1 e.2)

def snapshot (l : Ledger) : List BucketStatus :=
  l.rows none l.state.sharedBuckets ++
    l.state.tenantBuckets.entries.flatMap (fun e => l.rows (some e.1) e.2)

end Ledger

end LaneQuota
