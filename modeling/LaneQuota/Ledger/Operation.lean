import LaneQuota.Ledger.Query

namespace LaneQuota

inductive Operation where
  | canCall (request : Request)
  | reserve (id : String) (request : Request)
  | commit (id : String) (key : LaneKey) (tenant : Option String) (actual : Usage)
  | rollback (id : String) (mode : RollbackMode)
  | toggleUnlimited (enabled : Bool) (tenant : Option String)
  | applyReport (key : LaneKey) (start : Date) (reported : UInt64)
  | currentUsage (key : LaneKey) (tenant : Option String)
  | reservedUsage (key : LaneKey) (tenant : Option String)
  | usageRatio (key : LaneKey) (tenant : Option String)
  | remainingBudget (key : LaneKey) (tenant : Option String)
  | history (key : LaneKey) (tenant : Option String)
  | hourly (key : LaneKey) (tenant : Option String)
  | snapshot
  | isUnlimited (tenant : Option String)
  | unlimitedTenants
  | reportRange (lookbackDays : Nat)
  | orphanedCommits
deriving DecidableEq

inductive Answer where
  | done
  | decision (d : CallDecision)
  | cost (x : Float)
  | outcome (o : SyncOutcome)
  | usage (u : Usage)
  | ratio (x : Option Float)
  | remaining (r : RemainingBudget)
  | buckets (bs : List Bucket)
  | log (log : HourlyLog)
  | rows (rows : List BucketStatus)
  | flag (b : Bool)
  | names (names : List String)
  | range (start last : Date)
  | count (n : UInt64)
  | failed (cause : Fault)
deriving DecidableEq

namespace Answer

def ofReport : Except Fault SyncOutcome → Answer
  | .ok o => .outcome o
  | .error cause => .failed cause

def isFailure : Answer → Bool
  | .failed _ => true
  | _ => false

end Answer

namespace Ledger

def look (l : Ledger) (a : Answer) : Step Answer := ⟨a, l, false⟩

def step (l : Ledger) (now : Instant) : Operation → Step Answer
  | .canCall r => (l.canCall now r).map .decision
  | .reserve id r => (l.reserve now id r).map (fun _ => .done)
  | .commit id key tenant actual => (l.commit now id key tenant actual).map .cost
  | .rollback id mode => (l.rollback now id mode).map (fun _ => .done)
  | .toggleUnlimited enabled tenant => (l.toggleUnlimited enabled tenant).map (fun _ => .done)
  | .applyReport key start reported => (l.applyReport now key start reported).map .ofReport
  | .currentUsage key tenant => (l.currentUsage now key tenant).map .usage
  | .reservedUsage key tenant => (l.reservedUsage now key tenant).map .usage
  | .usageRatio key tenant => (l.usageRatio now key tenant).map .ratio
  | .remainingBudget key tenant => (l.remainingBudget now key tenant).map .remaining
  | .history key tenant => l.look (.buckets (l.history key tenant))
  | .hourly key tenant => l.look (.log (l.hourly key tenant))
  | .snapshot => l.look (.rows l.snapshot)
  | .isUnlimited tenant => l.look (.flag (l.isUnlimited tenant))
  | .unlimitedTenants => l.look (.names l.unlimitedTenants)
  | .reportRange days => l.look (.range (l.reportRange now days).1 (l.reportRange now days).2)
  | .orphanedCommits => l.look (.count l.orphanedCommits)

def run (l : Ledger) : List (Instant × Operation) → Ledger × List Answer
  | [] => (l, [])
  | (now, op) :: rest =>
    let s := l.step now op
    let r := s.ledger.run rest
    (r.1, s.answer :: r.2)

end Ledger

end LaneQuota
