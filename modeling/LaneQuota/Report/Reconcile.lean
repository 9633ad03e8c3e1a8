import LaneQuota.Report.Fetch
import LaneQuota.Storage.DurableLedger

/-!
# Comparing with usage reports

The days of the report are fixed first, then the report is fetched, and only then the ledger is
raised to it. A report that cannot be fetched changes nothing.
-/

namespace LaneQuota

namespace SyncSettings

def isLargeCommit (s : SyncSettings) (key : LaneKey) (actual : Usage) : Bool :=
  key = s.key && s.largeCommitTokens ≤ actual.totalTokens

def dueBefore (s : SyncSettings) (ms : Nat) : Nat :=
  (ms + (s.interval * 1000 - 1)) / (s.interval * 1000)

end SyncSettings

namespace DurableLedger

variable {μ : Type}

def reconcile (medium : Medium μ) (d : DurableLedger) (m : μ) (now : Instant) (key : LaneKey)
    (lookbackDays : Nat) (source : ReportSource) : Except Fault SyncOutcome × DurableLedger × μ :=
  let range := d.ledger.reportRange now lookbackDays
  match source key range.1 range.2 with
  | .error fault => (.error fault, d, m)
  | .ok reported => d.settle medium m (d.ledger.applyReport now key range.1 reported)

def reconcileOnce (medium : Medium μ) (d : DurableLedger) (m : μ) (now : Instant)
    (settings : SyncSettings) (source : ReportSource) :
    Except Fault SyncOutcome × DurableLedger × μ :=
  d.reconcile medium m now settings.key settings.lookbackDays.toNat source

def reconcileAfterCommit (medium : Medium μ) (d : DurableLedger) (m : μ) (now : Instant)
    (settings : SyncSettings) (key : LaneKey) (actual : Usage) (source : ReportSource) :
    Option (Except Fault SyncOutcome) × DurableLedger × μ :=
  if settings.isLargeCommit key actual then
    let r := d.reconcileOnce medium m now settings source
    (some r.1, r.2)
  else (none, d, m)

/-- One comparison after the other. A report that cannot be fetched does not stop them, but a sum
that fails does. -/
def reconcileEach (medium : Medium μ) (d : DurableLedger) (m : μ) (now : Instant)
    (settings : SyncSettings) :
    List ReportSource → List (Except Fault SyncOutcome) × DurableLedger × μ
  | [] => ([], d, m)
  | source :: rest =>
    let r := d.reconcileOnce medium m now settings source
    match r.1 with
    | .error .overflow => ([r.1], r.2)
    | outcome =>
      let later := reconcileEach medium r.2.1 r.2.2 now settings rest
      (outcome :: later.1, later.2)

end DurableLedger

end LaneQuota
