import LaneQuota.Ledger.Basic
import LaneQuota.Ledger.Encoding
import LaneQuota.Route.Basic
import LaneQuota.Storage.DurableLedger

namespace LaneQuota

structure LanePlan where
  lane : Option LaneKey
  preferred : LaneKey
  decision : CallDecision
  reason : Option String
deriving DecidableEq

namespace LanePlan

def isFallback (p : LanePlan) : Bool := p.lane.any (fun l => l ≠ p.preferred)

def annotate (p : LanePlan) (r : Route) : Route :=
  match p.reason with
  | some code => r.addReason code
  | none => r

def json (p : LanePlan) : Json :=
  .obj ([("lane", Json.ofOption (fun k => .str k.text) p.lane),
    ("preferred", .str p.preferred.text), ("decision", p.decision.json)] ++
    Json.given "reasonCode" .str p.reason)

def accepted (preferred : LaneKey) (decision : CallDecision) : LanePlan :=
  ⟨some preferred, preferred, decision, none⟩

def diverted (preferred fallback : LaneKey) (decision : CallDecision) : LanePlan :=
  ⟨some fallback, preferred, decision, some Reason.laneQuotaFallback⟩

def refused (preferred : LaneKey) (decision : CallDecision) : LanePlan :=
  ⟨none, preferred, decision, some Reason.laneQuotaExhausted⟩

end LanePlan

def RoutingSettings.laneFor (s : RoutingSettings) : Mode → LaneKey
  | .instant => s.instant
  | .task => s.task
  | .agentLoop => s.agentLoop

/-- Plans with `ask`, which puts a request to whatever decides on calls and moves it on. -/
def planWith {σ : Type} (ask : σ → Request → CallDecision × σ) (s : σ)
    (preferred fallback : LaneKey) (tenant : Option String) (estimate : Usage) : LanePlan × σ :=
  let first := ask s ⟨preferred, tenant, estimate⟩
  if first.1.allowed then (.accepted preferred first.1, first.2)
  else
    let fallback := first.1.fallback.getD fallback
    if fallback = preferred then (.refused preferred first.1, first.2)
    else
      let second := ask first.2 ⟨fallback, tenant, estimate⟩
      if second.1.allowed then (.diverted preferred fallback first.1, second.2)
      else (.refused preferred first.1, second.2)

def Ledger.plan (l : Ledger) (now : Instant) (routing : RoutingSettings) (mode : Mode)
    (tenant : Option String) (estimate : Usage) : LanePlan × Ledger :=
  planWith (fun l r => ((l.canCall now r).answer, (l.canCall now r).ledger)) l
    (routing.laneFor mode) l.policy.fallback tenant estimate

def DurableLedger.plan {μ : Type} (medium : Medium μ) (d : DurableLedger) (m : μ) (now : Instant)
    (routing : RoutingSettings) (mode : Mode) (tenant : Option String) (estimate : Usage) :
    LanePlan × DurableLedger × μ :=
  planWith (ask medium now) (d, m) (routing.laneFor mode) d.ledger.policy.fallback tenant estimate

end LaneQuota
