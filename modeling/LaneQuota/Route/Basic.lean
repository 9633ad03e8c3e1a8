import LaneQuota.Text.Basic
import LaneQuota.Text.Lowercase

namespace LaneQuota

inductive Mode where
  | instant
  | task
  | agentLoop
deriving DecidableEq, Repr

namespace Mode

def name : Mode → String
  | instant => "Instant"
  | task => "Task"
  | agentLoop => "AgentLoop"

def all : List (String × Mode) := [instant, task, agentLoop].map (fun m => (m.name, m))

/-- A score on a boundary belongs to the cheaper mode. -/
def forScore (score : Float) : Mode :=
  if score <= 0.30 then instant
  else if score <= 0.60 then task
  else agentLoop

def isSeparator (c : Char) : Bool := c = '_' || c = '-' || c = ' '

def read? (s : String) : Option Mode :=
  let folded := String.ofList
    ((s.toList.filter (fun c => !isSeparator c)).flatMap lowerChar)
  if folded = "instant" then some instant
  else if folded = "task" then some task
  else if folded = "agentloop" ∨ folded = "agent" then some agentLoop
  else none

def refusal (s : String) : String := "unknown mode '" ++ s ++ "'"

end Mode

inductive RiskLevel where
  | low
  | medium
  | high
  | critical
deriving DecidableEq, Repr

namespace RiskLevel

def name : RiskLevel → String
  | low => "Low"
  | medium => "Medium"
  | high => "High"
  | critical => "Critical"

def all : List (String × RiskLevel) := [low, medium, high, critical].map (fun r => (r.name, r))

def rank : RiskLevel → Nat
  | low => 0
  | medium => 1
  | high => 2
  | critical => 3

def forScore (score : Float) : RiskLevel :=
  if score >= 0.85 then critical
  else if score >= 0.6 then high
  else if score >= 0.3 then medium
  else low

def isElevated (r : RiskLevel) : Bool := high.rank ≤ r.rank

def max (r s : RiskLevel) : RiskLevel := if s.rank < r.rank then r else s

def read? (s : String) : Option RiskLevel :=
  let folded := String.ofList ((trimBlanks s.toList).map Char.toLower)
  if folded = "low" then some low
  else if folded = "medium" then some medium
  else if folded = "high" then some high
  else if folded = "critical" then some critical
  else none

def refusal (s : String) : String := "unknown risk level '" ++ s ++ "'"

end RiskLevel

structure Budget where
  maxTurns : Nat
  maxSubOps : Nat
  seconds : Nat
deriving DecidableEq, Repr

namespace Budget

def standard : Mode → Budget
  | .instant => ⟨2, 0, 25⟩
  | .task => ⟨5, 5, 120⟩
  | .agentLoop => ⟨8, 10, 300⟩

end Budget

structure RouteScores where
  difficulty : Float
  complexity : Float
  action : Float
  securityRisk : Float
deriving DecidableEq

structure ReasonCodes where
  codes : List String
  nodup : codes.Nodup
deriving DecidableEq

namespace ReasonCodes

def empty : ReasonCodes := ⟨[], List.nodup_nil⟩

def contains (r : ReasonCodes) (code : String) : Bool := r.codes.contains code

def push (r : ReasonCodes) (code : String) : ReasonCodes :=
  if h : r.codes.contains code = true then r
  else ⟨r.codes ++ [code], by
    rw [List.nodup_append]
    refine ⟨r.nodup, by simp, ?_⟩
    intro a ha b hb
    have hb' : b = code := by simpa using hb
    subst hb'
    intro hab
    subst hab
    exact h (List.contains_iff_mem.2 ha)⟩

def pushIf (r : ReasonCodes) (condition : Bool) (code : String) : ReasonCodes :=
  if condition then r.push code else r

def ofList (codes : List String) : ReasonCodes := codes.foldl push empty

end ReasonCodes

namespace Reason

def visionFloorApplied : String := "router_vision_floor_applied"
def modeForcedSafe : String := "router_mode_forced_safe"
def modeForcedTools : String := "router_mode_forced_tools"
def budgetHintApplied : String := "router_budget_hint_applied"
def budgetClamped : String := "router_budget_clamped"
def toolSlotsRemoved : String := "router_tool_slots_removed"
def budgetTimeExceeded : String := "budget_time_exceeded"
def budgetTurnsExceeded : String := "budget_turns_exceeded"
def budgetSubOpsExceeded : String := "budget_sub_ops_exceeded"
def laneQuotaFallback : String := "lane_quota_fallback"
def laneQuotaExhausted : String := "lane_quota_exhausted"

end Reason

structure Route where
  mode : Mode
  category : String
  score : Float
  scores : RouteScores
  riskLevel : RiskLevel
  budget : Budget
  reasons : ReasonCodes
  hinted : Bool
deriving DecidableEq

namespace Route

def hasReason (r : Route) (code : String) : Bool := r.reasons.contains code

def addReason (r : Route) (code : String) : Route := { r with reasons := r.reasons.push code }

end Route

end LaneQuota
