import LaneQuota.Settings.Limits

namespace LaneQuota

inductive ExhaustedBudget where
  | hardStopped
  | dailyTokens
  | sharedDailyTokens
  | lifetimeCost
deriving DecidableEq, Repr

namespace ExhaustedBudget

def label : ExhaustedBudget → String
  | hardStopped => "the lane's hard spending stop"
  | dailyTokens => "your daily token budget"
  | sharedDailyTokens => "the shared daily token budget"
  | lifetimeCost => "the lane's total spending cap"

def name : ExhaustedBudget → String
  | hardStopped => "hard_stopped"
  | dailyTokens => "daily_tokens"
  | sharedDailyTokens => "shared_daily_tokens"
  | lifetimeCost => "lifetime_cost"

end ExhaustedBudget

structure CallDecision where
  allowed : Bool
  reason : String
  exhausted : Option ExhaustedBudget
  fallback : Option LaneKey
deriving DecidableEq, Repr

namespace CallDecision

def allow (reason : String) : CallDecision := ⟨true, reason, none, none⟩

def deny (exhausted : ExhaustedBudget) (reason : String) (fallback : LaneKey) : CallDecision :=
  ⟨false, reason, some exhausted, some fallback⟩

def policyMessage (d : CallDecision) : Option String :=
  d.exhausted.map (fun b =>
    "This request was not sent because " ++ b.label ++ " has been used up. " ++
      "A lower-cost option will be used where possible.")

end CallDecision

end LaneQuota
