import LaneQuota.Decimal.Notation
import LaneQuota.Route.Basic

namespace LaneQuota

inductive BudgetBreach where
  | time (elapsedSeconds limitSeconds : Nat)
  | turns (limit : Nat)
  | subOps (limit : Nat)
deriving DecidableEq, Repr

namespace BudgetBreach

def reason : BudgetBreach → String
  | time _ _ => Reason.budgetTimeExceeded
  | turns _ => Reason.budgetTurnsExceeded
  | subOps _ => Reason.budgetSubOpsExceeded

def message : BudgetBreach → String
  | time elapsed limit =>
    "time budget of " ++ natText limit ++ "s exceeded after " ++ natText elapsed ++ "s"
  | turns limit => "turn budget of " ++ natText limit ++ " exhausted"
  | subOps limit => "sub-operation budget of " ++ natText limit ++ " exhausted"

end BudgetBreach

structure BudgetGuard where
  budget : Budget
  turns : Nat
  subOps : Nat
deriving DecidableEq

inductive GuardStep where
  | turn
  | subOp
  | time
deriving DecidableEq, Repr

namespace BudgetGuard

def ofBudget (b : Budget) : BudgetGuard := ⟨b, 0, 0⟩

def ofRoute (r : Route) : BudgetGuard := ofBudget r.budget

def nanosPerBudgetSecond : Nat := 1000000000

def timeBreach? (g : BudgetGuard) (elapsed : Nat) : Option BudgetBreach :=
  if nanosPerBudgetSecond * g.budget.seconds < elapsed then
    some (.time (elapsed / nanosPerBudgetSecond) g.budget.seconds)
  else none

def take (g : BudgetGuard) (elapsed : Nat) (step : GuardStep) : Option BudgetBreach × BudgetGuard :=
  match g.timeBreach? elapsed with
  | some breach => (some breach, g)
  | none =>
    match step with
    | .time => (none, g)
    | .turn =>
      if g.turns < g.budget.maxTurns then (none, { g with turns := g.turns + 1 })
      else (some (.turns g.budget.maxTurns), g)
    | .subOp =>
      if g.subOps < g.budget.maxSubOps then (none, { g with subOps := g.subOps + 1 })
      else (some (.subOps g.budget.maxSubOps), g)

def remainingSeconds (g : BudgetGuard) (elapsed : Nat) : Nat :=
  (nanosPerBudgetSecond * g.budget.seconds - elapsed) / nanosPerBudgetSecond

end BudgetGuard

def Route.abort (r : Route) (breach : BudgetBreach) : Route := r.addReason breach.reason

end LaneQuota
