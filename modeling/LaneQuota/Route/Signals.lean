import LaneQuota.Decimal.Binary
import LaneQuota.Decimal.Reader
import LaneQuota.Json.Reader
import LaneQuota.Json.Record
import LaneQuota.Route.Basic

/-!
# Signals

Signals describe a work item: scores, a category and a hint on how to route it. They come as free
JSON, and reading them never fails: a member that cannot be read counts as absent.
-/

namespace LaneQuota

structure BudgetHint where
  maxTurns : Option Int64
  maxSubOps : Option Int64
  seconds : Option Int64
deriving DecidableEq

namespace BudgetHint

def empty : BudgetHint := ⟨none, none, none⟩

def isEmpty (h : BudgetHint) : Bool := h.maxTurns.isNone && h.maxSubOps.isNone && h.seconds.isNone

end BudgetHint

structure RouteHint where
  mode : Option Mode
  budget : Option BudgetHint
  score : Option Float
  riskLevel : Option RiskLevel
deriving DecidableEq

def RouteHint.empty : RouteHint := ⟨none, none, none, none⟩

structure RouteSignals where
  difficulty : Option Float
  complexity : Option Float
  action : Option Float
  securityRisk : Option Float
  category : Option String
  hint : Option RouteHint
deriving DecidableEq

namespace RouteSignals

def empty : RouteSignals := ⟨none, none, none, none, none, none⟩

def ofScore (score : Float) : RouteSignals :=
  { empty with hint := some { RouteHint.empty with score := some score } }

end RouteSignals

namespace LooseSignals

/-- A member under either of its two spellings; the first one counts. -/
def field? (j : Json) (camel snake : String) : Option Json :=
  match j.get? camel with
  | some v => some v
  | none => j.get? snake

def finite? (x : Float) : Option Float := if x.isFinite then some x else none

def number? : Json → Option Float
  | .str s => (readFloat? (trimBlanks s.toList)).bind finite?
  | j => (Json.asFloat? j).bind finite?

def nearestInt64 (n : Int) : Int64 :=
  Int64.ofInt (max Word.minSigned64 (min Word.maxSigned64 n))

def roundedInt64? (x : Float) : Option Int64 := (roundToInt? x).map nearestInt64

def integer? : Json → Option Int64
  | .int n =>
    if Word.isSigned64 n then some (Int64.ofInt n) else roundedInt64? (Json.floatOfInt n)
  | .float x => roundedInt64? x
  | .str s => ((readFloat? (trimBlanks s.toList)).bind finite?).bind roundedInt64?
  | _ => none

def mode? (j : Json) : Option Mode := (Json.asText? j).bind Mode.read?

def riskLevel? (j : Json) : Option RiskLevel := (Json.asText? j).bind RiskLevel.read?

def budget? (j : Json) : Option BudgetHint :=
  let hint : BudgetHint :=
    ⟨(field? j "maxTurns" "max_turns").bind integer?,
      (field? j "maxSubOps" "max_sub_ops").bind integer?,
      (field? j "timeBudgetSeconds" "time_budget_seconds").bind integer?⟩
  if hint.isEmpty then none else some hint

def hintMembers (j : Json) : RouteHint where
  mode := (field? j "mode" "mode").bind mode?
  budget := (field? j "budget" "budget").bind budget?
  score := (field? j "routeScore" "route_score").bind number?
  riskLevel := (field? j "securityRiskLevel" "security_risk_level").bind riskLevel?

/-- The hint under its own name. Whatever stands there but null is a hint. -/
def nestedHint? (j : Json) : Option RouteHint :=
  match j.get? "hint" with
  | none => none
  | some .null => none
  | some h => some (hintMembers h)

def hint? (j : Json) : Option RouteHint :=
  let mode := field? j "modeHint" "mode_hint"
  let budget := field? j "budgetHint" "budget_hint"
  let score := field? j "routeScore" "route_score"
  let nested := nestedHint? j
  if mode.isSome || budget.isSome || score.isSome then
    let h := nested.getD RouteHint.empty
    some { h with
      mode := h.mode.or (mode.bind mode?)
      budget := h.budget.or (budget.bind budget?)
      score := h.score.or (score.bind number?) }
  else nested

end LooseSignals

open LooseSignals in
def RouteSignals.ofJson (j : Json) : RouteSignals where
  difficulty := (field? j "difficultyScore" "difficulty_score").bind number?
  complexity := (field? j "complexityScore" "complexity_score").bind number?
  action := (field? j "actionScore" "action_score").bind number?
  securityRisk := (field? j "securityRiskScore" "security_risk_score").bind number?
  category := (field? j "functionCategory" "function_category").bind Json.asText?
  hint := hint? j

def RouteSignals.ofText (text : String) : RouteSignals :=
  if isBlankText text then RouteSignals.empty
  else
    match Json.readFree? text with
    | some j => RouteSignals.ofJson j
    | none => RouteSignals.empty

end LaneQuota
