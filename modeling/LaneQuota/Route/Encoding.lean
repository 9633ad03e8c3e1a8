import LaneQuota.Json.Record
import LaneQuota.Route.Signals

namespace LaneQuota

def Mode.json (m : Mode) : Json := .str m.name

def Mode.ofJson? (j : Json) : Option Mode := Json.RecordForm.json.choice? Mode.all j

def RiskLevel.json (r : RiskLevel) : Json := .str r.name

def RiskLevel.ofJson? (j : Json) : Option RiskLevel := Json.RecordForm.json.choice? RiskLevel.all j

def asUnsigned32? (j : Json) : Option Nat := Json.asNat? Word.maxUnsigned32 j

def asSigned64? (j : Json) : Option Int64 := (Json.asInt64? j).map Int64.ofInt

def int64Json (n : Int64) : Json := .int n.toInt

def BudgetHint.ofJson? (j : Json) : Option BudgetHint := do
  match ← Json.record? ["maxTurns", "maxSubOps", "timeBudgetSeconds"] j with
  | [turns, subOps, seconds] =>
    let turns ← Json.optional? asSigned64? turns
    let subOps ← Json.optional? asSigned64? subOps
    let seconds ← Json.optional? asSigned64? seconds
    return ⟨turns, subOps, seconds⟩
  | _ => none

def BudgetHint.json (h : BudgetHint) : Json :=
  .obj (Json.given "maxTurns" int64Json h.maxTurns ++
    Json.given "maxSubOps" int64Json h.maxSubOps ++
    Json.given "timeBudgetSeconds" int64Json h.seconds)

def RouteHint.ofJson? (j : Json) : Option RouteHint := do
  match ← Json.record? ["mode", "budget", "routeScore", "securityRiskLevel"] j with
  | [mode, budget, score, riskLevel] =>
    let mode ← Json.optional? Mode.ofJson? mode
    let budget ← Json.optional? BudgetHint.ofJson? budget
    let score ← Json.optional? Json.asFloat? score
    let riskLevel ← Json.optional? RiskLevel.ofJson? riskLevel
    return ⟨mode, budget, score, riskLevel⟩
  | _ => none

def RouteHint.json (h : RouteHint) : Json :=
  .obj (Json.given "mode" Mode.json h.mode ++ Json.given "budget" BudgetHint.json h.budget ++
    Json.given "routeScore" Json.ofFloat h.score ++
    Json.given "securityRiskLevel" RiskLevel.json h.riskLevel)

def RouteSignals.ofRecord? (j : Json) : Option RouteSignals := do
  match ← Json.record? ["difficultyScore", "complexityScore", "actionScore", "securityRiskScore",
      "functionCategory", "hint"] j with
  | [difficulty, complexity, action, securityRisk, category, hint] =>
    let difficulty ← Json.optional? Json.asFloat? difficulty
    let complexity ← Json.optional? Json.asFloat? complexity
    let action ← Json.optional? Json.asFloat? action
    let securityRisk ← Json.optional? Json.asFloat? securityRisk
    let category ← Json.optional? Json.asText? category
    let hint ← Json.optional? RouteHint.ofJson? hint
    return ⟨difficulty, complexity, action, securityRisk, category, hint⟩
  | _ => none

def RouteSignals.json (s : RouteSignals) : Json :=
  .obj (Json.given "difficultyScore" Json.ofFloat s.difficulty ++
    Json.given "complexityScore" Json.ofFloat s.complexity ++
    Json.given "actionScore" Json.ofFloat s.action ++
    Json.given "securityRiskScore" Json.ofFloat s.securityRisk ++
    Json.given "functionCategory" .str s.category ++
    Json.given "hint" RouteHint.json s.hint)

def Budget.ofJson? (j : Json) : Option Budget := do
  match ← Json.record? ["maxTurns", "maxSubOps", "timeBudgetSeconds"] j with
  | [turns, subOps, seconds] =>
    let turns ← Json.required? asUnsigned32? turns
    let subOps ← Json.required? asUnsigned32? subOps
    let seconds ← Json.required? asUnsigned32? seconds
    return ⟨turns, subOps, seconds⟩
  | _ => none

def Budget.json (b : Budget) : Json :=
  .obj [("maxTurns", .nat b.maxTurns), ("maxSubOps", .nat b.maxSubOps),
    ("timeBudgetSeconds", .nat b.seconds)]

def RouteScores.ofJson? (j : Json) : Option RouteScores := do
  match ← Json.record? ["difficulty", "complexity", "action", "securityRisk"] j with
  | [difficulty, complexity, action, securityRisk] =>
    let difficulty ← Json.required? Json.asFloat? difficulty
    let complexity ← Json.required? Json.asFloat? complexity
    let action ← Json.required? Json.asFloat? action
    let securityRisk ← Json.required? Json.asFloat? securityRisk
    return ⟨difficulty, complexity, action, securityRisk⟩
  | _ => none

def RouteScores.json (s : RouteScores) : Json :=
  .obj [("difficulty", Json.ofFloat s.difficulty), ("complexity", Json.ofFloat s.complexity),
    ("action", Json.ofFloat s.action), ("securityRisk", Json.ofFloat s.securityRisk)]

def ReasonCodes.ofJson? (j : Json) : Option ReasonCodes :=
  (Json.asList? Json.asText? j).map ReasonCodes.ofList

def ReasonCodes.json (r : ReasonCodes) : Json := .arr (r.codes.map .str)

def Route.ofJson? (j : Json) : Option Route := do
  match ← Json.record? ["mode", "functionCategory", "routeScore", "scores", "securityRiskLevel",
      "budget", "reasonCodes", "sourceHintPresent"] j with
  | [mode, category, score, scores, riskLevel, budget, reasons, hinted] =>
    let mode ← Json.required? Mode.ofJson? mode
    let category ← Json.required? Json.asText? category
    let score ← Json.required? Json.asFloat? score
    let scores ← Json.required? RouteScores.ofJson? scores
    let riskLevel ← Json.required? RiskLevel.ofJson? riskLevel
    let budget ← Json.required? Budget.ofJson? budget
    let reasons ← Json.required? ReasonCodes.ofJson? reasons
    let hinted ← Json.required? Json.asBool? hinted
    return ⟨mode, category, score, scores, riskLevel, budget, reasons, hinted⟩
  | _ => none

def Route.json (r : Route) : Json :=
  .obj [("mode", r.mode.json), ("functionCategory", .str r.category),
    ("routeScore", Json.ofFloat r.score), ("scores", r.scores.json),
    ("securityRiskLevel", r.riskLevel.json), ("budget", r.budget.json),
    ("reasonCodes", r.reasons.json), ("sourceHintPresent", .bool r.hinted)]

end LaneQuota
