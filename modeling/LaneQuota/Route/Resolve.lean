import LaneQuota.Route.Signals

namespace LaneQuota

def clampUnit (x : Float) : Float :=
  if x < 0.0 then 0.0
  else if 1.0 < x then 1.0
  else x

def unitScore? (x : Option Float) : Option Float :=
  match x with
  | some x => if x.isFinite then some (clampUnit x) else none
  | none => none

/-- Rounded to nine decimals, so that a sum of decimals meets a boundary that it should meet. -/
def nineDecimals (x : Float) : Float := roundFloat (x * 1e9) / 1e9

def twoDecimals (x : Float) : Float := roundFloat (x * 100.0) / 100.0

def defaultDifficulty : Float := 0.5

def defaultRisk : Float := 0.0

def RouteSignals.scores (s : RouteSignals) : RouteScores :=
  let difficulty := (unitScore? s.difficulty).getD defaultDifficulty
  { difficulty := difficulty
    complexity := (unitScore? s.complexity).getD difficulty
    action := (unitScore? s.action).getD difficulty
    securityRisk := (unitScore? s.securityRisk).getD defaultRisk }

namespace RouteScores

def weighted (s : RouteScores) : Float :=
  nineDecimals (s.complexity * 0.45 + s.securityRisk * 0.35 + s.action * 0.20)

def rounded (s : RouteScores) : RouteScores :=
  ⟨twoDecimals s.difficulty, twoDecimals s.complexity, twoDecimals s.action,
    twoDecimals s.securityRisk⟩

end RouteScores

def defaultCategory : String := "chat"

def RouteSignals.normalCategory (s : RouteSignals) : String :=
  let trimmed := trimBlanks (s.category.getD "").toList
  if trimmed.isEmpty then defaultCategory else String.ofList (lowercase trimmed)

structure Bounds where
  least : Nat
  most : Nat
deriving DecidableEq, Repr

namespace Bounds

def turns : Bounds := ⟨1, 20⟩
def subOps : Bounds := ⟨0, 20⟩
def seconds : Bounds := ⟨10, 1800⟩

def clamp (b : Bounds) (n : Int) : Nat := (max (b.least : Int) (min (b.most : Int) n)).toNat

def contains (b : Bounds) (n : Int) : Bool := b.least ≤ n ∧ n ≤ b.most

def apply (b : Bounds) (default : Nat) (hinted : Option Int64) : Nat :=
  match hinted with
  | some n => b.clamp n.toInt
  | none => default

def cuts (b : Bounds) (hinted : Option Int64) : Bool := hinted.any (fun n => !b.contains n.toInt)

end Bounds

namespace BudgetHint

def apply (h : BudgetHint) (b : Budget) : Budget :=
  ⟨Bounds.turns.apply b.maxTurns h.maxTurns, Bounds.subOps.apply b.maxSubOps h.maxSubOps,
    Bounds.seconds.apply b.seconds h.seconds⟩

def isCut (h : BudgetHint) : Bool :=
  Bounds.turns.cuts h.maxTurns || Bounds.subOps.cuts h.maxSubOps || Bounds.seconds.cuts h.seconds

end BudgetHint

structure RouteDraft where
  mode : Mode
  budget : Budget
  reasons : ReasonCodes
deriving DecidableEq

namespace RouteDraft

def start (mode : Mode) (hint : Option BudgetHint) (reasons : ReasonCodes) : RouteDraft :=
  match hint.filter (fun h => !h.isEmpty) with
  | none => ⟨mode, Budget.standard mode, reasons⟩
  | some h =>
    ⟨mode, h.apply (Budget.standard mode),
      (reasons.push Reason.budgetHintApplied).pushIf h.isCut Reason.budgetClamped⟩

def forceTask (d : RouteDraft) (reason : String) : RouteDraft :=
  ⟨.task, Budget.standard .task, d.reasons.push reason⟩

def makeSafe (d : RouteDraft) (elevated : Bool) : RouteDraft :=
  if elevated && d.mode != .task then d.forceTask Reason.modeForcedSafe else d

def makeRoomForTools (d : RouteDraft) (hasTools : Bool) : RouteDraft :=
  if hasTools && d.mode = .instant then d.forceTask Reason.modeForcedTools else d

def dropSlots (d : RouteDraft) (hasTools : Bool) : RouteDraft :=
  if (d.mode = .instant || !hasTools) && 0 < d.budget.maxSubOps then
    { d with
      budget := { d.budget with maxSubOps := 0 }
      reasons := d.reasons.push Reason.toolSlotsRemoved }
  else d

end RouteDraft

def visionFloor : Float := 0.35

def safeRiskScore : Float := 0.6

namespace RouteSignals

def hintedMode (s : RouteSignals) : Option Mode := s.hint.bind RouteHint.mode

def baseScore (s : RouteSignals) : Float :=
  (unitScore? (s.hint.bind RouteHint.score)).getD s.scores.weighted

def floorApplies (s : RouteSignals) : Bool :=
  s.normalCategory = "vision" && s.baseScore < visionFloor

def flooredScore (s : RouteSignals) : Float := if s.floorApplies then visionFloor else s.baseScore

def baseMode (s : RouteSignals) : Mode :=
  if s.floorApplies then Mode.forScore s.flooredScore
  else s.hintedMode.getD (Mode.forScore s.flooredScore)

def riskLevel (s : RouteSignals) : RiskLevel :=
  let derived := RiskLevel.forScore s.scores.securityRisk
  match s.hint.bind RouteHint.riskLevel with
  | some supplied => supplied.max derived
  | none => derived

def isElevated (s : RouteSignals) : Bool :=
  s.scores.securityRisk >= safeRiskScore || s.riskLevel.isElevated

def draft (s : RouteSignals) (hasTools : Bool) : RouteDraft :=
  let reasons := ReasonCodes.empty.pushIf s.floorApplies Reason.visionFloorApplied
  let start := RouteDraft.start s.baseMode (s.hint.bind RouteHint.budget) reasons
  ((start.makeSafe s.isElevated).makeRoomForTools hasTools).dropSlots hasTools

end RouteSignals

def resolve (s : RouteSignals) (tools : List String) : Route :=
  let d := s.draft (!tools.isEmpty)
  { mode := d.mode
    category := s.normalCategory
    score := twoDecimals s.flooredScore
    scores := s.scores.rounded
    riskLevel := s.riskLevel
    budget := d.budget
    reasons := d.reasons
    hinted := s.hint.isSome }

end LaneQuota
