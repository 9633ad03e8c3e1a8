import LaneQuota.Route.Encoding
import LaneQuota.Route.Resolve

/-!
# Signals are read back

Signals that are written and read loosely lose what a route does not look at: scores that are not
finite, and a hinted budget without a field. All else comes back, member by member, so the route is
the same.
-/

namespace LaneQuota

namespace Json

@[simp]
theorem member?_append (name : String) (ms ns : List (String × Json)) :
    member? name (ms ++ ns) = (member? name ns).or (member? name ms) := by
  induction ms with
  | nil => simp [member?]
  | cons m ms ih =>
    simp only [List.cons_append, member?, ih]
    cases member? name ns <;> rfl

@[simp]
theorem member?_given {α : Type} (name key : String) (f : α → Json) (x : Option α) :
    member? name (given key f x) = if key = name then x.map f else none := by
  cases x <;> simp [given, member?]

end Json

namespace LooseSignals

theorem field?_obj (ms : List (String × Json)) (camel snake : String) :
    field? (.obj ms) camel snake = (Json.member? camel ms).or (Json.member? snake ms) := by
  simp only [field?, Json.get?]
  cases Json.member? camel ms <;> rfl

theorem bind_map_of_reads {α : Type} {f : α → Json} {read? : Json → Option α}
    (h : ∀ a, read? (f a) = some a) (x : Option α) : (x.map f).bind read? = x := by
  cases x with
  | none => rfl
  | some a => exact h a

theorem number?_ofFloat (x : Float) : number? (Json.ofFloat x) = finite? x := by
  unfold Json.ofFloat
  split
  · rfl
  · next hx =>
    rw [finite?, if_neg hx]
    rfl

theorem number?_given (x : Option Float) :
    (x.map Json.ofFloat).bind number? = x.bind finite? := by
  cases x with
  | none => rfl
  | some x => exact number?_ofFloat x

theorem isSigned64_toInt (n : Int64) : Word.isSigned64 n.toInt = true := by
  have hleast := n.le_toInt
  have hmost := n.toInt_lt
  rw [Word.isSigned64, decide_eq_true_iff, Word.minSigned64, Word.maxSigned64]
  omega

theorem integer?_int64Json (n : Int64) : integer? (int64Json n) = some n := by
  rw [int64Json, integer?, if_pos (isSigned64_toInt n), Int64.ofInt_toInt]

theorem mode?_json (m : Mode) : mode? m.json = some m := by
  cases m <;> decide +kernel

theorem riskLevel?_json (r : RiskLevel) : riskLevel? r.json = some r := by
  cases r <;> decide +kernel

theorem budget?_json (h : BudgetHint) :
    budget? h.json = if h.isEmpty then none else some h := by
  simp [budget?, BudgetHint.json, field?_obj, bind_map_of_reads integer?_int64Json]

end LooseSignals

open LooseSignals

def RouteHint.reread (h : RouteHint) : RouteHint :=
  { h with
    budget := h.budget.filter (fun b => !b.isEmpty)
    score := h.score.bind finite? }

def RouteSignals.reread (s : RouteSignals) : RouteSignals where
  difficulty := s.difficulty.bind finite?
  complexity := s.complexity.bind finite?
  action := s.action.bind finite?
  securityRisk := s.securityRisk.bind finite?
  category := s.category
  hint := s.hint.map RouteHint.reread

theorem RouteHint.hintMembers_json (h : RouteHint) : hintMembers h.json = h.reread := by
  have hbudget : (h.budget.map BudgetHint.json).bind budget? =
      h.budget.filter (fun b => !b.isEmpty) := by
    cases h.budget with
    | none => rfl
    | some b => cases hempty : b.isEmpty <;> simp [budget?_json, Option.filter, hempty]
  simp [hintMembers, RouteHint.json, field?_obj, hbudget, number?_given,
    bind_map_of_reads mode?_json, bind_map_of_reads riskLevel?_json, reread]

namespace RouteSignals

theorem hint?_json (s : RouteSignals) : hint? s.json = s.hint.map RouteHint.reread := by
  have hnested : nestedHint? s.json = s.hint.map RouteHint.reread := by
    have hmember : s.json.get? "hint" = s.hint.map RouteHint.json := by
      simp [RouteSignals.json, Json.get?]
    rw [nestedHint?, hmember]
    cases s.hint with
    | none => rfl
    | some h => exact congrArg some h.hintMembers_json
  -- No member that stands for a hint is written beside the hint itself.
  have hmode : field? s.json "modeHint" "mode_hint" = none := by
    simp [RouteSignals.json, field?_obj]
  have hbudget : field? s.json "budgetHint" "budget_hint" = none := by
    simp [RouteSignals.json, field?_obj]
  have hscore : field? s.json "routeScore" "route_score" = none := by
    simp [RouteSignals.json, field?_obj]
  rw [hint?, hmode, hbudget, hscore]
  exact hnested

theorem ofJson_json (s : RouteSignals) : ofJson s.json = s.reread := by
  have hcategory : (s.category.map Json.str).bind Json.asText? = s.category :=
    bind_map_of_reads (fun text => (rfl : Json.asText? (.str text) = some text)) _
  rw [ofJson, s.hint?_json]
  simp [RouteSignals.json, field?_obj, number?_given, hcategory, reread]

end RouteSignals

@[simp]
theorem unitScore?_bind_finite? (x : Option Float) :
    unitScore? (x.bind finite?) = unitScore? x := by
  cases x with
  | none => rfl
  | some x => by_cases hx : x.isFinite = true <;> simp [unitScore?, finite?, hx]

namespace RouteDraft

@[simp]
theorem start_filter (m : Mode) (hint : Option BudgetHint) (reasons : ReasonCodes) :
    start m (hint.filter (fun h => !h.isEmpty)) reasons = start m hint reasons := by
  simp [start, Option.filter_filter]

end RouteDraft

namespace RouteSignals

variable (s : RouteSignals)

@[simp]
theorem hintedMode_reread : s.reread.hintedMode = s.hintedMode := by
  rw [hintedMode, hintedMode, reread]
  cases s.hint <;> rfl

@[simp]
theorem hintedRisk_reread :
    s.reread.hint.bind RouteHint.riskLevel = s.hint.bind RouteHint.riskLevel := by
  rw [reread]
  cases s.hint <;> rfl

@[simp]
theorem hintedScore_reread :
    s.reread.hint.bind RouteHint.score = (s.hint.bind RouteHint.score).bind finite? := by
  rw [reread]
  cases s.hint <;> rfl

@[simp]
theorem hintedBudget_reread : s.reread.hint.bind RouteHint.budget =
    (s.hint.bind RouteHint.budget).filter (fun h => !h.isEmpty) := by
  rw [reread]
  cases s.hint <;> rfl

@[simp]
theorem scores_reread : s.reread.scores = s.scores := by simp [scores, reread]

@[simp]
theorem baseScore_reread : s.reread.baseScore = s.baseScore := by simp [baseScore]

@[simp]
theorem floorApplies_reread : s.reread.floorApplies = s.floorApplies := by
  rw [floorApplies, baseScore_reread]
  rfl

@[simp]
theorem flooredScore_reread : s.reread.flooredScore = s.flooredScore := by simp [flooredScore]

@[simp]
theorem baseMode_reread : s.reread.baseMode = s.baseMode := by simp [baseMode]

@[simp]
theorem riskLevel_reread : s.reread.riskLevel = s.riskLevel := by simp [riskLevel]

@[simp]
theorem isElevated_reread : s.reread.isElevated = s.isElevated := by simp [isElevated]

@[simp]
theorem draft_reread (hasTools : Bool) : s.reread.draft hasTools = s.draft hasTools := by
  simp [draft]

theorem resolve_reread (tools : List String) : resolve s.reread tools = resolve s tools := by
  have hhinted : s.reread.hint.isSome = s.hint.isSome := Option.isSome_map
  have hcategory : s.reread.normalCategory = s.normalCategory := rfl
  simp [resolve, hhinted, hcategory]

end RouteSignals

theorem resolve_ofJson_json (s : RouteSignals) (tools : List String) :
    resolve (RouteSignals.ofJson s.json) tools = resolve s tools := by
  rw [s.ofJson_json, s.resolve_reread]

end LaneQuota
