import LaneQuota.Route.Resolve
import Mathlib.Data.List.Nodup
import Mathlib.Tactic.SplitIfs

/-!
# Reasons of routes

Each step that makes a route remarks on what it changes, and no later step takes a remark back. So
the reasons of a route are read off the signals, in the order of the steps, and what the reasons say
about mode and budget is what has happened to them.
-/

namespace LaneQuota

namespace ReasonCodes

variable {r : ReasonCodes} {remarks : List (Bool × String)}

def pushAll (r : ReasonCodes) (remarks : List (Bool × String)) : ReasonCodes :=
  remarks.foldl (fun r x => r.pushIf x.1 x.2) r

theorem codes_push {code : String} (h : code ∉ r.codes) :
    (r.push code).codes = r.codes ++ [code] := by
  unfold push
  split_ifs with hcontains
  · exact absurd (List.contains_iff_mem.mp hcontains) h
  · rfl

theorem codes_pushAll (hnodup : (remarks.map Prod.snd).Nodup)
    (hnew : ∀ x ∈ remarks, x.2 ∉ r.codes) :
    (r.pushAll remarks).codes = r.codes ++ (remarks.filter Prod.fst).map Prod.snd := by
  induction remarks generalizing r with
  | nil => simp [pushAll]
  | cons x rest ih =>
    obtain ⟨applies, code⟩ := x
    obtain ⟨hcode, hrest⟩ := List.nodup_cons.mp hnodup
    have hnew' : ∀ x ∈ rest, x.2 ∉ r.codes := fun x hx => hnew x (List.mem_cons_of_mem _ hx)
    cases applies with
    | false => exact ih hrest hnew'
    | true =>
      have hpush := codes_push (hnew _ List.mem_cons_self)
      have hlater : ∀ x ∈ rest, x.2 ∉ (r.push code).codes := by
        intro x hx
        rw [hpush, List.mem_append, List.mem_singleton]
        rintro (hold | heq)
        · exact hnew' x hx hold
        · exact hcode (heq ▸ List.mem_map_of_mem hx)
      have htail : ((r.push code).pushAll rest).codes = _ := ih hrest hlater
      rw [hpush, List.append_assoc] at htail
      exact htail

theorem codes_pushAll_empty (hnodup : (remarks.map Prod.snd).Nodup) :
    (empty.pushAll remarks).codes = (remarks.filter Prod.fst).map Prod.snd :=
  codes_pushAll hnodup (fun _ _ => List.not_mem_nil)

end ReasonCodes

namespace BudgetHint

theorem eq_empty_of_isEmpty {h : BudgetHint} (hempty : h.isEmpty = true) : h = empty := by
  simp only [isEmpty, Bool.and_eq_true, Option.isNone_iff_eq_none] at hempty
  obtain ⟨⟨hturns, hsubOps⟩, hseconds⟩ := hempty
  cases h
  simp_all [empty]

end BudgetHint

namespace RouteDraft

theorem start_eq (m : Mode) (hint : Option BudgetHint) (reasons : ReasonCodes) :
    let h := hint.getD .empty
    start m hint reasons = ⟨m, h.apply (Budget.standard m),
      (reasons.pushIf (!h.isEmpty) Reason.budgetHintApplied).pushIf h.isCut
        Reason.budgetClamped⟩ := by
  cases hint with
  | none => rfl
  | some h =>
    cases hempty : h.isEmpty with
    | true =>
      obtain rfl := BudgetHint.eq_empty_of_isEmpty hempty
      rfl
    | false => simp [start, Option.filter, hempty, ReasonCodes.pushIf]

theorem makeRoomForTools_makeSafe (d : RouteDraft) (elevated hasTools : Bool) :
    let safe := elevated && d.mode != .task
    let tools := hasTools && d.mode = .instant && !elevated
    (d.makeSafe elevated).makeRoomForTools hasTools =
      ⟨if safe || tools then .task else d.mode,
        if safe || tools then Budget.standard .task else d.budget,
        (d.reasons.pushIf safe Reason.modeForcedSafe).pushIf tools Reason.modeForcedTools⟩ := by
  obtain ⟨mode, budget, reasons⟩ := d
  cases elevated <;> cases hasTools <;> cases mode <;> rfl

theorem dropSlots_eq (d : RouteDraft) (hasTools : Bool) :
    let drops := (d.mode = .instant || !hasTools) && 0 < d.budget.maxSubOps
    d.dropSlots hasTools =
      ⟨d.mode, if drops then { d.budget with maxSubOps := 0 } else d.budget,
        d.reasons.pushIf drops Reason.toolSlotsRemoved⟩ := by
  unfold dropSlots
  split_ifs with hdrops
  · simp [hdrops, ReasonCodes.pushIf]
  · simp [hdrops, ReasonCodes.pushIf]

end RouteDraft

namespace Bounds

variable (b : Bounds)

def Follows (hinted : Option Int64) (default n : Nat) : Prop :=
  match hinted with
  | some v => (n : Int) = max (b.least : Int) (min (b.most : Int) v.toInt)
  | none => n = default

theorem follows_apply (hinted : Option Int64) (default : Nat) :
    b.Follows hinted default (b.apply default hinted) := by
  cases hinted with
  | none => rfl
  | some v =>
    simp only [Follows, apply, clamp]
    omega

def Exceeded (hinted : Option Int64) : Prop :=
  ∃ v, hinted = some v ∧ (v.toInt < b.least ∨ b.most < v.toInt)

theorem cuts_iff (hinted : Option Int64) : b.cuts hinted = true ↔ b.Exceeded hinted := by
  cases hinted with
  | none => simp [cuts, Exceeded]
  | some v =>
    simp only [cuts, contains, Exceeded, Option.any_some, Option.some.injEq, exists_eq_left',
      Bool.not_eq_true', decide_eq_false_iff_not]
    omega

end Bounds

theorem BudgetHint.isCut_iff (h : BudgetHint) : h.isCut = true ↔
    Bounds.turns.Exceeded h.maxTurns ∨ Bounds.subOps.Exceeded h.maxSubOps ∨
      Bounds.seconds.Exceeded h.seconds := by
  simp only [isCut, Bool.or_eq_true, Bounds.cuts_iff, or_assoc]

namespace RouteSignals

variable (s : RouteSignals) (hasTools : Bool)

def budgetHint : BudgetHint := (s.hint.bind RouteHint.budget).getD .empty

def forcedSafe : Bool := s.isElevated && s.baseMode != .task

def forcedTools : Bool := hasTools && s.baseMode = .instant && !s.isElevated

def forced : Bool := s.forcedSafe || s.forcedTools hasTools

def settledMode : Mode := if s.forced hasTools then .task else s.baseMode

def settledBudget : Budget :=
  if s.forced hasTools then Budget.standard .task
  else s.budgetHint.apply (Budget.standard s.baseMode)

def dropsSlots : Bool :=
  (s.settledMode hasTools = .instant || !hasTools) && 0 < (s.settledBudget hasTools).maxSubOps

def remarks : List (Bool × String) := [
  (s.floorApplies, Reason.visionFloorApplied),
  (!s.budgetHint.isEmpty, Reason.budgetHintApplied),
  (s.budgetHint.isCut, Reason.budgetClamped),
  (s.forcedSafe, Reason.modeForcedSafe),
  (s.forcedTools hasTools, Reason.modeForcedTools),
  (s.dropsSlots hasTools, Reason.toolSlotsRemoved)]

theorem draft_eq : s.draft hasTools =
    ⟨s.settledMode hasTools,
      if s.dropsSlots hasTools then { s.settledBudget hasTools with maxSubOps := 0 }
      else s.settledBudget hasTools,
      ReasonCodes.empty.pushAll (s.remarks hasTools)⟩ := by
  unfold draft
  dsimp only
  rw [RouteDraft.start_eq, RouteDraft.makeRoomForTools_makeSafe, RouteDraft.dropSlots_eq]
  rfl

theorem nodup_remarks : ((s.remarks hasTools).map Prod.snd).Nodup := by
  simp only [remarks, List.map_cons, List.map_nil]
  decide

theorem codes_resolve (tools : List String) : (resolve s tools).reasons.codes =
    ((s.remarks (!tools.isEmpty)).filter Prod.fst).map Prod.snd := by
  have hreasons := congrArg RouteDraft.reasons (s.draft_eq (!tools.isEmpty))
  change (resolve s tools).reasons = _ at hreasons
  rw [hreasons]
  exact ReasonCodes.codes_pushAll_empty (s.nodup_remarks _)

theorem hasReason_resolve {tools : List String} {x : Bool × String}
    (hx : x ∈ s.remarks (!tools.isEmpty)) : (resolve s tools).hasReason x.2 = x.1 := by
  rw [Route.hasReason, ReasonCodes.contains, Bool.eq_iff_iff, List.contains_iff_mem,
    codes_resolve, List.mem_map]
  constructor
  · rintro ⟨y, hy, hcode⟩
    obtain ⟨hmem, happlies⟩ := List.mem_filter.mp hy
    -- No two remarks have the same code, so the one that applies is this one.
    rw [← List.inj_on_of_nodup_map (s.nodup_remarks _) hmem hx hcode]
    exact happlies
  · exact fun happlies => ⟨x, List.mem_filter.mpr ⟨hx, happlies⟩, rfl⟩

theorem mode_resolve (tools : List String) :
    (resolve s tools).mode = s.settledMode (!tools.isEmpty) :=
  congrArg RouteDraft.mode (s.draft_eq (!tools.isEmpty))

theorem budget_resolve (tools : List String) :
    (resolve s tools).budget =
      if s.dropsSlots (!tools.isEmpty) then
        { s.settledBudget (!tools.isEmpty) with maxSubOps := 0 }
      else s.settledBudget (!tools.isEmpty) :=
  congrArg RouteDraft.budget (s.draft_eq (!tools.isEmpty))

theorem maxTurns_resolve (tools : List String) :
    (resolve s tools).budget.maxTurns = (s.settledBudget (!tools.isEmpty)).maxTurns := by
  rw [budget_resolve]
  split_ifs <;> rfl

theorem seconds_resolve (tools : List String) :
    (resolve s tools).budget.seconds = (s.settledBudget (!tools.isEmpty)).seconds := by
  rw [budget_resolve]
  split_ifs <;> rfl

theorem dropsSlots_iff (tools : List String) : s.dropsSlots (!tools.isEmpty) = true ↔
    0 < (s.settledBudget (!tools.isEmpty)).maxSubOps ∧
      (s.settledMode (!tools.isEmpty) = .instant ∨ tools = []) := by
  simp [dropsSlots, and_comm]

theorem maxSubOps_resolve (tools : List String) : (resolve s tools).budget.maxSubOps =
    if s.settledMode (!tools.isEmpty) = .instant ∨ tools = [] then 0
    else (s.settledBudget (!tools.isEmpty)).maxSubOps := by
  rw [budget_resolve]
  split_ifs with hdrops huseless huseless
  · rfl
  · exact absurd ((s.dropsSlots_iff tools).mp hdrops).2 huseless
  · by_contra hslots
    exact hdrops ((s.dropsSlots_iff tools).mpr ⟨Nat.pos_of_ne_zero hslots, huseless⟩)
  · rfl

theorem budget_of_forced {tools : List String} (h : s.forced (!tools.isEmpty) = true) :
    (resolve s tools).budget =
      if s.dropsSlots (!tools.isEmpty) then { Budget.standard .task with maxSubOps := 0 }
      else Budget.standard .task := by
  rw [budget_resolve, settledBudget, if_pos h]

theorem follows_of_not_forced {tools : List String} (h : s.forced (!tools.isEmpty) = false) :
    let default := Budget.standard s.baseMode
    let b := (resolve s tools).budget
    Bounds.turns.Follows s.budgetHint.maxTurns default.maxTurns b.maxTurns ∧
      Bounds.seconds.Follows s.budgetHint.seconds default.seconds b.seconds ∧
      if s.baseMode = .instant ∨ tools = [] then b.maxSubOps = 0
      else Bounds.subOps.Follows s.budgetHint.maxSubOps default.maxSubOps b.maxSubOps := by
  have hbudget : s.settledBudget (!tools.isEmpty) =
      s.budgetHint.apply (Budget.standard s.baseMode) := by simp [settledBudget, h]
  have hmode : s.settledMode (!tools.isEmpty) = s.baseMode := by simp [settledMode, h]
  dsimp only
  rw [maxTurns_resolve, seconds_resolve, maxSubOps_resolve, hbudget, hmode]
  refine ⟨Bounds.follows_apply _ _ _, Bounds.follows_apply _ _ _, ?_⟩
  split_ifs
  · rfl
  · exact Bounds.follows_apply _ _ _

theorem settledMode_ne_iff : s.settledMode hasTools ≠ s.baseMode ↔ s.forced hasTools = true := by
  unfold settledMode
  split_ifs with hforced
  · -- A mode is only forced where it is another one.
    refine iff_of_true (fun htask => ?_) hforced
    simp [forced, forcedSafe, forcedTools, ← htask] at hforced
  · exact iff_of_false (fun h => h rfl) hforced

theorem baseMode_eq : s.baseMode =
    match s.hintedMode, s.floorApplies with
    | some m, false => m
    | _, _ => Mode.forScore s.flooredScore := by
  unfold baseMode
  cases s.hintedMode <;> cases s.floorApplies <;> rfl

theorem isEmpty_budgetHint : (!s.budgetHint.isEmpty) = true ↔
    s.budgetHint.maxTurns.isSome = true ∨ s.budgetHint.maxSubOps.isSome = true ∨
      s.budgetHint.seconds.isSome = true := by
  simp only [BudgetHint.isEmpty, Bool.not_and, Bool.or_eq_true, Option.not_isNone, or_assoc]

end RouteSignals

/-- The reasons of a route say what has become of the mode and the budget that the signals ask for:
whether the mode was forced, whether a budget was hinted and cut to the bounds, and whether the slots
for tools were taken away. Each reason is given once, in the order of the steps. -/
theorem reasons_explain_route (s : RouteSignals) (tools : List String) :
    let r := resolve s tools
    let base := match s.hintedMode, s.floorApplies with
      | some m, false => m
      | _, _ => Mode.forScore s.flooredScore
    let hint := s.budgetHint
    let forced := r.hasReason Reason.modeForcedSafe || r.hasReason Reason.modeForcedTools
    let dropped := r.hasReason Reason.toolSlotsRemoved
    let settled := if forced then Budget.standard .task else hint.apply (Budget.standard base)
    (r.mode ≠ base ↔ forced = true) ∧
      (forced = true → r.mode = .task ∧ r.budget =
        if dropped then { Budget.standard .task with maxSubOps := 0 }
        else Budget.standard .task) ∧
      (forced = false →
        Bounds.turns.Follows hint.maxTurns (Budget.standard base).maxTurns r.budget.maxTurns ∧
        Bounds.seconds.Follows hint.seconds (Budget.standard base).seconds r.budget.seconds ∧
        if base = .instant ∨ tools = [] then r.budget.maxSubOps = 0
        else Bounds.subOps.Follows hint.maxSubOps (Budget.standard base).maxSubOps
          r.budget.maxSubOps) ∧
      (r.hasReason Reason.visionFloorApplied = true ↔ s.floorApplies = true) ∧
      (r.hasReason Reason.budgetHintApplied = true ↔
        hint.maxTurns.isSome = true ∨ hint.maxSubOps.isSome = true ∨
          hint.seconds.isSome = true) ∧
      (r.hasReason Reason.budgetClamped = true ↔
        Bounds.turns.Exceeded hint.maxTurns ∨ Bounds.subOps.Exceeded hint.maxSubOps ∨
          Bounds.seconds.Exceeded hint.seconds) ∧
      (dropped = true ↔ 0 < settled.maxSubOps ∧ (r.mode = .instant ∨ tools = [])) ∧
      r.reasons.codes.Nodup ∧
      r.reasons.codes.Sublist [Reason.visionFloorApplied, Reason.budgetHintApplied,
        Reason.budgetClamped, Reason.modeForcedSafe, Reason.modeForcedTools,
        Reason.toolSlotsRemoved] := by
  intro r base hint forced dropped settled
  have hbase : s.baseMode = base := s.baseMode_eq
  -- The reasons give back all remarks, and from those follows what was forced.
  have hremark : ∀ x ∈ s.remarks (!tools.isEmpty), r.hasReason x.2 = x.1 :=
    fun x hx => s.hasReason_resolve hx
  simp only [RouteSignals.remarks, List.forall_mem_cons] at hremark
  obtain ⟨hfloor, happlied, hclamped, hsafe, htools, hdropped, -⟩ := hremark
  change dropped = s.dropsSlots (!tools.isEmpty) at hdropped
  have hforced : forced = s.forced (!tools.isEmpty) := by
    rw [RouteSignals.forced, ← hsafe, ← htools]
  have hsettled : settled = s.settledBudget (!tools.isEmpty) := by
    rw [RouteSignals.settledBudget, ← hforced, hbase]
  refine ⟨?_, fun h => ⟨?_, ?_⟩, fun h => ?_, ?_, ?_, ?_, ?_, r.reasons.nodup, ?_⟩
  · rw [← hbase, hforced, ← s.settledMode_ne_iff, ← s.mode_resolve]
  · rw [s.mode_resolve, RouteSignals.settledMode, ← hforced, if_pos h]
  · rw [hdropped]
    exact s.budget_of_forced (hforced ▸ h)
  · rw [← hbase]
    exact s.follows_of_not_forced (hforced ▸ h)
  · rw [hfloor]
  · rw [happlied]
    exact s.isEmpty_budgetHint
  · rw [hclamped]
    exact hint.isCut_iff
  · rw [hdropped, hsettled, s.mode_resolve]
    exact s.dropsSlots_iff tools
  · rw [s.codes_resolve]
    exact List.filter_sublist.map Prod.snd

end LaneQuota
