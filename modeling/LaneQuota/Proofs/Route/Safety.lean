import LaneQuota.Route.Resolve
import Mathlib.Tactic.SplitIfs

/-!
# Safe routes

A draft is rewritten step by step until it is a route. Its budget is within bounds from the start
and stays there. Each later step makes mode, risk, tools and slots fit together a bit more, and keeps
what the steps before it have reached.
-/

namespace LaneQuota

def Bounds.Has (b : Bounds) (n : Nat) : Prop := b.least ≤ n ∧ n ≤ b.most

instance (b : Bounds) : DecidablePred b.Has := fun _ => inferInstanceAs (Decidable (_ ∧ _))

theorem Bounds.has_clamp {b : Bounds} (h : b.least ≤ b.most) (n : Int) : b.Has (b.clamp n) := by
  unfold Has clamp
  omega

theorem Bounds.has_apply {b : Bounds} {default : Nat} (h : b.Has default) (hinted : Option Int64) :
    b.Has (b.apply default hinted) := by
  cases hinted with
  | none => exact h
  | some n => exact has_clamp (Nat.le_trans h.1 h.2) n.toInt

namespace Budget

structure Bounded (b : Budget) : Prop where
  turns : Bounds.turns.Has b.maxTurns
  subOps : Bounds.subOps.Has b.maxSubOps
  seconds : Bounds.seconds.Has b.seconds

theorem bounded_standard (m : Mode) : (standard m).Bounded := by
  cases m <;> exact ⟨by decide, by decide, by decide⟩

theorem Bounded.withHint {b : Budget} (h : b.Bounded) (hint : BudgetHint) :
    (hint.apply b).Bounded :=
  ⟨Bounds.has_apply h.turns _, Bounds.has_apply h.subOps _, Bounds.has_apply h.seconds _⟩

theorem Bounded.withoutSlots {b : Budget} (h : b.Bounded) : { b with maxSubOps := 0 }.Bounded :=
  ⟨h.turns, ⟨Nat.le_refl 0, Nat.zero_le _⟩, h.seconds⟩

end Budget

namespace RouteDraft

variable (d : RouteDraft) (elevated hasTools : Bool)

theorem bounded_start (m : Mode) (hint : Option BudgetHint) (reasons : ReasonCodes) :
    (start m hint reasons).budget.Bounded := by
  unfold start
  split
  · exact Budget.bounded_standard m
  · exact (Budget.bounded_standard m).withHint _

variable {d} in
theorem bounded_makeSafe (h : d.budget.Bounded) : (d.makeSafe elevated).budget.Bounded := by
  unfold makeSafe
  split_ifs
  · exact Budget.bounded_standard .task
  · exact h

variable {d} in
theorem bounded_makeRoomForTools (h : d.budget.Bounded) :
    (d.makeRoomForTools hasTools).budget.Bounded := by
  unfold makeRoomForTools
  split_ifs
  · exact Budget.bounded_standard .task
  · exact h

variable {d} in
theorem bounded_dropSlots (h : d.budget.Bounded) : (d.dropSlots hasTools).budget.Bounded := by
  unfold dropSlots
  split_ifs
  · exact h.withoutSlots
  · exact h

theorem mode_makeSafe (h : elevated = true) : (d.makeSafe elevated).mode = .task := by
  unfold makeSafe
  split_ifs with hforce
  · rfl
  · simpa [h] using hforce

theorem mode_makeRoomForTools (h : hasTools = true) :
    (d.makeRoomForTools hasTools).mode ≠ .instant := by
  unfold makeRoomForTools
  split_ifs with hforce
  · exact Mode.noConfusion
  · simpa [h] using hforce

theorem makeRoomForTools_of_task (h : d.mode = .task) : d.makeRoomForTools hasTools = d := by
  unfold makeRoomForTools
  simp [h]

theorem mode_dropSlots : (d.dropSlots hasTools).mode = d.mode := by
  unfold dropSlots
  split_ifs <;> rfl

theorem maxSubOps_dropSlots (h : d.mode = .instant ∨ hasTools = false) :
    (d.dropSlots hasTools).budget.maxSubOps = 0 := by
  have hcondition : (decide (d.mode = .instant) || !hasTools) = true := by simpa using h
  unfold dropSlots
  rw [hcondition]
  split_ifs with hslots
  · rfl
  · simpa using hslots

structure Safe : Prop where
  bounded : d.budget.Bounded
  risk : elevated = true → d.mode = .task
  tools : hasTools = true → d.mode ≠ .instant
  slots : d.mode = .instant ∨ hasTools = false → d.budget.maxSubOps = 0

end RouteDraft

theorem RouteSignals.safe_draft (s : RouteSignals) (hasTools : Bool) :
    (s.draft hasTools).Safe s.isElevated hasTools := by
  unfold draft
  extract_lets reasons start
  have hstart : start.budget.Bounded := RouteDraft.bounded_start _ _ _
  have hsafe := RouteDraft.bounded_makeSafe s.isElevated hstart
  have hroom := RouteDraft.bounded_makeRoomForTools hasTools hsafe
  refine ⟨RouteDraft.bounded_dropSlots hasTools hroom, fun hrisk => ?_, fun htools => ?_,
    fun hslots => ?_⟩
  · have htask := start.mode_makeSafe s.isElevated hrisk
    rw [RouteDraft.mode_dropSlots, RouteDraft.makeRoomForTools_of_task _ _ htask, htask]
  · rw [RouteDraft.mode_dropSlots]
    exact RouteDraft.mode_makeRoomForTools _ _ htools
  · rw [RouteDraft.mode_dropSlots] at hslots
    exact RouteDraft.maxSubOps_dropSlots _ _ hslots

namespace RiskLevel

theorem rank_le_max_right (r s : RiskLevel) : s.rank ≤ (r.max s).rank := by
  unfold max
  split_ifs with h
  · exact Nat.le_of_lt h
  · exact Nat.le_refl _

theorem isElevated_iff {r : RiskLevel} : r.isElevated = true ↔ r = .high ∨ r = .critical := by
  cases r <;> decide

end RiskLevel

namespace RouteSignals

variable (s : RouteSignals)

theorem riskLevel_of_none (h : s.hint.bind RouteHint.riskLevel = none) :
    s.riskLevel = RiskLevel.forScore s.scores.securityRisk := by
  simp only [riskLevel, h]

theorem riskLevel_of_some {supplied : RiskLevel}
    (h : s.hint.bind RouteHint.riskLevel = some supplied) :
    s.riskLevel = supplied.max (RiskLevel.forScore s.scores.securityRisk) := by
  simp only [riskLevel, h]

theorem derived_le_riskLevel :
    (RiskLevel.forScore s.scores.securityRisk).rank ≤ s.riskLevel.rank := by
  cases h : s.hint.bind RouteHint.riskLevel with
  | none => exact Nat.le_of_eq (by rw [s.riskLevel_of_none h])
  | some supplied =>
    rw [s.riskLevel_of_some h]
    exact RiskLevel.rank_le_max_right _ _

theorem isElevated_of_riskLevel (h : s.riskLevel = .high ∨ s.riskLevel = .critical) :
    s.isElevated = true := by
  unfold isElevated
  rw [RiskLevel.isElevated_iff.mpr h, Bool.or_true]

end RouteSignals

/-- Whatever the signals are, their route keeps to the bounds of its budget, has slots only where
tools were selected for more than an instant answer, and is a task where the risk is elevated. A hint
does not lower the level that the score of risk gives. -/
theorem route_safe (j : Json) (tools : List String) :
    let s := RouteSignals.ofJson j
    let r := resolve s tools
    (1 ≤ r.budget.maxTurns ∧ r.budget.maxTurns ≤ 20) ∧
      (0 ≤ r.budget.maxSubOps ∧ r.budget.maxSubOps ≤ 20) ∧
      (10 ≤ r.budget.seconds ∧ r.budget.seconds ≤ 1800) ∧
      (r.mode = .instant ∨ tools = [] → r.budget.maxSubOps = 0) ∧
      (tools ≠ [] → r.mode ≠ .instant) ∧
      (r.riskLevel = .high ∨ r.riskLevel = .critical → r.mode = .task) ∧
      (RiskLevel.forScore s.scores.securityRisk).rank ≤ r.riskLevel.rank ∧
      (s.hint.bind RouteHint.riskLevel = none →
        r.riskLevel = RiskLevel.forScore s.scores.securityRisk) := by
  intro s r
  obtain ⟨hbounded, hrisk, htools, hslots⟩ := s.safe_draft (!tools.isEmpty)
  refine ⟨hbounded.turns, hbounded.subOps, hbounded.seconds, fun h => ?_, fun h => ?_, fun h => ?_,
    s.derived_le_riskLevel, s.riskLevel_of_none⟩
  · exact hslots (h.imp_right (by simp +contextual))
  · exact htools (by simpa using h)
  · exact hrisk (s.isElevated_of_riskLevel h)

end LaneQuota
