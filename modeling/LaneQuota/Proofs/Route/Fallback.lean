import LaneQuota.Proofs.Ledger.Runs
import LaneQuota.Route.Plan
import LaneQuota.Settings.Issue

namespace LaneQuota

theorem Settings.enforced?_fallbackKey {s : Settings} {known : KnownZones}
    {env : Environment} (h : ∀ i ∈ s.issues known env, i.field ≠ "ledger.fallback_lane") :
    s.limitsTable.enforced? s.ledger.fallbackKey = none := by
  by_contra hlimits
  have hissue : Issue.limitedFallback s.ledger.fallbackKey ∈ s.issues known env := by
    simp [Settings.issues, Issue.when, Option.isSome_iff_ne_none, hlimits]
  exact h _ hissue rfl

namespace Ledger

variable (l : Ledger) (now : Instant)

theorem getD_fallback_canCall (r : Request) :
    (l.canCall now r).answer.fallback.getD l.policy.fallback = l.policy.fallback := by
  unfold canCall
  split
  · rfl
  · split
    · rfl
    · split_ifs
      · dsimp only
        split <;> rfl
      · rfl

theorem policy_canCall (r : Request) : (l.canCall now r).ledger.policy = l.policy := by
  obtain ⟨s, -, hledger⟩ := l.looksTo_canCall now r
  rw [hledger]

theorem lane_plan (h : l.policy.limits.enforced? l.policy.fallback = none)
    (routing : RoutingSettings) (mode : Mode) (tenant : Option String) (estimate : Usage) :
    (l.plan now routing mode tenant estimate).1.lane =
      some (if (l.canCall now ⟨routing.laneFor mode, tenant, estimate⟩).answer.allowed
        then routing.laneFor mode else l.policy.fallback) := by
  let first := l.canCall now ⟨routing.laneFor mode, tenant, estimate⟩
  have hsecond : (first.ledger.canCall now ⟨l.policy.fallback, tenant, estimate⟩).answer.allowed =
      true := by
    apply allowed_canCall_of_unenforced
    rw [policy_canCall]
    exact h
  unfold plan planWith
  simp only [getD_fallback_canCall]
  split_ifs with hfirst hsame
  · rfl
  · -- the fallback lane, when it is preferred, would have been let in at once
    refine absurd (l.allowed_canCall_of_unenforced now ?_) hfirst
    rw [← hsame]
    exact h
  · rfl

theorem decision_plan (routing : RoutingSettings) (mode : Mode) (tenant : Option String)
    (estimate : Usage) : (l.plan now routing mode tenant estimate).1.decision =
      (l.canCall now ⟨routing.laneFor mode, tenant, estimate⟩).answer := by
  unfold plan planWith
  dsimp only
  split_ifs <;> rfl

end Ledger

theorem lane_plan_of_no_fallback_issue (s : Settings) (known : KnownZones)
    (env : Environment) (hissues : ∀ i ∈ s.issues known env, i.field ≠ "ledger.fallback_lane")
    (zone : Zone) (l : Ledger) (hl : l.policy = .inZone zone s.ledger s.limitsTable)
    (ops : Schedule) (now : Instant) (mode : Mode) (tenant : Option String) (estimate : Usage) :
    let plan := ((l.after ops).plan now s.routing mode tenant estimate).1
    (plan.decision.allowed = true ∧ plan.lane = some (s.routing.laneFor mode)) ∨
      (plan.decision.allowed = false ∧ plan.lane = some s.ledger.fallbackKey) := by
  intro plan
  have hpolicy : (l.after ops).policy = .inZone zone s.ledger s.limitsTable :=
    (l.policy_after ops).trans hl
  have hfallback : (l.after ops).policy.fallback = s.ledger.fallbackKey := by
    rw [hpolicy]
    rfl
  have hopen : (l.after ops).policy.limits.enforced? (l.after ops).policy.fallback = none := by
    rw [hpolicy]
    exact Settings.enforced?_fallbackKey hissues
  have hlane := (l.after ops).lane_plan now hopen s.routing mode tenant estimate
  have hdecision := (l.after ops).decision_plan now s.routing mode tenant estimate
  rw [← hdecision, hfallback] at hlane
  cases hallowed : plan.decision.allowed with
  | true => exact Or.inl ⟨rfl, by rw [hlane, if_pos hallowed]⟩
  | false => exact Or.inr ⟨rfl, by rw [hlane, if_neg (by simp [plan, hallowed])]⟩

def relaxedSettings : Settings :=
  { Settings.standard with
    limits := [⟨sampleLane, some 100, none, true⟩, ⟨⟨"local", "local"⟩, some 10, none, true⟩,
      ⟨⟨"local", "local"⟩, some 10, none, false⟩]
    routing := { RoutingSettings.standard with task := sampleLane } }

theorem lane_plan_of_no_fallback_issue_relaxed :
    let l := Ledger.start
      (.ofSettings ZoneTable.named relaxedSettings.ledger relaxedSettings.limitsTable)
    (∀ i ∈ relaxedSettings.issues ZoneTable.named ∅, i.field ≠ "ledger.fallback_lane") ∧
      ((l.after [(noon 1, .commit "a" sampleLane none (.ofTokens 120 0))]).plan (noon 1)
        relaxedSettings.routing .task (some "ann") (.ofTokens 1 0)).1.lane =
        some ⟨"local", "local"⟩ := by
  intro l
  have hissues : ∀ i ∈ relaxedSettings.issues ZoneTable.named ∅,
      i.field ≠ "ledger.fallback_lane" := by
    decide +kernel
  refine ⟨hissues, ?_⟩
  rcases lane_plan_of_no_fallback_issue relaxedSettings ZoneTable.named ∅ hissues _ l rfl
    [(noon 1, .commit "a" sampleLane none (.ofTokens 120 0))] (noon 1) .task (some "ann")
    (.ofTokens 1 0) with ⟨hallowed, -⟩ | ⟨-, hlane⟩
  · exact absurd hallowed (by decide +kernel)
  · exact hlane

end LaneQuota
