import LaneQuota.Proofs.Ledger.Runs

namespace LaneQuota

namespace Ledger

section Pool

variable {p : LedgerPolicy} {w : Window} {now : Instant} {limits : Limits} {s : LedgerState}
  {key : LaneKey} {t : String} {estimate : Usage}

theorem admitted_shared_iff (h : Request.Admitted ⟨key, some t, estimate⟩ p w now limits s) :
    Request.Admitted ⟨key, none, estimate⟩ p w now limits s ↔
      ((s.cell .shared key.text).seen w now).hardStopped = false := by
  constructor
  · intro hshared
    exact hshared.latch
  · intro hlatch
    refine ⟨hlatch, fun d hd => ?_, fun cap hcap => ?_⟩
    · exact ⟨((h.daily d hd).2 rfl).2, fun ht => absurd ht Bool.false_ne_true⟩
    · exact ⟨(h.lifetime cap hcap).2 rfl, fun ht => absurd ht Bool.false_ne_true⟩

theorem latch_of_admitted (h : Request.Admitted ⟨key, some t, estimate⟩ p w now limits s)
    (hd : limits.dailyTokens.isSome = true) :
    ((s.cell .shared key.text).seen w now).hardStopped = false := by
  obtain ⟨d, hd⟩ := Option.isSome_iff_exists.mp hd
  exact ((h.daily d hd).2 rfl).1

end Pool

theorem shared_refuses_iff_of_tenant_allowed (l : Ledger) (now : Instant) (key : LaneKey)
    (t : String) (estimate : Usage) (limits : Limits)
    (hlimits : l.policy.limits.enforced? key = some limits) (hunlimited : l.state.unlimited = false)
    (hexempt : l.state.exempt.contains t = false)
    (hallowed : (l.canCall now ⟨key, some t, estimate⟩).answer.allowed = true) :
    (l.canCall now ⟨key, none, estimate⟩).answer.allowed = false ↔
      limits.dailyTokens = none ∧
        ((l.state.cell .shared key.text).seen (l.window now) now).hardStopped = true := by
  have hfree : l.exemption? (some t) = none := by simp [exemption?, hunlimited, hexempt]
  have hfree' : l.exemption? none = none := by simp [exemption?, hunlimited]
  have htenant := (l.allowed_canCall_iff now hfree hlimits).mp hallowed
  have hshared := (l.allowed_canCall_iff (r := ⟨key, none, estimate⟩) now hfree' hlimits).trans
    (admitted_shared_iff htenant)
  rw [← Bool.not_eq_true, hshared, Bool.not_eq_false]
  -- Only the daily check of a tenant looks at the latch of the shared bucket.
  constructor
  · intro hlatch
    refine ⟨?_, hlatch⟩
    cases hd : limits.dailyTokens with
    | none => rfl
    | some d =>
      have hopen := latch_of_admitted htenant (by simp [hd])
      rw [hlatch] at hopen
      exact absurd hopen (by decide)
  · exact And.right

def spentByTenant : Schedule := [
  (noon 1, .canCall ⟨sampleLane, some "ann", ⟨0, 0, 10.0⟩⟩),
  (noon 1, .reserve "a" ⟨sampleLane, some "ann", ⟨0, 0, 10.0⟩⟩),
  (noon 1, .commit "a" sampleLane (some "ann") ⟨0, 0, 10.0⟩)]

def closedPool : Ledger := (start (samplePolicy ⟨none, some 10.0, true⟩)).after spentByTenant

theorem shared_refuses_closedPool :
    (closedPool.canCall (noon 1) ⟨sampleLane, some "bob", .ofTokens 5 0⟩).answer.allowed = true ∧
      ((closedPool.canCall (noon 1) ⟨sampleLane, none, .ofTokens 5 0⟩).answer.allowed = false ↔
        (⟨none, some 10.0, true⟩ : Limits).dailyTokens = none ∧
          ((closedPool.state.cell .shared sampleLane.text).seen (closedPool.window (noon 1))
            (noon 1)).hardStopped = true) :=
  ⟨by decide +kernel, shared_refuses_iff_of_tenant_allowed closedPool (noon 1) sampleLane "bob"
    (.ofTokens 5 0) ⟨none, some 10.0, true⟩ (by decide +kernel) (by decide +kernel)
    (by decide +kernel) (by decide +kernel)⟩

theorem tenant_passes_closedPool :
    closedPool.policy.limits.enforced? sampleLane = some ⟨none, some 10.0, true⟩ ∧
      closedPool.state.unlimited = false ∧ closedPool.state.exempt.contains "bob" = false ∧
      (Usage.ofTokens 5 0).cost = 0.0 ∧
      (closedPool.canCall (noon 1) ⟨sampleLane, some "bob", .ofTokens 5 0⟩).answer.allowed = true ∧
      (closedPool.canCall (noon 1) ⟨sampleLane, none, .ofTokens 5 0⟩).answer.allowed = false := by
  decide +kernel

end Ledger

end LaneQuota
