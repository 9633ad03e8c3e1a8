import LaneQuota.Proofs.Ledger.Queries
import LaneQuota.Proofs.Route.Fallback

/-!
# Planning lanes

Whoever decides on calls may move when it is asked. As long as its answers stay the same, a plan is
what those answers say, and no plan changes the next one. A ledger that is asked only brings buckets
into the current window, so it keeps its answers for as long as the clock stands still.
-/

namespace LaneQuota

namespace LanePlan

def ofDecisions (decisions : LaneKey → CallDecision) (preferred fallback : LaneKey) : LanePlan :=
  if (decisions preferred).allowed then .accepted preferred (decisions preferred)
  else if fallback = preferred then .refused preferred (decisions preferred)
  else if (decisions fallback).allowed then .diverted preferred fallback (decisions preferred)
  else .refused preferred (decisions preferred)

section Decisions

variable (decisions : LaneKey → CallDecision) (preferred fallback : LaneKey)

theorem ofDecisions_cases :
    ((decisions preferred).allowed = true ∧ ofDecisions decisions preferred fallback =
      .accepted preferred (decisions preferred)) ∨
    ((decisions preferred).allowed = false ∧
      (fallback ≠ preferred ∧ (decisions fallback).allowed = true) ∧
      ofDecisions decisions preferred fallback =
        .diverted preferred fallback (decisions preferred)) ∨
    ((decisions preferred).allowed = false ∧
      (fallback = preferred ∨ (decisions fallback).allowed = false) ∧
      ofDecisions decisions preferred fallback = .refused preferred (decisions preferred)) := by
  unfold ofDecisions
  cases hfirst : (decisions preferred).allowed with
  | true => simp
  | false =>
    by_cases hsame : fallback = preferred
    · simp [hsame]
    · cases hsecond : (decisions fallback).allowed <;> simp [hsame]

theorem lane_eq_some {lane : LaneKey}
    (h : (ofDecisions decisions preferred fallback).lane = some lane) :
    (lane = preferred ∨ lane = fallback) ∧ (decisions lane).allowed = true := by
  rcases ofDecisions_cases decisions preferred fallback with
    ⟨hfirst, heq⟩ | ⟨-, ⟨-, hsecond⟩, heq⟩ | ⟨-, -, heq⟩
  · obtain rfl : preferred = lane := by simpa [heq, accepted] using h
    exact ⟨Or.inl rfl, hfirst⟩
  · obtain rfl : fallback = lane := by simpa [heq, diverted] using h
    exact ⟨Or.inr rfl, hsecond⟩
  · simp [heq, refused] at h

theorem lane_eq_none_iff : (ofDecisions decisions preferred fallback).lane = none ↔
    (decisions preferred).allowed = false ∧
      (fallback = preferred ∨ (decisions fallback).allowed = false) := by
  rcases ofDecisions_cases decisions preferred fallback with
    ⟨hfirst, heq⟩ | ⟨-, ⟨hne, hsecond⟩, heq⟩ | ⟨hfirst, hsecond, heq⟩
  · simp [heq, accepted, hfirst]
  · simp [heq, diverted, hne, hsecond]
  · simp [heq, refused, hfirst, hsecond]

theorem reason_eq_none_iff : (ofDecisions decisions preferred fallback).reason = none ↔
    (decisions preferred).allowed = true := by
  rcases ofDecisions_cases decisions preferred fallback with
    ⟨hfirst, heq⟩ | ⟨hfirst, -, heq⟩ | ⟨hfirst, -, heq⟩ <;>
  simp [heq, accepted, diverted, refused, hfirst]

theorem reason_eq_fallback_iff :
    (ofDecisions decisions preferred fallback).reason = some Reason.laneQuotaFallback ↔
      (ofDecisions decisions preferred fallback).isFallback = true := by
  have hreasons : Reason.laneQuotaExhausted ≠ Reason.laneQuotaFallback := by decide
  rcases ofDecisions_cases decisions preferred fallback with
    ⟨-, heq⟩ | ⟨-, ⟨hne, -⟩, heq⟩ | ⟨-, -, heq⟩
  · simp [heq, accepted, isFallback]
  · simp [heq, diverted, isFallback, hne]
  · simp [heq, refused, isFallback, hreasons]

theorem reason_eq_exhausted_iff :
    (ofDecisions decisions preferred fallback).reason = some Reason.laneQuotaExhausted ↔
      (ofDecisions decisions preferred fallback).lane = none := by
  have hreasons : Reason.laneQuotaFallback ≠ Reason.laneQuotaExhausted := by decide
  rcases ofDecisions_cases decisions preferred fallback with
    ⟨-, heq⟩ | ⟨-, -, heq⟩ | ⟨-, -, heq⟩
  · simp [heq, accepted]
  · simp [heq, diverted, hreasons]
  · simp [heq, refused]

end Decisions

end LanePlan

def AsksAlike {σ : Type} (ask : σ → Request → CallDecision × σ) (R : σ → σ → Prop) : Prop :=
  ∀ s s' r, R s s' → (ask s' r).1 = (ask s r).1 ∧ R s (ask s' r).2

theorem planWith_of_asksAlike {σ : Type} {ask : σ → Request → CallDecision × σ} {R : σ → σ → Prop}
    (hR : AsksAlike ask R) (s s' : σ) (hs : R s s') {preferred fallback : LaneKey}
    {tenant : Option String} {estimate : Usage}
    (hfallback : ((ask s ⟨preferred, tenant, estimate⟩).1).fallback.getD fallback = fallback) :
    (planWith ask s' preferred fallback tenant estimate).1 =
        .ofDecisions (fun lane => (ask s ⟨lane, tenant, estimate⟩).1) preferred fallback ∧
      R s (planWith ask s' preferred fallback tenant estimate).2 := by
  obtain ⟨hfirst, hnext⟩ := hR s s' ⟨preferred, tenant, estimate⟩ hs
  obtain ⟨hsecond, hlast⟩ := hR s _ ⟨fallback, tenant, estimate⟩ hnext
  unfold planWith LanePlan.ofDecisions
  simp only [hfirst, hfallback, hsecond]
  split_ifs with hallowed hsame
  · exact ⟨rfl, hnext⟩
  · exact ⟨rfl, hnext⟩
  · exact ⟨rfl, hlast⟩
  · exact ⟨rfl, hlast⟩

namespace Ledger

structure AlikeAt (now : Instant) (l l' : Ledger) : Prop where
  eq : l' = { l with state := l'.state }
  state : l.state.Alike (l.window now) l'.state

namespace AlikeAt

variable {now : Instant} {l l' : Ledger}

theorem refl (now : Instant) (l : Ledger) : l.AlikeAt now l :=
  ⟨rfl, rfl, fun _ _ => rfl, fun _ _ => rfl⟩

section Alike

variable (h : l.AlikeAt now l')

include h

theorem window : l'.window now = l.window now := by
  rw [h.eq]
  rfl

theorem answer_canCall (r : Request) : (l'.canCall now r).answer = (l.canCall now r).answer := by
  rw [h.eq]
  exact (l.answer_canCall_congr now h.state r).symm

theorem canCall (r : Request) : l.AlikeAt now (l'.canCall now r).ledger := by
  have hstate : l.state.Alike (l.window now) (l'.canCall now r).ledger.state := by
    refine keeps_canCall (fun s => l.state.Alike (l.window now) s) r (fun s scope hs => ?_) h.state
    rw [h.window]
    exact (hs.symm.current_left scope r.key.text).symm
  obtain ⟨s, -, heq⟩ := l'.looksTo_canCall now r
  refine ⟨?_, hstate⟩
  rw [heq, h.eq]

theorem answer_currentUsage (key : LaneKey) (tenant : Option String) :
    (l'.currentUsage now key tenant).answer = (l.currentUsage now key tenant).answer := by
  rw [h.eq]
  exact (l.answer_ask_congr now h.state key tenant
    (fun _ _ _ hb => (Bucket.account_eq_iff.mp hb).2.1)).symm

theorem answer_reservedUsage (key : LaneKey) (tenant : Option String) :
    (l'.reservedUsage now key tenant).answer = (l.reservedUsage now key tenant).answer := by
  rw [h.eq]
  exact (l.answer_ask_congr now h.state key tenant
    (fun _ _ _ hb => (Bucket.account_eq_iff.mp hb).2.2.1)).symm

theorem answer_remainingBudget (key : LaneKey) (tenant : Option String) :
    (l'.remainingBudget now key tenant).answer = (l.remainingBudget now key tenant).answer := by
  rw [h.eq]
  exact (l.answer_remainingBudget_congr now h.state key tenant).symm

end Alike

end AlikeAt

end Ledger

namespace DurableLedger

variable {μ : Type} (medium : Medium μ) (now : Instant) (d : DurableLedger) (m : μ)

theorem ledger_ask (r : Request) :
    (ask medium now (d, m) r).2.1.ledger = (d.ledger.canCall now r).ledger := by
  unfold ask settle save
  dsimp only
  split_ifs
  · split <;> rfl
  · rfl

theorem asksAlike_ask : AsksAlike (ask medium now)
    (fun s s' => s.1.ledger.AlikeAt now s'.1.ledger) := by
  rintro ⟨d, m⟩ ⟨d', m'⟩ r h
  refine ⟨h.answer_canCall r, ?_⟩
  dsimp only
  rw [ledger_ask]
  exact h.canCall r

theorem plan_of_alikeAt {d' : DurableLedger} (h : d.ledger.AlikeAt now d'.ledger) (m' : μ)
    (routing : RoutingSettings) (mode : Mode) (tenant : Option String) (estimate : Usage) :
    (d'.plan medium m' now routing mode tenant estimate).1 =
        .ofDecisions (fun lane => (d.ledger.canCall now ⟨lane, tenant, estimate⟩).answer)
          (routing.laneFor mode) d.ledger.policy.fallback ∧
      d.ledger.AlikeAt now (d'.plan medium m' now routing mode tenant estimate).2.1.ledger := by
  have hpolicy : d'.ledger.policy = d.ledger.policy := by rw [h.eq]
  unfold plan
  rw [hpolicy]
  exact planWith_of_asksAlike (asksAlike_ask medium now) (d, m') (d', m') h
    (d.ledger.getD_fallback_canCall now _)

/-- Whatever the ledger, a plan has the preferred lane or the fallback, and one that lets the request
in right after; it has none exactly if both refuse. The reason tells the three cases apart. As long
as the clock stands still the plan is made again, and nothing that is counted or left has changed. -/
theorem plan_sound_complete_stable (routing : RoutingSettings) (route : Route)
    (tenant : Option String) (estimate : Usage) :
    let preferred := routing.laneFor route.mode
    let fallback := d.ledger.policy.fallback
    let allows (d : DurableLedger) (lane : LaneKey) : Bool :=
      (d.ledger.canCall now ⟨lane, tenant, estimate⟩).answer.allowed
    let planned := d.plan medium m now routing route.mode tenant estimate
    let plan := planned.1
    let d' := planned.2.1
    (∀ lane, plan.lane = some lane →
        (lane = preferred ∨ lane = fallback) ∧ allows d' lane = true) ∧
      (plan.lane = none ↔
        allows d preferred = false ∧ (fallback = preferred ∨ allows d fallback = false)) ∧
      (plan.reason = none ↔ allows d preferred = true) ∧
      (plan.reason = some Reason.laneQuotaFallback ↔ plan.isFallback = true) ∧
      (plan.reason = some Reason.laneQuotaExhausted ↔ plan.lane = none) ∧
      (∀ m', (d'.plan medium m' now routing route.mode tenant estimate).1 = plan) ∧
      ∀ key tenant,
        (d'.ledger.currentUsage now key tenant).answer =
            (d.ledger.currentUsage now key tenant).answer ∧
          (d'.ledger.reservedUsage now key tenant).answer =
            (d.ledger.reservedUsage now key tenant).answer ∧
          (d'.ledger.remainingBudget now key tenant).answer =
            (d.ledger.remainingBudget now key tenant).answer := by
  intro preferred fallback allows planned plan d'
  -- What holds of the ledger before and after comes from one description of the plan, for all
  -- ledgers that are alike.
  obtain ⟨hplan, halike⟩ := plan_of_alikeAt medium now d (.refl now d.ledger) m routing route.mode
    tenant estimate
  change plan = _ at hplan
  change d.ledger.AlikeAt now d'.ledger at halike
  have hagain := fun m' => (plan_of_alikeAt medium now d halike m' routing route.mode tenant
    estimate).1
  refine ⟨fun lane hlane => ?_, ?_, ?_, ?_, ?_, fun m' => (hagain m').trans hplan.symm,
    fun key tenant' => ⟨halike.answer_currentUsage key tenant',
      halike.answer_reservedUsage key tenant', halike.answer_remainingBudget key tenant'⟩⟩
  · rw [hplan] at hlane
    obtain ⟨hmem, hallowed⟩ := LanePlan.lane_eq_some _ _ _ hlane
    refine ⟨hmem, ?_⟩
    dsimp only [allows]
    rw [halike.answer_canCall]
    exact hallowed
  · rw [hplan]
    exact LanePlan.lane_eq_none_iff _ _ _
  · rw [hplan]
    exact LanePlan.reason_eq_none_iff _ _ _
  · rw [hplan]
    exact LanePlan.reason_eq_fallback_iff _ _ _
  · rw [hplan]
    exact LanePlan.reason_eq_exhausted_iff _ _ _

end DurableLedger

end LaneQuota
