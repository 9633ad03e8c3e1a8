import LaneQuota.Proofs.Ledger.Tracking

namespace LaneQuota

open Ledger

inductive Cell.Rewritten (L : Option Limits → Prop) (w : Window) (now : Instant) (c : Cell) :
    Cell → Prop
  | same : Rewritten L w now c c
  | moved : Rewritten L w now c (c.moved w now)
  | held (estimate : Usage) : Rewritten L w now c (c.holding w now estimate)
  | released (r : Reservation) : Rewritten L w now c (c.releasing w now r)
  | spent {limits : Option Limits} (h : L limits) (usage : Usage) :
      Rewritten L w now c (c.spending w now limits usage)
  | settled {limits : Option Limits} (h : L limits) (r : Reservation) (usage : Usage) :
      Rewritten L w now c ((c.releasing w now r).spending w now limits usage)
  | reported {limits : Option Limits} (h : L limits) (drift : UInt64) :
      Rewritten L w now c (c.reporting w now limits drift)

namespace Ledger

variable {L : Option Limits → Prop} {w : Window} {now : Instant} {s : LedgerState} {key : String}

theorem rewritten_release (r : Reservation) (scope : Scope) :
    (s.cell scope key).Rewritten L w now ((release s r w now).cell scope key) := by
  rw [cell_release]
  split_ifs with h
  · rw [h.2]
    exact .released r
  · exact .same

theorem rewritten_spend {p : LedgerPolicy} {lane : LaneKey}
    (hlane : lane.text = key → L (p.limits.enforced? lane)) (tenant : Option String) (usage : Usage)
    (scope : Scope) :
    (s.cell scope key).Rewritten L w now ((spend p lane tenant usage w now s).cell scope key) := by
  rw [cell_spend]
  split_ifs with h
  · rw [h.2]
    exact .spent (hlane h.2) usage
  · exact .same

theorem rewritten_settle {p : LedgerPolicy} (r : Reservation) {lane : LaneKey}
    (hlane : lane.text = key → L (p.limits.enforced? lane)) (tenant : Option String) (usage : Usage)
    (scope : Scope) :
    (s.cell scope key).Rewritten L w now
      ((spend p lane tenant usage w now (release s r w now)).cell scope key) := by
  rw [cell_spend, cell_release, cell_release]
  split_ifs with hspend hrelease hrelease
  · rw [hrelease.2, hspend.2]
    exact .settled (hlane hspend.2) r usage
  · rw [hspend.2]
    exact .spent (hlane hspend.2) usage
  · rw [hrelease.2]
    exact .released r
  · exact .same

def HeldUnder (l : Ledger) (L : Option Limits → Prop) (key : String) : Prop :=
  ∀ id r, l.reservations.get? id = some r → r.key.text = key → L (l.policy.limits.enforced? r.key)

variable {l l' : Ledger} {op : Operation}

theorem Effect.rewritten (he : l.Effect now op l') (hheld : l.HeldUnder L key)
    (hop : ∀ lane ∈ op.lane?, lane.text = key → L (l.policy.limits.enforced? lane))
    (scope : Scope) :
    (l.state.cell scope key).Rewritten L (l.window now) now (l'.state.cell scope key) := by
  cases he with
  | looked hs =>
    rcases hs.cell scope key with h | h <;> rw [h]
    · exact .same
    · exact .moved
  | @held id r hid =>
    rw [cell_hold]
    split_ifs with h
    · rw [h.2]
      exact .held r.estimate
    · exact .same
  | committed hid => exact rewritten_settle _ (hop _ rfl) _ _ scope
  | orphaned hid => exact rewritten_spend (hop _ rfl) _ _ scope
  | released hid => exact rewritten_release _ scope
  | kept hid => exact rewritten_settle _ (hheld _ _ hid) _ _ scope
  | toggled =>
    rw [cell_toggleUnlimited]
    exact .same
  | @raised lane start reported s drift hexempt hcell =>
    rw [hcell]
    split_ifs with h
    · rw [← h.1, h.2]
      exact .reported (hop lane rfl h.2) drift
    · exact .same

theorem HeldUnder.step (h : l.HeldUnder L key)
    (hop : ∀ lane ∈ op.lane?, lane.text = key → L (l.policy.limits.enforced? lane)) :
    (l.step now op).ledger.HeldUnder L key := by
  intro id r hr
  have he := l.effect_step now op
  rw [he.policy]
  rcases he.reservation hr with hr | ⟨q, rfl, rfl⟩
  · exact h id r hr
  · exact hop q.key rfl

theorem heldUnder_start (p : LedgerPolicy) (L : Option Limits → Prop) (key : String) :
    (start p).HeldUnder L key := by
  intro id r h
  contradiction

theorem after_of_rewritten {P : Cell → Prop} {ops : Schedule} (hheld : l.HeldUnder L key)
    (hops : ∀ x ∈ ops, ∀ lane ∈ x.2.lane?, lane.text = key → L (l.policy.limits.enforced? lane))
    (hkeep : ∀ x ∈ ops, ∀ c c', P c → c.Rewritten L (l.window x.1) x.1 c' → P c')
    {scope : Scope} (h : P (l.state.cell scope key)) : P ((l.after ops).state.cell scope key) := by
  induction ops generalizing l with
  | nil => exact h
  | cons x rest ih =>
    obtain ⟨now, op⟩ := x
    have hop := hops _ List.mem_cons_self
    have he := l.effect_step now op
    rw [after_cons]
    refine ih (hheld.step hop) (fun y hy => ?_) (fun y hy => ?_)
      (hkeep _ List.mem_cons_self _ _ h (he.rewritten hheld hop scope))
    · rw [he.policy]
      exact hops y (List.mem_cons_of_mem _ hy)
    · rw [window, he.policy]
      exact hkeep y (List.mem_cons_of_mem _ hy)

theorem plain_lanes_limits {p : LedgerPolicy} {lane : LaneKey} {ops : Schedule} (hlane : lane.Plain)
    (hops : ∀ x ∈ ops, ∀ k ∈ x.2.lane?, k.Plain) :
    ∀ x ∈ ops, ∀ k ∈ x.2.lane?, k.text = lane.text →
      p.limits.enforced? k = p.limits.enforced? lane := by
  intro x hx k hk htext
  rw [LaneKey.text_injective (hops x hx k hk) hlane htext]

end Ledger

end LaneQuota
