import LaneQuota.Proofs.Ledger.Contents
import LaneQuota.Proofs.Ledger.LifetimeLimit
import LaneQuota.Proofs.Ledger.Rewrites

namespace LaneQuota

open Ledger Double

structure Bucket.Nonneg (b : Bucket) : Prop where
  used : 0.0 ≤ b.used.cost
  reserved : 0.0 ≤ b.reserved.cost

theorem zero_le_soundCost (x : Float) : 0.0 ≤ soundCost x := by
  unfold soundCost
  split_ifs with h
  · exact float_le_of_lt (of_decide_eq_true (Bool.and_eq_true_iff.mp h).2)
  · decide

theorem zero_le_aboveZero (x : Float) : 0.0 ≤ aboveZero x := by
  unfold aboveZero
  split_ifs with h
  · exact float_le_of_lt h
  · decide

namespace Bucket.Nonneg

variable {b : Bucket} {now : Instant}

theorem fresh (w : Window) (now : Instant) : (Bucket.fresh w now).Nonneg :=
  ⟨float_le_refl (by decide), float_le_refl (by decide)⟩

theorem withHold (h : b.Nonneg) (estimate : Usage) : (b.withHold estimate now).Nonneg :=
  ⟨h.used, zero_le_add h.reserved (zero_le_soundCost _)⟩

theorem withoutHold (h : b.Nonneg) (r : Reservation) : (b.withoutHold r now).Nonneg := by
  refine ⟨h.used, ?_⟩
  unfold Bucket.withoutHold
  dsimp only
  split_ifs
  · exact zero_le_aboveZero _
  · exact h.reserved

theorem cost_le_withUse (h : b.Nonneg) (usage : Usage) :
    b.used.cost ≤ (b.withUse usage now).used.cost :=
  le_add_of_zero_le h.used (zero_le_soundCost _)

theorem withUse (h : b.Nonneg) (usage : Usage) : (b.withUse usage now).Nonneg :=
  ⟨zero_le_add h.used (zero_le_soundCost _), h.reserved⟩

theorem withReport (h : b.Nonneg) (drift : UInt64) : (b.withReport drift now).Nonneg :=
  ⟨h.used, h.reserved⟩

theorem latchedUnder (h : b.Nonneg) (limits : Option Limits) (cost : Float) :
    (Ledger.latchedUnder limits cost b).Nonneg := by
  rcases latchedUnder_eq limits cost b with heq | heq <;> rw [heq]
  · exact h
  · exact ⟨h.used, h.reserved⟩

end Bucket.Nonneg

theorem archivedCost_concat (bs : List Bucket) (b : Bucket) :
    archivedCost (bs ++ [b]) = archivedCost bs + b.used.cost := by
  rw [archivedCost, List.foldl_append]
  rfl

theorem zero_le_archivedCost {bs : List Bucket} (h : ∀ b ∈ bs, b.Nonneg) : 0.0 ≤ archivedCost bs := by
  induction bs using List.reverseRecOn with
  | nil => decide
  | append_singleton bs b ih =>
    have hbs := ih (fun a ha => h a (List.mem_append_left _ ha))
    have hb := h b (by simp)
    rw [archivedCost_concat]
    exact float_le_trans hbs (le_add_of_zero_le hbs hb.used)

namespace Cell

variable {c c' : Cell} {w : Window} {now : Instant}

def cost (c : Cell) : Float := archivedCost c.history + (c.bucket.getD Bucket.blank).used.cost

def Nonneg (c : Cell) : Prop := ∀ b ∈ c.buckets, b.Nonneg

theorem Nonneg.zero_le_archivedCost (h : c.Nonneg) (w : Window) :
    0.0 ≤ archivedCost (c.archive w) :=
  LaneQuota.zero_le_archivedCost (fun b hb => h b (mem_buckets_of_mem_archive hb))

theorem Nonneg.seen (h : c.Nonneg) (w : Window) (now : Instant) : (c.seen w now).Nonneg :=
  every_seen (fun w => .fresh w now) h

theorem Nonneg.cost_le (h : c.Nonneg) (w : Window) (now : Instant) :
    c.cost ≤ archivedCost (c.archive w) + (c.seen w now).used.cost := by
  have hzero : (0.0 : Float) ≤ 0.0 := by decide
  have harchived : 0.0 ≤ archivedCost c.history :=
    LaneQuota.zero_le_archivedCost (fun b hb => h b (List.mem_append_left _ hb))
  cases hb : c.bucket with
  | none =>
    simp only [cost, Cell.archive, Cell.seen, hb]
    exact float_le_refl (zero_le_add harchived hzero)
  | some b =>
    have hused : 0.0 ≤ b.used.cost := (h b (by simp [buckets, hb])).used
    simp only [cost, Cell.archive, Cell.seen, hb, Option.getD_some]
    by_cases hday : b.day = w.day
    · simp only [hday, true_or, if_true]
      exact float_le_refl (zero_le_add harchived hused)
    · by_cases hz : b.used.isZero = true
      · simp only [hday, hz, or_true, if_true, if_false]
        have hnone : b.used.cost ≤ 0.0 := of_decide_eq_true (Bool.and_eq_true_iff.mp hz).2
        exact add_le_add_of_zero_le harchived hused (float_le_refl harchived) hnone
      · simp only [hday, hz, or_self, Bool.false_eq_true, if_false, archivedCost_concat]
        exact le_add_of_zero_le (zero_le_add harchived hused) hzero

theorem Nonneg.cost_le_spent (h : c.Nonneg) (w : Window) (now : Instant) :
    c.cost ≤ c.spent w now := by
  have hseen := h.seen w now
  have harchived := h.zero_le_archivedCost w
  refine float_le_trans (h.cost_le w now) ?_
  exact add_le_add_of_zero_le harchived hseen.used (float_le_refl harchived)
    (le_add_of_zero_le hseen.used hseen.reserved)

structure SpentFrom (floor : Float) (c : Cell) : Prop where
  nonneg : c.Nonneg
  floor_le : floor ≤ c.cost

theorem Nonneg.zero_le_cost (h : c.Nonneg) : 0.0 ≤ c.cost := by
  refine zero_le_add
    (LaneQuota.zero_le_archivedCost (fun b hb => h b (List.mem_append_left _ hb))) ?_
  cases hb : c.bucket with
  | none => decide
  | some b => exact (h b (by simp [buckets, hb])).used

theorem Nonneg.spentFrom (h : c.Nonneg) : c.SpentFrom c.cost := ⟨h, float_le_refl h.zero_le_cost⟩

variable {floor : Float} {L : Option Limits → Prop}

theorem SpentFrom.adjust (h : c.SpentFrom floor) {f : Bucket → Bucket}
    (hf : ∀ b : Bucket, b.Nonneg → (f b).Nonneg)
    (hle : ∀ b : Bucket, b.Nonneg → b.used.cost ≤ (f b).used.cost) :
    (c.adjust w now f).SpentFrom floor := by
  have hseen := h.nonneg.seen w now
  have harchived := h.nonneg.zero_le_archivedCost w
  refine ⟨every_adjust (fun w => .fresh w now) (fun _ hb => hb) hf h.nonneg, ?_⟩
  exact float_le_trans (float_le_trans h.floor_le (h.nonneg.cost_le w now))
    (add_le_add_of_zero_le harchived hseen.used (float_le_refl harchived) (hle _ hseen))

theorem SpentFrom.releasing (h : c.SpentFrom floor) (r : Reservation) :
    (c.releasing w now r).SpentFrom floor :=
  h.adjust (fun _ hb => hb.withoutHold r) (fun _ hb => float_le_refl hb.used)

theorem SpentFrom.spending (h : c.SpentFrom floor) (limits : Option Limits) (usage : Usage) :
    (c.spending w now limits usage).SpentFrom floor := by
  refine h.adjust (fun _ hb => (hb.withUse usage).latchedUnder _ _) (fun b hb => ?_)
  rw [used_latchedUnder]
  exact hb.cost_le_withUse usage

theorem SpentFrom.rewritten (h : c.SpentFrom floor) (hr : c.Rewritten L w now c') :
    c'.SpentFrom floor := by
  cases hr with
  | same => exact h
  | moved => exact h.adjust (fun _ hb => hb) (fun _ hb => float_le_refl hb.used)
  | held estimate =>
    exact h.adjust (fun _ hb => hb.withHold estimate) (fun _ hb => float_le_refl hb.used)
  | released r => exact h.releasing r
  | spent _ usage => exact h.spending _ usage
  | settled _ r usage => exact (h.releasing r).spending _ usage
  | reported _ drift =>
    refine h.adjust (fun _ hb => (hb.withReport drift).latchedUnder _ _) (fun b hb => ?_)
    rw [used_latchedUnder]
    exact float_le_refl hb.used

end Cell

namespace Ledger

variable {l : Ledger} {now : Instant} {r : Request} {limits : Limits} {cap floor : Float}

theorem cost_cell (s : LedgerState) (scope : Scope) (key : String) :
    (s.cell scope key).cost = s.historyCost scope key + committedCost s scope key := by
  rw [committedCost_eq, LedgerState.historyCost_eq, Cell.cost]

theorem spentFrom_after {ops : Schedule} {scope : Scope} {key : String}
    (h : (l.state.cell scope key).SpentFrom floor) :
    ((l.after ops).state.cell scope key).SpentFrom floor :=
  after_of_rewritten (L := fun _ => True) (P := fun c => c.SpentFrom floor)
    (fun _ _ _ _ => trivial) (fun _ _ _ _ _ => trivial) (fun _ _ _ _ hc hr => hc.rewritten hr) h

theorem denied_of_spentFrom (hexempt : l.exemption? r.tenant = none)
    (hlimits : l.policy.limits.enforced? r.key = some limits) (hcap : limits.lifetimeCost = some cap)
    (hestimate : 0.0 ≤ r.estimate.cost) (hover : cap < floor + r.estimate.cost) (hfloor : 0.0 ≤ floor)
    (h : (l.state.cell .shared r.key.text).SpentFrom floor) :
    (l.canCall now r).answer.allowed = false := by
  rw [← Bool.not_eq_true, l.allowed_canCall_iff now hexempt hlimits]
  intro hadmitted
  have hshared : Scope.shared ∈ Scope.charged r.tenant := by
    cases r.tenant <;> simp [Scope.charged]
  apply not_cap_lt_of_admitted hcap hadmitted .shared hshared
  exact float_lt_of_lt_of_le hover (add_le_add_of_zero_le hfloor hestimate
    (float_le_trans h.floor_le (h.nonneg.cost_le_spent _ _)) (float_le_refl hestimate))

end Ledger

end LaneQuota
