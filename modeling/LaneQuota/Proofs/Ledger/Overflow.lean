import LaneQuota.Proofs.Double.Arithmetic
import LaneQuota.Proofs.Ledger.Contents
import LaneQuota.Proofs.Ledger.Runs

namespace LaneQuota

namespace Double

inductive Within (m : ℤ) (n : ℕ) (x : Float) : Prop
  | intro (v : ℝ) (denotes : Denotes x v) (nonneg : 0 ≤ v) (le : v ≤ n * 2 ^ m)

structure HasMultiples (m : ℤ) (n : ℕ) : Prop where
  least : -1074 ≤ m
  count : n ≤ 2 ^ 53
  fits : (n : ℝ) * 2 ^ m < 2 ^ (1024 : ℤ)

section Within

variable {m : ℤ} {k n : ℕ} {x y : Float}

theorem HasMultiples.mono (h : HasMultiples m n) (hle : k ≤ n) : HasMultiples m k := by
  refine ⟨h.least, hle.trans h.count, lt_of_le_of_lt ?_ h.fits⟩
  gcongr

theorem hasMultiples_of_le (hleast : -1074 ≤ m) (hm : m ≤ 970) (hn : n ≤ 2 ^ 53) :
    HasMultiples m n := by
  refine ⟨hleast, hn, ?_⟩
  have hcount : (n : ℝ) ≤ 2 ^ (53 : ℤ) := by exact_mod_cast hn
  calc (n : ℝ) * 2 ^ m ≤ 2 ^ (53 : ℤ) * 2 ^ (970 : ℤ) := by
        gcongr
        norm_num
    _ = 2 ^ (1023 : ℤ) := by rw [← zpow_add₀ (by norm_num), show (53 : ℤ) + 970 = 1023 by norm_num]
    _ < 2 ^ (1024 : ℤ) := zpow_lt_zpow_right₀ (by norm_num) (by norm_num)

theorem HasMultiples.representable (h : HasMultiples m n) : Representable (n * 2 ^ m) := by
  obtain ⟨hleast, hcount, hfits⟩ := h
  have habs : |(n : ℝ) * 2 ^ m| = n * 2 ^ m := abs_of_nonneg (by positivity)
  rcases le_or_gt m 971 with hm | hm
  · rcases hcount.lt_or_eq with hlt | rfl
    · exact ⟨n, m, hlt, hleast, hm, habs⟩
    · -- A full mantissa is halved.
      have hpow : (2 : ℝ) ^ (53 + m) < 2 ^ (1024 : ℤ) := by
        rw [zpow_add₀ (by norm_num)]
        exact_mod_cast hfits
      have hlt := (zpow_lt_zpow_iff_right₀ (by norm_num : (1 : ℝ) < 2)).mp hpow
      refine ⟨2 ^ 52, m + 1, by norm_num, by omega, by omega, ?_⟩
      rw [habs, zpow_add₀ (by norm_num)]
      push_cast
      ring
  · -- What a power has above the greatest exponent moves into the mantissa.
    have hsplit := zpow_eq_mul_of_le hm.le
    have htop : (2 : ℝ) ^ (1024 : ℤ) = 2 ^ 53 * 2 ^ (971 : ℤ) := by
      rw [← zpow_natCast, ← zpow_add₀ (by norm_num)]
      norm_num
    have hmant : (n : ℝ) * 2 ^ (m - 971).toNat < 2 ^ 53 := by
      rw [hsplit, htop, ← mul_assoc] at hfits
      have hlt := lt_of_mul_lt_mul_right hfits (by positivity)
      exact_mod_cast hlt
    refine ⟨n * 2 ^ (m - 971).toNat, 971, by exact_mod_cast hmant, by norm_num, le_rfl, ?_⟩
    rw [habs, hsplit]
    push_cast
    ring

theorem Within.isFinite (h : Within m n x) : x.isFinite = true := by
  obtain ⟨v, hv, -⟩ := h
  exact (isFinite_iff x).mpr ⟨v, hv⟩

theorem Within.mono (h : Within m k x) (hle : k ≤ n) : Within m n x := by
  obtain ⟨v, hv, hv0, hvn⟩ := h
  refine ⟨v, hv, hv0, hvn.trans ?_⟩
  gcongr

theorem within_zero (m : ℤ) (n : ℕ) : Within m n 0.0 := ⟨0, denotes_zero, le_rfl, by positivity⟩

theorem within_of_le {v : ℝ} (hy : Denotes y v) (hv : v ≤ n * 2 ^ m) (h0 : 0.0 ≤ x)
    (hle : x ≤ y) : Within m n x := by
  obtain ⟨⟨u, hu⟩, -⟩ := exists_denotes_of_le hle
  have hu0 := (denotes_zero.le_iff hu).mp h0
  have huv := (hu.le_iff hy).mp hle
  obtain ⟨r, rfl, hr0⟩ := exists_real hu0 (ne_top_of_le_ne_top (EReal.coe_ne_top _) huv)
  exact ⟨r, hu, hr0, (EReal.coe_le_coe_iff.mp huv).trans hv⟩

theorem Within.add (h : HasMultiples m (k + n)) (hx : Within m k x) (hy : Within m n y) :
    Within m (k + n) (x + y) := by
  obtain ⟨v, hv, hv0, hvk⟩ := hx
  obtain ⟨w, hw, hw0, hwn⟩ := hy
  have hsum : v + w ≤ (k + n : ℕ) * 2 ^ m := by
    push_cast
    linarith
  have hle := rounded_mono hsum
  rw [rounded_of_representable h.representable] at hle
  obtain ⟨r, hr, hr0⟩ := exists_real (rounded_nonneg (add_nonneg hv0 hw0))
    (ne_top_of_le_ne_top (EReal.coe_ne_top _) hle)
  refine ⟨r, ?_, hr0, ?_⟩
  · rw [← hr]
    exact hv.add hw
  · rw [hr] at hle
    exact EReal.coe_le_coe_iff.mp hle

theorem Within.soundCost (h : Within m n x) : Within m n (soundCost x) := by
  unfold LaneQuota.soundCost
  split_ifs
  · exact h
  · exact within_zero m n

theorem Within.aboveZero_sub (hx : Within m k x) (hy : Within m n y) :
    Within m k (aboveZero (x - y)) := by
  unfold LaneQuota.aboveZero
  split_ifs with hpos
  · obtain ⟨v, hv, hv0, hvk⟩ := hx
    obtain ⟨w, hw, hw0, -⟩ := hy
    have hsub := hv.sub hw
    have hle : rounded (v - w) ≤ v := by
      have hmono := rounded_mono (sub_le_self v hw0)
      rwa [rounded_of_representable hv.representable] at hmono
    have hlt : (0 : EReal) < rounded (v - w) := (denotes_zero.lt_iff hsub).mp hpos
    obtain ⟨r, hr, hr0⟩ := exists_real hlt.le (ne_top_of_le_ne_top (EReal.coe_ne_top _) hle)
    rw [hr] at hle hsub
    exact ⟨r, hsub, hr0, (EReal.coe_le_coe_iff.mp hle).trans hvk⟩
  · exact within_zero m k

end Within

end Double

open Ledger Double

structure Bucket.Within (m : ℤ) (n : ℕ) (b : Bucket) : Prop where
  used : Double.Within m n b.used.cost
  reserved : Double.Within m n b.reserved.cost

def LedgerState.Within (m : ℤ) (n : ℕ) : LedgerState → Prop :=
  LedgerState.Every (Bucket.Within m n) (fun u => Double.Within m n u.cost)

theorem carries_within {m : ℤ} {n : ℕ} (h : HasMultiples m (n + 1)) (now : Instant) :
    Carries (fun u => Double.Within m 1 u.cost) now (Bucket.Within m n) (Bucket.Within m (n + 1))
      (fun u => Double.Within m n u.cost) (fun u => Double.Within m (n + 1) u.cost) where
  fresh _ := ⟨within_zero m n, within_zero m n⟩
  kept _ hb := ⟨hb.used.mono n.le_succ, hb.reserved.mono n.le_succ⟩
  held _ _ hb hu := ⟨hb.used.mono n.le_succ, hb.reserved.add h hu.soundCost⟩
  released b r hb hr := by
    refine ⟨hb.used, ?_⟩
    unfold Bucket.withoutHold
    dsimp only
    split_ifs
    · exact hb.reserved.aboveZero_sub hr
    · exact hb.reserved
  used _ _ hb hu := ⟨hb.used.add h hu.soundCost, hb.reserved.mono n.le_succ⟩
  reported _ _ hb := ⟨hb.used.mono n.le_succ, hb.reserved.mono n.le_succ⟩
  latched _ hb := ⟨hb.used, hb.reserved⟩
  unlogged := within_zero m n
  stays _ hu := hu.mono n.le_succ
  logged _ _ hu hv := hu.add h hv.soundCost

namespace Ledger

theorem within_after {m : ℤ} {n : ℕ} {l : Ledger} {ops : Schedule}
    (h : HasMultiples m (n + ops.length)) (hl : l.state.Within m n)
    (hpromised : ∀ id r, l.reservations.get? id = some r → Double.Within m 1 r.estimate.cost)
    (hops : ∀ x ∈ ops, x.2.Enters (fun u => Double.Within m 1 u.cost)) :
    (l.after ops).state.Within m (n + ops.length) := by
  induction ops generalizing l n with
  | nil => exact hl
  | cons x rest ih =>
    obtain ⟨now, op⟩ := x
    have hop := hops _ List.mem_cons_self
    rw [List.length_cons, Nat.add_comm rest.length, ← Nat.add_assoc] at h ⊢
    refine ih h ?_ (promised_step hpromised hop) (fun x hx => hops x (List.mem_cons_of_mem _ hx))
    exact every_step (carries_within (h.mono (Nat.le_add_right _ _)) now) hpromised hop hl

end Ledger

end LaneQuota
