import LaneQuota.Proofs.Double.Arithmetic
import LaneQuota.Proofs.Ledger.Outstanding

namespace LaneQuota

open Double

namespace Double

def IsWhole (x : Float) : Prop := ∃ n : ℕ, n < 2 ^ 53 ∧ Denotes x (n : ℝ)

noncomputable def whole (x : Float) : ℕ := ⌊((meaning x.toModel.unpack).getD 0).toReal⌋₊

theorem Denotes.whole_eq {x : Float} {n : ℕ} (h : Denotes x (n : ℝ)) : whole x = n := by
  rw [whole, h, Option.getD_some, EReal.toReal_coe, Nat.floor_natCast]

theorem IsWhole.denotes {x : Float} (h : IsWhole x) : Denotes x (whole x : ℝ) := by
  obtain ⟨n, -, hn⟩ := h
  rwa [hn.whole_eq]

theorem IsWhole.lt {x : Float} (h : IsWhole x) : whole x < 2 ^ 53 := by
  obtain ⟨n, hlt, hn⟩ := h
  rwa [hn.whole_eq]

theorem Denotes.add_nat {x y : Float} {m n : ℕ} (hx : Denotes x (m : ℝ)) (hy : Denotes y (n : ℝ))
    (h : m + n ≤ 2 ^ 53) : Denotes (x + y) ((m + n : ℕ) : ℝ) := by
  have hsum := hx.add hy
  rwa [← Nat.cast_add, rounded_natCast h] at hsum

theorem Denotes.sub_nat {x y : Float} {m n : ℕ} (hx : Denotes x (m : ℝ)) (hy : Denotes y (n : ℝ))
    (hle : n ≤ m) (h : m ≤ 2 ^ 53) : Denotes (x - y) ((m - n : ℕ) : ℝ) := by
  have hdiff := hx.sub hy
  rwa [← Nat.cast_sub hle, rounded_natCast (by omega)] at hdiff

theorem denotes_zero_nat : Denotes 0.0 ((0 : ℕ) : ℝ) := by
  rw [Nat.cast_zero]
  exact denotes_zero

theorem Denotes.soundCost {x : Float} {n : ℕ} (h : Denotes x (n : ℝ)) :
    Denotes (soundCost x) (n : ℝ) := by
  unfold LaneQuota.soundCost
  split_ifs with hsound
  · exact h
  · have hfinite := (isFinite_iff x).mpr ⟨n, h⟩
    have hnot : ¬(0.0 : Float) < x := by simpa [hfinite] using hsound
    rw [denotes_zero.lt_iff h, not_lt] at hnot
    have hn : n = 0 := by exact_mod_cast hnot.antisymm (by positivity)
    rw [hn]
    exact denotes_zero_nat

theorem Denotes.aboveZero {x : Float} {n : ℕ} (h : Denotes x (n : ℝ)) :
    Denotes (aboveZero x) (n : ℝ) := by
  unfold LaneQuota.aboveZero
  split_ifs with hpos
  · exact h
  · rw [denotes_zero.lt_iff h, not_lt] at hpos
    have hn : n = 0 := by exact_mod_cast hpos.antisymm (by positivity)
    rw [hn]
    exact denotes_zero_nat

end Double

namespace Quantity

noncomputable def cost : Quantity where
  Fits := fun u => IsWhole u.cost
  amount := fun u => whole u.cost
  bound := 2 ^ 53
  fits_zero := ⟨0, by norm_num, denotes_zero_nat⟩
  amount_zero := denotes_zero_nat.whole_eq
  fits_plus := fun hu hv h => ⟨_, h, hu.denotes.add_nat hv.denotes.soundCost h.le⟩
  amount_plus := fun hu hv h => (hu.denotes.add_nat hv.denotes.soundCost h.le).whole_eq
  fits_minus := fun hu hv h => ⟨_, (Nat.sub_le _ _).trans_lt hu.lt,
    (hu.denotes.sub_nat hv.denotes h hu.lt.le).aboveZero⟩
  amount_minus := fun hu hv h => (hu.denotes.sub_nat hv.denotes h hu.lt.le).aboveZero.whole_eq

end Quantity

def Quantity.used (q : Quantity) (bs : List Bucket) : ℕ := (bs.map (fun b => q.amount b.used)).sum

theorem denotes_foldl_cost {bs : List Bucket} (hfits : ∀ b ∈ bs, IsWhole b.used.cost) {x : Float}
    {n : ℕ} (hx : Denotes x (n : ℝ)) (hsum : n + Quantity.cost.used bs ≤ 2 ^ 53) :
    Denotes (bs.foldl (fun sum b => sum + b.used.cost) x) ((n + Quantity.cost.used bs : ℕ) : ℝ) := by
  induction bs generalizing x n with
  | nil => simpa [Quantity.used] using hx
  | cons b rest ih =>
    have hcons : Quantity.cost.used (b :: rest) = whole b.used.cost + Quantity.cost.used rest := rfl
    rw [hcons] at hsum ⊢
    have hb := hx.add_nat (hfits b List.mem_cons_self).denotes (by omega)
    rw [List.foldl_cons, ← Nat.add_assoc]
    exact ih (fun b hb => hfits b (List.mem_cons_of_mem _ hb)) hb (by omega)

theorem denotes_archivedCost {bs : List Bucket} (hfits : ∀ b ∈ bs, IsWhole b.used.cost)
    (hsum : Quantity.cost.used bs ≤ 2 ^ 53) :
    Denotes (archivedCost bs) (Quantity.cost.used bs : ℝ) := by
  have hzero : Denotes (-0.0) ((0 : ℕ) : ℝ) := by
    rw [Nat.cast_zero]
    exact denotes_negative_zero
  have h := denotes_foldl_cost hfits hzero (by omega)
  rwa [Nat.zero_add] at h

end LaneQuota
