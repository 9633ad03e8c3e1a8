import LaneQuota.Proofs.Double.Arithmetic

namespace LaneQuota.Double

open Float.Model Float.Model.UnpackedFloat

theorem divCore_exact {m₁ m₂ q : ℕ} {e₁ e₂ f : ℤ} (h₁ : 0 < m₁) (h₂ : 0 < m₂) (hq : 0 < q)
    (hval : (m₁ : ℝ) * 2 ^ e₁ = q * 2 ^ f * (m₂ * 2 ^ e₂)) (hf : lastPlace (q * 2 ^ f) ≤ f) :
    ∃ (g : ℕ) (t : ℤ), f = t + g ∧ t ≤ lastPlace (q * 2 ^ f) ∧
      divCore Format.binary64 m₁ e₁ m₂ e₂ = (q * 2 ^ g, t, .exact) := by
  have hv : (0 : ℝ) < q * 2 ^ f := by positivity
  have hlog : m₁.log2 + e₁ - (m₂.log2 + e₂) - 1 ≤ Int.log 2 ((q : ℝ) * 2 ^ f) := by
    have hx : (0 : ℝ) < m₁ * 2 ^ e₁ := by positivity
    have hlow : (2 : ℝ) ^ (m₁.log2 + e₁) ≤ m₁ * 2 ^ e₁ := by
      rw [← log_size e₁ h₁]
      exact Int.zpow_log_le_self (by norm_num) hx
    have hhigh : (m₂ : ℝ) * 2 ^ e₂ < 2 ^ (m₂.log2 + e₂ + 1) := by
      rw [← log_size e₂ h₂]
      exact Int.lt_zpow_succ_log_self (by norm_num) _
    refine (Int.zpow_le_iff_le_log (by norm_num) hv).mp ?_
    rw [show m₁.log2 + e₁ - (m₂.log2 + e₂) - 1 = m₁.log2 + e₁ - (m₂.log2 + e₂ + 1) by ring]
    push_cast
    rw [zpow_sub₀ (by norm_num), div_le_iff₀ (by positivity)]
    rw [hval] at hlow
    exact hlow.trans (mul_le_mul_of_nonneg_left hhigh.le hv.le)
  obtain ⟨t, ht⟩ : ∃ t, t = min (e₁ - e₂) (Format.binary64.targetExponent
    (totalExponent m₁ e₁ - totalExponent m₂ e₂)) := ⟨_, rfl⟩
  have hplace : t ≤ lastPlace (q * 2 ^ f) := by
    rw [ht, lastPlace]
    simp only [Format.targetExponent, totalExponent, Format.mantissaBits, Format.minExponent]
    norm_num
    omega
  obtain ⟨g, hg⟩ : ∃ g : ℕ, f - t = g := ⟨(f - t).toNat, by omega⟩
  obtain ⟨s, hs⟩ : ∃ s : ℕ, e₁ - e₂ - t = s := ⟨(e₁ - e₂ - t).toNat, by omega⟩
  have hshift : m₁ <<< s = q * 2 ^ g * m₂ := by
    have hreal : (m₁ : ℝ) * 2 ^ s = q * 2 ^ g * m₂ := by
      rw [show e₁ = s + (t + e₂) by omega, show f = g + t by omega, zpow_add₀ (by norm_num),
        zpow_add₀ (by norm_num) (g : ℤ), zpow_add₀ (by norm_num) t, zpow_natCast, zpow_natCast] at hval
      have hne : (2 : ℝ) ^ t * 2 ^ e₂ ≠ 0 := by positivity
      exact mul_right_cancel₀ hne (by linear_combination hval)
    rw [Nat.shiftLeft_eq]
    exact_mod_cast hreal
  refine ⟨g, t, by omega, hplace, ?_⟩
  unfold divCore
  dsimp only
  rw [← ht, hs, Int.toNat_natCast, hshift, Nat.mul_div_cancel _ h₂, Nat.mul_mod_left]
  rfl

theorem meaning_div_exact (s₁ s₂ : Sign) {m₁ m₂ q : ℕ} {e₁ e₂ f : ℤ} (h₁ : 0 < m₁) (h₂ : 0 < m₂)
    (hq : 0 < q) (hval : (m₁ : ℝ) * 2 ^ e₁ = q * 2 ^ f * (m₂ * 2 ^ e₂))
    (hf : lastPlace (q * 2 ^ f) ≤ f) :
    meaning (stored (UnpackedFloat.div Format.binary64 (.finite s₁ m₁ e₁ h₁)
      (.finite s₂ m₂ e₂ h₂))) = some (signed (s₁ / s₂) (magnitude (q * 2 ^ f))) := by
  obtain ⟨g, t, rfl, hplace, hcore⟩ := divCore_exact h₁ h₂ hq hval hf
  have hsize : ((q * 2 ^ g : ℕ) : ℝ) * 2 ^ t = q * 2 ^ (t + g) := by
    rw [zpow_add₀ (by norm_num), zpow_natCast]
    push_cast
    ring
  have hround := meaning_roundWithAccuracy (s₁ / s₂) (m := q * 2 ^ g) (e := t) (by positivity)
    (by rwa [hsize])
  rw [hsize] at hround
  simp only [UnpackedFloat.div, hcore]
  exact hround

theorem Denotes.exists_positive {x : Float} {v : ℝ} (hx : Denotes x v) (hv : 0 < v) :
    ∃ (m : ℕ) (e : ℤ) (h : 0 < m), x.toModel.unpack = .finite .positive m e h ∧ v = m * 2 ^ e := by
  rcases zero_or_finite hx with ⟨s, -, rfl⟩ | ⟨s, m, e, h, heq, rfl⟩
  · exact absurd hv (lt_irrefl 0)
  · have hsize : (0 : ℝ) < m * 2 ^ e := by positivity
    cases s with
    | positive => exact ⟨m, e, h, heq, by simp [Sign.apply]⟩
    | negative =>
      simp only [Sign.apply, Int.cast_neg, Int.cast_natCast, neg_mul] at hv
      linarith

theorem Denotes.div_exact {x y : Float} {v w : ℝ} (hx : Denotes x ((v * w : ℝ) : EReal))
    (hy : Denotes y (w : EReal)) (hv : 0 < v) (hw : 0 < w) (hrep : Representable v) :
    Denotes (x / y) (v : EReal) := by
  have hrounded := magnitude_of_representable hrep hv.le
  obtain ⟨q, f, hq, hleast, -, hval⟩ := hrep
  rw [abs_of_pos hv] at hval
  have hqpos : 0 < q := by
    rcases Nat.eq_zero_or_pos q with rfl | h
    · simp only [CharP.cast_eq_zero, zero_mul] at hval
      linarith
    · exact h
  have hf : lastPlace (q * 2 ^ f) ≤ f := by
    refine lastPlace_le_of_lt (by positivity) hleast ?_
    have hq' : (q : ℝ) < 2 ^ (53 : ℤ) := by exact_mod_cast hq
    rw [zpow_add₀ (by norm_num)]
    exact mul_lt_mul_of_pos_right hq' (by positivity)
  obtain ⟨m₁, e₁, h₁, hx', hm₁⟩ := hx.exists_positive (mul_pos hv hw)
  obtain ⟨m₂, e₂, h₂, hy', hm₂⟩ := hy.exists_positive hw
  have hdiv := meaning_div_exact .positive .positive h₁ h₂ hqpos
    (by rw [← hm₁, ← hval, ← hm₂]) hf
  change meaning (stored (UnpackedFloat.div Format.binary64 x.toModel.unpack y.toModel.unpack)) = _
  rw [hx', hy', hdiv, ← hval, hrounded]
  rfl

end LaneQuota.Double
