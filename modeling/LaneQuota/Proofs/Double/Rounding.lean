import Mathlib

/-!
# Rounding to doubles

A double has 53 binary places, none of them below `2 ^ (-1074)`, and reaches up to `2 ^ 1024`. Here
rounding is a function on the reals: it is monotone, and it leaves every double as it is.
-/

namespace LaneQuota.Double

noncomputable def nearestEven (x : ℝ) : ℤ :=
  if Int.fract x < 1 / 2 then ⌊x⌋
  else if 1 / 2 < Int.fract x then ⌊x⌋ + 1
  else ⌊x⌋ + ⌊x⌋ % 2

theorem floor_le_nearestEven (x : ℝ) : ⌊x⌋ ≤ nearestEven x := by
  unfold nearestEven
  split_ifs <;> omega

theorem nearestEven_le (x : ℝ) : nearestEven x ≤ ⌊x⌋ + 1 := by
  unfold nearestEven
  split_ifs <;> omega

theorem nearestEven_mono {x y : ℝ} (h : x ≤ y) : nearestEven x ≤ nearestEven y := by
  rcases (Int.floor_mono h).lt_or_eq with hlt | heq
  · have hx := nearestEven_le x
    have hy := floor_le_nearestEven y
    omega
  · have hf : Int.fract x ≤ Int.fract y := by
      unfold Int.fract
      rw [heq]
      linarith
    unfold nearestEven
    rw [heq]
    split_ifs <;> first | omega | linarith

theorem nearestEven_intCast (n : ℤ) : nearestEven n = n := by
  simp [nearestEven]

/-- The exponent of the last place that a double of this size has. -/
noncomputable def lastPlace (x : ℝ) : ℤ := max (Int.log 2 x - 52) (-1074)

theorem lastPlace_mono {x y : ℝ} (hx : 0 < x) (h : x ≤ y) : lastPlace x ≤ lastPlace y := by
  have hl := Int.log_mono_right (b := 2) hx h
  unfold lastPlace
  omega

theorem lt_zpow_lastPlace (x : ℝ) : x < 2 ^ (53 + lastPlace x) := by
  have hl : x < (2 : ℝ) ^ (Int.log 2 x + 1) := Int.lt_zpow_succ_log_self (by norm_num) x
  refine hl.trans_le (zpow_le_zpow_right₀ (by norm_num) ?_)
  unfold lastPlace
  omega

theorem zpow_lastPlace_le {x : ℝ} (hx : 0 < x) (h : -1074 < lastPlace x) :
    2 ^ (52 + lastPlace x) ≤ x := by
  have hl : (2 : ℝ) ^ Int.log 2 x ≤ x := Int.zpow_log_le_self (by norm_num) hx
  have he : 52 + lastPlace x = Int.log 2 x := by
    unfold lastPlace at *
    omega
  rwa [he]

theorem lastPlace_le_of_lt {x : ℝ} {e : ℤ} (hx : 0 < x) (he : -1074 ≤ e) (h : x < 2 ^ (53 + e)) :
    lastPlace x ≤ e := by
  by_contra hn
  have hp := zpow_lastPlace_le hx (by omega)
  have hle : (2 : ℝ) ^ (53 + e) ≤ 2 ^ (52 + lastPlace x) :=
    zpow_le_zpow_right₀ (by norm_num) (by omega)
  linarith

theorem nearestEven_lastPlace_le (x : ℝ) : nearestEven (x / 2 ^ lastPlace x) ≤ 2 ^ 53 := by
  have hlt := lt_zpow_lastPlace x
  rw [zpow_add₀ (by norm_num)] at hlt
  have hq : x / 2 ^ lastPlace x ≤ ((2 ^ 53 : ℤ) : ℝ) := by
    rw [div_le_iff₀ (by positivity)]
    exact_mod_cast hlt.le
  have hmono := nearestEven_mono hq
  rwa [nearestEven_intCast] at hmono

noncomputable def roundPos (x : ℝ) : ℝ := nearestEven (x / 2 ^ lastPlace x) * 2 ^ lastPlace x

theorem roundPos_zero : roundPos 0 = 0 := by
  have h := nearestEven_intCast 0
  simp only [Int.cast_zero] at h
  simp [roundPos, h]

theorem roundPos_nonneg {x : ℝ} (hx : 0 ≤ x) : 0 ≤ roundPos x := by
  have hp : (0 : ℝ) < 2 ^ lastPlace x := by positivity
  have hf : (0 : ℤ) ≤ ⌊x / 2 ^ lastPlace x⌋ := Int.floor_nonneg.mpr (by positivity)
  have hn := floor_le_nearestEven (x / 2 ^ lastPlace x)
  have hc : (0 : ℝ) ≤ nearestEven (x / 2 ^ lastPlace x) := by exact_mod_cast hf.trans hn
  exact mul_nonneg hc hp.le

theorem zpow_eq_mul_of_le {p e : ℤ} (h : p ≤ e) :
    (2 : ℝ) ^ e = ((2 ^ (e - p).toNat : ℤ) : ℝ) * 2 ^ p := by
  push_cast
  rw [← zpow_natCast, ← zpow_add₀ (by norm_num)]
  congr 1
  omega

theorem roundPos_le_zpow {x : ℝ} {e : ℤ} (hp : lastPlace x ≤ e) (h : x ≤ 2 ^ e) :
    roundPos x ≤ 2 ^ e := by
  have hpos : (0 : ℝ) < 2 ^ lastPlace x := by positivity
  rw [zpow_eq_mul_of_le hp] at h ⊢
  have hr := nearestEven_mono ((div_le_iff₀ hpos).mpr h)
  rw [nearestEven_intCast] at hr
  exact mul_le_mul_of_nonneg_right (by exact_mod_cast hr) hpos.le

theorem zpow_le_roundPos {x : ℝ} {e : ℤ} (hp : lastPlace x ≤ e) (h : 2 ^ e ≤ x) :
    2 ^ e ≤ roundPos x := by
  have hpos : (0 : ℝ) < 2 ^ lastPlace x := by positivity
  rw [zpow_eq_mul_of_le hp] at h ⊢
  have hr := nearestEven_mono ((le_div_iff₀ hpos).mpr h)
  rw [nearestEven_intCast] at hr
  exact mul_le_mul_of_nonneg_right (by exact_mod_cast hr) hpos.le

theorem roundPos_mono {x y : ℝ} (hx : 0 ≤ x) (h : x ≤ y) : roundPos x ≤ roundPos y := by
  rcases hx.eq_or_lt with rfl | hx
  · rw [roundPos_zero]
    exact roundPos_nonneg h
  -- Both are rounded on one grid, or a power of two that is on both grids lies between them.
  rcases (lastPlace_mono hx h).eq_or_lt with heq | hlt
  · have hpos : (0 : ℝ) < 2 ^ lastPlace y := by positivity
    unfold roundPos
    rw [heq]
    have hr := nearestEven_mono (div_le_div_of_nonneg_right h hpos.le)
    exact mul_le_mul_of_nonneg_right (by exact_mod_cast hr) hpos.le
  · have hmin : -1074 ≤ lastPlace x := le_max_right _ _
    have hb : (2 : ℝ) ^ (53 + lastPlace x) ≤ 2 ^ (52 + lastPlace y) :=
      zpow_le_zpow_right₀ (by norm_num) (by omega)
    have hlow := roundPos_le_zpow (by omega) (lt_zpow_lastPlace x).le
    have hhigh := zpow_le_roundPos (x := y) (e := 52 + lastPlace y) (by omega)
      (zpow_lastPlace_le (hx.trans_le h) (by omega))
    exact hlow.trans (hb.trans hhigh)

theorem roundPos_exact {m : ℕ} {e : ℤ} (hm : m < 2 ^ 53) (he : -1074 ≤ e) :
    roundPos (m * 2 ^ e) = m * 2 ^ e := by
  rcases Nat.eq_zero_or_pos m with rfl | hpos
  · simp [roundPos_zero]
  have hx : (0 : ℝ) < m * 2 ^ e := by positivity
  have hlt : (m : ℝ) * 2 ^ e < 2 ^ (53 + e) := by
    rw [zpow_add₀ (by norm_num)]
    have hm' : (m : ℝ) < 2 ^ (53 : ℤ) := by exact_mod_cast hm
    exact mul_lt_mul_of_pos_right hm' (by positivity)
  have hp := lastPlace_le_of_lt hx he hlt
  have hdiv : (m : ℝ) * 2 ^ e / 2 ^ lastPlace (m * 2 ^ e) =
      ((m * 2 ^ (e - lastPlace (m * 2 ^ e)).toNat : ℤ) : ℝ) := by
    rw [div_eq_iff (by positivity)]
    conv_lhs => rw [zpow_eq_mul_of_le hp]
    push_cast
    ring
  rw [roundPos, hdiv, nearestEven_intCast, ← hdiv, div_mul_cancel₀ _ (by positivity)]

noncomputable def magnitude (x : ℝ) : EReal := if roundPos x < 2 ^ (1024 : ℤ) then roundPos x else ⊤

theorem magnitude_mono {x y : ℝ} (hx : 0 ≤ x) (h : x ≤ y) : magnitude x ≤ magnitude y := by
  have hr := roundPos_mono hx h
  unfold magnitude
  split_ifs with h1 h2 h3
  · exact_mod_cast hr
  · exact le_top
  · exact absurd (hr.trans_lt h3) h1
  · exact le_refl _

theorem magnitude_nonneg {x : ℝ} (hx : 0 ≤ x) : 0 ≤ magnitude x := by
  unfold magnitude
  split_ifs
  · exact_mod_cast roundPos_nonneg hx
  · exact le_top

noncomputable def rounded (x : ℝ) : EReal := if 0 ≤ x then magnitude x else -magnitude (-x)

theorem rounded_nonneg {x : ℝ} (hx : 0 ≤ x) : 0 ≤ rounded x := by
  rw [rounded, if_pos hx]
  exact magnitude_nonneg hx

theorem rounded_neg {x : ℝ} (hx : 0 < x) : rounded (-x) = -magnitude x := by
  rw [rounded, if_neg (by linarith), neg_neg]

theorem rounded_mono {x y : ℝ} (h : x ≤ y) : rounded x ≤ rounded y := by
  by_cases hx : 0 ≤ x
  · rw [rounded, rounded, if_pos hx, if_pos (hx.trans h)]
    exact magnitude_mono hx h
  · have hx' : -magnitude (-x) ≤ 0 := by
      have hm := magnitude_nonneg (x := -x) (by linarith)
      simpa using EReal.neg_le_neg_iff.mpr hm
    by_cases hy : 0 ≤ y
    · rw [rounded, if_neg hx]
      exact hx'.trans (rounded_nonneg hy)
    · rw [rounded, rounded, if_neg hx, if_neg hy]
      exact EReal.neg_le_neg_iff.mpr (magnitude_mono (by linarith) (by linarith))

def Representable (x : ℝ) : Prop :=
  ∃ (m : ℕ) (e : ℤ), m < 2 ^ 53 ∧ -1074 ≤ e ∧ e ≤ 971 ∧ |x| = m * 2 ^ e

theorem magnitude_of_representable {x : ℝ} (h : Representable x) (hx : 0 ≤ x) :
    magnitude x = x := by
  obtain ⟨m, e, hm, hlo, hhi, hv⟩ := h
  rw [abs_of_nonneg hx] at hv
  have hfit : (m : ℝ) * 2 ^ e < 2 ^ (1024 : ℤ) := by
    have hm' : (m : ℝ) < 2 ^ (53 : ℤ) := by exact_mod_cast hm
    have hp : (2 : ℝ) ^ (53 + e) ≤ 2 ^ (1024 : ℤ) := zpow_le_zpow_right₀ (by norm_num) (by omega)
    rw [zpow_add₀ (by norm_num)] at hp
    have hlt : (m : ℝ) * 2 ^ e < 2 ^ (53 : ℤ) * 2 ^ e := mul_lt_mul_of_pos_right hm' (by positivity)
    exact hlt.trans_le hp
  rw [magnitude, hv, roundPos_exact hm hlo, if_pos hfit]

theorem rounded_of_representable {x : ℝ} (h : Representable x) : rounded x = x := by
  unfold rounded
  split_ifs with hx
  · exact magnitude_of_representable h hx
  · have hn : Representable (-x) := by simpa [Representable] using h
    rw [magnitude_of_representable hn (by linarith)]
    simp

theorem representable_natCast {n : ℕ} (h : n ≤ 2 ^ 53) : Representable n := by
  rcases h.eq_or_lt with rfl | hlt
  · refine ⟨2 ^ 52, 1, by norm_num, by norm_num, by norm_num, ?_⟩
    norm_num
  · exact ⟨n, 0, hlt, by norm_num, by norm_num, by simp⟩

theorem rounded_natCast {n : ℕ} (h : n ≤ 2 ^ 53) : rounded n = ((n : ℝ) : EReal) :=
  rounded_of_representable (representable_natCast h)

noncomputable def size (m : ℕ) (e : ℤ) : EReal := ((m * 2 ^ e : ℝ) : EReal)

theorem size_lt_size {m n : ℕ} {e f : ℤ} (h : (m : ℝ) * 2 ^ e < n * 2 ^ f) : size m e < size n f :=
  EReal.coe_lt_coe_iff.mpr h

theorem size_pos {m : ℕ} (e : ℤ) (h : 0 < m) : 0 < size m e := by
  have hp : (0 : ℝ) < m * 2 ^ e := by positivity
  exact EReal.coe_pos.mpr hp

theorem size_ne_top (m : ℕ) (e : ℤ) : size m e ≠ ⊤ := EReal.coe_ne_top _

theorem size_ne_bot (m : ℕ) (e : ℤ) : size m e ≠ ⊥ := EReal.coe_ne_bot _

end LaneQuota.Double
