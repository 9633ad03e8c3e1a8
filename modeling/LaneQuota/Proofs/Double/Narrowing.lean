import LaneQuota.Proofs.Double.Machine

namespace LaneQuota.Double

open Float.Model Float.Model.UnpackedFloat

/-- What the mantissa of a number and the bits below it say of that number. -/
structure Approximates (em : ExtendedMantissa) (x : ℝ) : Prop where
  lower : (em.mantissa : ℝ) ≤ x
  upper : x < em.mantissa + 1
  half : em.roundBit = true ↔ (em.mantissa : ℝ) + 1 / 2 ≤ x
  rest : em.stickyBit = false ↔ x = em.mantissa ∨ x = em.mantissa + 1 / 2

theorem Approximates.exact_iff {em : ExtendedMantissa} {x : ℝ} (h : Approximates em x) :
    (em.roundBit || em.stickyBit) = false ↔ x = em.mantissa := by
  rw [Bool.or_eq_false_iff, h.rest, ← Bool.not_eq_true, h.half]
  constructor
  · rintro ⟨h1, h2 | h2⟩
    · exact h2
    · exact absurd h2.ge h1
  · intro h1
    exact ⟨by linarith, Or.inl h1⟩

theorem Approximates.shiftRightOne {em : ExtendedMantissa} {x : ℝ} (h : Approximates em x) :
    Approximates em.shiftRightOne (x / 2) := by
  have hlo := h.lower
  have hhi := h.upper
  have hexact := h.exact_iff
  have hm : (em.mantissa : ℝ) = 2 * (em.mantissa / 2 : ℕ) + (em.mantissa % 2 : ℕ) := by
    exact_mod_cast (Nat.div_add_mod em.mantissa 2).symm
  have hbit : em.shiftRightOne.roundBit = true ↔ em.mantissa % 2 = 1 := by
    simp [ExtendedMantissa.shiftRightOne]
  rcases Nat.mod_two_eq_zero_or_one em.mantissa with hr | hr <;> rw [hr] at hm hbit <;> push_cast at hm
  · refine ⟨?_, ?_, ?_, hexact.trans ?_⟩ <;> simp only [ExtendedMantissa.shiftRightOne] at hbit ⊢
    · linarith
    · linarith
    · rw [hbit]
      constructor
      · intro h; omega
      · intro h; linarith
    · constructor
      · intro h; left; linarith
      · rintro (h | h) <;> linarith
  · refine ⟨?_, ?_, ?_, hexact.trans ?_⟩ <;> simp only [ExtendedMantissa.shiftRightOne] at hbit ⊢
    · linarith
    · linarith
    · rw [hbit]
      constructor
      · intro; linarith
      · intro; trivial
    · constructor
      · intro h; right; linarith
      · rintro (h | h) <;> linarith

theorem Approximates.shiftRight {em : ExtendedMantissa} {x : ℝ} (h : Approximates em x) (n : ℕ) :
    Approximates (em >>> n) (x / 2 ^ n) := by
  induction n with
  | zero =>
    rw [pow_zero, div_one]
    exact h
  | succ n ih =>
    have hs := ih.shiftRightOne
    rw [div_div, ← pow_succ] at hs
    exact hs

theorem Approximates.roundedMantissa {em : ExtendedMantissa} {x : ℝ} (h : Approximates em x) :
    (em.roundedMantissa : ℤ) = nearestEven x := by
  obtain ⟨m, r, s⟩ := em
  obtain ⟨hlo, hhi, hhalf, hrest⟩ := h
  simp only at hlo hhi hhalf hrest
  have hf : ⌊x⌋ = m := Int.floor_eq_iff.mpr ⟨by exact_mod_cast hlo, by exact_mod_cast hhi⟩
  have hx : Int.fract x = x - m := by
    rw [Int.fract, hf]
    rfl
  unfold nearestEven
  rw [hx, hf]
  cases r <;> cases s <;> simp only [Bool.false_eq_true, false_iff, true_iff, reduceCtorEq, not_le,
    not_or] at hhalf hrest
  · rw [if_pos (by linarith)]
    rfl
  · rw [if_pos (by linarith)]
    rfl
  · have hx : x = m + 1 / 2 := by
      rcases hrest with h | h <;> linarith
    rw [if_neg (by linarith), if_neg (by linarith)]
    rfl
  · have hx : (m : ℝ) + 1 / 2 < x := lt_of_le_of_ne hhalf (Ne.symm hrest.2)
    rw [if_neg (by linarith), if_pos (by linarith)]
    rfl

theorem approximates_exact (m : ℕ) : Approximates (.ofMantissaAndAccuracy m .exact) m := by
  refine ⟨le_refl _, by simp [ExtendedMantissa.ofMantissaAndAccuracy], ?_, ?_⟩ <;>
    simp [ExtendedMantissa.ofMantissaAndAccuracy]

theorem log_size {m : ℕ} (e : ℤ) (h : 0 < m) : Int.log 2 ((m : ℝ) * 2 ^ e) = m.log2 + e := by
  have hx : (0 : ℝ) < m * 2 ^ e := by positivity
  have hlo : (2 : ℝ) ^ (m.log2 + e : ℤ) ≤ m * 2 ^ e := by
    rw [zpow_add₀ (by norm_num), zpow_natCast]
    have := Nat.log2_self_le (Nat.ne_of_gt h)
    exact mul_le_mul_of_nonneg_right (by exact_mod_cast this) (by positivity)
  have hhi : (m : ℝ) * 2 ^ e < 2 ^ (m.log2 + e + 1 : ℤ) := by
    rw [show (m.log2 + e + 1 : ℤ) = (m.log2 + 1 : ℕ) + e by push_cast; ring,
      zpow_add₀ (by norm_num), zpow_natCast]
    have := Nat.lt_log2_self (n := m)
    exact mul_lt_mul_of_pos_right (by exact_mod_cast this) (by positivity)
  have h1 := (Int.zpow_le_iff_le_log (b := 2) (by norm_num) hx).mp (by exact_mod_cast hlo)
  have h2 := (Int.lt_zpow_iff_log_lt (b := 2) (by norm_num) hx).mp (by exact_mod_cast hhi)
  omega

theorem targetExponent_eq {m : ℕ} (e : ℤ) (h : 0 < m) :
    Format.binary64.targetExponent (totalExponent m e) = lastPlace (m * 2 ^ e) := by
  rw [lastPlace, log_size e h]
  simp only [Format.targetExponent, totalExponent, Format.mantissaBits, Format.minExponent]
  norm_num
  omega

theorem shiftToTarget_short {r : ℕ} {t : ℤ} (hr : r < 2 ^ 53) (ht : -1074 ≤ t) :
    shiftToTargetExponent Format.binary64 r t .exact = (⟨r, false, false⟩, t) := by
  have hl : r.log2 ≤ 52 := by
    rcases Nat.eq_zero_or_pos r with rfl | hp
    · simp
    · have := (Nat.log2_lt (by omega)).mpr hr
      omega
  have hn : (Format.binary64.targetExponent (totalExponent r t) - t).toNat = 0 := by
    simp only [Format.targetExponent, totalExponent, Format.mantissaBits, Format.minExponent]
    norm_num
    omega
  simp only [shiftToTargetExponent, shiftToExponent, hn]
  exact Prod.ext rfl (add_zero t)

theorem shiftToTarget_full {t : ℤ} (ht : -1074 ≤ t) :
    shiftToTargetExponent Format.binary64 (2 ^ 53) t .exact = (⟨2 ^ 52, false, false⟩, t + 1) := by
  have hn : (Format.binary64.targetExponent (totalExponent (2 ^ 53) t) - t).toNat = 1 := by
    simp only [Format.targetExponent, totalExponent, Nat.log2_two_pow, Format.mantissaBits,
      Format.minExponent]
    norm_num
    omega
  simp only [shiftToTargetExponent, shiftToExponent, hn]
  rfl

theorem shiftToTarget_approximates {m : ℕ} {e : ℤ} (h : 0 < m) (he : e ≤ lastPlace (m * 2 ^ e)) :
    ∃ em, shiftToTargetExponent Format.binary64 m e .exact = (em, lastPlace (m * 2 ^ e)) ∧
      Approximates em (m * 2 ^ e / 2 ^ lastPlace (m * 2 ^ e)) := by
  have htarget := targetExponent_eq e h
  generalize lastPlace (m * 2 ^ e) = t at *
  obtain ⟨n, hn⟩ : ∃ n : ℕ, t - e = n := ⟨(t - e).toNat, by omega⟩
  obtain rfl : t = e + n := by omega
  have hx : (m : ℝ) * 2 ^ e / 2 ^ (e + n) = m / 2 ^ n := by
    rw [zpow_add₀ (by norm_num), zpow_natCast]
    field_simp
  refine ⟨ExtendedMantissa.ofMantissaAndAccuracy m .exact >>> n, ?_, ?_⟩
  · simp only [shiftToTargetExponent, shiftToExponent, htarget]
    rw [show (e + n - e).toNat = n by omega]
  · rw [hx]
    exact (approximates_exact m).shiftRight n

theorem roundWithAccuracy_eq (s : Sign) {m : ℕ} {e : ℤ} (h : 0 < m)
    (he : e ≤ lastPlace (m * 2 ^ e)) :
    ∃ r : ℕ, (r : ℤ) = nearestEven (m * 2 ^ e / 2 ^ lastPlace (m * 2 ^ e)) ∧ r ≤ 2 ^ 53 ∧
      roundWithAccuracy Format.binary64 s m e .exact =
        if h : r = 0 then .zero s
        else if r < 2 ^ 53 then .finite s r (lastPlace (m * 2 ^ e)) (Nat.pos_of_ne_zero h)
        else .finite s (2 ^ 52) (lastPlace (m * 2 ^ e) + 1) (by norm_num) := by
  have hmin : -1074 ≤ lastPlace (m * 2 ^ e) := le_max_right _ _
  obtain ⟨em, hshift, happ⟩ := shiftToTarget_approximates h he
  have hr := happ.roundedMantissa
  have hle : em.roundedMantissa ≤ 2 ^ 53 := by
    have hnear := nearestEven_lastPlace_le (m * 2 ^ e)
    rw [← hr] at hnear
    exact_mod_cast hnear
  refine ⟨em.roundedMantissa, hr, hle, ?_⟩
  rw [roundWithAccuracy, hshift]
  dsimp only
  -- A mantissa that was rounded up to `2 ^ 53` gives up one more place, which is zero.
  rcases hle.lt_or_eq with hlt | heq
  · rw [shiftToTarget_short hlt hmin]
    simp only [hlt, if_true]
  · rw [heq, shiftToTarget_full hmin]
    simp

theorem pow_le_size {r : ℕ} {t : ℤ} (hr : 2 ^ 52 ≤ r) (ht : 972 ≤ t) :
    (2 : ℝ) ^ (1024 : ℤ) ≤ r * 2 ^ t := by
  have hp : (2 : ℝ) ^ (1024 : ℤ) ≤ 2 ^ (52 + t) := zpow_le_zpow_right₀ (by norm_num) (by omega)
  rw [zpow_add₀ (by norm_num) 52 t] at hp
  have hr' : (2 : ℝ) ^ (52 : ℤ) ≤ r := by exact_mod_cast hr
  have hm : (2 : ℝ) ^ (52 : ℤ) * 2 ^ t ≤ r * 2 ^ t := mul_le_mul_of_nonneg_right hr' (by positivity)
  exact hp.trans hm

theorem size_lt_pow {r : ℕ} {t : ℤ} (hr : r < 2 ^ 53) (ht : t ≤ 971) :
    (r : ℝ) * 2 ^ t < 2 ^ (1024 : ℤ) := by
  have hp : (2 : ℝ) ^ (53 + t) ≤ 2 ^ (1024 : ℤ) := zpow_le_zpow_right₀ (by norm_num) (by omega)
  rw [zpow_add₀ (by norm_num) 53 t] at hp
  have hr' : (r : ℝ) < 2 ^ (53 : ℤ) := by exact_mod_cast hr
  have hm : (r : ℝ) * 2 ^ t < 2 ^ (53 : ℤ) * 2 ^ t := mul_lt_mul_of_pos_right hr' (by positivity)
  exact hm.trans_le hp

theorem meaning_finite {s : Sign} {r : ℕ} {t : ℤ} (hr : r < 2 ^ 53) (ht : -1074 ≤ t)
    (h : 0 < r) (hfull : 2 ^ 52 ≤ r ∨ t = -1074) :
    meaning (stored (.finite s r t h)) =
      some (signed s (if (r : ℝ) * 2 ^ t < 2 ^ (1024 : ℤ) then ((r * 2 ^ t : ℝ) : EReal) else ⊤)) := by
  by_cases hfit : t ≤ 971
  · have hc : Canonical (.finite s r t h) := ⟨hr, ht, hfit, hfull⟩
    rw [stored_of_canonical hc, if_pos (size_lt_pow hr hfit)]
    rfl
  · have hbig := pow_le_size (r := r) (t := t) (by omega) (by omega)
    rw [stored_of_large s r t h (by omega), if_neg (by linarith)]
    rfl

theorem meaning_carried (s : Sign) {t : ℤ} (ht : -1074 ≤ t) :
    meaning (stored (.finite s (2 ^ 52) (t + 1) (by norm_num))) =
      some (signed s (if (2 : ℝ) ^ 53 * 2 ^ t < 2 ^ (1024 : ℤ) then
        ((2 ^ 53 * 2 ^ t : ℝ) : EReal) else ⊤)) := by
  have hshift : ((2 ^ 52 : ℕ) : ℝ) * 2 ^ (t + 1) = 2 ^ 53 * 2 ^ t := by
    rw [zpow_add₀ (by norm_num)]
    push_cast
    ring
  rw [meaning_finite (by norm_num) (by omega) _ (Or.inl le_rfl), hshift]

theorem meaning_roundWithAccuracy (s : Sign) {m : ℕ} {e : ℤ} (h : 0 < m)
    (he : e ≤ lastPlace (m * 2 ^ e)) :
    meaning (stored (roundWithAccuracy Format.binary64 s m e .exact)) =
      some (signed s (magnitude (m * 2 ^ e))) := by
  have hx : (0 : ℝ) < m * 2 ^ e := by positivity
  have hmin : -1074 ≤ lastPlace (m * 2 ^ e) := le_max_right _ _
  obtain ⟨r, hr, hle, heq⟩ := roundWithAccuracy_eq s h he
  have hround : roundPos (m * 2 ^ e) = r * 2 ^ lastPlace (m * 2 ^ e) := by
    rw [roundPos, ← hr]
    rfl
  have hfull : 2 ^ 52 ≤ r ∨ lastPlace (m * 2 ^ e) = -1074 := by
    by_cases hlast : -1074 < lastPlace (m * 2 ^ e)
    · left
      have hlow := zpow_le_roundPos (by omega) (zpow_lastPlace_le hx hlast)
      rw [hround, zpow_add₀ (by norm_num)] at hlow
      have hlow' := le_of_mul_le_mul_right hlow (by positivity)
      exact_mod_cast hlow'
    · right
      omega
  rw [heq, magnitude, hround]
  by_cases hzero : r = 0
  · subst hzero
    cases s <;> simp [signed] <;> rfl
  rw [dif_neg hzero]
  rcases hle.lt_or_eq with hsmall | rfl
  · rw [if_pos hsmall]
    exact meaning_finite hsmall hmin _ hfull
  · have hcast : ((2 ^ 53 : ℕ) : ℝ) = 2 ^ 53 := by norm_num
    rw [if_neg (lt_irrefl _), meaning_carried s hmin, hcast]

theorem decreaseExponent_size (m : ℕ) (e t : ℤ) :
    ((decreaseExponent m e t).1 : ℝ) * 2 ^ (decreaseExponent m e t).2 = m * 2 ^ e := by
  simp only [decreaseExponent, Nat.shiftLeft_eq]
  push_cast
  rw [mul_assoc, ← zpow_natCast, ← zpow_add₀ (by norm_num)]
  congr 2
  omega

theorem meaning_round (s : Sign) {m : ℕ} (e : ℤ) (h : 0 < m) :
    meaning (stored (UnpackedFloat.round Format.binary64 s m e)) =
      some (signed s (magnitude (m * 2 ^ e))) := by
  have hsize := decreaseExponent_size m e (lastPlace (m * 2 ^ e))
  have hexp : (decreaseExponent m e (lastPlace (m * 2 ^ e))).2 ≤ lastPlace (m * 2 ^ e) := by
    simp only [decreaseExponent]
    omega
  have hpos : 0 < (decreaseExponent m e (lastPlace (m * 2 ^ e))).1 := by
    simp only [decreaseExponent, Nat.shiftLeft_eq]
    positivity
  simp only [UnpackedFloat.round, targetExponent_eq e h]
  generalize decreaseExponent m e (lastPlace (m * 2 ^ e)) = d at *
  rw [← hsize] at hexp ⊢
  exact meaning_roundWithAccuracy s hpos hexp

theorem meaning_normalize (n : ℤ) (e : ℤ) (z : Sign) :
    meaning (stored (UnpackedFloat.normalize Format.binary64 n e z)) = some (rounded (n * 2 ^ e)) := by
  unfold UnpackedFloat.normalize
  rcases lt_trichotomy n 0 with h | rfl | h
  · have hcast : ((-n).toNat : ℝ) = -n := by
      exact_mod_cast Int.toNat_of_nonneg (by omega : 0 ≤ -n)
    have hneg : (n : ℝ) * 2 ^ e < 0 := mul_neg_of_neg_of_pos (by exact_mod_cast h) (by positivity)
    rw [compare_lt_iff_lt.mpr h]
    dsimp only
    rw [meaning_round _ e (by omega), hcast, rounded, if_neg (by linarith), neg_mul]
    rfl
  · rw [compare_eq_iff_eq.mpr rfl]
    cases z <;> simp [rounded, magnitude, roundPos_zero, stored, meaning] <;> rfl
  · have hcast : (n.toNat : ℝ) = n := by
      exact_mod_cast Int.toNat_of_nonneg (by omega : 0 ≤ n)
    have hpos : (0 : ℝ) ≤ n * 2 ^ e := mul_nonneg (by exact_mod_cast h.le) (by positivity)
    rw [compare_gt_iff_gt.mpr h]
    dsimp only
    rw [meaning_round _ e (by omega), hcast, rounded, if_pos hpos]
    rfl

end LaneQuota.Double
