import LaneQuota.Proofs.Double.Rounding

namespace LaneQuota.Double

open Float.Model Float.Model.UnpackedFloat

noncomputable def signed (s : Sign) (x : EReal) : EReal :=
  match s with
  | .positive => x
  | .negative => -x

noncomputable def meaning : UnpackedFloat → Option EReal
  | .notANumber => none
  | .infinity s => some (signed s ⊤)
  | .zero _ => some 0
  | .finite s m e _ => some (signed s (size m e))

/-- A mantissa has all its 53 places unless the exponent is the least. -/
def Canonical : UnpackedFloat → Prop
  | .finite _ m e _ => m < 2 ^ 53 ∧ -1074 ≤ e ∧ e ≤ 971 ∧ (2 ^ 52 ≤ m ∨ e = -1074)
  | _ => True

theorem ofBitVec_unpackSign (s : Sign) (e : BitVec 11) (m : BitVec 52) :
    Sign.ofBitVec (unpackSign (packComponents Format.binary64 s e m)) = s := by
  simp only [unpackSign, packComponents, BitVec.extractLsb]
  rw [BitVec.extractLsb'_append_eq_of_le (by omega), BitVec.extractLsb'_append_eq_of_le (by omega)]
  cases s <;> rfl

theorem toNat_one_append (m : BitVec 52) : (1#1 ++ m).toNat = 2 ^ 52 + m.toNat := by
  rw [BitVec.toNat_append, ← Nat.shiftLeft_add_eq_or_of_lt m.isLt]
  rfl

theorem canonical_unpack (b : BitVec Format.binary64.numBits) :
    Canonical (UnpackedFloat.unpack Format.binary64 b) := by
  have hm : (@unpackMantissa Format.binary64 b).toNat < 2 ^ 52 := BitVec.isLt _
  have he : (@unpackExponent Format.binary64 b).toNat < 2 ^ 11 := BitVec.isLt _
  have hbias : ((Format.binary64.exponentBias : ℕ) : ℤ) = 1023 := rfl
  have hbits : ((Format.binary64.mantissaBitsWithoutImplicit : ℕ) : ℤ) = 52 := rfl
  unfold UnpackedFloat.unpack
  dsimp only
  split
  · split <;> trivial
  · rename_i hlast
    have hlast' : (@unpackExponent Format.binary64 b).toNat ≠ 2047 :=
      fun h => hlast (BitVec.eq_of_toNat_eq h)
    split
    · rename_i hzero
      have hzero' : (@unpackExponent Format.binary64 b).toNat = 0 := by rw [hzero]; rfl
      split
      · trivial
      · exact ⟨by omega, by omega, by omega, Or.inr (by omega)⟩
    · rename_i hzero
      have hzero' : (@unpackExponent Format.binary64 b).toNat ≠ 0 :=
        fun h => hzero (BitVec.eq_of_toNat_eq h)
      have hone := toNat_one_append (@unpackMantissa Format.binary64 b)
      exact ⟨by omega, by omega, by omega, Or.inl (by omega)⟩

theorem unpack_normal (s : Sign) (m : ℕ) (e : ℤ) (h : 0 < m) (hlo : 2 ^ 52 ≤ m) (hhi : m < 2 ^ 53)
    (he : -1074 ≤ e) (he' : e ≤ 971) :
    UnpackedFloat.unpack Format.binary64 (packComponents Format.binary64 s
      (BitVec.ofNat 11 (e + 1075).toNat) (BitVec.ofNat 52 m)) = .finite s m e h := by
  have hexp : (BitVec.ofNat 11 (e + 1075).toNat).toNat = (e + 1075).toNat := by
    rw [BitVec.toNat_ofNat]
    omega
  have hlast : BitVec.ofNat 11 (e + 1075).toNat ≠ -1#11 := by
    intro hc
    have := congrArg BitVec.toNat hc
    rw [hexp] at this
    simp at this
    omega
  have hzero : BitVec.ofNat 11 (e + 1075).toNat ≠ 0#11 := by
    intro hc
    have := congrArg BitVec.toNat hc
    rw [hexp] at this
    simp at this
    omega
  have hm : (1#1 ++ BitVec.ofNat 52 m).toNat = m := by
    rw [toNat_one_append, BitVec.toNat_ofNat]
    omega
  have hval : ((e + 1075).toNat : ℤ) -
      (Format.binary64.exponentBias + Format.binary64.mantissaBitsWithoutImplicit) = e := by
    change ((e + 1075).toNat : ℤ) - (1023 + 52) = e
    omega
  simp only [UnpackedFloat.unpack, unpackExponent_packComponents, unpackMantissa_packComponents,
    ofBitVec_unpackSign]
  rw [if_neg hlast, if_neg hzero]
  congr 1
  rw [hexp]
  exact hval

theorem unpack_subnormal (s : Sign) (m : ℕ) (h : 0 < m) (hm : m < 2 ^ 52) :
    UnpackedFloat.unpack Format.binary64 (packComponents Format.binary64 s 0#11 (BitVec.ofNat 52 m)) =
      .finite s m (-1074) h := by
  have hnat : (BitVec.ofNat 52 m).toNat = m := by
    rw [BitVec.toNat_ofNat]
    omega
  have hne : BitVec.ofNat 52 m ≠ 0#52 := by
    intro hc
    have := congrArg BitVec.toNat hc
    rw [hnat] at this
    simp at this
    omega
  simp only [UnpackedFloat.unpack, unpackExponent_packComponents, unpackMantissa_packComponents,
    ofBitVec_unpackSign]
  rw [if_neg (by decide), if_pos trivial, dif_neg hne]
  congr 1

theorem pack_finite (s : Sign) (m : ℕ) (e : ℤ) (h : 0 < m) :
    UnpackedFloat.pack Format.binary64 (.finite s m e h) =
      if 2048 ≤ (e + 1075).toNat + 1 then packedInfinity Format.binary64 s
      else if m.log2 + 1 = 53 then
        packComponents Format.binary64 s (BitVec.ofNat 11 (e + 1075).toNat) (BitVec.ofNat 52 m)
      else packComponents Format.binary64 s 0#11 (BitVec.ofNat 52 m) := by
  have hb : (e + Format.binary64.exponentBias + Format.binary64.mantissaBitsWithoutImplicit).toNat =
      (e + 1075).toNat := by
    change (e + 1023 + 52).toNat = _
    omega
  simp only [UnpackedFloat.pack, hb]
  rfl

def stored (u : UnpackedFloat) : UnpackedFloat :=
  UnpackedFloat.unpack Format.binary64 (UnpackedFloat.pack Format.binary64 u)

theorem stored_of_canonical {u : UnpackedFloat} (h : Canonical u) : stored u = u := by
  cases u with
  | notANumber => rfl
  | infinity s => cases s <;> rfl
  | zero s => cases s <;> rfl
  | finite s m e hm =>
    obtain ⟨hhi, he, he', hlo⟩ := h
    rw [stored, pack_finite, if_neg (by omega)]
    by_cases hn : 2 ^ 52 ≤ m
    · have hl : m.log2 = 52 := (Nat.log2_eq_iff (by omega)).mpr ⟨hn, hhi⟩
      rw [if_pos (by omega), unpack_normal s m e hm hn hhi he he']
    · have hl : m.log2 < 52 := (Nat.log2_lt (by omega)).mpr (by omega)
      obtain rfl : e = -1074 := by omega
      rw [if_neg (by omega), unpack_subnormal s m hm (by omega)]

theorem stored_of_large (s : Sign) (m : ℕ) (e : ℤ) (h : 0 < m) (he : 972 ≤ e) :
    stored (.finite s m e h) = .infinity s := by
  rw [stored, pack_finite, if_pos (by omega)]
  cases s <;> rfl

theorem lt_of_exponent_lt {m n : ℕ} {e f : ℤ} (hm : m < 2 ^ 53) (hn : 2 ^ 52 ≤ n) (h : e < f) :
    (m : ℝ) * 2 ^ e < n * 2 ^ f := by
  have hm' : (m : ℝ) < 2 ^ (53 : ℤ) := by exact_mod_cast hm
  have hn' : (2 : ℝ) ^ (52 : ℤ) ≤ n := by exact_mod_cast hn
  have hp : (2 : ℝ) ^ (53 + e) ≤ 2 ^ (52 + f) := zpow_le_zpow_right₀ (by norm_num) (by omega)
  rw [zpow_add₀ (by norm_num), zpow_add₀ (by norm_num)] at hp
  have h1 : (m : ℝ) * 2 ^ e < 2 ^ (53 : ℤ) * 2 ^ e := mul_lt_mul_of_pos_right hm' (by positivity)
  have h2 : (2 : ℝ) ^ (52 : ℤ) * 2 ^ f ≤ n * 2 ^ f := mul_le_mul_of_nonneg_right hn' (by positivity)
  exact h1.trans_le (hp.trans h2)

theorem compare_neg (x y : EReal) : compare (-x) (-y) = (compare x y).swap := by
  rcases lt_trichotomy x y with h | rfl | h
  · rw [compare_lt_iff_lt.mpr h, compare_gt_iff_gt.mpr (EReal.neg_lt_neg_iff.mpr h)]
    rfl
  · rw [compare_eq_iff_eq.mpr rfl, compare_eq_iff_eq.mpr rfl]
    rfl
  · rw [compare_gt_iff_gt.mpr h, compare_lt_iff_lt.mpr (EReal.neg_lt_neg_iff.mpr h)]
    rfl

theorem compare_finite {s t : Sign} {m n : ℕ} {e f : ℤ} {hm : 0 < m} {hn : 0 < n}
    (hu : Canonical (.finite s m e hm)) (hv : Canonical (.finite t n f hn)) :
    (compare e f).then (compare m n) = compare (size m e) (size n f) := by
  obtain ⟨hm', he, -, hmlo⟩ := hu
  obtain ⟨hn', hf, -, hnlo⟩ := hv
  -- The mantissa of the greater exponent is full, so no mantissa makes up for the exponent.
  rcases lt_trichotomy e f with h | rfl | h
  · have hlt := lt_of_exponent_lt hm' (by omega : 2 ^ 52 ≤ n) h
    rw [compare_lt_iff_lt.mpr h, compare_lt_iff_lt.mpr (size_lt_size hlt)]
    rfl
  · have hp : (0 : ℝ) < 2 ^ e := by positivity
    rw [compare_eq_iff_eq.mpr (rfl : e = e)]
    change compare m n = _
    rcases lt_trichotomy m n with h | rfl | h
    · have hlt : (m : ℝ) * 2 ^ e < n * 2 ^ e := mul_lt_mul_of_pos_right (by exact_mod_cast h) hp
      rw [compare_lt_iff_lt.mpr h, compare_lt_iff_lt.mpr (size_lt_size hlt)]
    · rw [compare_eq_iff_eq.mpr rfl, compare_eq_iff_eq.mpr rfl]
    · have hlt : (n : ℝ) * 2 ^ e < m * 2 ^ e := mul_lt_mul_of_pos_right (by exact_mod_cast h) hp
      rw [compare_gt_iff_gt.mpr h, compare_gt_iff_gt.mpr (size_lt_size hlt)]
  · have hlt := lt_of_exponent_lt hn' (by omega : 2 ^ 52 ≤ m) h
    rw [compare_gt_iff_gt.mpr h, compare_gt_iff_gt.mpr (size_lt_size hlt)]
    rfl

theorem compare_eq {u v : UnpackedFloat} {x y : EReal} (hu : Canonical u) (hv : Canonical v)
    (hx : meaning u = some x) (hy : meaning v = some y) :
    UnpackedFloat.compare u v = some (compare x y) := by
  symm
  cases u <;> cases v <;> simp only [meaning, reduceCtorEq, Option.some.injEq] at hx hy <;>
    subst hx hy
  case infinity.infinity s t =>
    have hlt : compare (⊥ : EReal) ⊤ = .lt := compare_lt_iff_lt.mpr bot_lt_top
    have hgt : compare (⊤ : EReal) ⊥ = .gt := compare_gt_iff_gt.mpr bot_lt_top
    cases s <;> cases t <;> simp [UnpackedFloat.compare, signed, hlt, hgt] <;> rfl
  case infinity.zero s t =>
    cases s <;> simp [UnpackedFloat.compare, signed, compare_lt_iff_lt, compare_gt_iff_gt]
  case infinity.finite s t n f hn =>
    cases s <;> cases t <;> simp [UnpackedFloat.compare, signed, compare_lt_iff_lt,
      compare_gt_iff_gt, bot_lt_iff_ne_bot, lt_top_iff_ne_top, size_ne_top, size_ne_bot]
  case zero.infinity s t =>
    cases t <;> simp [UnpackedFloat.compare, signed, compare_lt_iff_lt, compare_gt_iff_gt]
  case zero.zero s t => simp [UnpackedFloat.compare]
  case zero.finite s t n f hn =>
    have hp := size_pos f hn
    cases t <;> simp [UnpackedFloat.compare, signed, compare_lt_iff_lt, compare_gt_iff_gt, hp]
  case finite.infinity s m e hm t =>
    cases s <;> cases t <;> simp [UnpackedFloat.compare, signed, compare_lt_iff_lt,
      compare_gt_iff_gt, bot_lt_iff_ne_bot, lt_top_iff_ne_top, size_ne_top, size_ne_bot]
  case finite.zero s m e hm t =>
    have hp := size_pos e hm
    cases s <;> simp [UnpackedFloat.compare, signed, compare_lt_iff_lt, compare_gt_iff_gt, hp]
  case finite.finite s m e hm t n f hn =>
    have hc := compare_finite hu hv
    have hp := size_pos e hm
    have hq := size_pos f hn
    have hpq : -size m e < size n f := (EReal.neg_lt_zero.mpr hp).trans hq
    have hqp : -size n f < size m e := (EReal.neg_lt_zero.mpr hq).trans hp
    cases s <;> cases t <;> simp [UnpackedFloat.compare, signed, compare_lt_iff_lt,
      compare_gt_iff_gt, hc, compare_neg, hpq, hqp]

end LaneQuota.Double
