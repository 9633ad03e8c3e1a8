import LaneQuota.Proofs.Double.Narrowing

namespace LaneQuota.Double

open Float.Model Float.Model.UnpackedFloat

/-! ## Unpacked numbers -/

theorem meaning_stored {u : UnpackedFloat} (h : Canonical u) : meaning (stored u) = meaning u := by
  rw [stored_of_canonical h]

theorem meaning_finite_apply (s : Sign) (m : ℕ) (e : ℤ) (h : 0 < m) :
    meaning (.finite s m e h) = some (((s.apply m : ℤ) * 2 ^ e : ℝ) : EReal) := by
  cases s with
  | positive => simp [meaning, signed, size, Sign.apply]
  | negative => simp [meaning, signed, size, Sign.apply]

theorem zero_or_finite {u : UnpackedFloat} {x : ℝ} (hx : meaning u = some (x : EReal)) :
    (∃ s, u = .zero s ∧ x = 0) ∨
      ∃ (s : Sign) (m : ℕ) (e : ℤ) (h : 0 < m), u = .finite s m e h ∧
        x = (s.apply m : ℤ) * 2 ^ e := by
  cases u with
  | notANumber => simp [meaning] at hx
  | infinity s => cases s <;> simp [meaning, signed] at hx
  | zero s =>
    have hx' : (0 : EReal) = x := by simpa [meaning] using hx
    exact Or.inl ⟨s, rfl, EReal.coe_eq_zero.mp hx'.symm⟩
  | finite s m e hm =>
    rw [meaning_finite_apply, Option.some.injEq, EReal.coe_eq_coe_iff] at hx
    exact Or.inr ⟨s, m, e, hm, rfl, hx.symm⟩

theorem representable_of_canonical {u : UnpackedFloat} {x : ℝ} (h : Canonical u)
    (hx : meaning u = some (x : EReal)) : Representable x := by
  rcases zero_or_finite hx with ⟨s, rfl, rfl⟩ | ⟨s, m, e, hm, rfl, rfl⟩
  · exact ⟨0, 0, by norm_num, by norm_num, by norm_num, by simp⟩
  · obtain ⟨hhi, he, he', -⟩ := h
    refine ⟨m, e, hhi, he, he', ?_⟩
    rw [abs_mul, abs_of_pos (by positivity : (0 : ℝ) < 2 ^ e)]
    cases s <;> simp [Sign.apply]

theorem aligned_size (s : Sign) (m : ℕ) (e f : ℤ) (h : f ≤ e) :
    ((s.apply (decreaseExponent m e f).1 : ℤ) : ℝ) * 2 ^ f = (s.apply m : ℤ) * 2 ^ e := by
  have hsize := decreaseExponent_size m e f
  have hexp : (decreaseExponent m e f).2 = f := by
    simp only [decreaseExponent]
    omega
  rw [hexp] at hsize
  cases s with
  | positive =>
    simp only [Sign.apply]
    exact_mod_cast hsize
  | negative =>
    simp only [Sign.apply]
    push_cast
    linarith

theorem meaning_add {u v : UnpackedFloat} {x y : ℝ} (hu : Canonical u) (hv : Canonical v)
    (hx : meaning u = some (x : EReal)) (hy : meaning v = some (y : EReal)) :
    meaning (stored (UnpackedFloat.add Format.binary64 u v)) = some (rounded (x + y)) := by
  rcases zero_or_finite hx with ⟨s, rfl, rfl⟩ | ⟨s, m, e, hm, rfl, rfl⟩
  · have hr := rounded_of_representable (representable_of_canonical hv hy)
    rcases zero_or_finite hy with ⟨t, rfl, rfl⟩ | ⟨t, n, f, hn, rfl, rfl⟩
    · rw [zero_add, hr]
      cases s <;> cases t <;> rfl
    · rw [zero_add, hr, ← hy]
      exact meaning_stored hv
  · rcases zero_or_finite hy with ⟨t, rfl, rfl⟩ | ⟨t, n, f, hn, rfl, rfl⟩
    · rw [add_zero, rounded_of_representable (representable_of_canonical hu hx), ← hx]
      exact meaning_stored hu
    · rw [← aligned_size s m e (min e f) (min_le_left e f),
        ← aligned_size t n f (min e f) (min_le_right e f), ← add_mul, ← Int.cast_add]
      exact meaning_normalize _ _ _

theorem meaning_sub {u v : UnpackedFloat} {x y : ℝ} (hu : Canonical u) (hv : Canonical v)
    (hx : meaning u = some (x : EReal)) (hy : meaning v = some (y : EReal)) :
    meaning (stored (UnpackedFloat.sub Format.binary64 u v)) = some (rounded (x - y)) := by
  rcases zero_or_finite hx with ⟨s, rfl, rfl⟩ | ⟨s, m, e, hm, rfl, rfl⟩
  · rcases zero_or_finite hy with ⟨t, rfl, rfl⟩ | ⟨t, n, f, hn, rfl, rfl⟩
    · have hr := rounded_of_representable (representable_of_canonical hv hy)
      rw [sub_zero, hr]
      cases s <;> cases t <;> rfl
    · have hneg : Canonical (.finite (-t) n f hn) := hv
      have hval : meaning (.finite (-t) n f hn) = some ((0 - (t.apply n : ℤ) * 2 ^ f : ℝ) : EReal) := by
        rw [meaning_finite_apply]
        cases t <;> simp [Sign.apply]
      rw [rounded_of_representable (representable_of_canonical hneg hval), ← hval]
      exact meaning_stored hneg
  · rcases zero_or_finite hy with ⟨t, rfl, rfl⟩ | ⟨t, n, f, hn, rfl, rfl⟩
    · rw [sub_zero, rounded_of_representable (representable_of_canonical hu hx), ← hx]
      exact meaning_stored hu
    · rw [← aligned_size s m e (min e f) (min_le_left e f),
        ← aligned_size t n f (min e f) (min_le_right e f), ← sub_mul, ← Int.cast_sub]
      exact meaning_normalize _ _ _

theorem eq_infinity {u : UnpackedFloat} (h : meaning u = some ⊤) : u = .infinity .positive := by
  cases u with
  | notANumber => simp [meaning] at h
  | infinity s => cases s <;> simp_all [meaning, signed]
  | zero s => simp [meaning] at h
  | finite s m e hm =>
    rw [meaning_finite_apply, Option.some.injEq] at h
    exact absurd h (EReal.coe_ne_top _)

theorem meaning_infinity_add {v : UnpackedFloat} {y : EReal} (hy : meaning v = some y)
    (hne : y ≠ ⊥) :
    meaning (stored (UnpackedFloat.add Format.binary64 (.infinity .positive) v)) = some ⊤ := by
  have hadd : UnpackedFloat.add Format.binary64 (.infinity .positive) v = .infinity .positive := by
    cases v with
    | notANumber => simp [meaning] at hy
    | infinity t => cases t <;> simp_all [meaning, signed, UnpackedFloat.add]
    | zero t => rfl
    | finite t n f hn => rfl
  rw [hadd]
  rfl

theorem meaning_add_infinity {u : UnpackedFloat} {x : EReal} (hx : meaning u = some x)
    (hne : x ≠ ⊥) :
    meaning (stored (UnpackedFloat.add Format.binary64 u (.infinity .positive))) = some ⊤ := by
  have hadd : UnpackedFloat.add Format.binary64 u (.infinity .positive) = .infinity .positive := by
    cases u with
    | notANumber => simp [meaning] at hx
    | infinity t => cases t <;> simp_all [meaning, signed, UnpackedFloat.add]
    | zero t => rfl
    | finite t n f hn => rfl
  rw [hadd]
  rfl

theorem le_lastPlace_of_canonical {s t : Sign} {m n : ℕ} {e f : ℤ} {hm : 0 < m} {hn : 0 < n}
    (hu : Canonical (.finite s m e hm)) (hv : Canonical (.finite t n f hn)) :
    e + f ≤ lastPlace ((m * n : ℕ) * 2 ^ (e + f)) := by
  obtain ⟨-, he, -, hmlo⟩ := hu
  obtain ⟨-, hf, -, hnlo⟩ := hv
  rw [lastPlace, log_size _ (Nat.mul_pos hm hn)]
  by_cases hfull : 2 ^ 52 ≤ m ∨ 2 ^ 52 ≤ n
  · have hprod : 2 ^ 52 ≤ m * n := by
      rcases hfull with h | h
      · exact h.trans (Nat.le_mul_of_pos_right m hn)
      · exact h.trans (Nat.le_mul_of_pos_left n hm)
    have hlog : 52 ≤ (m * n).log2 := (Nat.le_log2 (by positivity)).mpr hprod
    omega
  · omega

theorem meaning_mul {u v : UnpackedFloat} {x y : ℝ} (hu : Canonical u) (hv : Canonical v)
    (hx : meaning u = some (x : EReal)) (hy : meaning v = some (y : EReal)) :
    meaning (stored (UnpackedFloat.mul Format.binary64 u v)) = some (rounded (x * y)) := by
  have hzero : ∀ s, meaning (stored (.zero s)) = some ((0 : ℝ) : EReal) :=
    fun s => meaning_stored trivial
  have hnum : rounded 0 = (0 : ℝ) :=
    rounded_of_representable ⟨0, 0, by norm_num, by norm_num, by norm_num, by simp⟩
  rcases zero_or_finite hx with ⟨s, rfl, rfl⟩ | ⟨s, m, e, hm, rfl, rfl⟩
  · rw [zero_mul, hnum]
    rcases zero_or_finite hy with ⟨t, rfl, rfl⟩ | ⟨t, n, f, hn, rfl, rfl⟩ <;> exact hzero _
  · rcases zero_or_finite hy with ⟨t, rfl, rfl⟩ | ⟨t, n, f, hn, rfl, rfl⟩
    · rw [mul_zero, hnum]
      exact hzero _
    · have hround := meaning_roundWithAccuracy (s * t) (Nat.mul_pos hm hn)
        (le_lastPlace_of_canonical hu hv)
      have hpos : (0 : ℝ) < (m * n : ℕ) * 2 ^ (e + f) := by positivity
      have hval : ((m * n : ℕ) : ℝ) * 2 ^ (e + f) = m * 2 ^ e * (n * 2 ^ f) := by
        rw [zpow_add₀ (by norm_num)]
        push_cast
        ring
      refine hround.trans ?_
      rw [hval] at hpos ⊢
      cases s <;> cases t <;> simp only [Sign.apply] <;> push_cast
      · rw [neg_mul, neg_mul, neg_mul, mul_neg, neg_neg, rounded, if_pos hpos.le]
        rfl
      · rw [neg_mul, neg_mul, rounded_neg hpos]
        rfl
      · rw [neg_mul, mul_neg, rounded_neg hpos]
        rfl
      · rw [rounded, if_pos hpos.le]
        rfl

/-! ## Doubles -/

/-- The number that a double stands for. -/
def Denotes (x : Float) (v : EReal) : Prop := meaning x.toModel.unpack = some v

theorem canonical_toModel (x : Float) : Canonical x.toModel.unpack := canonical_unpack _

section Comparison

variable {x y : Float} {v w : EReal}

theorem Denotes.lt_iff (hx : Denotes x v) (hy : Denotes y w) : x < y ↔ v < w := by
  have hc := compare_eq (canonical_toModel x) (canonical_toModel y) hx hy
  change decide (UnpackedFloat.lt _ _ = true) = true ↔ _
  rw [decide_eq_true_iff, UnpackedFloat.lt, hc, ← compare_lt_iff_lt]
  simp

theorem Denotes.le_iff (hx : Denotes x v) (hy : Denotes y w) : x ≤ y ↔ v ≤ w := by
  have hc := compare_eq (canonical_toModel x) (canonical_toModel y) hx hy
  change decide (UnpackedFloat.le _ _ = true) = true ↔ _
  rw [decide_eq_true_iff, UnpackedFloat.le, hc, ← compare_le_iff_le]
  cases compare v w <;> simp

theorem exists_denotes_of_le (h : x ≤ y) : (∃ v, Denotes x v) ∧ ∃ w, Denotes y w := by
  have hc : UnpackedFloat.le x.toModel.unpack y.toModel.unpack = true := of_decide_eq_true h
  unfold Denotes
  generalize x.toModel.unpack = u at *
  generalize y.toModel.unpack = v at *
  constructor
  · cases u with
    | notANumber => simp [UnpackedFloat.le, UnpackedFloat.compare] at hc
    | _ => exact ⟨_, rfl⟩
  · cases v with
    | notANumber => cases u <;> simp [UnpackedFloat.le, UnpackedFloat.compare] at hc
    | _ => exact ⟨_, rfl⟩

end Comparison

section Operations

variable {x y : Float} {v w : ℝ}

theorem Denotes.representable (h : Denotes x v) : Representable v :=
  representable_of_canonical (canonical_toModel x) h

theorem Denotes.add (hx : Denotes x v) (hy : Denotes y w) : Denotes (x + y) (rounded (v + w)) :=
  meaning_add (canonical_toModel x) (canonical_toModel y) hx hy

theorem Denotes.sub (hx : Denotes x v) (hy : Denotes y w) : Denotes (x - y) (rounded (v - w)) :=
  meaning_sub (canonical_toModel x) (canonical_toModel y) hx hy

theorem Denotes.mul (hx : Denotes x v) (hy : Denotes y w) : Denotes (x * y) (rounded (v * w)) :=
  meaning_mul (canonical_toModel x) (canonical_toModel y) hx hy

theorem denotes_toFloat (n : UInt64) : Denotes n.toFloat (rounded n.toNat) := by
  have h := meaning_normalize n.toNat 0 .positive
  rw [zpow_zero, mul_one, Int.cast_natCast] at h
  exact h

theorem denotes_toFloat_nat {n : UInt64} (h : n.toNat ≤ 2 ^ 53) :
    Denotes n.toFloat (n.toNat : ℝ) := by
  have hn := denotes_toFloat n
  rwa [rounded_natCast h] at hn

theorem denotes_zero : Denotes 0.0 0 := rfl

theorem denotes_negative_zero : Denotes (-0.0) 0 := rfl

theorem isFinite_iff (x : Float) : x.isFinite = true ↔ ∃ v : ℝ, Denotes x v := by
  change UnpackedFloat.isFinite x.toModel.unpack = true ↔ _
  unfold Denotes
  cases x.toModel.unpack with
  | notANumber => simp [UnpackedFloat.isFinite, meaning]
  | infinity s => cases s <;> simp [UnpackedFloat.isFinite, meaning, signed]
  | zero s => exact ⟨fun _ => ⟨0, rfl⟩, fun _ => rfl⟩
  | finite s m e h => exact ⟨fun _ => ⟨_, meaning_finite_apply s m e h⟩, fun _ => rfl⟩

end Operations

/-! ## Whole parts -/

theorem roundToInt_positive (m : ℕ) (e : ℤ) :
    roundToInt .positive m e = (⌊(m : ℝ) * 2 ^ e⌋₊ : ℤ) := by
  have hsize := decreaseExponent_size m e 0
  have hexp : (decreaseExponent m e 0).2 ≤ 0 := by
    simp only [decreaseExponent]
    omega
  simp only [roundToInt, shiftToExponent, Sign.apply]
  generalize decreaseExponent m e 0 = d at *
  obtain ⟨n, hn⟩ : ∃ n : ℕ, d.2 = -n := ⟨(-d.2).toNat, by omega⟩
  have hval : (d.1 : ℝ) / 2 ^ n = m * 2 ^ e := by
    rw [← hsize, hn, zpow_neg, zpow_natCast, div_eq_mul_inv]
  have happrox := (approximates_exact d.1).shiftRight n
  rw [hval] at happrox
  rw [hn, zero_sub, neg_neg, Int.toNat_natCast, Nat.cast_inj]
  exact ((Nat.floor_eq_iff (by positivity)).mpr ⟨happrox.lower, happrox.upper⟩).symm

theorem Denotes.toNat_toUInt64 {x : Float} {v : ℝ} (hx : Denotes x v) (hv : 0 ≤ v)
    (hlt : v < 2 ^ 64) : x.toUInt64.toNat = ⌊v⌋₊ := by
  have hword : ⌊v⌋₊ < UInt64.size := (Nat.floor_lt hv).mpr (by exact_mod_cast hlt)
  have hint : x.toModel.unpack.toInt 0 (UInt64.size - 1) = (⌊v⌋₊ : ℤ) := by
    rcases zero_or_finite hx with ⟨s, hu, rfl⟩ | ⟨s, m, e, hm, hu, rfl⟩
    · rw [hu, Nat.floor_zero]
      rfl
    · have hpos : (0 : ℝ) < m * 2 ^ e := by positivity
      cases s with
      | positive =>
        rw [hu]
        exact roundToInt_positive m e
      | negative =>
        simp only [Sign.apply, Int.cast_neg, Int.cast_natCast, neg_mul] at hv
        linarith
  change (UInt64.ofNatClamp (x.toModel.unpack.toInt 0 (UInt64.size - 1)).toNat).toNat = ⌊v⌋₊
  rw [hint, Int.toNat_natCast, UInt64.ofNatClamp, dif_pos hword]
  rfl

/-! ## Sums that may be infinite -/

noncomputable def nearest (v : EReal) : EReal := if v = ⊤ then ⊤ else rounded v.toReal

theorem nearest_coe (v : ℝ) : nearest v = rounded v := by
  rw [nearest, if_neg (EReal.coe_ne_top v), EReal.toReal_coe]

theorem nearest_top : nearest ⊤ = ⊤ := if_pos rfl

section Sums

variable {x y : Float} {v w : EReal}

theorem ne_bot_of_zero_le (hv : 0 ≤ v) : v ≠ ⊥ := ne_bot_of_le_ne_bot EReal.zero_ne_bot hv

theorem exists_coe (hb : v ≠ ⊥) (ht : v ≠ ⊤) : ∃ r : ℝ, v = r :=
  ⟨v.toReal, (EReal.coe_toReal ht hb).symm⟩

theorem exists_real {v : EReal} (hv : 0 ≤ v) (h : v ≠ ⊤) : ∃ r : ℝ, v = r ∧ 0 ≤ r := by
  obtain ⟨r, rfl⟩ := exists_coe (ne_bot_of_zero_le hv) h
  exact ⟨r, rfl, EReal.coe_nonneg.mp hv⟩

theorem Denotes.add_of_ne_bot (hx : Denotes x v) (hy : Denotes y w) (hv : v ≠ ⊥) (hw : w ≠ ⊥) :
    Denotes (x + y) (nearest (v + w)) := by
  by_cases htv : v = ⊤
  · subst htv
    rw [EReal.top_add_of_ne_bot hw, nearest_top]
    have h := meaning_infinity_add hy hw
    rw [← eq_infinity hx] at h
    exact h
  by_cases htw : w = ⊤
  · subst htw
    rw [EReal.add_top_of_ne_bot hv, nearest_top]
    have h := meaning_add_infinity hx hv
    rw [← eq_infinity hy] at h
    exact h
  obtain ⟨r, rfl⟩ := exists_coe hv htv
  obtain ⟨s, rfl⟩ := exists_coe hw htw
  rw [← EReal.coe_add, nearest_coe]
  exact hx.add hy

/-- It stands for nothing above the negative infinity. -/
def Sunken (u : UnpackedFloat) : Prop := u = .notANumber ∨ u = .infinity .negative

theorem not_sunken_iff {u : UnpackedFloat} : ¬Sunken u ↔ ∃ v, meaning u = some v ∧ v ≠ ⊥ := by
  unfold Sunken
  cases u with
  | notANumber => simp [meaning]
  | infinity s => cases s <;> simp [meaning, signed]
  | zero s => simp [meaning]
  | finite s m e hm =>
    exact iff_of_true (by simp) ⟨_, meaning_finite_apply s m e hm, EReal.coe_ne_bot _⟩

theorem Sunken.stored {u : UnpackedFloat} (h : Sunken u) : Sunken (stored u) := by
  rcases h with rfl | rfl
  · exact Or.inl rfl
  · exact Or.inr rfl

theorem Sunken.add_right {u : UnpackedFloat} (h : Sunken u) (f : Format) (v : UnpackedFloat) :
    Sunken (UnpackedFloat.add f u v) := by
  rcases h with rfl | rfl
  · exact Or.inl rfl
  · cases v with
    | infinity s => cases s <;> simp [Sunken, UnpackedFloat.add]
    | _ => simp [Sunken, UnpackedFloat.add]

theorem Sunken.add_left {v : UnpackedFloat} (h : Sunken v) (f : Format) (u : UnpackedFloat) :
    Sunken (UnpackedFloat.add f u v) := by
  rcases h with rfl | rfl
  · cases u <;> exact Or.inl rfl
  · cases u with
    | infinity s => cases s <;> simp [Sunken, UnpackedFloat.add]
    | _ => simp [Sunken, UnpackedFloat.add]

theorem Denotes.of_add {z : EReal} (h : Denotes (x + y) z) (hz : z ≠ ⊥) :
    (∃ v, Denotes x v ∧ v ≠ ⊥) ∧ ∃ w, Denotes y w ∧ w ≠ ⊥ := by
  have hsum : ¬Sunken (stored (UnpackedFloat.add Format.binary64 x.toModel.unpack
    y.toModel.unpack)) := not_sunken_iff.mpr ⟨z, h, hz⟩
  exact ⟨not_sunken_iff.mp (fun hx => hsum (hx.add_right _ _).stored),
    not_sunken_iff.mp (fun hy => hsum (hy.add_left _ _).stored)⟩

end Sums

/-! ## Order of sums -/

theorem nearest_mono {v w : EReal} (hv : v ≠ ⊥) (h : v ≤ w) : nearest v ≤ nearest w := by
  by_cases hw : w = ⊤
  · rw [hw, nearest_top]
    exact le_top
  · obtain ⟨s, rfl⟩ := exists_coe (ne_bot_of_le_ne_bot hv h) hw
    obtain ⟨r, rfl⟩ := exists_coe hv (ne_top_of_le_ne_top hw h)
    rw [nearest_coe, nearest_coe]
    exact rounded_mono (EReal.coe_le_coe_iff.mp h)

section Order

variable {x x' y y' : Float}

theorem Denotes.nearest_eq {v : EReal} (h : Denotes x v) (hv : v ≠ ⊥) : nearest v = v := by
  by_cases ht : v = ⊤
  · rw [ht, nearest_top]
  · obtain ⟨r, rfl⟩ := exists_coe hv ht
    rw [nearest_coe, rounded_of_representable h.representable]

theorem exists_denotes_of_nonneg (h : 0.0 ≤ x) : ∃ v, Denotes x v ∧ 0 ≤ v := by
  obtain ⟨-, v, hv⟩ := exists_denotes_of_le h
  exact ⟨v, hv, (denotes_zero.le_iff hv).mp h⟩

theorem float_le_refl (h : 0.0 ≤ x) : x ≤ x := by
  obtain ⟨v, hv, -⟩ := exists_denotes_of_nonneg h
  exact (hv.le_iff hv).mpr le_rfl

theorem float_le_of_lt (h : x < y) : x ≤ y := by
  have hlt : UnpackedFloat.lt x.toModel.unpack y.toModel.unpack = true := of_decide_eq_true h
  have hle : UnpackedFloat.le x.toModel.unpack y.toModel.unpack = true := by
    rw [UnpackedFloat.le, beq_iff_eq.mp hlt]
    rfl
  exact decide_eq_true hle

theorem float_le_trans (h : x ≤ x') (h' : x' ≤ y) : x ≤ y := by
  obtain ⟨⟨u, hu⟩, v, hv⟩ := exists_denotes_of_le h
  obtain ⟨-, w, hw⟩ := exists_denotes_of_le h'
  exact (hu.le_iff hw).mpr (((hu.le_iff hv).mp h).trans ((hv.le_iff hw).mp h'))

theorem float_lt_of_lt_of_le (h : x < x') (h' : x' ≤ y) : x < y := by
  obtain ⟨⟨u, hu⟩, v, hv⟩ := exists_denotes_of_le (float_le_of_lt h)
  obtain ⟨-, w, hw⟩ := exists_denotes_of_le h'
  exact (hu.lt_iff hw).mpr (((hu.lt_iff hv).mp h).trans_le ((hv.le_iff hw).mp h'))

theorem add_le_add_of_zero_le (hx : 0.0 ≤ x) (hy : 0.0 ≤ y) (hxx : x ≤ x') (hyy : y ≤ y') :
    x + y ≤ x' + y' := by
  obtain ⟨v, hv, hv0⟩ := exists_denotes_of_nonneg hx
  obtain ⟨w, hw, hw0⟩ := exists_denotes_of_nonneg hy
  obtain ⟨-, v', hv'⟩ := exists_denotes_of_le hxx
  obtain ⟨-, w', hw'⟩ := exists_denotes_of_le hyy
  have hvv := (hv.le_iff hv').mp hxx
  have hww := (hw.le_iff hw').mp hyy
  rw [(hv.add_of_ne_bot hw (ne_bot_of_zero_le hv0) (ne_bot_of_zero_le hw0)).le_iff
    (hv'.add_of_ne_bot hw' (ne_bot_of_zero_le (hv0.trans hvv)) (ne_bot_of_zero_le (hw0.trans hww)))]
  exact nearest_mono (ne_bot_of_zero_le (add_nonneg hv0 hw0)) (add_le_add hvv hww)

theorem le_add_of_zero_le (hx : 0.0 ≤ x) (hy : 0.0 ≤ y) : x ≤ x + y := by
  obtain ⟨v, hv, hv0⟩ := exists_denotes_of_nonneg hx
  obtain ⟨w, hw, hw0⟩ := exists_denotes_of_nonneg hy
  have hmono := nearest_mono (ne_bot_of_zero_le hv0) (le_add_of_nonneg_right (a := v) hw0)
  rw [hv.nearest_eq (ne_bot_of_zero_le hv0)] at hmono
  exact (hv.le_iff (hv.add_of_ne_bot hw (ne_bot_of_zero_le hv0) (ne_bot_of_zero_le hw0))).mpr hmono

theorem zero_le_add (hx : 0.0 ≤ x) (hy : 0.0 ≤ y) : 0.0 ≤ x + y :=
  float_le_trans hx (le_add_of_zero_le hx hy)

theorem add_le_zero_iff (hx : 0.0 ≤ x) (hy : 0.0 ≤ y) : x + y ≤ 0.0 ↔ x ≤ 0.0 ∧ y ≤ 0.0 := by
  obtain ⟨v, hv, hv0⟩ := exists_denotes_of_nonneg hx
  obtain ⟨w, hw, hw0⟩ := exists_denotes_of_nonneg hy
  have hsum := hv.add_of_ne_bot hw (ne_bot_of_zero_le hv0) (ne_bot_of_zero_le hw0)
  rw [hsum.le_iff denotes_zero, hv.le_iff denotes_zero, hw.le_iff denotes_zero]
  constructor
  · intro h
    have hvw := nearest_mono (ne_bot_of_zero_le hv0) (le_add_of_nonneg_right (a := v) hw0)
    have hwv := nearest_mono (ne_bot_of_zero_le hw0) (le_add_of_nonneg_left (a := w) hv0)
    rw [hv.nearest_eq (ne_bot_of_zero_le hv0)] at hvw
    rw [hw.nearest_eq (ne_bot_of_zero_le hw0)] at hwv
    exact ⟨hvw.trans h, hwv.trans h⟩
  · rintro ⟨hv1, hw1⟩
    rw [hv1.antisymm hv0, hw1.antisymm hw0, add_zero]
    exact (denotes_zero.nearest_eq EReal.zero_ne_bot).le

end Order

/-! ## Zero -/

theorem exists_zero_of_beq {c : Float} (h : (c == 0.0) = true) :
    ∃ s, c.toModel.unpack = .zero s := by
  change UnpackedFloat.beq c.toModel.unpack (.zero .positive) = true at h
  generalize c.toModel.unpack = u at h
  cases u with
  | zero s => exact ⟨s, rfl⟩
  | notANumber => contradiction
  | infinity s => cases s <;> contradiction
  | finite s m e hm => cases s <;> contradiction

theorem beq_zero_of_denotes {c : Float} (h : Denotes c 0) : (c == 0.0) = true := by
  have hc := compare_eq (canonical_toModel c) (canonical_toModel 0.0) h denotes_zero
  change UnpackedFloat.beq _ _ = true
  rw [UnpackedFloat.beq, hc, compare_eq_iff_eq.mpr rfl]
  rfl

theorem denotes_zero_of_beq {c : Float} (h : (c == 0.0) = true) : Denotes c 0 := by
  obtain ⟨s, hs⟩ := exists_zero_of_beq h
  rw [Denotes, hs]
  rfl

theorem float_le_zero_iff (c : Float) : c ≤ 0.0 ↔ (c == 0.0) = true ∨ c < 0.0 := by
  constructor
  · intro h
    obtain ⟨⟨v, hv⟩, -⟩ := exists_denotes_of_le h
    rcases ((hv.le_iff denotes_zero).mp h).eq_or_lt with rfl | hlt
    · exact Or.inl (beq_zero_of_denotes hv)
    · exact Or.inr ((hv.lt_iff denotes_zero).mpr hlt)
  · rintro (h | h)
    · exact ((denotes_zero_of_beq h).le_iff denotes_zero).mpr le_rfl
    · exact float_le_of_lt h

theorem add_zero_canonical {u : UnpackedFloat} (h : Canonical u) :
    Canonical (UnpackedFloat.add Format.binary64 u (.zero .positive)) := by
  cases u with
  | zero s => cases s <;> trivial
  | _ => exact h

theorem unpack_add_zero (x : Float) : (x + 0.0).toModel.unpack =
    UnpackedFloat.add Format.binary64 x.toModel.unpack (.zero .positive) :=
  stored_of_canonical (add_zero_canonical (canonical_toModel x))

theorem add_zero_add_zero (x : Float) : x + 0.0 + 0.0 = x + 0.0 := by
  have h : UnpackedFloat.add Format.binary64 (x + 0.0).toModel.unpack (.zero .positive) =
      UnpackedFloat.add Format.binary64 x.toModel.unpack (.zero .positive) := by
    rw [unpack_add_zero]
    cases x.toModel.unpack with
    | zero s => cases s <;> rfl
    | _ => rfl
  exact congrArg (fun u => Float.ofModel (Float.Model.pack u)) h

theorem add_zero_sub (x : Float) {c : Float} (hc : (c == 0.0) = true) :
    x + 0.0 - c = x + 0.0 := by
  obtain ⟨s, hs⟩ := exists_zero_of_beq hc
  have h : UnpackedFloat.sub Format.binary64 (x + 0.0).toModel.unpack c.toModel.unpack =
      UnpackedFloat.add Format.binary64 x.toModel.unpack (.zero .positive) := by
    rw [unpack_add_zero, hs]
    cases x.toModel.unpack with
    | zero t => cases s <;> cases t <;> rfl
    | _ => rfl
  exact congrArg (fun u => Float.ofModel (Float.Model.pack u)) h

theorem Denotes.lt_congr {x y z : Float} {v : EReal} (hy : Denotes y v) (hz : Denotes z v) :
    x < y ↔ x < z := by
  have hlt : ∀ {y z}, Denotes y v → Denotes z v → x < y → x < z := by
    intro y z hy hz h
    obtain ⟨⟨u, hu⟩, -⟩ := exists_denotes_of_le (float_le_of_lt h)
    exact (hu.lt_iff hz).mpr ((hu.lt_iff hy).mp h)
  exact ⟨hlt hy hz, hlt hz hy⟩

theorem zero_cases {f : UnpackedFloat → UnpackedFloat → UnpackedFloat}
    (hkept : ∀ u s, (∀ t, u ≠ .zero t) → f u (.zero s) = u)
    (hzero : ∀ t s, meaning (stored (f (.zero t) (.zero s))) = some 0) {g : Float → Float} {x : Float}
    (hg : ∀ y, g y = Float.ofModel (Float.Model.pack (f x.toModel.unpack y.toModel.unpack)))
    {c : Float} (hc : (c == 0.0) = true) : g c = g 0.0 ∨ Denotes (g c) 0 ∧ Denotes (g 0.0) 0 := by
  obtain ⟨s, hs⟩ := exists_zero_of_beq hc
  have hplain : (0.0 : Float).toModel.unpack = .zero .positive := rfl
  rw [hg, hg, hs, hplain]
  by_cases hx : ∃ t, x.toModel.unpack = .zero t
  · obtain ⟨t, ht⟩ := hx
    rw [ht]
    exact Or.inr ⟨hzero t s, hzero t .positive⟩
  · have hne := not_exists.mp hx
    rw [hkept _ _ hne, hkept _ _ hne]
    exact Or.inl rfl

theorem add_zero_cases (x : Float) {c : Float} (hc : (c == 0.0) = true) :
    x + c = x + 0.0 ∨ Denotes (x + c) 0 ∧ Denotes (x + 0.0) 0 := by
  refine zero_cases (f := UnpackedFloat.add Format.binary64) (g := fun y => x + y) ?_ ?_
    (fun _ => rfl) hc
  · intro u s hu
    cases u with
    | zero t => exact absurd rfl (hu t)
    | _ => rfl
  · intro t s
    cases t <;> cases s <;> rfl

theorem sub_zero_cases (x : Float) {c : Float} (hc : (c == 0.0) = true) :
    x - c = x - 0.0 ∨ Denotes (x - c) 0 ∧ Denotes (x - 0.0) 0 := by
  refine zero_cases (f := UnpackedFloat.sub Format.binary64) (g := fun y => x - y) ?_ ?_
    (fun _ => rfl) hc
  · intro u s hu
    cases u with
    | zero t => exact absurd rfl (hu t)
    | _ => rfl
  · intro t s
    cases t <;> cases s <;> rfl

end LaneQuota.Double
