import LaneQuota.Proofs.Decimal.Shortest
import LaneQuota.Proofs.Double.Bits
import LaneQuota.Proofs.Double.Division
import LaneQuota.Proofs.Json.Documents

/-!
# Whole doubles are read back

A whole double is written with a zero after the point. The reader gathers all the digits, that zero
too, into one number and divides it by ten. Up to a tenth of `2 ^ 54` that number is a double, so the
quotient is exact.
-/

namespace LaneQuota

open Float.Model Float.Model.UnpackedFloat Double

theorem toDigits_mul_pow {c : ℕ} (hc : 0 < c) (k : ℕ) :
    Nat.toDigits 10 (c * 10 ^ k) = Nat.toDigits 10 c ++ zeros k := by
  induction k with
  | zero => simp [zeros]
  | succ k ih =>
    have hnext : c * 10 ^ (k + 1) = 10 * (c * 10 ^ k) + 0 := by
      rw [pow_succ]
      ring
    rw [hnext, ← Nat.toDigits_append_toDigits (by norm_num) (by positivity) (by norm_num), ih,
      List.append_assoc]
    congr 1
    rw [zeros, zeros, List.replicate_succ']
    rfl

theorem decimalText_whole {c k n : ℕ} (hval : c * 10 ^ k = n) (hn : 0 < n) (hlt : n < 10 ^ 16) :
    (decimalText .json ⟨c, k⟩).toList = Nat.toDigits 10 n ++ ['.', '0'] := by
  have hc : 0 < c := Nat.pos_of_ne_zero (fun h => by simp [h] at hval; omega)
  have hdigits := toDigits_mul_pow hc k
  rw [hval] at hdigits
  have hlength : (Nat.toDigits 10 c).length + k ≤ 16 := by
    have hle := (Nat.length_toDigits_le_iff (b := 10) (k := 16) (by norm_num) (by norm_num)).mpr hlt
    rwa [hdigits, List.length_append, zeros, List.length_replicate] at hle
  have hstyle : FloatStyle.json.positional (k + (Nat.toDigits 10 c).length - 1) = true := by
    apply decide_eq_true
    omega
  rw [decimalText]
  dsimp only
  rw [if_pos hstyle]
  change (String.ofList (Nat.toDigits 10 c ++ zeros k) ++ ".0").toList = _
  rw [← hdigits, String.toList_append, String.toList_ofList]
  rfl

theorem exists_mantissa {x : Float} {n : ℕ} (hx : Denotes x (n : ℝ)) (hn : 0 < n)
    (hlt : n < 2 ^ 53) : ∃ j : ℕ, Binary.ofFloat x = .finite false (n * 2 ^ j) (-(j : ℤ)) := by
  obtain ⟨m, e, hm, hunpack, hval⟩ := hx.exists_positive (by exact_mod_cast hn)
  have hcanonical := canonical_toModel x
  rw [hunpack] at hcanonical
  obtain ⟨-, -, -, hfull⟩ := hcanonical
  have he : e ≤ 0 := by
    by_contra hpos
    have hm' : 2 ^ 52 ≤ m := hfull.resolve_right (by omega)
    have hpow : (2 : ℝ) ^ (1 : ℤ) ≤ 2 ^ e := zpow_le_zpow_right₀ (by norm_num) (by omega)
    have hbig : (2 ^ 52 : ℝ) * 2 ^ (1 : ℤ) ≤ m * 2 ^ e :=
      mul_le_mul (by exact_mod_cast hm') hpow (by norm_num) (by positivity)
    rw [← hval] at hbig
    norm_num at hbig
    have hnat : (9007199254740992 : ℕ) ≤ n := by exact_mod_cast hbig
    omega
  refine ⟨(-e).toNat, ?_⟩
  have hmantissa : m = n * 2 ^ (-e).toNat := by
    have hreal : (m : ℝ) = n * 2 ^ (-e).toNat := by
      rw [hval, mul_assoc, ← zpow_natCast, ← zpow_add₀ (by norm_num), Int.toNat_of_nonneg (by omega)]
      simp
    exact_mod_cast hreal
  rw [Binary.ofFloat_eq, hunpack, ← hmantissa, Int.toNat_of_nonneg (by omega), neg_neg]
  rfl

theorem floatText_whole {x : Float} {n : ℕ} (hx : Denotes x (n : ℝ)) (hn : 0 < n)
    (hlt : n < 2 ^ 53) : (floatText .json x).toList = Nat.toDigits 10 n ++ ['.', '0'] := by
  obtain ⟨j, hparts⟩ := exists_mantissa hx hn hlt
  obtain ⟨c, k, hdecimal, hval⟩ := Shortest.decimal_whole hn hlt j
  have hmantissa : ¬n * 2 ^ j = 0 := by positivity
  unfold floatText
  rw [hparts]
  dsimp only
  rw [if_neg hmantissa, hdecimal]
  exact decimalText_whole hval hn (hlt.trans (by norm_num))

namespace JsonNumber

/-- The greatest whole number for which ten times it is surely a double. -/
def wholeBound : ℕ := 2 ^ 54 / 10

theorem representable_ten_mul {n : ℕ} (hle : n ≤ wholeBound) : Representable (n * 10) := by
  have hfive : 5 * n < 2 ^ 53 := by
    unfold wholeBound at hle
    omega
  refine ⟨5 * n, 1, hfive, by norm_num, by norm_num, ?_⟩
  rw [abs_of_nonneg (by positivity)]
  push_cast
  ring

theorem denotes_tenth {n : ℕ} (hn : 0 < n) (hle : n ≤ wholeBound) :
    Denotes (divideByPower (10 * n).toUInt64.toFloat 1) (n : ℝ) := by
  have hword : (10 * n).toUInt64.toNat = 10 * n := by
    apply UInt64.toNat_ofNat_of_lt'
    change 10 * n < 2 ^ 64
    unfold wholeBound at hle
    omega
  have hten : Denotes (tenTo 1) ((10 : ℝ) : EReal) := by
    have heq : tenTo 1 = (10 : UInt64).toFloat := by decide +kernel
    rw [heq]
    exact_mod_cast denotes_toFloat_nat (n := 10) (by decide)
  have hnum := denotes_toFloat (10 * n).toUInt64
  rw [hword, Nat.cast_mul, Nat.cast_ofNat, mul_comm (10 : ℝ),
    rounded_of_representable (representable_ten_mul hle)] at hnum
  have hbound : n ≤ 2 ^ 53 := by
    unfold wholeBound at hle
    omega
  rw [divideByPower, if_pos (by norm_num)]
  exact hnum.div_exact hten (by exact_mod_cast hn) (by norm_num) (representable_natCast hbound)

theorem exists_value_whole {n : ℕ} (hn : 0 < n) (hle : n ≤ wholeBound) :
    ∃ y, (Spelling.mk false (Nat.toDigits 10 n) (some ['0']) none).value = .float y ∧
      Denotes y (n : ℝ) := by
  have hfits : 10 * n ≤ Word.maxUnsigned64 := by
    unfold wholeBound at hle
    unfold Word.maxUnsigned64
    omega
  have hplaces : gatherPlaces ⟨n, 0⟩ ['0'] = ⟨10 * n, -1⟩ := by
    unfold gatherPlaces
    dsimp only
    have hzero : 10 * n + ('0'.toNat - 48) = 10 * n := rfl
    rw [hzero, if_neg (by omega)]
    rfl
  refine ⟨_, ?_, denotes_tenth hn hle⟩
  change (Spelling.mk false (Nat.toDigits 10 n) (some ['0']) none).float = _
  unfold Spelling.float
  dsimp only [Option.getD_some]
  rw [gatherWhole_toDigits (by omega), hplaces]
  rfl

end JsonNumber

namespace Json

open JsonNumber

theorem exists_rereadFloat?_zero {x : Float} (hx : Denotes x ((0 : ℕ) : ℝ)) :
    ∃ y, rereadFloat? x = some y ∧ Denotes y ((0 : ℕ) : ℝ) := by
  rcases zero_or_finite hx with ⟨s, hunpack, -⟩ | ⟨s, m, e, hm, -, hval⟩
  · have hparts : Binary.ofFloat x = .finite (isNegative s) 0 (-1074) := by
      rw [Binary.ofFloat_eq, hunpack]
      rfl
    cases s with
    | positive =>
      have htext : floatText .json x = "0.0" := by
        unfold floatText
        rw [hparts]
        rfl
      refine ⟨0.0, ?_, by exact_mod_cast denotes_zero⟩
      unfold rereadFloat?
      rw [htext]
      decide +kernel
    | negative =>
      have htext : floatText .json x = "-0.0" := by
        unfold floatText
        rw [hparts]
        rfl
      refine ⟨-0.0, ?_, by exact_mod_cast denotes_negative_zero⟩
      unfold rereadFloat?
      rw [htext]
      decide +kernel
  · have hpow : (0 : ℝ) < 2 ^ e := by positivity
    cases s <;> simp [Sign.apply, hm.ne', hpow.ne'] at hval

theorem exists_rereadFloat?_whole {x : Float} {n : ℕ} (hx : Denotes x (n : ℝ))
    (hle : n ≤ wholeBound) : ∃ y, rereadFloat? x = some y ∧ Denotes y (n : ℝ) := by
  rcases Nat.eq_zero_or_pos n with rfl | hn
  · exact exists_rereadFloat?_zero hx
  · have hlt : n < 2 ^ 53 := by
      unfold wholeBound at hle
      omega
    obtain ⟨y, hvalue, hy⟩ := exists_value_whole hn hle
    have hpoint : ∀ c ∈ ['.', '0'].head?, isDigit c = false := by
      intro c hc
      obtain rfl : '.' = c := Option.some.inj hc
      decide
    have hspelling : spelling? (Nat.toDigits 10 n ++ ['.', '0']) =
        some (⟨false, Nat.toDigits 10 n, some ['0'], none⟩, []) :=
      spelling?_digits n hpoint rfl rfl
    refine ⟨y, ?_, hy⟩
    unfold rereadFloat?
    rw [floatText_whole hx hn hlt, hspelling]
    dsimp only
    rw [hvalue]

end Json

end LaneQuota
