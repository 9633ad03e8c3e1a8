import LaneQuota.Ledger.Basic
import LaneQuota.Proofs.Double.Arithmetic

namespace LaneQuota

open Double

namespace Double

theorem rounded_word_le_iff {t : ℕ} {v : ℝ} (hv : 0 ≤ v) (hlt : v < 2 ^ 53) :
    rounded t ≤ v ↔ t ≤ ⌊v⌋₊ := by
  have hfloor : ⌊v⌋₊ + 1 ≤ 2 ^ 53 := by
    have h : ⌊v⌋₊ < 2 ^ 53 := (Nat.floor_lt hv).mpr (by exact_mod_cast hlt)
    omega
  constructor
  · intro h
    by_contra hn
    have hstep : ((⌊v⌋₊ + 1 : ℕ) : ℝ) ≤ t := by exact_mod_cast (by omega : ⌊v⌋₊ + 1 ≤ t)
    have hr := rounded_mono hstep
    rw [rounded_natCast hfloor] at hr
    have hle := EReal.coe_le_coe_iff.mp (hr.trans h)
    push_cast at hle
    exact absurd (Nat.lt_floor_add_one v) (not_lt.mpr hle)
  · intro h
    rw [rounded_natCast (by omega)]
    have hle : (t : ℝ) ≤ v := (Nat.cast_le.mpr h).trans (Nat.floor_le hv)
    exact_mod_cast hle

theorem rounded_mul_le {d : ℕ} {r : ℝ} (hd : d ≤ 2 ^ 53) (hr : 0 ≤ r) (hr' : r ≤ 1) :
    ∃ v : ℝ, 0 ≤ v ∧ v ≤ d ∧ rounded (d * r) = v := by
  have hpos : (0 : ℝ) ≤ d * r := by positivity
  have hle : (d : ℝ) * r ≤ d := mul_le_of_le_one_right (by positivity) hr'
  have h0 := rounded_nonneg hpos
  have h1 := rounded_mono hle
  rw [rounded_natCast hd] at h1
  obtain ⟨v, hv, hv'⟩ := exists_real h0 (fun hc => by
    rw [hc, top_le_iff] at h1
    exact EReal.coe_ne_top _ h1)
  rw [hv] at h1
  exact ⟨v, hv', EReal.coe_le_coe_iff.mp h1, hv⟩

end Double

theorem denotes_one : Denotes 1.0 (1 : ℝ) := by
  have hword : (1.0 : Float) = (1 : UInt64).toFloat := by decide
  have h : Denotes (1 : UInt64).toFloat ((1 : ℕ) : ℝ) := denotes_toFloat_nat (by decide)
  rw [Nat.cast_one] at h
  rw [hword]
  exact h

theorem denotes_bufferRatio (s : LedgerSettings) :
    ∃ r : ℝ, 0 ≤ r ∧ r ≤ 1 ∧ Denotes s.bufferRatio r := by
  have hone := denotes_one
  unfold LedgerSettings.bufferRatio
  dsimp only
  split_ifs with hbad hlt
  · obtain ⟨v, hv⟩ := (isFinite_iff LedgerSettings.defaultBufferRatio).mp (by decide)
    have h0 : (0.0 : Float) < LedgerSettings.defaultBufferRatio := by decide
    have h1 : LedgerSettings.defaultBufferRatio < (1.0 : Float) := by decide
    have h0' := (denotes_zero.lt_iff hv).mp h0
    have h1' := (hv.lt_iff hone).mp h1
    exact ⟨v, by exact_mod_cast h0'.le, by exact_mod_cast h1'.le, hv⟩
  · rw [Bool.or_eq_true, not_or, Bool.not_eq_true', Bool.not_eq_false, decide_eq_true_iff] at hbad
    obtain ⟨v, hv⟩ := (isFinite_iff s.safetyBufferRatio).mp hbad.1
    have h0 := not_le.mp (fun h => hbad.2 ((hv.le_iff denotes_zero).mpr h))
    have h1 := (hv.lt_iff hone).mp hlt
    exact ⟨v, by exact_mod_cast h0.le, by exact_mod_cast h1.le, hv⟩
  · exact ⟨1, zero_le_one, le_rfl, hone⟩

theorem le_bufferedLimit_iff {ratio : Float} {r : ℝ} (hr : Denotes ratio r) (h0 : 0 ≤ r)
    (h1 : r ≤ 1) {d : UInt64} (hd : d.toNat < 2 ^ 53) :
    (d.toFloat * ratio).toUInt64.toNat ≤ d.toNat ∧
      ∀ t : UInt64, (¬d.toFloat * ratio < t.toFloat ↔
          t.toNat ≤ (d.toFloat * ratio).toUInt64.toNat) ∧
        (t.toFloat ≤ d.toFloat * ratio ↔ t.toNat ≤ (d.toFloat * ratio).toUInt64.toNat) := by
  have hday := denotes_toFloat_nat hd.le
  obtain ⟨v, hv, hvd, hprod⟩ := rounded_mul_le hd.le h0 h1
  have hmul := hday.mul hr
  rw [hprod] at hmul
  have hlt : v < 2 ^ 53 := hvd.trans_lt (by exact_mod_cast hd)
  rw [hmul.toNat_toUInt64 hv (hlt.trans (by norm_num))]
  refine ⟨Nat.floor_le_of_le hvd, fun t => ?_⟩
  rw [hmul.lt_iff (denotes_toFloat t), (denotes_toFloat t).le_iff hmul, not_lt]
  exact ⟨rounded_word_le_iff hv hlt, rounded_word_le_iff hv hlt⟩

theorem exists_bufferedLimit {ratio : Float} {r : ℝ} (hr : Denotes ratio r) (h0 : 0 ≤ r)
    (h1 : r ≤ 1) {d : UInt64} (hd : d.toNat < 2 ^ 53) :
    ∃ limit ≤ d.toNat, ∀ t : UInt64, (¬d.toFloat * ratio < t.toFloat ↔ t.toNat ≤ limit) ∧
      (t.toFloat ≤ d.toFloat * ratio ↔ t.toNat ≤ limit) :=
  ⟨_, le_bufferedLimit_iff hr h0 h1 hd⟩

def Usage.tokens (u : Usage) : ℕ := u.tokensIn.toNat + u.tokensOut.toNat

def Bucket.tokens (b : Bucket) : ℕ := b.used.tokens + b.reserved.tokens

section Tokens

variable {n : ℕ} (hn : n < Word.maxUnsigned64)

include hn

theorem totalTokens_le_iff (u : Usage) : u.totalTokens.toNat ≤ n ↔ u.tokens ≤ n := by
  simp only [Usage.totalTokens, Usage.tokens, toNat_addTokens]
  omega

theorem heldTokens_le_iff (b : Bucket) : b.heldTokens.toNat ≤ n ↔ b.tokens ≤ n := by
  simp only [Bucket.heldTokens, Usage.totalTokens, Bucket.tokens, Usage.tokens, toNat_addTokens]
  omega

theorem heldTokens_add_le_iff (b : Bucket) (u : Usage) :
    (addTokens b.heldTokens u.totalTokens).toNat ≤ n ↔ b.tokens + u.tokens ≤ n := by
  simp only [Bucket.heldTokens, Usage.totalTokens, Bucket.tokens, Usage.tokens, toNat_addTokens]
  omega

end Tokens

end LaneQuota
