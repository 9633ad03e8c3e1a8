import LaneQuota.Decimal.Binary
import LaneQuota.Proofs.Double.Machine

namespace LaneQuota

open Float.Model Float.Model.UnpackedFloat Double

theorem toNat_unpackExponent (b : BitVec Format.binary64.numBits) :
    (@unpackExponent Format.binary64 b).toNat = (b.toNat >>> 52) % 2048 := by
  unfold unpackExponent
  rw [BitVec.toNat_cast, BitVec.extractLsb_toNat]
  rfl

theorem toNat_unpackMantissa (b : BitVec Format.binary64.numBits) :
    (@unpackMantissa Format.binary64 b).toNat = b.toNat % 2 ^ 52 := by
  unfold unpackMantissa
  rw [BitVec.toNat_cast, BitVec.extractLsb_toNat]
  rfl

theorem ofBitVec_unpackSign_eq (b : BitVec Format.binary64.numBits) :
    Sign.ofBitVec (@unpackSign Format.binary64 b) =
      if b.toNat >>> 63 = 1 then .negative else .positive := by
  have hlt : b.toNat < 2 ^ 64 := b.isLt
  have hsign : (@unpackSign Format.binary64 b).toNat = b.toNat >>> 63 := by
    unfold unpackSign
    rw [BitVec.toNat_cast, BitVec.extractLsb_toNat]
    change b.toNat >>> 63 % 2 ^ (63 - 63 + 1) = _
    rw [Nat.shiftRight_eq_div_pow]
    omega
  have hzero : (@unpackSign Format.binary64 b) = 0#1 ↔ ¬b.toNat >>> 63 = 1 := by
    rw [← BitVec.toNat_inj, hsign, Nat.shiftRight_eq_div_pow]
    change b.toNat / 2 ^ 63 = 0 ↔ _
    omega
  unfold Sign.ofBitVec
  simp only [hzero, ite_not]

def isNegative : Sign → Bool
  | .positive => false
  | .negative => true

def Binary.ofUnpacked : UnpackedFloat → Binary
  | .notANumber => .nan
  | .infinity s => .infinite (isNegative s)
  | .zero s => .finite (isNegative s) 0 (-1074)
  | .finite s m e _ => .finite (isNegative s) m e

theorem Binary.ofFloat_eq (x : Float) : Binary.ofFloat x = Binary.ofUnpacked x.toModel.unpack := by
  change Binary.ofFloat x = ofUnpacked (UnpackedFloat.unpack Format.binary64 x.toBits.toBitVec)
  have hbits : x.toBits.toBitVec.toNat = x.toBits.toNat := rfl
  have hexp := toNat_unpackExponent x.toBits.toBitVec
  have hmant := toNat_unpackMantissa x.toBits.toBitVec
  have hneg : decide (x.toBits.toNat >>> 63 = 1) =
      isNegative (Sign.ofBitVec (@unpackSign Format.binary64 x.toBits.toBitVec)) := by
    rw [ofBitVec_unpackSign_eq, hbits]
    split_ifs with h <;> simp [h, isNegative]
  have hone := toNat_one_append (@unpackMantissa Format.binary64 x.toBits.toBitVec)
  rw [hbits] at hexp hmant
  have hlast : (@unpackExponent Format.binary64 x.toBits.toBitVec) = -1#11 ↔
      (x.toBits.toNat >>> 52) % 2048 = 2047 := by
    rw [← hexp, ← BitVec.toNat_inj]
    rfl
  have hfirst : (@unpackExponent Format.binary64 x.toBits.toBitVec) = 0#11 ↔
      (x.toBits.toNat >>> 52) % 2048 = 0 := by
    rw [← hexp, ← BitVec.toNat_inj]
    rfl
  have hnone : (@unpackMantissa Format.binary64 x.toBits.toBitVec) = 0#52 ↔
      x.toBits.toNat % leastNormal = 0 := by
    rw [← BitVec.toNat_inj, hmant]
    rfl
  unfold UnpackedFloat.unpack ofFloat
  dsimp only
  by_cases h1 : (x.toBits.toNat >>> 52) % 2048 = 2047
  · rw [if_pos h1, if_pos (hlast.mpr h1)]
    by_cases h2 : x.toBits.toNat % leastNormal = 0
    · rw [if_pos h2, if_pos (hnone.mpr h2), hneg]
      rfl
    · rw [if_neg h2, if_neg (fun h => h2 (hnone.mp h))]
      rfl
  · rw [if_neg h1, if_neg (fun h => h1 (hlast.mp h))]
    by_cases h3 : (x.toBits.toNat >>> 52) % 2048 = 0
    · rw [if_pos h3, if_pos (hfirst.mpr h3)]
      by_cases h2 : x.toBits.toNat % leastNormal = 0
      · rw [dif_pos (hnone.mpr h2), h2, hneg]
        rfl
      · rw [dif_neg (fun h => h2 (hnone.mp h)), hneg, ofUnpacked, hmant, hexp, h3]
        rfl
    · rw [if_neg h3, if_neg (fun h => h3 (hfirst.mp h)), hneg, ofUnpacked, hexp]
      congr 1
      rw [hone, hmant]
      rfl

end LaneQuota
