import LaneQuota.Decimal.Reader

/-!
# Usage

Usage counts input tokens, output tokens and cost. Token counts are 64-bit words; most sums and
differences of them stop at the greatest word and at zero. A cost that is negative or not finite
counts as zero wherever it is added.
-/

namespace LaneQuota

def addTokens (a b : UInt64) : UInt64 :=
  UInt64.ofNat (min (a.toNat + b.toNat) Word.maxUnsigned64)

def subTokens (a b : UInt64) : UInt64 := UInt64.ofNat (a.toNat - b.toNat)

theorem toNat_addTokens (a b : UInt64) :
    (addTokens a b).toNat = min (a.toNat + b.toNat) Word.maxUnsigned64 := by
  apply UInt64.toNat_ofNat_of_lt'
  have h : UInt64.size = Word.maxUnsigned64 + 1 := rfl
  omega

theorem toNat_subTokens (a b : UInt64) : (subTokens a b).toNat = a.toNat - b.toNat := by
  apply UInt64.toNat_ofNat_of_lt'
  have h : a.toNat < UInt64.size := a.toNat_lt
  omega

theorem toNat_addTokens_of_le {a b : UInt64} (h : a.toNat + b.toNat ≤ Word.maxUnsigned64) :
    (addTokens a b).toNat = a.toNat + b.toNat := by
  rw [toNat_addTokens]
  omega

def sumTokens? (a b : UInt64) : Option UInt64 :=
  if a.toNat + b.toNat ≤ Word.maxUnsigned64 then some (a + b) else none

def soundCost (cost : Float) : Float := if cost.isFinite && 0.0 < cost then cost else 0.0

def aboveZero (cost : Float) : Float := if 0.0 < cost then cost else 0.0

structure Usage where
  tokensIn : UInt64
  tokensOut : UInt64
  cost : Float
deriving DecidableEq

namespace Usage

def zero : Usage := ⟨0, 0, 0.0⟩

def reported (tokensIn tokensOut : UInt64) (cost : Float) : Usage :=
  ⟨tokensIn, tokensOut, soundCost cost⟩

def ofTokens (tokensIn tokensOut : UInt64) : Usage := reported tokensIn tokensOut 0.0

def totalTokens (u : Usage) : UInt64 := addTokens u.tokensIn u.tokensOut

def isZero (u : Usage) : Bool := u.tokensIn == 0 && u.tokensOut == 0 && u.cost <= 0.0

def plus (u v : Usage) : Usage :=
  ⟨addTokens u.tokensIn v.tokensIn, addTokens u.tokensOut v.tokensOut, u.cost + soundCost v.cost⟩

def minus (u v : Usage) : Usage :=
  ⟨subTokens u.tokensIn v.tokensIn, subTokens u.tokensOut v.tokensOut, aboveZero (u.cost - v.cost)⟩

end Usage

end LaneQuota
