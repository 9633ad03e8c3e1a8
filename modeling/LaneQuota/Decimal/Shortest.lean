import LaneQuota.Decimal.Binary

/-!
# The shortest decimal that reads back

For a positive double the reals that round to it form an interval, closed exactly when the
mantissa is even. `Shortest.decimal` finds the fewest digits with a decimal in that interval and,
of two such decimals, the one nearer to the value.
-/

namespace LaneQuota

structure Decimal where
  digits : Nat
  exponent : Int
deriving DecidableEq, Repr

namespace Shortest

def compareScaled (n : Nat) (k : Int) (num den : Nat) : Ordering :=
  match k with
  | .ofNat k => compare (n * Nat.pow 10 k * den) num
  | .negSucc k => compare (n * den) (num * Nat.pow 10 (k + 1))

def exponentOfTen (num den : Nat) : Int :=
  let estimate := ((num.log2 : Int) - den.log2) * 30103 / 100000
  let reaches (e : Int) : Bool := compareScaled 1 e num den != .gt
  if reaches (estimate + 2) then estimate + 2
  else if reaches (estimate + 1) then estimate + 1
  else if reaches estimate then estimate
  else if reaches (estimate - 1) then estimate - 1
  else estimate - 2

def floorScaled (k : Int) (num den : Nat) : Nat :=
  match k with
  | .ofNat k => num / (den * Nat.pow 10 k)
  | .negSucc k => num * Nat.pow 10 (k + 1) / den

structure Interval where
  low : Nat
  value : Nat
  high : Nat
  den : Nat
  closed : Bool

/-- Below the least mantissa of an exponent the neighbouring double is only half as far away. -/
def interval (mantissa : Nat) (exponent : Int) : Interval :=
  let below := if mantissa = Binary.leastNormal ∧ -1074 < exponent then 1 else 2
  let scale (n : Nat) := (Binary.fraction n exponent).1
  { low := scale (4 * mantissa - below)
    value := scale (4 * mantissa)
    high := scale (4 * mantissa + 2)
    den := 4 * (Binary.fraction 1 exponent).2
    closed := mantissa % 2 = 0 }

def Interval.holds (i : Interval) (n : Nat) (k : Int) : Bool :=
  let low := compareScaled n k i.low i.den
  let high := compareScaled n k i.high i.den
  if i.closed then low != .lt && high != .gt else low == .gt && high == .lt

def Interval.upperNearer (i : Interval) (n : Nat) (k : Int) : Bool :=
  match compareScaled (2 * n + 1) k (2 * i.value) i.den with
  | .lt => true
  | .gt => false
  | .eq => n % 2 = 1

def Interval.withDigits? (i : Interval) (e : Int) (count : Nat) : Option Decimal :=
  let k := e - count + 1
  let n := floorScaled k i.value i.den
  match i.holds n k, i.holds (n + 1) k with
  | true, true => some ⟨if i.upperNearer n k then n + 1 else n, k⟩
  | true, false => some ⟨n, k⟩
  | false, true => some ⟨n + 1, k⟩
  | false, false => none

def dropZeros (fuel : Nat) (d : Decimal) : Decimal :=
  match fuel with
  | 0 => d
  | fuel + 1 =>
    if d.digits ≠ 0 ∧ d.digits % 10 = 0 then dropZeros fuel ⟨d.digits / 10, d.exponent + 1⟩ else d

def decimal (mantissa : Nat) (exponent : Int) : Decimal :=
  let i := interval mantissa exponent
  let e := exponentOfTen i.value i.den
  match ((List.range 17).map (· + 1)).findSome? (i.withDigits? e) with
  | some d => dropZeros 18 d
  | none => ⟨floorScaled (e - 16) i.value i.den, e - 16⟩

end Shortest

end LaneQuota
