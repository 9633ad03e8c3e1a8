namespace LaneQuota

inductive Binary where
  | nan
  | infinite (negative : Bool)
  | finite (negative : Bool) (mantissa : Nat) (exponent : Int)
deriving DecidableEq, Repr

inductive Halves where
  | toEven
  | awayFromZero
deriving DecidableEq, Repr

def roundDiv (num den : Nat) (halves : Halves) : Nat :=
  let q := num / den
  let r := num % den
  if 2 * r < den then q
  else if den < 2 * r then q + 1
  else match halves with
    | .awayFromZero => q + 1
    | .toEven => if q % 2 = 0 then q else q + 1

namespace Binary

def leastNormal : Nat := 4503599627370496

def ofFloat (x : Float) : Binary :=
  let bits : Nat := x.toBits.toNat
  let negative := decide (bits >>> 63 = 1)
  let field : Nat := (bits >>> 52) % 2048
  let fraction := bits % leastNormal
  if field = 2047 then
    if fraction = 0 then .infinite negative else .nan
  else if field = 0 then .finite negative fraction (-1074)
  else .finite negative (leastNormal + fraction) ((field : Int) - 1075)

def fraction (mantissa : Nat) (exponent : Int) : Nat × Nat :=
  match exponent with
  | .ofNat e => (mantissa <<< e, 1)
  | .negSucc e => (mantissa, 1 <<< (e + 1))

def roundMagnitude (mantissa : Nat) (exponent : Int) (halves : Halves) : Nat :=
  roundDiv (fraction mantissa exponent).1 (fraction mantissa exponent).2 halves

end Binary

def roundFloat (x : Float) : Float :=
  match Binary.ofFloat x with
  | .finite negative mantissa exponent =>
    let magnitude := Float.ofNat (Binary.roundMagnitude mantissa exponent .awayFromZero)
    if negative then -magnitude else magnitude
  | _ => x

def roundToInt? (x : Float) : Option Int :=
  match Binary.ofFloat x with
  | .finite negative mantissa exponent =>
    let magnitude : Int := Binary.roundMagnitude mantissa exponent .awayFromZero
    some (if negative then -magnitude else magnitude)
  | _ => none

theorem roundDiv_within_half (num den : Nat) (h : 0 < den) (halves : Halves) :
    2 * num ≤ 2 * (roundDiv num den halves) * den + den ∧
      2 * (roundDiv num den halves) * den ≤ 2 * num + den := by
  have hr := Nat.mod_lt num h
  have hd := Nat.div_add_mod num den
  have hq : 2 * (num / den) * den = 2 * (den * (num / den)) := by
    rw [Nat.mul_assoc, Nat.mul_comm (num / den) den]
  have hs : 2 * (num / den + 1) * den = 2 * (den * (num / den)) + 2 * den := by
    rw [Nat.mul_assoc, Nat.add_mul, Nat.one_mul, Nat.mul_add, Nat.mul_comm (num / den) den]
  unfold roundDiv
  dsimp only
  split
  · omega
  · split
    · omega
    · cases halves
      · dsimp only
        split <;> omega
      · dsimp only
        omega

end LaneQuota
