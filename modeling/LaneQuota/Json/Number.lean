import LaneQuota.Decimal.Reader
import LaneQuota.Json.Basic

/-!
# Numbers in JSON text

A number without point and power of ten is a whole number as long as it fits 64 bits. All others
are doubles: the digits are gathered into 64 bits, those that no longer fit only move the power of
ten, and one multiplication or division by a power of ten gives the value.
-/

namespace LaneQuota

namespace JsonNumber

structure Spelling where
  negative : Bool
  whole : List Char
  places : Option (List Char)
  power : Option (Bool × List Char)

structure Gathered where
  significand : Nat
  exponent : Int

def gatherWhole (g : Gathered) : List Char → Gathered
  | [] => g
  | c :: rest =>
    let n := 10 * g.significand + (c.toNat - 48)
    if Word.maxUnsigned64 < n then ⟨g.significand, g.exponent + (rest.length + 1)⟩
    else gatherWhole ⟨n, g.exponent⟩ rest

def gatherPlaces (g : Gathered) : List Char → Gathered
  | [] => g
  | c :: rest =>
    let n := 10 * g.significand + (c.toNat - 48)
    if Word.maxUnsigned64 < n then g else gatherPlaces ⟨n, g.exponent - 1⟩ rest

def tenTo (n : Nat) : Float := Float.ofScientific 1 false n

def divideByPower (x : Float) (n : Nat) : Float :=
  if n ≤ 308 then x / tenTo n
  else if x == 0 then x
  else divideByPower (x / tenTo 308) (n - 308)
termination_by n
decreasing_by omega

def magnitude? (g : Gathered) : Option Float :=
  let x := g.significand.toUInt64.toFloat
  match g.exponent with
  | .ofNat e =>
    if 308 < e then if x == 0 then some x else none
    else
      let y := x * tenTo e
      if y.isInf then none else some y
  | .negSucc e => some (divideByPower x (e + 1))

/-- The greatest power of ten that is read as written; beyond it a number is zero or too large. -/
def maxPower : Nat := 2147483647

def clampPower (e : Int) : Int := max (-(maxPower : Int) - 1) (min maxPower e)

def Spelling.float (s : Spelling) : Json :=
  let g := gatherPlaces (gatherWhole ⟨0, 0⟩ s.whole) (s.places.getD [])
  let sign (x : Float) : Json := .float (if s.negative then -x else x)
  match s.power with
  | none => ((magnitude? g).map sign).getD .unreadable
  | some (down, digits) =>
    let p := digitsValue digits
    if maxPower < p then
      if g.significand ≠ 0 ∧ !down then .unreadable else sign 0
    else
      let e := clampPower (if down then g.exponent - p else g.exponent + p)
      ((magnitude? ⟨g.significand, e⟩).map sign).getD .unreadable

def Spelling.value (s : Spelling) : Json :=
  match s.places, s.power with
  | none, none =>
    let n := digitsValue s.whole
    if Word.maxUnsigned64 < n then s.float
    else if !s.negative then .int n
    else if n = 0 ∨ !Word.isSigned64 (-n) then .float (-n.toUInt64.toFloat)
    else .int (-n)
  | _, _ => s.float

def places? (cs : List Char) : Option (Option (List Char) × List Char) :=
  match cs with
  | '.' :: rest =>
    let places := rest.takeWhile isDigit
    if places.isEmpty then none else some (some places, rest.dropWhile isDigit)
  | _ => some (none, cs)

def powerSign (cs : List Char) : Bool × List Char :=
  match cs with
  | '-' :: rest => (true, rest)
  | '+' :: rest => (false, rest)
  | _ => (false, cs)

def power? (cs : List Char) : Option (Option (Bool × List Char) × List Char) :=
  match cs with
  | c :: after =>
    if c = 'e' ∨ c = 'E' then
      let (down, digits) := powerSign after
      let power := digits.takeWhile isDigit
      if power.isEmpty then none else some (some (down, power), digits.dropWhile isDigit)
    else some (none, cs)
  | [] => some (none, [])

def unsigned? (negative : Bool) (cs : List Char) : Option (Spelling × List Char) := do
  let whole := cs.takeWhile isDigit
  if whole.isEmpty || (whole.head? == some '0' && 1 < whole.length) then none
  let (places, rest) ← places? (cs.dropWhile isDigit)
  let (power, rest) ← power? rest
  return (⟨negative, whole, places, power⟩, rest)

def spelling? (cs : List Char) : Option (Spelling × List Char) :=
  match cs with
  | '-' :: rest => unsigned? true rest
  | _ => unsigned? false cs

end JsonNumber

end LaneQuota
