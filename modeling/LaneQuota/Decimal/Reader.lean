namespace LaneQuota

namespace Word

def maxUnsigned32 : Nat := 4294967295

def maxUnsigned64 : Nat := 18446744073709551615

def minSigned64 : Int := -9223372036854775808

def maxSigned64 : Int := 9223372036854775807

def isSigned64 (n : Int) : Bool := minSigned64 ≤ n ∧ n ≤ maxSigned64

end Word

def digitValue? (c : Char) : Option Nat :=
  if '0' ≤ c ∧ c ≤ '9' then some (c.toNat - 48) else none

def isDigit (c : Char) : Bool := (digitValue? c).isSome

def digitsValue (cs : List Char) : Nat := cs.foldl (fun n c => 10 * n + (c.toNat - 48)) 0

def readNat? (cs : List Char) : Option Nat :=
  let digits := match cs with
    | '+' :: rest => rest
    | _ => cs
  if digits.isEmpty || !digits.all isDigit then none else some (digitsValue digits)

def scaledFloat (digits : Nat) (exponent : Int) : Float :=
  match exponent with
  | .ofNat e => Float.ofScientific digits false e
  | .negSucc e => Float.ofScientific digits true (e + 1)

def readPower? (cs : List Char) : Option Int :=
  let (negative, digits) := match cs with
    | '+' :: rest => (false, rest)
    | '-' :: rest => (true, rest)
    | _ => (false, cs)
  if digits.isEmpty || !digits.all isDigit then none
  else
    let n : Int := digitsValue digits
    some (if negative then -n else n)

def readUnsigned? (cs : List Char) : Option Float :=
  let whole := cs.takeWhile isDigit
  let rest := cs.dropWhile isDigit
  let (places, rest) := match rest with
    | '.' :: rest => (rest.takeWhile isDigit, rest.dropWhile isDigit)
    | _ => ([], rest)
  if whole.isEmpty && places.isEmpty then none
  else
    let digits := digitsValue (whole ++ places)
    match rest with
    | [] => some (scaledFloat digits (-places.length))
    | c :: power =>
      if c = 'e' ∨ c = 'E' then
        (readPower? power).map (fun p => scaledFloat digits (p - places.length))
      else none

def nanFloat : Float := 0.0 / 0.0

def infinityFloat : Float := 1.0 / 0.0

def readFloat? (cs : List Char) : Option Float :=
  let (negative, rest) := match cs with
    | '-' :: rest => (true, rest)
    | '+' :: rest => (false, rest)
    | _ => (false, cs)
  let word := String.ofList (rest.map Char.toLower)
  let magnitude :=
    if word = "inf" ∨ word = "infinity" then some infinityFloat
    else if word = "nan" then some nanFloat
    else readUnsigned? rest
  magnitude.map (fun x => if negative then -x else x)

end LaneQuota
