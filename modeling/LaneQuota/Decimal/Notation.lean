import LaneQuota.Decimal.Shortest

namespace LaneQuota

structure FloatStyle where
  positional : Int → Bool
  wholeMark : String
  nan : String
  infinity : String

namespace FloatStyle

def plain : FloatStyle where
  positional := fun _ => true
  wholeMark := ""
  nan := "NaN"
  infinity := "inf"

def json : FloatStyle where
  positional := fun e => decide (-5 ≤ e ∧ e < 16)
  wholeMark := ".0"
  nan := "null"
  infinity := "null"

def toml : FloatStyle where
  positional := fun _ => true
  wholeMark := ".0"
  nan := "nan"
  infinity := "inf"

end FloatStyle

def natText (n : Nat) : String := String.ofList (Nat.toDigits 10 n)

def intText (n : Int) : String :=
  match n with
  | .ofNat n => natText n
  | .negSucc n => "-" ++ natText (n + 1)

def zeros (n : Nat) : List Char := List.replicate n '0'

def positionalText (digits : List Char) (exponent : Int) (wholeMark : String) : String :=
  match exponent with
  | .ofNat e => String.ofList (digits ++ zeros e) ++ wholeMark
  | .negSucc e =>
    let places := e + 1
    if places < digits.length then
      String.ofList (digits.take (digits.length - places)) ++ "." ++
        String.ofList (digits.drop (digits.length - places))
    else
      "0." ++ String.ofList (zeros (places - digits.length) ++ digits)

def scientificText (digits : List Char) (exponent : Int) : String :=
  let power := exponent + digits.length - 1
  let head := String.ofList (digits.take 1)
  let tail := digits.drop 1
  let mantissa := if tail.isEmpty then head else head ++ "." ++ String.ofList tail
  mantissa ++ "e" ++ (if 0 ≤ power then "+" else "") ++ intText power

def decimalText (style : FloatStyle) (d : Decimal) : String :=
  let digits := Nat.toDigits 10 d.digits
  if style.positional (d.exponent + digits.length - 1) then
    positionalText digits d.exponent style.wholeMark
  else scientificText digits d.exponent

def floatText (style : FloatStyle) (x : Float) : String :=
  match Binary.ofFloat x with
  | .nan => style.nan
  | .infinite negative => if negative then "-" ++ style.infinity else style.infinity
  | .finite negative mantissa exponent =>
    let magnitude :=
      if mantissa = 0 then "0" ++ style.wholeMark
      else decimalText style (Shortest.decimal mantissa exponent)
    if negative then "-" ++ magnitude else magnitude

def wholeText (x : Float) : String :=
  match Binary.ofFloat x with
  | .nan => FloatStyle.plain.nan
  | .infinite negative =>
    if negative then "-" ++ FloatStyle.plain.infinity else FloatStyle.plain.infinity
  | .finite negative mantissa exponent =>
    let magnitude := natText (Binary.roundMagnitude mantissa exponent .toEven)
    if negative then "-" ++ magnitude else magnitude

end LaneQuota
