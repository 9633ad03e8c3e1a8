import LaneQuota.Calendar.Date
import LaneQuota.Decimal.Reader
import LaneQuota.Toml.Text

namespace LaneQuota

namespace Toml

def moreDigits? (accepts : Char → Bool) : List Char → Option (List Char × List Char)
  | [] => some ([], [])
  | '_' :: c :: rest =>
    if accepts c then (moreDigits? accepts rest).map (fun r => (c :: r.1, r.2)) else none
  | c :: rest =>
    if accepts c then (moreDigits? accepts rest).map (fun r => (c :: r.1, r.2))
    else if c = '_' then none
    else some ([], c :: rest)

def digits? (accepts : Char → Bool) : List Char → Option (List Char × List Char)
  | [] => none
  | c :: rest =>
    if accepts c then (moreDigits? accepts rest).map (fun r => (c :: r.1, r.2)) else none

def wholeDigits? : List Char → Option (List Char × List Char)
  | '0' :: rest => some (['0'], rest)
  | cs => digits? isDigit cs

def baseNumber? (accepts : Char → Bool) (base : Nat) (cs : List Char) :
    Option (Json × List Char) := do
  let (digits, rest) ← digits? accepts cs
  let n := digits.foldl (fun n c => base * n + (Hex.value? c).getD 0) 0
  if Word.isSigned64 n then some (.int n, rest) else none

def signed (negative : Bool) (x : Float) : Float := if negative then -x else x

def power? : List Char → Option (List Char × List Char)
  | c :: rest =>
    if c = 'e' ∨ c = 'E' then
      let (sign, rest) := match rest with
        | '+' :: rest => (['+'], rest)
        | '-' :: rest => (['-'], rest)
        | _ => ([], rest)
      (digits? isDigit rest).map (fun r => ('e' :: sign ++ r.1, r.2))
    else some ([], c :: rest)
  | [] => some ([], [])

def floatValue? (negative : Bool) (spelling : List Char) : Option Json := do
  let x ← readUnsigned? spelling
  if !negative && x.isInf then none else some (.float (signed negative x))

def decimalNumber? (negative : Bool) (cs : List Char) : Option (Json × List Char) := do
  let (whole, rest) ← wholeDigits? cs
  match rest with
  | '.' :: rest =>
    let (places, rest) ← digits? isDigit rest
    let (power, rest) ← power? rest
    let x ← floatValue? negative (whole ++ '.' :: places ++ power)
    return (x, rest)
  | _ =>
    let (power, after) ← power? rest
    if power.isEmpty then
      let n : Int := digitsValue whole
      let n := if negative then -n else n
      if Word.isSigned64 n then some (.int n, rest) else none
    else
      let x ← floatValue? negative (whole ++ power)
      return (x, after)

def number? (cs : List Char) : Option (Json × List Char) :=
  match cs with
  | '0' :: 'x' :: rest => baseNumber? (fun c => (Hex.value? c).isSome) 16 rest
  | '0' :: 'o' :: rest => baseNumber? (fun c => '0' ≤ c ∧ c ≤ '7') 8 rest
  | '0' :: 'b' :: rest => baseNumber? (fun c => c = '0' ∨ c = '1') 2 rest
  | _ =>
    let (negative, rest) := match cs with
      | '+' :: rest => (false, rest)
      | '-' :: rest => (true, rest)
      | _ => (false, cs)
    match rest with
    | 'i' :: 'n' :: 'f' :: rest => some (.float (signed negative infinityFloat), rest)
    | 'n' :: 'a' :: 'n' :: rest => some (.float (signed negative nanFloat), rest)
    | _ => decimalNumber? negative rest

def pair? (most : Nat) : List Char → Option (Nat × List Char)
  | a :: b :: rest =>
    let n := digitsValue [a, b]
    if isDigit a && isDigit b && n ≤ most then some (n, rest) else none
  | _ => none

def mark? (mark : Char) : List Char → Option (List Char)
  | c :: rest => if c = mark then some rest else none
  | [] => none

def date? : List Char → Option (List Char)
  | a :: b :: c :: d :: '-' :: rest => do
    if !([a, b, c, d].all isDigit) then none
    let (month, rest) ← pair? 12 rest
    let rest ← mark? '-' rest
    let (day, rest) ← pair? 31 rest
    let _ ← Date.ofYearMonthDay? (digitsValue [a, b, c, d]) month day
    return rest
  | _ => none

def timeOfDay? (cs : List Char) : Option (List Char) := do
  let (_, rest) ← pair? 23 cs
  let rest ← mark? ':' rest
  let (_, rest) ← pair? 59 rest
  let rest ← mark? ':' rest
  let (_, rest) ← pair? 60 rest
  match rest with
  | '.' :: c :: after => if isDigit c then return after.dropWhile isDigit else return rest
  | _ => return rest

def offset? : List Char → Option (List Char)
  | c :: rest =>
    if c = 'Z' ∨ c = 'z' then some rest
    else if c = '+' ∨ c = '-' then do
      let (_, rest) ← pair? 23 rest
      let rest ← mark? ':' rest
      let (_, rest) ← pair? 59 rest
      return rest
    else none
  | [] => none

def time? (cs : List Char) : Option (List Char) :=
  match date? cs with
  | none => timeOfDay? cs
  | some rest =>
    match rest with
    | c :: after =>
      if c = 'T' ∨ c = 't' ∨ c = ' ' then
        match timeOfDay? after with
        | some rest => some ((offset? rest).getD rest)
        | none => some rest
      else some rest
    | [] => some []

/-- A time is no text, number or list; as a record it has no known member. -/
def timeValue : Json := .obj [("", .null)]

def numberOrTime? (cs : List Char) : Option (Json × List Char) :=
  match time? cs with
  | some rest => some (timeValue, rest)
  | none => number? cs

end Toml

end LaneQuota
