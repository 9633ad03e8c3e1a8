import LaneQuota.Calendar.Instant
import LaneQuota.Decimal.Reader
import LaneQuota.Text.Basic

namespace LaneQuota

namespace Timestamp

def number? (width : Nat) (cs : List Char) : Option (Nat × List Char) :=
  let digits := (cs.take width).takeWhile isDigit
  if digits.isEmpty then none else some (digitsValue digits, cs.drop digits.length)

def paddedNumber? (width : Nat) (cs : List Char) : Option (Nat × List Char) :=
  number? width (dropBlanks cs)

def year? (cs : List Char) : Option (Int × List Char) :=
  match dropBlanks cs with
  | '-' :: rest => (number? rest.length rest).map (fun (n, rest) => (-n, rest))
  | '+' :: rest => (number? rest.length rest).map (fun (n, rest) => (n, rest))
  | rest => (number? 4 rest).map (fun (n, rest) => (n, rest))

def mark? (c : Char) (cs : List Char) : Option (List Char) :=
  match dropBlanks cs with
  | d :: rest => if c = d then some rest else none
  | [] => none

def date? (cs : List Char) : Option (Date × List Char) := do
  let (year, cs) ← year? cs
  let cs ← mark? '-' cs
  let (month, cs) ← paddedNumber? 2 cs
  let cs ← mark? '-' cs
  let (day, cs) ← paddedNumber? 2 cs
  let date ← Date.ofYearMonthDay? year month day
  return (date, cs)

def fraction? (cs : List Char) : Option (Nat × List Char) :=
  match cs with
  | '.' :: rest =>
    let digits := (rest.take 9).takeWhile isDigit
    if digits.isEmpty then none
    else some (digitsValue digits * Nat.pow 10 (9 - digits.length), rest.dropWhile isDigit)
  | _ => some (0, cs)

def digitPair? (cs : List Char) : Option (Nat × List Char) :=
  match cs with
  | a :: b :: rest => if isDigit a && isDigit b then some (digitsValue [a, b], rest) else none
  | _ => none

def offset? (cs : List Char) : Option (Int × List Char) :=
  match cs with
  | 'Z' :: rest => some (0, rest)
  | 'z' :: rest => some (0, rest)
  | u :: t :: c :: rest =>
    if u.toLower = 'u' ∧ t.toLower = 't' ∧ c.toLower = 'c' then some (0, rest)
    else if u = '+' ∨ u = '-' ∨ u = Char.ofNat 0x2212 then do
      let (hours, rest) ← digitPair? (t :: c :: rest)
      let (minutes, rest) ← digitPair? (rest.dropWhile (fun c => c = ':' || isBlank c))
      if 60 ≤ minutes then none
      let seconds : Int := hours * 3600 + minutes * 60
      return (if u = '+' then seconds else -seconds, rest)
    else none
  | _ => none

def read? (text : String) : Option Instant := do
  let (date, cs) ← date? text.toList
  let cs ← match cs with
    | 'T' :: rest => some rest
    | 't' :: rest => some rest
    | ' ' :: rest => some rest
    | _ => none
  let (hour, cs) ← paddedNumber? 2 cs
  let cs ← mark? ':' cs
  let (minute, cs) ← paddedNumber? 2 cs
  let cs ← mark? ':' cs
  let (second, cs) ← paddedNumber? 2 cs
  let (nanos, cs) ← fraction? cs
  let (offset, cs) ← offset? (dropBlanks cs)
  if !(dropBlanks cs).isEmpty || 24 ≤ hour || 60 ≤ minute || 61 ≤ second ||
      secondsPerDay ≤ offset.natAbs then none
  let leap := second = 60
  let ofDay := hour * 3600 + minute * 60 + (if leap then 59 else second)
  let t := Instant.ofDate date ofDay (if leap then nanos + nanosPerSecond else nanos)
  let t := ⟨t.seconds - offset, t.nanos⟩
  if t.isReached then some t else none

def readDate? (text : String) : Option Date := do
  let (date, cs) ← date? text.toList
  if (dropBlanks cs).isEmpty then some date else none

end Timestamp

end LaneQuota
