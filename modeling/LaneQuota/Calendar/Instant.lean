import LaneQuota.Calendar.Date

namespace LaneQuota

structure Instant where
  seconds : Int
  nanos : Nat
deriving DecidableEq, Repr

def secondsPerDay : Int := 86400

def nanosPerSecond : Nat := 1000000000

namespace Instant

def ofDate (d : Date) (secondOfDay : Nat) (nanos : Nat) : Instant :=
  ⟨d.dayNumber * secondsPerDay + secondOfDay, nanos⟩

def date (t : Instant) : Date := Date.ofDayNumber (t.seconds / secondsPerDay)

def secondOfDay (t : Instant) : Nat := (t.seconds % secondsPerDay).toNat

def firstSecond : Int := Date.earliest.dayNumber * secondsPerDay

def lastSecond : Int := Date.latest.dayNumber * secondsPerDay + (secondsPerDay - 1)

def isReached (t : Instant) : Bool := firstSecond ≤ t.seconds ∧ t.seconds ≤ lastSecond

def moved (t : Instant) (seconds : Int) (nanos : Int) : Instant :=
  let leap := nanosPerSecond ≤ t.nanos
  if leap ∧ seconds = 0 ∧ (t.nanos : Int) + nanos < 2 * nanosPerSecond then
    ⟨t.seconds, ((t.nanos : Int) + nanos).toNat⟩
  else
    let back := leap ∧ (seconds < 0)
    let base := if back then t.seconds + 1 else t.seconds
    let fraction : Int := (if leap then (t.nanos : Int) - nanosPerSecond else t.nanos) + nanos
    ⟨base + seconds + fraction / nanosPerSecond, (fraction % nanosPerSecond).toNat⟩

def plusMillis (t : Instant) (ms : Int) : Instant :=
  let seconds := Int.tdiv ms 1000
  t.moved seconds (Int.tmod ms 1000 * 1000000)

def minusHours? (t : Instant) (hours : Nat) : Option Instant :=
  let earlier := t.moved (-(hours * 3600 : Nat)) 0
  if earlier.isReached then some earlier else none

end Instant

def fractionText (nanos : Nat) : String :=
  if nanos = 0 then ""
  else if nanos % 1000000 = 0 then "." ++ paddedText 3 (nanos / 1000000)
  else if nanos % 1000 = 0 then "." ++ paddedText 6 (nanos / 1000)
  else "." ++ paddedText 9 nanos

def Instant.bareText (t : Instant) : String :=
  let s := t.secondOfDay
  let leap := nanosPerSecond ≤ t.nanos
  let second := if leap then s % 60 + 1 else s % 60
  let nanos := if leap then t.nanos - nanosPerSecond else t.nanos
  t.date.text ++ "T" ++ paddedText 2 (s / 3600) ++ ":" ++ paddedText 2 (s / 60 % 60) ++ ":" ++
    paddedText 2 second ++ fractionText nanos

def Instant.text (t : Instant) : String := t.bareText ++ "Z"

def Instant.offsetText (t : Instant) : String := t.bareText ++ "+00:00"

end LaneQuota
