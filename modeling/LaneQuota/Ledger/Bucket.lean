import LaneQuota.Calendar.Zone
import LaneQuota.Ledger.Usage
import LaneQuota.SortedMap

namespace LaneQuota

structure Window where
  day : String
  month : String
deriving DecidableEq

def Window.at (t : Instant) (zone : Zone) : Window :=
  let date := (zone.toLocal t).date
  ⟨date.text, date.monthText⟩

structure Bucket where
  day : String
  month : String
  used : Usage
  reserved : Usage
  hardStopped : Bool
  lastUpdate : Instant
deriving DecidableEq

namespace Bucket

def fresh (w : Window) (now : Instant) : Bucket :=
  ⟨w.day, w.month, Usage.zero, Usage.zero, false, now⟩

def heldTokens (b : Bucket) : UInt64 := addTokens b.used.totalTokens b.reserved.totalTokens

def heldCost (b : Bucket) : Float := b.used.cost + b.reserved.cost

end Bucket

abbrev HourlyLog := SortedMap Usage

def hourName (t : Instant) (zone : Zone) : String :=
  let clock := zone.toLocal t
  clock.date.text ++ "T" ++ paddedText 2 (clock.secondOfDay / 3600)

namespace HourlyLog

def record (log : HourlyLog) (t : Instant) (zone : Zone) (usage : Usage) : HourlyLog :=
  log.adjust (hourName t zone) Usage.zero (fun u => u.plus usage)

/-- Drops the hours before the one that lay `hours` back. Where times do not reach that far, all
are kept. -/
def prune (log : HourlyLog) (now : Instant) (zone : Zone) (hours : Nat) : HourlyLog :=
  match now.minusHours? hours with
  | none => log
  | some oldest => log.filterKeys (fun hour => !(hour < hourName oldest zone))

end HourlyLog

end LaneQuota
