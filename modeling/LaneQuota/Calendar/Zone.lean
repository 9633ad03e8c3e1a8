import LaneQuota.Calendar.Instant

/-!
# Time zones

A zone is a step function from instants to offsets: a list of changes and, for zones that keep
changing their clocks, a yearly rule. The rule is applied up to the year 2099; after its last
change the offset stays.
-/

namespace LaneQuota

/-- A change on a Sunday: the month, which Sunday of it (five for the last), the second in
Greenwich counted from the start of that date, and the offset from then on. -/
structure YearlyChange where
  month : Nat
  week : Nat
  second : Int
  offset : Int
deriving DecidableEq, Repr

structure YearlyRule where
  firstYear : Int
  earlier : YearlyChange
  later : YearlyChange
deriving DecidableEq, Repr

structure ZoneRules where
  first : Int
  changes : List (Int × Int)
  yearly : Option YearlyRule
deriving DecidableEq, Repr

structure Zone where
  name : String
  rules : ZoneRules
deriving DecidableEq, Repr

def YearlyRule.lastYear : Int := 2099

def YearlyChange.at (c : YearlyChange) (year : Int) : Int × Int :=
  let first := (Date.mk year c.month 1).dayNumber
  let sunday := 1 + (7 - Date.weekday first) % 7 + (c.week - 1) * 7
  let day := if Date.daysInMonth year c.month < sunday then sunday - 7 else sunday
  ((first + day - 1) * secondsPerDay + c.second, c.offset)

def YearlyRule.changes (r : YearlyRule) (year : Int) : List (Int × Int) :=
  let year := min year lastYear
  let years := [year - 1, year].filter (fun y => decide (r.firstYear ≤ y))
  years.flatMap (fun y => [r.earlier.at y, r.later.at y])

def offsetAfter (second : Int) (offset : Int) (changes : List (Int × Int)) : Int :=
  changes.foldl (fun o c => if c.1 ≤ second then c.2 else o) offset

namespace ZoneRules

def fixed (offset : Int) : ZoneRules where
  first := offset
  changes := []
  yearly := none

def offsetAt (z : ZoneRules) (t : Instant) : Int :=
  let base := offsetAfter t.seconds z.first z.changes
  match z.yearly with
  | none => base
  | some rule => offsetAfter t.seconds base (rule.changes t.date.year)

end ZoneRules

namespace Zone

def utc : Zone := ⟨"UTC", .fixed 0⟩

def IsFixed (z : Zone) : Prop := z.rules.changes = [] ∧ z.rules.yearly = none

def toLocal (z : Zone) (t : Instant) : Instant := ⟨t.seconds + z.rules.offsetAt t, t.nanos⟩

theorem offsetAt_of_isFixed {z : Zone} (h : z.IsFixed) (t : Instant) :
    z.rules.offsetAt t = z.rules.first := by
  simp [ZoneRules.offsetAt, h.1, h.2, offsetAfter]

end Zone

/-- The zones that are known, by their names. -/
abbrev KnownZones := String → Option Zone

end LaneQuota
