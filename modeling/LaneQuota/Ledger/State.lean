import LaneQuota.Ledger.Bucket

namespace LaneQuota

inductive Scope where
  | shared
  | tenant (name : String)
deriving DecidableEq, Repr

namespace Scope

def ofTenant : Option String → Scope
  | none => shared
  | some t => tenant t

def charged (tenant : Option String) : List Scope :=
  match tenant with
  | none => [shared]
  | some t => [.tenant t, shared]

end Scope

abbrev Buckets := SortedMap Bucket

abbrev Histories := SortedMap (List Bucket)

abbrev HourlyLogs := SortedMap HourlyLog

structure LedgerState where
  sharedBuckets : Buckets
  sharedHistory : Histories
  tenantBuckets : SortedMap Buckets
  tenantHistory : SortedMap Histories
  sharedHourly : HourlyLogs
  tenantHourly : SortedMap HourlyLogs
  unlimited : Bool
  exempt : TextSet
deriving DecidableEq

structure Lookup where
  state : LedgerState
  bucket : Bucket
  rolled : Bool

namespace LedgerState

def empty : LedgerState where
  sharedBuckets := ∅
  sharedHistory := ∅
  tenantBuckets := ∅
  tenantHistory := ∅
  sharedHourly := ∅
  tenantHourly := ∅
  unlimited := false
  exempt := ∅

def bucket? (s : LedgerState) (scope : Scope) (key : String) : Option Bucket :=
  match scope with
  | .shared => s.sharedBuckets.get? key
  | .tenant t => (s.tenantBuckets.get? t).bind (fun m => m.get? key)

def history (s : LedgerState) (scope : Scope) (key : String) : List Bucket :=
  match scope with
  | .shared => s.sharedHistory.getD key []
  | .tenant t => ((s.tenantHistory.get? t).bind (fun m => m.get? key)).getD []

def hourly? (s : LedgerState) (scope : Scope) (key : String) : Option HourlyLog :=
  match scope with
  | .shared => s.sharedHourly.get? key
  | .tenant t => (s.tenantHourly.get? t).bind (fun m => m.get? key)

def hourly (s : LedgerState) (scope : Scope) (key : String) : HourlyLog :=
  (s.hourly? scope key).getD ∅

/-- The committed cost of all retired buckets of a lane. The sum starts at the negative zero, the
only number that changes no other when it is added. -/
def historyCost (s : LedgerState) (scope : Scope) (key : String) : Float :=
  (s.history scope key).foldl (fun sum b => sum + b.used.cost) (-0.0)

def makeRoom (s : LedgerState) (scope : Scope) : LedgerState :=
  match scope with
  | .shared => s
  | .tenant t =>
    { s with
      tenantBuckets := s.tenantBuckets.adjust t ∅ id
      tenantHistory := s.tenantHistory.adjust t ∅ id }

def setBucket (s : LedgerState) (scope : Scope) (key : String) (b : Bucket) : LedgerState :=
  match scope with
  | .shared => { s with sharedBuckets := s.sharedBuckets.insert key b }
  | .tenant t =>
    { s with tenantBuckets := s.tenantBuckets.adjust t ∅ (fun m => m.insert key b) }

def retire (s : LedgerState) (scope : Scope) (key : String) (b : Bucket) : LedgerState :=
  match scope with
  | .shared => { s with sharedHistory := s.sharedHistory.adjust key [] (fun l => l ++ [b]) }
  | .tenant t =>
    { s with
      tenantHistory := s.tenantHistory.adjust t ∅ (fun m => m.adjust key [] (fun l => l ++ [b])) }

def current (s : LedgerState) (scope : Scope) (key : String) (w : Window) (now : Instant) :
    Lookup :=
  let s := s.makeRoom scope
  let fresh := Bucket.fresh w now
  match s.bucket? scope key with
  | none => ⟨s.setBucket scope key fresh, fresh, false⟩
  | some b =>
    if b.day = w.day then ⟨s, b, false⟩
    else
      let s := if b.used.isZero then s else s.retire scope key b
      ⟨s.setBucket scope key fresh, fresh, true⟩

def adjustCurrent (s : LedgerState) (scope : Scope) (key : String) (w : Window) (now : Instant)
    (f : Bucket → Bucket) : LedgerState :=
  let found := s.current scope key w now
  found.state.setBucket scope key (f found.bucket)

def setHourly (s : LedgerState) (scope : Scope) (key : String) (log : HourlyLog) : LedgerState :=
  match scope with
  | .shared => { s with sharedHourly := s.sharedHourly.insert key log }
  | .tenant t =>
    { s with tenantHourly := s.tenantHourly.adjust t ∅ (fun m => m.insert key log) }

def clearBucket (b : Bucket) : Bucket :=
  if b.reserved.isZero then b else { b with reserved := Usage.zero }

def holdsReserved (s : LedgerState) : Bool :=
  s.sharedBuckets.values.any (fun b => !b.reserved.isZero) ||
    s.tenantBuckets.values.any (fun m => m.values.any (fun b => !b.reserved.isZero))

/-- Drops all that is reserved. Reservations end with the process that made them. -/
def clearReserved (s : LedgerState) : LedgerState :=
  { s with
    sharedBuckets := s.sharedBuckets.mapValues clearBucket
    tenantBuckets := s.tenantBuckets.mapValues (fun m => m.mapValues clearBucket) }

end LedgerState

end LaneQuota
