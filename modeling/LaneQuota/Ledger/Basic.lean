import LaneQuota.Fault
import LaneQuota.Ledger.Decision
import LaneQuota.Ledger.State
import LaneQuota.Settings.Basic

namespace LaneQuota

structure LedgerPolicy where
  zone : Zone
  bufferRatio : Float
  fallback : LaneKey
  retentionHours : Nat
  limits : LimitsTable

namespace LedgerPolicy

def inZone (zone : Zone) (s : LedgerSettings) (limits : LimitsTable) : LedgerPolicy where
  zone := zone
  bufferRatio := s.bufferRatio
  fallback := s.fallbackKey
  retentionHours := s.hourlyRetentionHours.toNat
  limits := limits

def ofSettings (known : KnownZones) (s : LedgerSettings) (limits : LimitsTable) : LedgerPolicy :=
  inZone (s.zone known) s limits

end LedgerPolicy

structure Reservation where
  key : LaneKey
  tenant : Option String
  estimate : Usage
  day : String
deriving DecidableEq

structure Ledger where
  policy : LedgerPolicy
  state : LedgerState
  reservations : SortedMap Reservation
  orphanedCommits : UInt64

structure Step (α : Type) where
  answer : α
  ledger : Ledger
  saves : Bool

def Step.map {α β : Type} (f : α → β) (s : Step α) : Step β := ⟨f s.answer, s.ledger, s.saves⟩

inductive RollbackMode where
  | release
  | keep
deriving DecidableEq, Repr

structure SyncOutcome where
  updated : Bool
  driftAdded : UInt64
deriving DecidableEq, Repr

namespace Ledger

def ofState (policy : LedgerPolicy) (state : LedgerState) : Ledger := ⟨policy, state, ∅, 0⟩

def window (l : Ledger) (now : Instant) : Window := Window.at now l.policy.zone

end Ledger

structure Check where
  state : LedgerState
  denial : Option (ExhaustedBudget × String)
  rolled : Bool

namespace Check

def denyIf (found : Lookup) (condition : Bool) (budget : ExhaustedBudget) (reason : String) :
    Check :=
  ⟨found.state, if condition then some (budget, reason) else none, found.rolled⟩

def andThen (c : Check) (next : LedgerState → Check) : Check :=
  match c.denial with
  | some _ => c
  | none =>
    let d := next c.state
    ⟨d.state, d.denial, c.rolled || d.rolled⟩

end Check

namespace LedgerPolicy

def exceedsDaily (p : LedgerPolicy) (b : Bucket) (estimate : Usage) (daily : UInt64) : Bool :=
  daily.toFloat * p.bufferRatio < (addTokens b.heldTokens estimate.totalTokens).toFloat

end LedgerPolicy

structure Request where
  key : LaneKey
  tenant : Option String
  estimate : Usage
deriving DecidableEq

namespace Request

variable (r : Request) (p : LedgerPolicy) (w : Window) (now : Instant)

def ownScope : Scope := Scope.ofTenant r.tenant

def checkLatch (s : LedgerState) : Check :=
  let found := s.current r.ownScope r.key.text w now
  Check.denyIf found found.bucket.hardStopped .hardStopped
    (r.key.text ++ " is hard-stopped for " ++ found.bucket.day)

def checkOwnDaily (daily : UInt64) (s : LedgerState) : Check :=
  let found := s.current r.ownScope r.key.text w now
  Check.denyIf found (p.exceedsDaily found.bucket r.estimate daily)
    (if r.tenant.isSome then .dailyTokens else .sharedDailyTokens)
    ("daily token limit reached for " ++ r.key.text)

def checkSharedDaily (daily : UInt64) (s : LedgerState) : Check :=
  let found := s.current .shared r.key.text w now
  Check.denyIf found (found.bucket.hardStopped || p.exceedsDaily found.bucket r.estimate daily)
    .sharedDailyTokens ("shared daily token limit reached for " ++ r.key.text)

def checkCost (cap : Float) (scope : Scope) (s : LedgerState) : Check :=
  let found := s.current scope r.key.text w now
  let spent := found.state.historyCost scope r.key.text + found.bucket.heldCost
  Check.denyIf found (cap < spent + r.estimate.cost) .lifetimeCost
    ("lifetime cost limit " ++ floatText .plain cap ++ " reached for " ++ r.key.text)

def checkDaily (daily : UInt64) (s : LedgerState) : Check :=
  let own := r.checkOwnDaily p w now daily s
  if r.tenant.isSome then own.andThen (r.checkSharedDaily p w now daily) else own

def checkLifetime (cap : Float) (s : LedgerState) : Check :=
  let own := r.checkCost w now cap r.ownScope s
  if r.tenant.isSome then own.andThen (r.checkCost w now cap .shared) else own

def check (limits : Limits) (s : LedgerState) : Check :=
  let latch := r.checkLatch w now s
  let daily := match limits.dailyTokens with
    | none => latch
    | some d => latch.andThen (r.checkDaily p w now d)
  match limits.lifetimeCost with
  | none => daily
  | some cap => daily.andThen (r.checkLifetime w now cap)

end Request

namespace Ledger

def exemption? (l : Ledger) (tenant : Option String) : Option String :=
  if l.state.unlimited then some "unlimited mode is enabled"
  else if tenant.any l.state.exempt.contains then some "tenant is exempt from quota"
  else none

def canCall (l : Ledger) (now : Instant) (r : Request) : Step CallDecision :=
  match l.exemption? r.tenant with
  | some reason => ⟨.allow reason, l, false⟩
  | none =>
    match l.policy.limits.get? r.key with
    | none => ⟨.allow "no limits configured", l, false⟩
    | some limits =>
      if limits.hardStop then
        let c := r.check l.policy (l.window now) now limits l.state
        let decision := match c.denial with
          | some (budget, reason) => .deny budget reason l.policy.fallback
          | none => .allow "within quota"
        ⟨decision, { l with state := c.state }, c.rolled⟩
      else ⟨.allow "limits are informational", l, false⟩

def hold (s : LedgerState) (key : String) (tenant : Option String) (estimate : Usage) (w : Window)
    (now : Instant) : LedgerState :=
  (Scope.charged tenant).foldl (fun s scope => s.adjustCurrent scope key w now (fun b =>
    { b with reserved := b.reserved.plus estimate, lastUpdate := now })) s

def reserve (l : Ledger) (now : Instant) (id : String) (r : Request) : Step Unit :=
  if l.reservations.contains id then ⟨(), l, false⟩
  else
    let w := l.window now
    ⟨(), { l with
      state := hold l.state r.key.text r.tenant r.estimate w now
      reservations := l.reservations.insert id ⟨r.key, r.tenant, r.estimate, w.day⟩ }, true⟩

/-- Gives back what a reservation holds. What it held in a bucket of another day went with that
bucket, and the live bucket keeps what others hold. -/
def release (s : LedgerState) (r : Reservation) (w : Window) (now : Instant) : LedgerState :=
  (Scope.charged r.tenant).foldl (fun s scope => s.adjustCurrent scope r.key.text w now (fun b =>
    { b with
      reserved := if b.day = r.day then b.reserved.minus r.estimate else b.reserved
      lastUpdate := now })) s

def latched (limits : Limits) (historyCost : Float) (b : Bucket) : Bucket :=
  let tokensHit := limits.dailyTokens.any (fun d => d ≤ b.used.totalTokens)
  let costHit := limits.lifetimeCost.any (fun cap => cap <= historyCost + b.used.cost)
  if tokensHit || costHit then { b with hardStopped := true } else b

def latchedUnder (limits : Option Limits) (historyCost : Float) (b : Bucket) : Bucket :=
  match limits with
  | none => b
  | some limits => latched limits historyCost b

def spendIn (p : LedgerPolicy) (key : LaneKey) (usage : Usage) (w : Window) (now : Instant)
    (s : LedgerState) (scope : Scope) : LedgerState :=
  let found := s.current scope key.text w now
  let historyCost := found.state.historyCost scope key.text
  let b := { found.bucket with used := found.bucket.used.plus usage, lastUpdate := now }
  let s := found.state.setBucket scope key.text
    (latchedUnder (p.limits.enforced? key) historyCost b)
  let log := (s.hourly scope key.text).record now p.zone usage
  s.setHourly scope key.text (log.prune now p.zone p.retentionHours)

def spend (p : LedgerPolicy) (key : LaneKey) (tenant : Option String) (usage : Usage) (w : Window)
    (now : Instant) (s : LedgerState) : LedgerState :=
  (Scope.charged tenant).foldl (spendIn p key usage w now) s

def committedCost (s : LedgerState) (scope : Scope) (key : String) : Float :=
  ((s.bucket? scope key).map (fun b => b.used.cost)).getD 0.0

/-- Counts actual usage and gives back the reservation. Usage whose reservation is not known counts
too: spending is never lost. -/
def commit (l : Ledger) (now : Instant) (id : String) (key : LaneKey) (tenant : Option String)
    (actual : Usage) : Step Float :=
  let w := l.window now
  let (state, orphans) := match l.reservations.get? id with
    | some r => (release l.state r w now, l.orphanedCommits)
    | none => (l.state, l.orphanedCommits + 1)
  let state := spend l.policy key tenant actual w now state
  ⟨committedCost state (Scope.ofTenant tenant) key.text,
    ⟨l.policy, state, l.reservations.erase id, orphans⟩, true⟩

def rollback (l : Ledger) (now : Instant) (id : String) (mode : RollbackMode) : Step Unit :=
  match l.reservations.get? id with
  | none => ⟨(), l, false⟩
  | some r =>
    let w := l.window now
    let state := release l.state r w now
    let state := match mode with
      | .release => state
      | .keep => spend l.policy r.key r.tenant r.estimate w now state
    ⟨(), { l with state := state, reservations := l.reservations.erase id }, true⟩

def toggleUnlimited (l : Ledger) (enabled : Bool) (tenant : Option String) : Step Unit :=
  let state := match tenant with
    | none => { l.state with unlimited := enabled }
    | some t =>
      if enabled then { l.state with exempt := l.state.exempt.insert t () }
      else { l.state with exempt := l.state.exempt.erase t }
  ⟨(), { l with state := state }, true⟩

def isUnlimited (l : Ledger) (tenant : Option String) : Bool :=
  l.state.unlimited || tenant.any l.state.exempt.contains

def unlimitedTenants (l : Ledger) : List String := l.state.exempt.keys

def reportRange (l : Ledger) (now : Instant) (lookbackDays : Nat) : Date × Date :=
  let today := (l.policy.zone.toLocal now).date
  ((today.minusDays? lookbackDays).getD Date.earliest, today)

def archivedTokens? (buckets : List Bucket) (start : String) : Option UInt64 :=
  (buckets.filter (fun b => !(b.day < start))).foldlM
    (fun sum b => sumTokens? sum b.used.totalTokens) 0

/-- Raises the shared bucket to what was reported for the days from `start` on. A report that is
not ahead of the ledger changes nothing. If the retired buckets of these days sum up to more than a
word then the report fails; by then the live bucket has been retired if it was due, and that goes
unsaved. -/
def applyReport (l : Ledger) (now : Instant) (key : LaneKey) (start : Date) (reported : UInt64) :
    Step (Except Fault SyncOutcome) :=
  let w := l.window now
  let found := l.state.current .shared key.text w now
  match archivedTokens? (found.state.history .shared key.text) start.text with
  | none => ⟨.error .overflow, { l with state := found.state }, false⟩
  | some archived =>
    let known := addTokens archived found.bucket.used.totalTokens
    if reported ≤ known then ⟨.ok ⟨false, 0⟩, { l with state := found.state }, found.rolled⟩
    else
      let drift := reported - known
      let historyCost := found.state.historyCost .shared key.text
      let used := { found.bucket.used with
        tokensOut := addTokens found.bucket.used.tokensOut drift }
      let b := { found.bucket with used := used, lastUpdate := now }
      let state := found.state.setBucket .shared key.text
        (latchedUnder (l.policy.limits.enforced? key) historyCost b)
      ⟨.ok ⟨true, drift⟩, { l with state := state }, true⟩

end Ledger

end LaneQuota
