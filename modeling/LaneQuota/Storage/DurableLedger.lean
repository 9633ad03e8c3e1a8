import LaneQuota.Ledger.Operation
import LaneQuota.Storage.StateFile

/-!
# Ledgers that are stored

A durable ledger writes its state to a medium after every operation that asks for it. A write that
fails is not an error of the operation: the ledger goes on in memory, remembers that it is ahead of
the medium, and the next write brings all of the state.
-/

namespace LaneQuota

structure Medium (μ : Type) where
  write : LedgerState → μ → Except Fault Unit × μ
  report : Fault → Fault

namespace Medium

def none {μ : Type} : Medium μ := ⟨fun _ m => (.ok (), m), id⟩

def file (path : String) : Medium FileTree where
  write := fun s t =>
    match StateFile.store path s t with
    | .ok t => (.ok (), t)
    | .error fault => (.error fault, t)
  report := fun fault => .persistence (path ++ ": " ++ fault.message)

end Medium

structure DurableLedger where
  ledger : Ledger
  dirty : Bool

namespace DurableLedger

variable {μ : Type}

def save (medium : Medium μ) (d : DurableLedger) (m : μ) : DurableLedger × μ :=
  match medium.write d.ledger.state m with
  | (.ok _, m) => (⟨d.ledger, false⟩, m)
  | (.error _, m) => (⟨d.ledger, true⟩, m)

def settle {α : Type} (medium : Medium μ) (d : DurableLedger) (m : μ) (s : Step α) :
    α × DurableLedger × μ :=
  let next : DurableLedger := ⟨s.ledger, d.dirty⟩
  (s.answer, if s.saves then next.save medium m else (next, m))

def perform (medium : Medium μ) (d : DurableLedger) (m : μ) (now : Instant) (op : Operation) :
    Answer × DurableLedger × μ := d.settle medium m (d.ledger.step now op)

def ask (medium : Medium μ) (now : Instant) (s : DurableLedger × μ) (r : Request) :
    CallDecision × DurableLedger × μ := s.1.settle medium s.2 (s.1.ledger.canCall now r)

def flush (medium : Medium μ) (d : DurableLedger) (m : μ) : Except Fault Unit × DurableLedger × μ :=
  match medium.write d.ledger.state m with
  | (.ok _, m) => (.ok (), ⟨d.ledger, false⟩, m)
  | (.error fault, m) => (.error (medium.report fault), ⟨d.ledger, true⟩, m)

def inMemory (policy : LedgerPolicy) : DurableLedger := ⟨Ledger.ofState policy .empty, false⟩

/-- Loads the state of a locked file. What was reserved before is dropped, and a state that changes
by this is written at once. -/
def load (policy : LedgerPolicy) (path : String) (t : FileTree) :
    Except Fault (DurableLedger × FileTree) := do
  let s ← StateFile.load t path
  let cleared := s.clearReserved
  let t ← if s.holdsReserved then StateFile.store path cleared t else .ok t
  return (⟨Ledger.ofState policy cleared, false⟩, t)

def openFile (policy : LedgerPolicy) (path : String) (t : FileTree) :
    Except Fault DurableLedger × FileTree :=
  match StateFile.lock t path with
  | .error fault => (.error fault, ((t.makeParent path).toOption).getD t)
  | .ok locked =>
    match load policy path locked with
    | .error fault => (.error fault, StateFile.unlock locked path)
    | .ok (d, t) => (.ok d, t)

end DurableLedger

end LaneQuota
