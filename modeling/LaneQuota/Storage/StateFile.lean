import LaneQuota.Ledger.Encoding
import LaneQuota.Storage.FileTree

/-!
# The state file

The state of a ledger is kept in one file, which is replaced as a whole. A lock file beside it keeps
a second ledger away. A state file that cannot be read is an error; starting over would give every
quota back.
-/

namespace LaneQuota

namespace StateFile

def lockPath (path : String) : String := path ++ ".lock"

def lock (t : FileTree) (path : String) : Except Fault FileTree := do
  let t ← (t.makeParent path).mapError .file
  let t ← (t.touch (lockPath path)).mapError .file
  let place ← (t.locate (lockPath path)).mapError .file
  if t.locks.contains place then
    .error (.persistence ("ledger state " ++ path ++ " is owned by another process"))
  else .ok { t with locks := place :: t.locks }

def unlock (t : FileTree) (path : String) : FileTree :=
  match t.locate (lockPath path) with
  | .ok place => { t with locks := t.locks.filter (fun p => p ≠ place) }
  | .error _ => t

def load (t : FileTree) (path : String) : Except Fault LedgerState :=
  match t.readText path with
  | .ok text =>
    match LedgerState.ofDocument? text with
    | some s => .ok s
    | none => .error (.corruptState path)
  | .error .notFound => .ok LedgerState.empty
  | .error cause => .error (.file cause)

def store (path : String) (s : LedgerState) (t : FileTree) : Except Fault FileTree :=
  (t.writeText path s.documentText).mapError
    (fun cause => .persistence ("rename into " ++ path ++ ": " ++ cause.message))

end StateFile

end LaneQuota
