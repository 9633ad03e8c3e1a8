import LaneQuota.Calendar.Timestamp
import LaneQuota.Json.Writer
import LaneQuota.Route.Encoding
import LaneQuota.Settings.Basic
import LaneQuota.Storage.FileTree

namespace LaneQuota

structure AuditRecord where
  workItem : String
  time : Instant
  route : Route
  lane : Option String
deriving DecidableEq

namespace AuditRecord

def ofJson? (j : Json) : Option AuditRecord := do
  match ← Json.record? ["workItemId", "timestamp", "route", "lane"] j with
  | [workItem, time, route, lane] =>
    let workItem ← Json.required? Json.asText? workItem
    let time ← Json.required? (fun j => (Json.asText? j).bind Timestamp.read?) time
    let route ← Json.required? Route.ofJson? route
    let lane ← Json.optional? Json.asText? lane
    return ⟨workItem, time, route, lane⟩
  | _ => none

def members (r : AuditRecord) : List (String × Json) :=
  [("workItemId", .str r.workItem), ("timestamp", .str r.time.text), ("route", r.route.json)] ++
    Json.given "lane" .str r.lane

def json (r : AuditRecord) : Json := .obj r.members

def line (r : AuditRecord) : String := r.json.compact ++ "\n"

end AuditRecord

structure AuditLog where
  capacity : Nat
  path : Option String
  records : List AuditRecord
deriving DecidableEq

namespace AuditLog

def ofCapacity (capacity : Nat) (path : Option String) : AuditLog := ⟨max capacity 1, path, []⟩

def ofSettings (s : RoutingSettings) : AuditLog := ofCapacity s.auditCapacity.toNat s.auditPath

def record (l : AuditLog) (r : AuditRecord) : AuditLog :=
  let kept := if l.capacity ≤ l.records.length then l.records.drop 1 else l.records
  { l with records := kept ++ [r] }

def note (l : AuditLog) (now : Instant) (workItem : String) (route : Route)
    (lane : Option String) : AuditRecord × AuditLog :=
  let r : AuditRecord := ⟨workItem, now, route, lane⟩
  (r, l.record r)

def persist (l : AuditLog) (r : AuditRecord) (t : FileTree) : FileTree :=
  match l.path with
  | none => t
  | some path =>
    match t.makeParent path with
    | .error _ => t
    | .ok t => ((t.appendText path r.line).toOption).getD t

def recent (l : AuditLog) (limit : Nat) : List AuditRecord := l.records.reverse.take limit

def get? (l : AuditLog) (workItem : String) : Option AuditRecord :=
  l.records.reverse.find? (fun r => r.workItem = workItem)

end AuditLog

end LaneQuota
