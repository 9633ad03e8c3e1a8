import LaneQuota.Json.Basic

/-!
# Tables under construction

A table comes into being by its own header, as a step on the path of another header, or by a dotted
name. Which of these it was decides what may still be added to it: a header states a table once, and
dotted names extend only what dotted names began.
-/

namespace LaneQuota

namespace Toml

inductive Standing where
  | stated
  | implied
  | dotted
deriving DecidableEq

inductive Node where
  | value (j : Json)
  | table (standing : Standing) (members : List (String × Node))
  /-- The tables of one repeated header, the newest first. -/
  | tables (newest : List (String × Node)) (older : List (List (String × Node)))

abbrev Members := List (String × Node)

def setNode (name : String) (n : Node) : Members → Members
  | [] => [(name, n)]
  | (k, m) :: rest => if k = name then (k, n) :: rest else (k, m) :: setNode name n rest

def atPath (f : Members → Option Members) : List String → Members → Option Members
  | [], ms => f ms
  | k :: path, ms =>
    match ms.lookup k with
    | none => (atPath f path []).map (fun inner => setNode k (.table .implied inner) ms)
    | some (.value _) => none
    | some (.table s inner) =>
      (atPath f path inner).map (fun inner => setNode k (.table s inner) ms)
    | some (.tables newest older) =>
      (atPath f path newest).map (fun newest => setNode k (.tables newest older) ms)

def openTable (name : String) (ms : Members) : Option Members :=
  match ms.lookup name with
  | none => some (setNode name (.table .stated []) ms)
  | some (.table .implied inner) => some (setNode name (.table .stated inner) ms)
  | _ => none

def addTable (name : String) (ms : Members) : Option Members :=
  match ms.lookup name with
  | none => some (setNode name (.tables [] []) ms)
  | some (.tables newest older) => some (setNode name (.tables [] (newest :: older)) ms)
  | _ => none

def assign (name : String) (j : Json) (ms : Members) : Option Members :=
  match ms.lookup name with
  | none => some (setNode name (.value j) ms)
  | some _ => none

def assignDotted (name : String) (j : Json) : List String → Members → Option Members
  | [], ms => assign name j ms
  | k :: path, ms =>
    match ms.lookup k with
    | none => (assignDotted name j path []).map (fun inner => setNode k (.table .dotted inner) ms)
    | some (.table .dotted inner) =>
      (assignDotted name j path inner).map (fun inner => setNode k (.table .dotted inner) ms)
    | some (.table .implied inner) =>
      if path.isEmpty then none
      else (assignDotted name j path inner).map (fun inner => setNode k (.table .implied inner) ms)
    | some (.tables newest older) =>
      if path.isEmpty then none
      else (assignDotted name j path newest).map (fun newest => setNode k (.tables newest older) ms)
    | _ => none

mutual

def Node.json : Node → Json
  | .value j => j
  | .table _ ms => .obj (membersJson ms)
  | .tables newest older => .arr (tablesJson older [.obj (membersJson newest)])

def membersJson : List (String × Node) → List (String × Json)
  | [] => []
  | (k, n) :: rest => (k, n.json) :: membersJson rest

def tablesJson : List (List (String × Node)) → List Json → List Json
  | [], seen => seen
  | ms :: older, seen => tablesJson older (.obj (membersJson ms) :: seen)

end

end Toml

end LaneQuota
