/-!
# JSON values

Objects keep their members in the order of the text, repeated names included: a record refuses a
name that is given twice, while in a free value the last one counts (`Json.free?`). Whole numbers
in the 64-bit ranges are kept apart from the doubles.
-/

namespace LaneQuota

inductive Json where
  | null
  | bool (b : Bool)
  | int (n : Int)
  | float (x : Float)
  | str (s : String)
  | arr (items : List Json)
  | obj (members : List (String × Json))
  /-- Well formed but without a value: a number beyond the doubles, or half a surrogate pair. -/
  | unreadable
deriving Inhabited

namespace Json

def nat (n : Nat) : Json := .int n

def ofFloat (x : Float) : Json := if x.isFinite then .float x else .null

def ofOption {α : Type} (f : α → Json) : Option α → Json
  | none => .null
  | some a => f a

def member? (name : String) : List (String × Json) → Option Json
  | [] => none
  | (k, v) :: rest =>
    match member? name rest with
    | some w => some w
    | none => if k = name then some v else none

def get? (j : Json) (name : String) : Option Json :=
  match j with
  | .obj members => member? name members
  | _ => none

def getOrNull (j : Json) (name : String) : Json := (j.get? name).getD .null

def put (name : String) (v : Json) : List (String × Json) → List (String × Json)
  | [] => [(name, v)]
  | (k, w) :: rest => if k = name then (k, v) :: rest else (k, w) :: put name v rest

mutual

def free? (depth : Nat) : Json → Option Json
  | .arr items => match depth with
    | 0 => none
    | depth + 1 => (freeItems? depth items).map .arr
  | .obj members => match depth with
    | 0 => none
    | depth + 1 => (freeMembers? depth members []).map .obj
  | .unreadable => none
  | j => some j

def freeItems? (depth : Nat) : List Json → Option (List Json)
  | [] => some []
  | j :: rest => do
    let v ← free? depth j
    let vs ← freeItems? depth rest
    return v :: vs

def freeMembers? (depth : Nat) : List (String × Json) → List (String × Json) →
    Option (List (String × Json))
  | [], seen => some seen
  | (k, j) :: rest, seen => do
    let v ← free? depth j
    freeMembers? depth rest (put k v seen)

end

def maxDepth : Nat := 127

end Json

end LaneQuota
