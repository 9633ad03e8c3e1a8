import LaneQuota.Decimal.Reader
import LaneQuota.Json.Basic
import LaneQuota.SortedMap

namespace LaneQuota

namespace Json

def asBool? : Json → Option Bool
  | .bool b => some b
  | _ => none

def asText? : Json → Option String
  | .str s => some s
  | _ => none

def asNat? (bound : Nat) : Json → Option Nat
  | .int n => if 0 ≤ n ∧ n ≤ bound then some n.toNat else none
  | _ => none

def asUInt64? (j : Json) : Option UInt64 := (asNat? Word.maxUnsigned64 j).map Nat.toUInt64

def asUInt32? (j : Json) : Option UInt32 := (asNat? Word.maxUnsigned32 j).map Nat.toUInt32

def asInt64? : Json → Option Int
  | .int n => if Word.isSigned64 n then some n else none
  | _ => none

def floatOfInt (n : Int) : Float :=
  match n with
  | .ofNat n => n.toUInt64.toFloat
  | .negSucc n => -(n + 1).toUInt64.toFloat

def asFloat? : Json → Option Float
  | .float x => some x
  | .int n => some (floatOfInt n)
  | _ => none

def asList? {α : Type} (f : Json → Option α) : Json → Option (List α)
  | .arr items => items.mapM f
  | _ => none

/-- Of several members with one name the last counts, but each of them has to be readable. -/
def asMap? {α : Type} (f : Json → Option α) : Json → Option (SortedMap α)
  | .obj members =>
    (members.mapM (fun m => (f m.2).map (fun v => (m.1, v)))).map SortedMap.ofList
  | _ => none

def asSet? (j : Json) : Option TextSet :=
  (asList? asText? j).map (fun ks => SortedMap.ofList (ks.map (fun k => (k, ()))))

def isNull : Json → Bool
  | .null => true
  | _ => false

structure RecordForm where
  isEmptyPayload : Json → Bool
  allowsMore : Bool

def RecordForm.json : RecordForm := ⟨isNull, false⟩

def RecordForm.choice? {α : Type} (form : RecordForm) (choices : List (String × α)) :
    Json → Option α
  | .str s => choices.lookup s
  | .obj [(s, j)] => if form.isEmptyPayload j then choices.lookup s else none
  | _ => none

def valuesOf (spellings : List String) (members : List (String × Json)) : List Json :=
  (members.filter (fun m => spellings.contains m.1)).map Prod.snd

def fieldOf? (members : List (String × Json)) (spellings : List String) : Option (Option Json) :=
  match valuesOf spellings members with
  | [] => some none
  | [j] => some (some j)
  | _ => none

def RecordForm.fields? (form : RecordForm) (names : List (List String)) :
    Json → Option (List (Option Json))
  | .obj members => names.mapM (fieldOf? members)
  | .arr items =>
    if items.length ≤ names.length || form.allowsMore then
      some ((items.take names.length).map some ++
        List.replicate (names.length - items.length) none)
    else none
  | _ => none

def RecordForm.record? (form : RecordForm) (names : List String) (j : Json) :
    Option (List (Option Json)) :=
  form.fields? (names.map (fun n => [n])) j

def record? (names : List String) (j : Json) : Option (List (Option Json)) :=
  RecordForm.json.record? names j

def required? {α : Type} (f : Json → Option α) : Option Json → Option α
  | some j => f j
  | none => none

def defaulted? {α : Type} (d : α) (f : Json → Option α) : Option Json → Option α
  | some j => f j
  | none => some d

def optional? {α : Type} (f : Json → Option α) : Option Json → Option (Option α)
  | none => some none
  | some .null => some none
  | some j => (f j).map some

def given {α : Type} (name : String) (f : α → Json) : Option α → List (String × Json)
  | none => []
  | some a => [(name, f a)]

def ofMap {α : Type} (f : α → Json) (m : SortedMap α) : Json :=
  .obj (m.entries.map (fun e => (e.1, f e.2)))

def ofSet (m : TextSet) : Json := .arr (m.keys.map .str)

end Json

end LaneQuota
