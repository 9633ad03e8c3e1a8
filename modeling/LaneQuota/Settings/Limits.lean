namespace LaneQuota

structure LaneKey where
  lane : String
  provider : String
deriving DecidableEq, Repr

namespace LaneKey

def text (k : LaneKey) : String := k.lane ++ ":" ++ k.provider

def read? (s : String) : Option LaneKey :=
  let lane := s.toList.takeWhile (· != ':')
  let provider := (s.toList.dropWhile (· != ':')).drop 1
  if lane.isEmpty || provider.isEmpty then none
  else some ⟨String.ofList lane, String.ofList provider⟩

def refusal (s : String) : String := "invalid lane key '" ++ s ++ "' (expected 'lane:provider')"

end LaneKey

structure Limits where
  dailyTokens : Option UInt64
  lifetimeCost : Option Float
  hardStop : Bool
deriving DecidableEq

structure LaneLimit where
  key : LaneKey
  limits : Limits
deriving DecidableEq

structure LimitsTable where
  entries : List LaneLimit
deriving DecidableEq

namespace LimitsTable

def get? (t : LimitsTable) (key : LaneKey) : Option Limits :=
  (t.entries.reverse.find? (fun e => e.key = key)).map LaneLimit.limits

def enforced? (t : LimitsTable) (key : LaneKey) : Option Limits :=
  (t.get? key).filter Limits.hardStop

end LimitsTable

end LaneQuota
