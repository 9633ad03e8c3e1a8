import LaneQuota.Calendar.Date
import LaneQuota.Fault
import LaneQuota.Json.Reader
import LaneQuota.Json.Record
import LaneQuota.Ledger.Usage
import LaneQuota.Settings.Basic
import LaneQuota.Web.Address
import LaneQuota.Web.Status

namespace LaneQuota

structure ReportRow where
  total : Option UInt64
  input : UInt64
  output : UInt64
deriving DecidableEq

namespace ReportRow

def tokens (r : ReportRow) : UInt64 := r.total.getD (addTokens r.input r.output)

def ofJson? (j : Json) : Option ReportRow := do
  match ← Json.RecordForm.json.fields? [["total_tokens"], ["input_tokens", "n_context_tokens_total"],
      ["output_tokens", "n_generated_tokens_total"]] j with
  | [total, input, output] =>
    let total ← Json.optional? Json.asUInt64? total
    let input ← Json.defaulted? 0 Json.asUInt64? input
    let output ← Json.defaulted? 0 Json.asUInt64? output
    return ⟨total, input, output⟩
  | _ => none

end ReportRow

def reportTotal (rows : List ReportRow) : UInt64 :=
  rows.foldl (fun sum r => addTokens sum r.tokens) 0

def readReport? (body : String) : Option (List ReportRow) := do
  match ← (Json.read? body).bind (Json.record? ["data"]) with
  | [data] => Json.defaulted? [] (Json.asList? ReportRow.ofJson?) data
  | _ => none

structure Reporter where
  baseUrl : String
  token : String
deriving DecidableEq

structure WebRequest where
  address : Address
  authorization : String
deriving DecidableEq

structure WebAnswer where
  status : Nat
  body : String
deriving DecidableEq

inductive RequestFault where
  | unusable
  | misplaced (address : Address)
  | unanswered (address : Address)
deriving DecidableEq

def RequestFault.message : RequestFault → String
  | .unusable => "builder error"
  | .misplaced address => "builder error for url (" ++ address.text ++ ")"
  | .unanswered address => "error sending request for url (" ++ address.text ++ ")"

def dropEndSlashes (s : String) : String :=
  String.ofList ((s.toList.reverse.dropWhile (· = '/')).reverse)

namespace Reporter

def ofSettings (s : SyncSettings) (env : Environment) : Except Fault (Option Reporter) :=
  match s.baseUrl with
  | none => .ok none
  | some url =>
    match s.token? env with
    | none => .error (.settings (s.tokenEnv ++ " is not set"))
    | some token => .ok (some ⟨dropEndSlashes url, token⟩)

def canSend (token : String) : Bool :=
  token.toList.all (fun c => c = '\t' || (' ' ≤ c && c ≠ '\x7f'))

def parameters (key : LaneKey) (start last : Date) : List (String × String) :=
  [("start_date", start.text), ("end_date", last.text), ("lane", key.lane),
    ("provider", key.provider)]

/-- The request for a report. An address without a host is refused before the token is looked at,
and any other that is not of the web after that, with the parameters already in it. -/
def request (r : Reporter) (key : LaneKey) (start last : Date) : Except RequestFault WebRequest :=
  match Address.read? r.baseUrl with
  | none => .error .unusable
  | some base =>
    let address := base.withParameters (parameters key start last)
    if !base.hasHost then .error (.misplaced base)
    else if !canSend r.token then .error .unusable
    else if !base.isRequestable then .error (.misplaced address)
    else .ok ⟨address, "Bearer " ++ r.token⟩

def fetch (r : Reporter) (send : WebRequest → Option WebAnswer) (key : LaneKey)
    (start last : Date) : Except RequestFault (WebRequest × WebAnswer) := do
  let request ← r.request key start last
  match send request with
  | some answer => return (request, answer)
  | none => throw (.unanswered request.address)

end Reporter

def quotedLength : Nat := 200

def WebAnswer.total (a : WebAnswer) (key : LaneKey) : Except Fault UInt64 :=
  let body := if Status.isBodiless a.status then "" else a.body
  if Status.isSuccess a.status then
    match readReport? body with
    | some rows => .ok (reportTotal rows)
    | none => .error (.sync key.text "unreadable usage report: error decoding response body")
  else
    .error (.sync key.text ("HTTP " ++ Status.text a.status ++ ": " ++
      String.ofList (body.toList.take quotedLength)))

abbrev ReportSource := LaneKey → Date → Date → Except Fault UInt64

def Reporter.reports (r : Reporter) (send : WebRequest → Option WebAnswer) : ReportSource :=
  fun key start last =>
    match r.fetch send key start last with
    | .ok (_, answer) => answer.total key
    | .error fault => .error (.sync key.text fault.message)

end LaneQuota
