import LaneQuota.Command.Arguments
import LaneQuota.Ledger.Query
import LaneQuota.Report.Reconcile
import LaneQuota.Route.Audit
import LaneQuota.Route.Plan
import LaneQuota.Route.Resolve
import LaneQuota.Settings.Document
import LaneQuota.Settings.Issue
import LaneQuota.Text.Basic

namespace LaneQuota

def tableRow (scope lane day used reserved limit ratio stop : String) : String :=
  alignLeft 12 scope ++ " " ++ alignLeft 24 lane ++ " " ++ alignLeft 10 day ++ " " ++
    alignRight 12 used ++ " " ++ alignRight 10 reserved ++ " " ++ alignRight 12 limit ++ " " ++
    alignRight 8 ratio ++ " " ++ alignRight 5 stop ++ "\n"

def percentText (ratio : Float) : String := wholeText (ratio * 100.0) ++ "%"

def uint64Text (n : UInt64) : String := natText n.toNat

namespace BucketStatus

def tableRow (b : BucketStatus) : String :=
  LaneQuota.tableRow (b.tenant.getD "global") b.key b.day (uint64Text b.used.totalTokens)
    (uint64Text b.reserved.totalTokens) ((b.dailyTokens.map uint64Text).getD "-")
    ((b.usageRatio.map percentText).getD "-") (if b.hardStopped then "yes" else "")

def tableText (rows : List BucketStatus) : String :=
  if rows.isEmpty then "no usage recorded\n"
  else
    rows.foldl (fun text b => text ++ b.tableRow)
      (LaneQuota.tableRow "SCOPE" "LANE" "DAY" "USED" "RESERVED" "DAILY LIMIT" "RATIO" "STOP")

end BucketStatus

structure Surroundings where
  files : FileTree
  environment : Environment
  zones : KnownZones
  input : String
  now : Instant
  freshId : String
  send : WebRequest → Option WebAnswer

structure Outcome where
  exitCode : Nat
  output : String
  errors : String
  files : FileTree
  request : Option WebRequest

namespace Outcome

def success (files : FileTree) (output : String) : Outcome := ⟨0, output, "", files, none⟩

def failure (files : FileTree) (message : String) : Outcome :=
  ⟨1, "", "Error: " ++ message ++ "\n", files, none⟩

def breakdown (files : FileTree) (message : String) : Outcome :=
  ⟨101, "", message ++ "\n", files, none⟩

end Outcome

def Fault.fullMessage (f : Fault) : String :=
  match f with
  | .file cause => f.message ++ "\n\nCaused by:\n    " ++ cause.message
  | f => f.message

namespace Settings

def defaultPath : String := "laneguard.toml"

def path (env : Environment) : String := (env.get? "LG_CONFIG").getD defaultPath

def load (files : FileTree) (path : String) : Except String Settings :=
  if files.exists? path then
    match files.readText path with
    | .error cause => .error ("reading " ++ path ++ ": " ++ cause.message)
    | .ok text =>
      match Settings.ofDocument? text with
      | some s => .ok s
      | none => .error ("parsing " ++ path)
  else .ok Settings.standard

def policy (s : Settings) (known : KnownZones) : LedgerPolicy :=
  .ofSettings known s.ledger s.limitsTable

end Settings

namespace Command

variable (w : Surroundings) (s : Settings)

def withLedger (f : DurableLedger → FileTree → Outcome) : Outcome :=
  match DurableLedger.openFile (s.policy w.zones) s.ledger.statePath w.files with
  | (.error fault, files) => .failure files fault.fullMessage
  | (.ok d, files) => f d files

def statusJson (l : Ledger) (rows : List BucketStatus) : Json :=
  .obj [("timezone", .str l.policy.zone.name), ("unlimitedMode", .bool (l.isUnlimited none)),
    ("unlimitedTenants", .arr (l.unlimitedTenants.map .str)),
    ("orphanedCommits", uint64Json l.orphanedCommits), ("buckets", .arr (rows.map BucketStatus.json))]

def statusText (l : Ledger) (rows : List BucketStatus) : String :=
  let all := if l.isUnlimited none then "unlimited mode: ON (quota checks bypassed)\n" else ""
  let exempt := if l.unlimitedTenants.isEmpty then ""
    else "unlimited tenants: " ++ Json.joined ", " l.unlimitedTenants ++ "\n"
  all ++ exempt ++ BucketStatus.tableText rows

def status (tenant : Option String) (json : Bool) : Outcome :=
  withLedger w s (fun d files =>
    let rows := d.ledger.snapshot.filter (fun b => tenant.isNone || b.tenant = tenant)
    .success files
      (if json then (statusJson d.ledger rows).pretty ++ "\n" else statusText d.ledger rows))

def unlimited (enabled : Bool) (tenant : Option String) : Outcome :=
  withLedger w s (fun d files =>
    let medium := Medium.file s.ledger.statePath
    let r := d.settle medium files (d.ledger.toggleUnlimited enabled tenant)
    match r.2.1.flush medium r.2.2 with
    | (.error fault, _, files) => .failure files fault.fullMessage
    | (.ok _, _, files) =>
      let scope := match tenant with
        | none => "all callers"
        | some t => "tenant " ++ t
      .success files ("unlimited mode " ++ (if enabled then "ON" else "OFF") ++ " for " ++ scope ++
        "\n"))

def route (a : RouteArguments) : Outcome :=
  let signals := RouteSignals.ofText (a.signals.getD w.input)
  let resolved := resolve signals a.tools
  withLedger w s (fun d files =>
    let estimate := Usage.ofTokens a.estimateTokens 0
    let (plan, _, files) := d.plan (Medium.file s.ledger.statePath) files w.now s.routing
      resolved.mode a.tenant estimate
    let (record, log) := (AuditLog.ofSettings s.routing).note w.now (a.workItem.getD w.freshId)
      (plan.annotate resolved) (plan.lane.map LaneKey.text)
    .success (log.persist record files)
      ((Json.obj (record.members ++ [("plan", plan.json)])).pretty ++ "\n"))

def sync : Outcome :=
  match Reporter.ofSettings s.sync w.environment with
  | .error fault => .failure w.files fault.fullMessage
  | .ok none => .failure w.files "usage sync is not configured (set [sync] base_url)"
  | .ok (some reporter) =>
    withLedger w s (fun d files =>
      let medium := Medium.file s.ledger.statePath
      let key := s.sync.key
      let range := d.ledger.reportRange w.now s.sync.lookbackDays.toNat
      let request := ((reporter.fetch w.send key range.1 range.2).toOption).map Prod.fst
      let r := d.reconcileOnce medium files w.now s.sync (reporter.reports w.send)
      match r.1 with
      | .error .overflow =>
        { Outcome.breakdown r.2.2 Fault.overflow.message with request := request }
      | .error fault => { Outcome.failure r.2.2 fault.fullMessage with request := request }
      | .ok outcome =>
        match r.2.1.flush medium r.2.2 with
        | (.error fault, _, files) =>
          { Outcome.failure files fault.fullMessage with request := request }
        | (.ok _, _, files) =>
          let text := if outcome.updated then
              key.text ++ ": added " ++ uint64Text outcome.driftAdded ++ " tokens of drift\n"
            else key.text ++ ": local usage already matches the report\n"
          { Outcome.success files text with request := request })

def validate (path : String) : Outcome :=
  let issues := s.issues w.zones w.environment
  if issues.isEmpty then .success w.files ("Config OK (" ++ path ++ ")\n")
  else
    let errors := (issues.filter (fun i => i.severity = .error)).length
    let lines := issues.foldl (fun text i => text ++ i.text ++ "\n") ""
    ⟨if errors = 0 then 0 else 1,
      lines ++ "\n" ++ natText errors ++ " error(s), " ++ natText (issues.length - errors) ++
        " warning(s) in " ++ path ++ "\n", "", w.files, none⟩

def versionText : String := "laneguard 0.1.0\n"

def helpText : String :=
  "Usage: laneguard <status|unlimited|route|sync|config> [options]\n"

def opensLedger : Invocation → Bool
  | .status _ _ => true
  | .unlimited _ _ => true
  | .route _ => true
  | .sync _ => (((Reporter.ofSettings s.sync w.environment).toOption).join).isSome
  | _ => false

def runWith (path : String) : Invocation → Outcome
  | .status tenant json => status w s tenant json
  | .unlimited enabled tenant => unlimited w s enabled tenant
  | .route a => route w s a
  | .sync _ => sync w s
  | .validateSettings => validate w s path
  | .showSettings => .success w.files s.documentText
  | .version => .success w.files versionText

def settings : Except String Settings :=
  (Settings.load w.files (Settings.path w.environment)).map
    (fun s => s.overridden w.environment)

def run (arguments : List String) : Outcome :=
  match Invocation.read arguments with
  | .error .help => .success w.files helpText
  | .error .misuse => ⟨2, "", helpText, w.files, none⟩
  | .ok .version => .success w.files versionText
  | .ok invocation =>
    match settings w with
    | .error message => .failure w.files message
    | .ok s => runWith w s (Settings.path w.environment) invocation

end Command

end LaneQuota
