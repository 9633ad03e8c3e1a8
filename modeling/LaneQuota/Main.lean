import LaneQuota.Calendar.ZoneTable
import LaneQuota.Command.Run
import LaneQuota.Text.Basic
import Std.Time.DateTime.Timestamp

/-!
# The command line

The program gathers the surroundings of a command, runs it, and puts the outcome into effect. There
is no client for the web, so a comparison with a usage report ends without an answer, and one that
should go on until it is interrupted is made once.
-/

namespace LaneQuota

namespace Program

def placeText (p : Place) : String :=
  match p with
  | "/" :: rest => "/" ++ Json.joined "/" rest
  | p => Json.joined "/" p

def directoryCode : UInt32 := 21

def nodeAt? (p : Place) : IO (Option FileNode) := do
  try
    let bytes ← IO.FS.readBinFile (placeText p)
    return some (((String.fromUTF8? bytes).map FileNode.text).getD .binary)
  catch
    | .inappropriateType _ code _ =>
      return if code = directoryCode then some .directory else none
    | _ => return none

def loadSteps (t : FileTree) (p : Place) : List String → IO FileTree
  | [] => return t
  | part :: rest => do
    let q := FileTree.takeStep p part
    let t := ((← nodeAt? q).map (t.put q)).getD t
    loadSteps t q rest

def loadPath (t : FileTree) (path : String) : IO FileTree :=
  loadSteps t (FileTree.origin path) (pathParts path)

def loadPaths (t : FileTree) (paths : List String) : IO FileTree := paths.foldlM loadPath t

def readVariables (names : List String) : IO Environment :=
  names.foldlM (fun env name => do
    return ((← IO.getEnv name).map (env.insert name)).getD env) ∅

def settingNames : List String :=
  ["LG_CONFIG", "LG_STATE_PATH", "LG_TIMEZONE", "LG_SAFETY_BUFFER"]

def currentTime : IO Instant := do
  let nanos := (← Std.Time.Timestamp.now).toNanosecondsSinceUnixEpoch.val
  return ⟨nanos / nanosPerSecond, (nanos % nanosPerSecond).toNat⟩

def randomId : IO String := do
  let bytes ← IO.getRandomBytes 16
  return Identifier.ofBits (bytes.toList.foldl (fun n b => n * 256 + b.toNat) 0)

def holdLock (path : String) : IO (Option IO.FS.Handle × Bool) := do
  try
    let place := FileTree.origin path ++ FileTree.parentParts path
    if !place.isEmpty then IO.FS.createDirAll (placeText place)
    let handle ← IO.FS.Handle.mk (StateFile.lockPath path) .append
    return (some handle, !(← handle.tryLock))
  catch _ => return (none, false)

def markHeld (t : FileTree) (path : String) : FileTree :=
  match t.locate (StateFile.lockPath path) with
  | .ok place => { t with locks := place :: t.locks }
  | .error _ => t

def replaceFile (path content : String) : IO Unit := do
  IO.FS.writeFile (path ++ ".tmp") content
  IO.FS.rename (path ++ ".tmp") path

def storeNode (p : Place) (n : FileNode) : IO Unit :=
  match n with
  | .directory => IO.FS.createDirAll (placeText p)
  | .text content => replaceFile (placeText p) content
  | .binary => return ()

def storeChanges (before after : FileTree) : IO Unit := do
  let changed := after.nodes.filter (fun e => before.nodes.lookup e.1 ≠ some e.2)
  for e in changed.mergeSort (fun a b => a.1.length ≤ b.1.length) do
    storeNode e.1 e.2

def settingsIn (files : FileTree) (env : Environment) : Settings :=
  (((Settings.load files (Settings.path env)).toOption).getD .standard).overridden env

def surroundings (env : Environment) (invocation : Option Invocation) : IO Surroundings := do
  let readsInput := invocation.any Invocation.readsInput
  let input ← if readsInput then (← IO.getStdin).readToEnd else pure ""
  return ⟨FileTree.empty, env, ZoneTable.named, input, ← currentTime, ← randomId, fun _ => none⟩

def runStored (w : Surroundings) (s : Settings) (arguments : List String) : IO Outcome := do
  let path := s.ledger.statePath
  let (lock, isHeld) ← holdLock path
  let files ← loadPaths w.files
    ([path, StateFile.lockPath path] ++ s.routing.auditPath.toList)
  let files := if isHeld then markHeld files path else files
  let outcome := Command.run { w with files := files } arguments
  storeChanges files outcome.files
  if let some handle := lock then handle.unlock
  return outcome

def run (arguments : List String) : IO Outcome := do
  let env ← readVariables settingNames
  let files ← loadPath FileTree.empty (Settings.path env)
  let settings := settingsIn files env
  let env ← readVariables (settings.sync.tokenEnv :: settingNames)
  let invocation := (Invocation.read arguments).toOption
  let w := { ← surroundings env invocation with files := files }
  if invocation.any (Command.opensLedger w settings) then runStored w settings arguments
  else return Command.run w arguments

end Program

end LaneQuota

def main (arguments : List String) : IO UInt32 := do
  let outcome ← LaneQuota.Program.run arguments
  IO.print outcome.output
  IO.eprint outcome.errors
  return outcome.exitCode.toUInt32
