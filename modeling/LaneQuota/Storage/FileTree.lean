import LaneQuota.Fault
import LaneQuota.SortedMap
import LaneQuota.Text.Basic

namespace LaneQuota

inductive FileNode where
  | directory
  | text (content : String)
  | binary
deriving DecidableEq

/-- The steps from the working directory, or from the root after a step that is a slash. Places
above the working directory start with pairs of dots. -/
abbrev Place := List String

structure FileTree where
  nodes : List (Place × FileNode)
  locks : List Place
deriving DecidableEq

def pathParts (path : String) : List String := (parts (· = '/') path.toList).map String.ofList

namespace FileTree

def empty : FileTree := ⟨[], []⟩

def isGiven (p : Place) : Bool := p.all (· = "..") || p = ["/"]

def node? (t : FileTree) (p : Place) : Option FileNode :=
  if isGiven p then some .directory else t.nodes.lookup p

def isDirectory (t : FileTree) (p : Place) : Bool := t.node? p = some .directory

def put (t : FileTree) (p : Place) (n : FileNode) : FileTree :=
  { t with nodes := (p, n) :: t.nodes.filter (fun e => e.1 ≠ p) }

def remove (t : FileTree) (p : Place) : FileTree :=
  { t with nodes := t.nodes.filter (fun e => !p.isPrefixOf e.1) }

def origin (path : String) : Place := if path.toList.head? = some '/' then ["/"] else []

def takeStep (p : Place) (part : String) : Place :=
  if part = "" ∨ part = "." then p
  else if part = ".." then
    if p = ["/"] then p
    else if isGiven p then p ++ [".."]
    else p.dropLast
  else p ++ [part]

def longestName : Nat := 255

def longestPath : Nat := 4095

def pathFault? (path : String) : Option FileFault :=
  if path.isEmpty then some .notFound
  else if '\x00' ∈ path.toList then some .zeroByte
  else if longestPath < path.utf8ByteSize then some .nameTooLong
  else none

def follow (t : FileTree) (p : Place) : List String → Except FileFault Place
  | [] => .ok p
  | part :: rest =>
    if longestName < part.utf8ByteSize then .error .nameTooLong
    else
      let q := takeStep p part
      if rest.isEmpty then .ok q
      else
        match t.node? q with
        | some .directory => t.follow q rest
        | some _ => .error .notDirectory
        | none => .error .notFound

def locateParts (t : FileTree) (path : String) (steps : List String) : Except FileFault Place :=
  match pathFault? path with
  | some fault => .error fault
  | none => t.follow (origin path) steps

def locate (t : FileTree) (path : String) : Except FileFault Place :=
  t.locateParts path (pathParts path)

def exists? (t : FileTree) (path : String) : Bool :=
  match t.locate path with
  | .ok p => (t.node? p).isSome
  | .error _ => false

def readText (t : FileTree) (path : String) : Except FileFault String := do
  let p ← t.locate path
  match t.node? p with
  | some (.text content) => .ok content
  | some .binary => .error .notText
  | some .directory => .error .isDirectory
  | none => .error .notFound

def writeText (t : FileTree) (path content : String) : Except FileFault FileTree := do
  let p ← t.locate path
  if t.isDirectory p then .error .isDirectory else .ok (t.put p (.text content))

def touch (t : FileTree) (path : String) : Except FileFault FileTree := do
  let p ← t.locate path
  match t.node? p with
  | some .directory => .error .isDirectory
  | some _ => .ok t
  | none => .ok (t.put p (.text ""))

def appendText (t : FileTree) (path content : String) : Except FileFault FileTree := do
  let p ← t.locate path
  match t.node? p with
  | some .directory => .error .isDirectory
  | some (.text old) => .ok (t.put p (.text (old ++ content)))
  | some .binary => .ok t
  | none => .ok (t.put p (.text content))

def makeDirectories (t : FileTree) (p : Place) : List String → Except FileFault FileTree
  | [] => .ok t
  | part :: rest =>
    if longestName < part.utf8ByteSize then .error .nameTooLong
    else
      let q := takeStep p part
      match t.node? q with
      | some .directory => t.makeDirectories q rest
      | some _ => .error (if rest.isEmpty then .exists else .notDirectory)
      | none => (t.put q .directory).makeDirectories q rest

def isStep (part : String) : Bool := part ≠ "" && part ≠ "."

def pathSteps (path : String) : List String := (pathParts path).filter isStep

def parentParts (path : String) : List String := (pathSteps path).dropLast

def parentText (path : String) : String :=
  let isEnd := fun c : Char => c = '/'
  let named := path.toList.reverse.dropWhile isEnd
  String.ofList ((named.dropWhile (fun c => !isEnd c)).dropWhile isEnd).reverse

def makeParent (t : FileTree) (path : String) : Except FileFault FileTree :=
  match parentParts path, pathFault? (parentText path) with
  | [], _ => .ok t
  | _, some fault => .error fault
  | steps, none => t.makeDirectories (origin path) steps

def makeDirectory (t : FileTree) (path : String) : Except FileFault FileTree :=
  t.makeDirectories (origin path) (pathSteps path)

section Single

def addDirectory (t : FileTree) (path : String) : Except FileFault FileTree := do
  let p ← t.locateParts path (pathSteps path)
  if (t.node? p).isSome then .error .exists else .ok (t.put p .directory)

def isOccupied (t : FileTree) (p : Place) : Bool :=
  t.nodes.any (fun e => p.isPrefixOf e.1 && e.1 ≠ p)

def removeDirectory (t : FileTree) (path : String) : Except FileFault FileTree := do
  let p ← t.locateParts path (pathSteps path)
  match t.node? p with
  | some .directory => if t.isOccupied p then .error .notEmpty else .ok (t.remove p)
  | some _ => .error .notDirectory
  | none => .error .notFound

def removeFile (t : FileTree) (path : String) : Except FileFault FileTree := do
  let p ← t.locate path
  match t.node? p with
  | some .directory => .error .isDirectory
  | some _ => .ok (t.remove p)
  | none => .error .notFound

end Single

end FileTree

end LaneQuota
