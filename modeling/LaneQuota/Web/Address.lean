import LaneQuota.Web.Host

/-!
# Addresses

An address has a scheme, perhaps a server, a path, and perhaps a query and a fragment. What belongs
together differs by scheme: web addresses need a server, addresses of files rarely have one, and a
path that follows other schemes directly is kept as it is. An address is read loosely and written in
one form.
-/

namespace LaneQuota

structure Address where
  scheme : String
  /-- The host, and its number if that is not the usual one; empty for a file on this machine. -/
  server : Option (List Char)
  path : List Char
  query : Option (List Char)
  fragment : Option (List Char)
deriving DecidableEq

inductive SchemeKind where
  | web
  | file
  | other
deriving DecidableEq

namespace SchemeKind

def ofScheme (scheme : String) : SchemeKind :=
  if scheme ∈ ["http", "https", "ws", "wss", "ftp"] then .web
  else if scheme = "file" then .file
  else .other

def isSlash (kind : SchemeKind) (c : Char) : Bool := c = '/' || (c = '\\' && kind ≠ .other)

def endsServer (kind : SchemeKind) (c : Char) : Bool := kind.isSlash c || c = '?' || c = '#'

end SchemeKind

namespace Address

def usualNumber? (scheme : String) : Option Nat :=
  [("http", 80), ("https", 443), ("ws", 80), ("wss", 443), ("ftp", 21)].lookup scheme

section Text

def fragmentText (a : Address) : List Char :=
  match a.fragment with
  | some cs => '#' :: cs
  | none => []

def queryText (a : Address) : List Char :=
  match a.query with
  | some cs => '?' :: cs
  | none => []

/-- Without a server, two slashes at the start of a path would be taken for one. -/
def serverText (a : Address) : List Char :=
  match a.server with
  | some server => '/' :: '/' :: server
  | none => if ['/', '/'].isPrefixOf a.path then ['/', '.'] else []

def text (a : Address) : String :=
  a.scheme ++ ":" ++ String.ofList (a.serverText ++ a.path ++ a.queryText ++ a.fragmentText)

def target (a : Address) : String := String.ofList (a.path ++ a.queryText)

end Text

def hasHost (a : Address) : Bool := a.server.any (fun server => !server.isEmpty)

def isSendable (c : Char) : Bool := c ∉ ['"', '\x60', '\x7b', '\x7d']

def isRequestable (a : Address) : Bool :=
  (a.scheme = "http" || a.scheme = "https") &&
    a.server.any (fun server => !server.isEmpty && server.all isSendable)

section Parameters

def parameterText (p : String × String) : List Char :=
  Percent.formText p.1 ++ '=' :: Percent.formText p.2

def withParameters (a : Address) (parameters : List (String × String)) : Address :=
  { a with
    query := some (parameters.foldl
      (fun q p => if q.isEmpty then parameterText p else q ++ '&' :: parameterText p)
      (a.query.getD [])) }

end Parameters

section Paths

def isDrive : List Char → Bool
  | [letter, mark] => letter.isAlpha && (mark = ':' || mark = '|')
  | _ => false

def folded (segment : List Char) : String :=
  (String.ofList (segment.map Char.toLower)).replace "%2e" "."

def goUp (done : List (List Char)) : List (List Char) :=
  if (done.getLast?.map isDrive).getD false then done else done.dropLast

def resolveDots (done : List (List Char)) : List (List Char) → List (List Char)
  | [] => done
  | [s] =>
    if folded s = ".." then goUp done ++ [[]]
    else if folded s = "." then done ++ [[]]
    else done ++ [s]
  | s :: rest =>
    if folded s = ".." then resolveDots (goUp done) rest
    else if folded s = "." then resolveDots done rest
    else resolveDots (done ++ [s]) rest

def segmentsText (segments : List (List Char)) : List Char :=
  segments.flatMap (fun s => '/' :: Percent.encode Percent.keepsInPath s)

def rootedPath (kind : SchemeKind) (cs : List Char) : List Char :=
  segmentsText (resolveDots [] (parts kind.isSlash cs))

def withColon : List (List Char) → List (List Char)
  | [letter, '|'] :: rest => (if letter.isAlpha then [letter, ':'] else [letter, '|']) :: rest
  | segments => segments

def fileSegments (cs : List Char) : List (List Char) :=
  let resolved := withColon (resolveDots [] (parts (SchemeKind.isSlash .file) cs))
  let kept := resolved.dropWhile List.isEmpty
  if kept.isEmpty then [[]] else kept

end Paths

section Reading

def cleaned (s : String) : List Char :=
  let front := s.toList.dropWhile (· ≤ ' ')
  let both := (front.reverse.dropWhile (· ≤ ' ')).reverse
  both.filter (fun c => c ∉ ['\t', '\n', '\r'])

def isSchemeChar (c : Char) : Bool := c.isAlphanum || c = '+' || c = '-' || c = '.'

def readScheme? (cs : List Char) : Option (String × List Char) :=
  match cutAt (· = ':') cs with
  | (c :: front, ':' :: rest) =>
    if c.isAlpha ∧ front.all isSchemeChar then
      some (String.ofList ((c :: front).map Char.toLower), rest)
    else none
  | _ => none

def readEnd (kind : SchemeKind) (cs : List Char) : Option (List Char) × Option (List Char) :=
  let (query, fragment) := cutAt (· = '#') cs
  let keeps := if kind = .other then Percent.keepsInQuery else Percent.keepsInWebQuery
  ((query.head?).map (fun _ => Percent.encode keeps (query.drop 1)),
    (fragment.head?).map (fun _ => Percent.encode Percent.keepsInFragment (fragment.drop 1)))

def cutNumber (inBrackets : Bool) : List Char → List Char × Option (List Char)
  | [] => ([], none)
  | c :: rest =>
    if c = ':' ∧ !inBrackets then ([], some rest)
    else
      let r := cutNumber (c = '[' || (inBrackets && c ≠ ']')) rest
      (c :: r.1, r.2)

def numberText? (scheme : String) : Option (List Char) → Option (List Char)
  | none => some []
  | some digits =>
    if digits.all isDigit ∧ digitsValue digits ≤ 65535 then
      let n := digitsValue digits
      some (if digits.isEmpty ∨ usualNumber? scheme = some n then [] else ':' :: (natText n).toList)
    else none

/-- A server; what stands before an at sign says who asks and is left out. -/
def readServer? (kind : SchemeKind) (scheme : String) (cs : List Char) : Option (List Char) := do
  let server := (cs.reverse.takeWhile (· != '@')).reverse
  let (front, number) := cutNumber false server
  if front.isEmpty then
    if kind = .other ∧ number.isNone ∧ '@' ∉ cs then return [] else none
  else
    let host ← if kind = .other then Host.readPlain? front else Host.read? front
    return host.text ++ (← numberText? scheme number)

def readFile (cs : List Char) : Option Address := do
  let isSlash := SchemeKind.isSlash .file
  let (front, rest) := cutAt (fun c => c = '?' || c = '#') cs
  let (query, fragment) := readEnd .file rest
  let rooted := fun server cs =>
    let segments := fileSegments cs
    let server := if (segments.head?.map isDrive).getD false then [] else server
    Address.mk "file" (some server) (segmentsText segments) query fragment
  match front with
  | a :: b :: after =>
    if isSlash a ∧ isSlash b then
      let (name, path) := cutAt isSlash after
      if isDrive name then return rooted [] after
      else if name.isEmpty then return rooted [] (path.drop 1)
      else
        let host ← Host.read? name
        let server := if host = .name "localhost".toList then [] else host.text
        return rooted server (path.drop 1)
    else return rooted [] (if isSlash a then b :: after else front)
  | [a] => return rooted [] (if isSlash a then [] else front)
  | [] => return rooted [] []

def readWithServer? (kind : SchemeKind) (scheme : String) (cs : List Char) : Option Address := do
  let (front, rest) := cutAt kind.endsServer cs
  let server ← readServer? kind scheme front
  let (path, rest) := cutAt (fun c => c = '?' || c = '#') rest
  let (query, fragment) := readEnd kind rest
  let path := if kind = .other ∧ path.isEmpty then [] else rootedPath kind (path.drop 1)
  return ⟨scheme, some server, path, query, fragment⟩

def readWithoutServer (scheme : String) (cs : List Char) : Address :=
  let (path, rest) := cutAt (fun c => c = '?' || c = '#') cs
  let (query, fragment) := readEnd .other rest
  let path := match path with
    | '/' :: rest => rootedPath .other rest
    | path => Percent.encode Percent.keepsInPlainPath path
  ⟨scheme, none, path, query, fragment⟩

def read? (s : String) : Option Address :=
  match readScheme? (cleaned s) with
  | none => none
  | some (scheme, rest) =>
    match SchemeKind.ofScheme scheme with
    | .web => readWithServer? .web scheme (rest.dropWhile (SchemeKind.isSlash .web))
    | .file => readFile rest
    | .other =>
      match rest with
      | '/' :: '/' :: rest => readWithServer? .other scheme rest
      | rest => some (readWithoutServer scheme rest)

end Reading

end Address

end LaneQuota
