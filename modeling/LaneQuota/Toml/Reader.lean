import LaneQuota.Toml.Scalar
import LaneQuota.Toml.Table

namespace LaneQuota

namespace Toml

def maxNesting : Nat := 79

def isBareChar (c : Char) : Bool :=
  isDigit c || ('a' ≤ c ∧ c ≤ 'z') || ('A' ≤ c ∧ c ≤ 'Z') || c = '_' || c = '-'

def simpleName? (cs : List Char) : Option (String × List Char) :=
  match cs with
  | '"' :: rest => (basicText? rest).map (fun r => (String.ofList r.1, r.2))
  | '\'' :: rest => (literalText? rest).map (fun r => (String.ofList r.1, r.2))
  | _ =>
    let bare := cs.takeWhile isBareChar
    if bare.isEmpty then none else some (String.ofList bare, cs.dropWhile isBareChar)

def steps? : Nat → List Char → Option (List String × List Char)
  | 0, _ => none
  | fuel + 1, cs => do
    let (name, rest) ← simpleName? (skipWhite cs)
    match skipWhite rest with
    | '.' :: rest =>
      let (names, rest) ← steps? fuel rest
      return (name :: names, rest)
    | rest => return ([name], rest)

def name? (cs : List Char) : Option (List String × List Char) := steps? maxNesting cs

def skipGaps (inComment : Bool) : List Char → List Char
  | [] => []
  | '\r' :: '\n' :: rest => skipGaps false rest
  | c :: rest =>
    if c = '\n' then skipGaps false rest
    else if inComment then if isPrintable c then skipGaps true rest else c :: rest
    else if isWhite c then skipGaps false rest
    else if c = '#' then skipGaps true rest
    else c :: rest

mutual

def value? (fuel depth : Nat) (cs : List Char) : Option (Json × List Char) :=
  match fuel with
  | 0 => none
  | fuel + 1 =>
    match cs with
    | '"' :: _ => (text? cs).map (fun r => (.str r.1, r.2))
    | '\'' :: _ => (text? cs).map (fun r => (.str r.1, r.2))
    | '[' :: rest =>
      if depth = 0 then none
      else (items? fuel (depth - 1) rest).map (fun r => (.arr r.1, r.2))
    | '\x7b' :: rest =>
      if depth = 0 then none
      else
        match skipWhite rest with
        | '\x7d' :: rest => some (.obj [], rest)
        | rest => (pairs? fuel (depth - 1) [] rest).map (fun r => (.obj (membersJson r.1), r.2))
    | 't' :: 'r' :: 'u' :: 'e' :: rest => some (.bool true, rest)
    | 'f' :: 'a' :: 'l' :: 's' :: 'e' :: rest => some (.bool false, rest)
    | _ => numberOrTime? cs

def items? (fuel depth : Nat) (cs : List Char) : Option (List Json × List Char) :=
  match fuel with
  | 0 => none
  | fuel + 1 =>
    match skipGaps false cs with
    | ']' :: rest => some ([], rest)
    | cs =>
      match value? fuel depth cs with
      | none => none
      | some (j, rest) =>
        match skipGaps false rest with
        | ',' :: rest => (items? fuel depth rest).map (fun r => (j :: r.1, r.2))
        | ']' :: rest => some ([j], rest)
        | _ => none

def pairs? (fuel depth : Nat) (ms : Members) (cs : List Char) : Option (Members × List Char) :=
  match fuel with
  | 0 => none
  | fuel + 1 =>
    match name? cs with
    | some (names, '=' :: rest) =>
      match value? fuel depth (skipWhite rest) with
      | none => none
      | some (j, rest) =>
        match assignDotted (names.getLastD "") j names.dropLast ms with
        | none => none
        | some ms =>
          match skipWhite rest with
          | ',' :: rest => pairs? fuel depth ms rest
          | '\x7d' :: rest => some (ms, rest)
          | _ => none
    | _ => none

end

def lineEnd? (cs : List Char) : Option (List Char) :=
  let rest := match skipWhite cs with
    | '#' :: rest => rest.dropWhile isPrintable
    | rest => rest
  match rest with
  | [] => some []
  | rest => newline? rest

structure Draft where
  members : Members
  header : List String

def Draft.underHeader (d : Draft) (names : List String)
    (opener : String → Members → Option Members) : Option Draft := do
  let members ← atPath (opener (names.getLastD "")) names.dropLast d.members
  return ⟨members, names⟩

def Draft.statement? (d : Draft) (cs : List Char) : Option (Draft × List Char) :=
  match cs with
  | '[' :: '[' :: rest => do
    let (names, rest) ← name? rest
    match rest with
    | ']' :: ']' :: rest =>
      let d ← d.underHeader names addTable
      return (d, rest)
    | _ => none
  | '[' :: rest => do
    let (names, rest) ← name? rest
    match rest with
    | ']' :: rest =>
      let d ← d.underHeader names openTable
      return (d, rest)
    | _ => none
  | _ => do
    let (names, rest) ← name? cs
    match rest with
    | '=' :: rest =>
      let (j, rest) ← value? (2 * rest.length + 2) maxNesting (skipWhite rest)
      let members ← atPath (assignDotted (names.getLastD "") j names.dropLast) d.header d.members
      return (⟨members, d.header⟩, rest)
    | _ => none

def Draft.lines? : Nat → Draft → List Char → Option Draft
  | 0, _, _ => none
  | fuel + 1, d, cs =>
    match skipWhite cs with
    | [] => some d
    | cs =>
      match cs with
      | '#' :: _ => (lineEnd? cs).bind (Draft.lines? fuel d)
      | _ =>
        match newline? cs with
        | some rest => Draft.lines? fuel d rest
        | none => do
          let (d, rest) ← d.statement? cs
          let rest ← lineEnd? rest
          Draft.lines? fuel d rest

def byteOrderMark : Char := Char.ofNat 0xFEFF

def read? (text : String) : Option Json :=
  let cs := match text.toList with
    | c :: rest => if c = byteOrderMark then rest else c :: rest
    | [] => []
  ((Draft.lines? (cs.length + 1) ⟨[], []⟩ cs).map (fun d => .obj (membersJson d.members)))

end Toml

end LaneQuota
