import LaneQuota.Decimal.Notation
import LaneQuota.Text.Basic

namespace LaneQuota

namespace Toml

def longestRow (c : Char) (current longest : Nat) : List Char → Nat
  | [] => longest
  | d :: rest =>
    if d = c then longestRow c (current + 1) (max longest (current + 1)) rest
    else longestRow c 0 longest rest

def needsEscape (c : Char) : Bool := (c < ' ' && c != '\t' && c != '\n') || c = '\x7f'

def escapeText (c : Char) : List Char :=
  match c with
  | '\x08' => ['\\', 'b']
  | '\t' => ['\\', 't']
  | '\n' => ['\\', 'n']
  | '\x0c' => ['\\', 'f']
  | '\r' => ['\\', 'r']
  | '\\' => ['\\', '\\']
  | c =>
    if needsEscape c then
      ['\\', 'u', '0', '0', Hex.upperDigit (c.toNat / 16), Hex.upperDigit (c.toNat % 16)]
    else [c]

def escapeLine (cs : List Char) : List Char :=
  cs.flatMap (fun c => if c = '"' then ['\\', '"'] else escapeText c)

def escapeLines (quotes : Nat) : List Char → List Char
  | [] => []
  | '"' :: rest =>
    if quotes < 2 then '"' :: escapeLines (quotes + 1) rest
    else '\\' :: '"' :: escapeLines 0 rest
  | '\n' :: rest => '\n' :: escapeLines 0 rest
  | c :: rest => escapeText c ++ escapeLines 0 rest

def textLiteral (s : String) : String :=
  let cs := s.toList
  let controls := cs.any needsEscape
  let backslash := cs.contains '\\'
  let lines := cs.contains '\n'
  let doubles := longestRow '"' 0 0 cs
  let singles := longestRow '\'' 0 0 cs
  let start := if lines then "\n" else ""
  let oneLine := "\"" ++ String.ofList (escapeLine cs) ++ "\""
  let severalLines := "\"\"\"" ++ start ++ String.ofList (escapeLines 0 cs) ++ "\"\"\""
  if !controls && !backslash && doubles = 0 && !lines then oneLine
  else if !controls && singles = 0 && !lines then "'" ++ s ++ "'"
  else if !controls && !backslash && doubles ≤ 2 then severalLines
  else if !controls && singles ≤ 2 then "'''" ++ start ++ s ++ "'''"
  else if lines then severalLines
  else oneLine

inductive Scalar where
  | text (s : String)
  | whole (n : Nat)
  | float (x : Float)
  | flag (b : Bool)
  | emptyList

def Scalar.literal : Scalar → String
  | .text s => textLiteral s
  | .whole n => natText n
  | .float x => floatText .toml x
  | .flag b => if b then "true" else "false"
  | .emptyList => "[]"

structure Section where
  header : String
  pairs : List (String × Scalar)

def pairOf {α : Type} (name : String) (f : α → Scalar) : Option α → List (String × Scalar)
  | none => []
  | some a => [(name, f a)]

def Section.text (s : Section) : String :=
  s.pairs.foldl (fun text p => text ++ p.1 ++ " = " ++ p.2.literal ++ "\n") s.header

def documentText (sections : List Section) : String :=
  String.intercalate "\n" ((sections.map Section.text).filter (fun t => !t.isEmpty))

end Toml

end LaneQuota
