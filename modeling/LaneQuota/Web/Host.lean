import LaneQuota.Decimal.Notation
import LaneQuota.Decimal.Reader
import LaneQuota.Web.Name

namespace LaneQuota

inductive Host where
  | name (text : List Char)
  | short (value : Nat)
  | long (pieces : List Nat)
deriving DecidableEq

namespace Host

section Short

def digitsAndBase (cs : List Char) : List Char × Nat :=
  match cs with
  | '0' :: 'x' :: digits => (digits, 16)
  | '0' :: 'X' :: digits => (digits, 16)
  | '0' :: d :: digits => (d :: digits, 8)
  | digits => (digits, 10)

def number? (cs : List Char) : Option Nat :=
  if cs.isEmpty then none
  else
    let (digits, base) := digitsAndBase cs
    digits.foldlM (fun n c =>
      (Hex.value? c).bind (fun d => if d < base then some (base * n + d) else none)) 0

def endsInNumber (labels : List (List Char)) : Bool :=
  let last := if labels.getLast? = some [] then labels.dropLast else labels
  match last.getLast? with
  | some label => (!label.isEmpty && label.all isDigit) || (number? label).isSome
  | none => false

/-- One to four numbers: all but the last are bytes, and the last fills what is left of 32 bits. -/
def combine? (room : Nat) : List Nat → Option Nat
  | [] => none
  | [n] => if n < room then some n else none
  | n :: rest =>
    if n ≤ 255 then (combine? (room / 256) rest).map (fun m => n * (room / 256) + m)
    else none

def readShort? (labels : List (List Char)) : Option Nat :=
  let labels := if labels.getLast? = some [] then labels.dropLast else labels
  if labels.length ≤ 4 then (labels.mapM number?).bind (combine? (Word.maxUnsigned32 + 1))
  else none

end Short

section Long

def piece? (cs : List Char) : Option Nat :=
  if cs.isEmpty ∨ 4 < cs.length then none
  else cs.foldlM (fun n c => (Hex.value? c).map (16 * n + ·)) 0

def byte? (cs : List Char) : Option Nat :=
  let isPlain := !cs.isEmpty && cs.all isDigit && (cs.head? != some '0' || cs.length = 1)
  if isPlain ∧ digitsValue cs ≤ 255 then some (digitsValue cs) else none

def dottedPieces? (cs : List Char) : Option (List Nat) :=
  match (parts (· = '.') cs).mapM byte? with
  | some [a, b, c, d] => some [256 * a + b, 256 * c + d]
  | _ => none

def pieces? : List (List Char) → Option (List Nat)
  | [] => some []
  | [last] => if '.' ∈ last then dottedPieces? last else (piece? last).map ([·])
  | part :: rest => do
    let n ← piece? part
    let others ← pieces? rest
    return n :: others

def piecesOf? (cs : List Char) : Option (List Nat) :=
  if cs.isEmpty then some [] else pieces? (parts (· = ':') cs)

def cutAtPair : List Char → Option (List Char × List Char)
  | ':' :: ':' :: rest => some ([], rest)
  | c :: rest => (cutAtPair rest).map (fun r => (c :: r.1, r.2))
  | [] => none

def readLong? (cs : List Char) : Option (List Nat) :=
  match cutAtPair cs with
  | none => (pieces? (parts (· = ':') cs)).filter (fun pieces => pieces.length = 8)
  | some (front, back) => do
    let first ← if '.' ∈ front then none else piecesOf? front
    let last ← piecesOf? back
    if first.length + last.length ≤ 7 then
      return first ++ List.replicate (8 - first.length - last.length) 0 ++ last
    else none

end Long

section Writing

def shortText (value : Nat) : List Char :=
  HostName.joined '.' ([16777216, 65536, 256, 1].map (fun unit =>
    (natText (value / unit % 256)).toList))

def zerosAhead (pieces : List Nat) : Nat := (pieces.takeWhile (· = 0)).length

def longestZeros : List Nat → Nat × Nat
  | [] => (0, 0)
  | n :: rest =>
    let here := zerosAhead (n :: rest)
    let later := longestZeros rest
    if later.2 ≤ here then (0, here) else (later.1 + 1, later.2)

def piecesText (pieces : List Nat) : List Char :=
  HostName.joined ':' (pieces.map (fun n => Nat.toDigits 16 n))

def longText (pieces : List Nat) : List Char :=
  let (start, length) := longestZeros pieces
  if length < 2 then piecesText pieces
  else piecesText (pieces.take start) ++ ':' :: ':' :: piecesText (pieces.drop (start + length))

def text : Host → List Char
  | .name cs => cs
  | .short value => shortText value
  | .long pieces => '[' :: longText pieces ++ [']']

end Writing

def readBracketed? (cs : List Char) : Option Host :=
  if cs.getLast? = some ']' then (readLong? cs.dropLast).map long else none

def read? (cs : List Char) : Option Host :=
  match cs with
  | '[' :: rest => readBracketed? rest
  | cs => do
    let name ← HostName.read? cs
    let labels := parts (· = '.') name
    if name.isEmpty then none
    else if endsInNumber labels then (readShort? labels).map short
    else return .name name

def isPlainHostChar (c : Char) : Bool :=
  c ∉ ['\x00', '\t', '\n', '\r', ' ', '#', '/', ':', '<', '>', '?', '@', '[', '\\', ']', '^', '|']

def readPlain? (cs : List Char) : Option Host :=
  match cs with
  | '[' :: rest => readBracketed? rest
  | cs =>
    if cs.all isPlainHostChar then some (.name (Percent.encode Percent.keepsInPlainPath cs))
    else none

end Host

end LaneQuota
