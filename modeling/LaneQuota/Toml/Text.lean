import LaneQuota.Json.Reader

namespace LaneQuota

namespace Toml

def isWhite (c : Char) : Bool := c = ' ' ∨ c = '\t'

def skipWhite (cs : List Char) : List Char := cs.dropWhile isWhite

def isPrintable (c : Char) : Bool := c = '\t' ∨ (' ' ≤ c ∧ c ≠ '\x7f')

def newline? : List Char → Option (List Char)
  | '\n' :: rest => some rest
  | '\r' :: '\n' :: rest => some rest
  | _ => none

def dropNewline (cs : List Char) : List Char := (newline? cs).getD cs

def hexNumber? (cs : List Char) : Option Nat :=
  cs.foldlM (fun n c => (Hex.value? c).map (16 * n + ·)) 0

def codePoint? (cs : List Char) : Option Char := do
  let n ← hexNumber? cs
  if h : n.isValidChar then some (Char.ofNatAux n h) else none

def shortEscape? (c : Char) : Option Char :=
  match c with
  | 'b' => some '\x08'
  | 't' => some '\t'
  | 'n' => some '\n'
  | 'f' => some '\x0c'
  | 'r' => some '\r'
  | '"' => some '"'
  | '\\' => some '\\'
  | _ => none

def basicText? : List Char → Option (List Char × List Char)
  | [] => none
  | '"' :: rest => some ([], rest)
  | '\\' :: 'u' :: a :: b :: c :: d :: rest => do
    let x ← codePoint? [a, b, c, d]
    let (cs, rest) ← basicText? rest
    return (x :: cs, rest)
  | '\\' :: 'U' :: a :: b :: c :: d :: a' :: b' :: c' :: d' :: rest => do
    let x ← codePoint? [a, b, c, d, a', b', c', d']
    let (cs, rest) ← basicText? rest
    return (x :: cs, rest)
  | '\\' :: e :: rest => do
    let x ← shortEscape? e
    let (cs, rest) ← basicText? rest
    return (x :: cs, rest)
  | c :: rest =>
    if c = '\\' ∨ !isPrintable c then none
    else (basicText? rest).map (fun r => (c :: r.1, r.2))

def literalText? : List Char → Option (List Char × List Char)
  | [] => none
  | c :: rest =>
    if c = '\'' then some ([], rest)
    else if isPrintable c then (literalText? rest).map (fun r => (c :: r.1, r.2))
    else none

def closeLines (quote : Char) : List Char → List Char × List Char
  | a :: b :: rest =>
    if a = quote ∧ b = quote then ([quote, quote], rest)
    else if a = quote then ([quote], b :: rest)
    else ([], a :: b :: rest)
  | [a] => if a = quote then ([quote], []) else ([], [a])
  | [] => ([], [])

/-- A text over several lines after its opening quotes. While `joining`, after a backslash at the
end of a line, white space and line breaks do not count. -/
def basicLines? (joining : Bool) : List Char → Option (List Char × List Char)
  | [] => none
  | '"' :: '"' :: '"' :: rest => some (closeLines '"' rest)
  | '\\' :: 'u' :: a :: b :: c :: d :: rest => do
    let x ← codePoint? [a, b, c, d]
    let (cs, rest) ← basicLines? false rest
    return (x :: cs, rest)
  | '\\' :: 'U' :: a :: b :: c :: d :: a' :: b' :: c' :: d' :: rest => do
    let x ← codePoint? [a, b, c, d, a', b', c', d']
    let (cs, rest) ← basicLines? false rest
    return (x :: cs, rest)
  | '\\' :: e :: rest =>
    match shortEscape? e with
    | some x => (basicLines? false rest).map (fun r => (x :: r.1, r.2))
    | none =>
      if (newline? (skipWhite (e :: rest))).isSome then basicLines? true (e :: rest) else none
  | '\r' :: '\n' :: rest =>
    if joining then basicLines? true rest
    else (basicLines? false rest).map (fun r => ('\n' :: r.1, r.2))
  | c :: rest =>
    if joining ∧ (isWhite c ∨ c = '\n') then basicLines? true rest
    else if c = '\n' ∨ (c ≠ '\\' ∧ isPrintable c) then
      (basicLines? false rest).map (fun r => (c :: r.1, r.2))
    else none

def literalLines? : List Char → Option (List Char × List Char)
  | [] => none
  | '\'' :: '\'' :: '\'' :: rest => some (closeLines '\'' rest)
  | '\r' :: '\n' :: rest => (literalLines? rest).map (fun r => ('\n' :: r.1, r.2))
  | c :: rest =>
    if c = '\n' ∨ isPrintable c then (literalLines? rest).map (fun r => (c :: r.1, r.2))
    else none

def text? (cs : List Char) : Option (String × List Char) :=
  let body :=
    match cs with
    | '"' :: '"' :: '"' :: rest => basicLines? false (dropNewline rest)
    | '"' :: rest => basicText? rest
    | '\'' :: '\'' :: '\'' :: rest => literalLines? (dropNewline rest)
    | '\'' :: rest => literalText? rest
    | _ => none
  body.map (fun r => (String.ofList r.1, r.2))

end Toml

end LaneQuota
