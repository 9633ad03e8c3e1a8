import LaneQuota.Json.Number
import LaneQuota.Text.Basic

namespace LaneQuota

namespace Json

def isSpace (c : Char) : Bool := c = ' ' ∨ c = '\n' ∨ c = '\t' ∨ c = '\r'

def skipSpace (cs : List Char) : List Char := cs.dropWhile isSpace

def hexUnit? (a b c d : Char) : Option Nat := do
  let a ← Hex.value? a
  let b ← Hex.value? b
  let c ← Hex.value? c
  let d ← Hex.value? d
  return ((a * 16 + b) * 16 + c) * 16 + d

def isHighSurrogate (u : Nat) : Bool := 0xD800 ≤ u ∧ u < 0xDC00

def isLowSurrogate (u : Nat) : Bool := 0xDC00 ≤ u ∧ u < 0xE000

def shortEscape? (c : Char) : Option Char :=
  match c with
  | '"' => some '"'
  | '\\' => some '\\'
  | '/' => some '/'
  | 'b' => some '\x08'
  | 'f' => some '\x0c'
  | 'n' => some '\n'
  | 'r' => some '\r'
  | 't' => some '\t'
  | _ => none

/-- The text after an opening quote, up to its closing one. `none` inside stands for a text with
half a surrogate pair. The characters read so far come in reverse order. -/
def readText? (seen : Option (List Char)) : List Char → Option (Option String × List Char)
  | [] => none
  | '"' :: rest => some (seen.map (fun cs => String.ofList cs.reverse), rest)
  | '\\' :: 'u' :: a :: b :: c :: d :: '\\' :: 'u' :: a' :: b' :: c' :: d' :: rest =>
    match hexUnit? a b c d with
    | none => none
    | some u =>
      if isHighSurrogate u then
        match hexUnit? a' b' c' d' with
        | none => none
        | some v =>
          if isLowSurrogate v then
            let code := 0x10000 + (u - 0xD800) * 0x400 + (v - 0xDC00)
            readText? (seen.map (Char.ofNat code :: ·)) rest
          else readText? none rest
      else if isLowSurrogate u then
        readText? none ('\\' :: 'u' :: a' :: b' :: c' :: d' :: rest)
      else
        readText? (seen.map (Char.ofNat u :: ·)) ('\\' :: 'u' :: a' :: b' :: c' :: d' :: rest)
  | '\\' :: 'u' :: a :: b :: c :: d :: rest =>
    match hexUnit? a b c d with
    | none => none
    | some u =>
      if isHighSurrogate u || isLowSurrogate u then readText? none rest
      else readText? (seen.map (Char.ofNat u :: ·)) rest
  | '\\' :: c :: rest =>
    match shortEscape? c with
    | none => none
    | some e => readText? (seen.map (e :: ·)) rest
  | c :: rest =>
    if c = '\\' ∨ c < ' ' then none else readText? (seen.map (c :: ·)) rest

def word? (word : List Char) (cs : List Char) : Option (List Char) :=
  match word, cs with
  | [], rest => some rest
  | _ :: _, [] => none
  | w :: ws, c :: rest => if w = c then word? ws rest else none

mutual

/-- One value at the front of a text. Every call uses up fuel, and every second call a character. -/
def readValue? (fuel : Nat) (cs : List Char) : Option (Json × List Char) :=
  match fuel with
  | 0 => none
  | fuel + 1 =>
    match skipSpace cs with
    | '"' :: rest => (readText? (some []) rest).map (fun (s, rest) =>
        ((s.map Json.str).getD .unreadable, rest))
    | '[' :: rest =>
      match skipSpace rest with
      | ']' :: rest => some (.arr [], rest)
      | rest => (readItems? fuel rest).map (fun (js, rest) => (.arr js, rest))
    | '\x7b' :: rest =>
      match skipSpace rest with
      | '\x7d' :: rest => some (.obj [], rest)
      | rest => (readMembers? fuel rest).map (fun (ms, rest) =>
          ((ms.map Json.obj).getD .unreadable, rest))
    | 'n' :: rest => (word? "ull".toList rest).map (fun rest => (.null, rest))
    | 't' :: rest => (word? "rue".toList rest).map (fun rest => (.bool true, rest))
    | 'f' :: rest => (word? "alse".toList rest).map (fun rest => (.bool false, rest))
    | rest => (JsonNumber.spelling? rest).map (fun (s, rest) => (s.value, rest))

def readItems? (fuel : Nat) (cs : List Char) : Option (List Json × List Char) :=
  match fuel with
  | 0 => none
  | fuel + 1 =>
    match readValue? fuel cs with
    | none => none
    | some (j, rest) =>
      match skipSpace rest with
      | ']' :: rest => some ([j], rest)
      | ',' :: rest => (readItems? fuel rest).map (fun (js, rest) => (j :: js, rest))
      | _ => none

def readMembers? (fuel : Nat) (cs : List Char) :
    Option (Option (List (String × Json)) × List Char) :=
  match fuel with
  | 0 => none
  | fuel + 1 =>
    match skipSpace cs with
    | '"' :: rest =>
      match readText? (some []) rest with
      | none => none
      | some (name, rest) =>
        match skipSpace rest with
        | ':' :: rest =>
          match readValue? fuel rest with
          | none => none
          | some (j, rest) =>
            let first := name.map (fun k => (k, j))
            match skipSpace rest with
            | '\x7d' :: rest => some (first.map (fun m => [m]), rest)
            | ',' :: rest => (readMembers? fuel rest).map (fun (ms, rest) =>
                (first.bind (fun m => ms.map (m :: ·)), rest))
            | _ => none
        | _ => none
    | _ => none

end

def read? (text : String) : Option Json :=
  let cs := text.toList
  match readValue? (2 * cs.length + 2) cs with
  | some (j, rest) => if (skipSpace rest).isEmpty then some j else none
  | none => none

def readFree? (text : String) : Option Json := (read? text).bind (free? maxDepth)

end Json

end LaneQuota
