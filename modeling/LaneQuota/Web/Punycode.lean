/-!
# Punycode

A label of a host name with letters beyond ASCII is written in ASCII: first its ASCII characters,
then, after a hyphen, a number for each of the others, which says how far its value and its place
lie behind those of the one before. Numbers have digits of base 36; where a number ends depends on
a bias that follows the size of the numbers so far.
-/

namespace LaneQuota

namespace Punycode

def digitChar (d : Nat) : Char := if d < 26 then Char.ofNat (97 + d) else Char.ofNat (22 + d)

def digitValue? (c : Char) : Option Nat :=
  if 'a' ≤ c ∧ c ≤ 'z' then some (c.toNat - 97)
  else if 'A' ≤ c ∧ c ≤ 'Z' then some (c.toNat - 65)
  else if '0' ≤ c ∧ c ≤ '9' then some (c.toNat - 22)
  else none

theorem digitValue?_digitChar : ∀ d < 36, digitValue? (digitChar d) = some d := by decide

def threshold (position bias : Nat) : Nat := min 26 (max 1 (position - bias))

theorem threshold_bounds (position bias : Nat) :
    1 ≤ threshold position bias ∧ threshold position bias ≤ 26 := by
  simp only [threshold]
  omega

def biasFor (size position : Nat) : Nat :=
  if 455 < size then biasFor (size / 35) (position + 36)
  else position + 36 * size / (size + 38)
termination_by size
decreasing_by exact Nat.div_lt_self (by omega) (by omega)

def nextBias (number count : Nat) (isFirst : Bool) : Nat :=
  let size := if isFirst then number / 700 else number / 2
  biasFor (size + size / count) 0

def isBasic (c : Char) : Bool := c.toNat < 128

section Writing

def numberText (bias position n : Nat) : List Char :=
  let t := threshold position bias
  if n < t then [digitChar n]
  else
    digitChar (t + (n - t) % (36 - t)) :: numberText bias (position + 36) ((n - t) / (36 - t))
termination_by n
decreasing_by
  have := threshold_bounds position bias
  exact Nat.lt_of_le_of_lt (Nat.div_le_self _ _) (by omega)

structure Progress where
  text : List Char
  number : Nat
  bias : Nat
  count : Nat

def Progress.pass (basic value : Nat) (p : Progress) (c : Char) : Progress :=
  if c.toNat < value then { p with number := p.number + 1 }
  else if c.toNat = value then
    { text := p.text ++ numberText p.bias 36 p.number
      number := 0
      bias := nextBias p.number (p.count + 1) (p.count = basic)
      count := p.count + 1 }
  else p

def writeValues (label : List Char) (basic last : Nat) (p : Progress) : List Nat → Progress
  | [] => p
  | value :: rest =>
    let p := { p with number := p.number + (value - last) * (p.count + 1) }
    let p := label.foldl (Progress.pass basic value) p
    writeValues label basic (value + 1) { p with number := p.number + 1 } rest

def encode (label : List Char) : List Char :=
  let basic := label.filter isBasic
  let values := ((label.filter (fun c => !isBasic c)).map Char.toNat).mergeSort.eraseDups
  let p := writeValues label basic.length 128 ⟨[], 0, 72, basic.length⟩ values
  (if basic.isEmpty then [] else basic ++ ['-']) ++ p.text

end Writing

section Reading

def readNumber? (bias position weight : Nat) : List Char → Option (Nat × List Char)
  | [] => none
  | c :: rest => do
    let d ← digitValue? c
    let t := threshold position bias
    if d < t then return (d * weight, rest)
    else
      let (n, left) ← readNumber? bias (position + 36) (weight * (36 - t)) rest
      return (d * weight + n, left)

theorem length_readNumber? (bias position weight : Nat) (cs : List Char) {r : Nat × List Char}
    (h : readNumber? bias position weight cs = some r) : r.2.length < cs.length := by
  induction cs generalizing position weight r with
  | nil => simp [readNumber?] at h
  | cons c rest ih =>
    simp only [readNumber?, Option.bind_eq_bind, Option.bind_eq_some_iff] at h
    obtain ⟨d, -, h⟩ := h
    split at h
    · cases h
      simp
    · obtain ⟨q, hq, h⟩ := Option.bind_eq_some_iff.mp h
      cases h
      have := ih _ _ hq
      simp only [List.length_cons]
      omega

/-- Puts one character after the other in its place: `value` and `place` say where the last one
was. -/
def readValues? (bias value place : Nat) (label cs : List Char) : Option (List Char) :=
  match cs with
  | [] => some label
  | c :: rest =>
    match _h : readNumber? bias 36 1 (c :: rest) with
    | none => none
    | some (number, left) =>
      let count := label.length + 1
      let way := place + number
      let value := value + way / count
      if value.isValidChar then
        readValues? (nextBias number count (place = 0)) value (way % count + 1)
          (label.insertIdx (way % count) (Char.ofNat value)) left
      else none
termination_by cs.length
decreasing_by
  simpa using length_readNumber? bias 36 1 (c :: rest) _h

def decode? (cs : List Char) : Option (List Char) :=
  let code := (cs.reverse.takeWhile (· != '-')).reverse
  let basic := (cs.take (cs.length - code.length)).dropLast
  if cs.all isBasic then readValues? 72 128 0 basic code else none

end Reading

end Punycode

end LaneQuota
