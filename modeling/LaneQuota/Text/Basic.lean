namespace LaneQuota

def isBlank (c : Char) : Bool :=
  let n := c.toNat
  (9 ≤ n && n ≤ 13) || n = 0x20 || n = 0x85 || n = 0xA0 || n = 0x1680 ||
    (0x2000 ≤ n && n ≤ 0x200A) || n = 0x2028 || n = 0x2029 || n = 0x202F || n = 0x205F || n = 0x3000

def dropBlanks (cs : List Char) : List Char := cs.dropWhile isBlank

def trimBlanks (cs : List Char) : List Char := (dropBlanks (dropBlanks cs).reverse).reverse

def trimmed (s : String) : String := String.ofList (trimBlanks s.toList)

def isBlankText (s : String) : Bool := s.toList.all isBlank

def blanks (n : Nat) : String := String.ofList (List.replicate n ' ')

def alignLeft (width : Nat) (s : String) : String := s ++ blanks (width - s.length)

def alignRight (width : Nat) (s : String) : String := blanks (width - s.length) ++ s

namespace Hex

def digit (n : Nat) : Char := if n < 10 then Char.ofNat (48 + n) else Char.ofNat (87 + n)

def upperDigit (n : Nat) : Char := if n < 10 then Char.ofNat (48 + n) else Char.ofNat (55 + n)

def value? (c : Char) : Option Nat :=
  if '0' ≤ c ∧ c ≤ '9' then some (c.toNat - 48)
  else if 'a' ≤ c ∧ c ≤ 'f' then some (c.toNat - 87)
  else if 'A' ≤ c ∧ c ≤ 'F' then some (c.toNat - 55)
  else none

theorem value?_digit : ∀ n < 16, value? (digit n) = some n := by decide

theorem value?_upperDigit : ∀ n < 16, value? (upperDigit n) = some n := by decide

end Hex

namespace Identifier

def hexDigits (count n : Nat) : List Char :=
  match count with
  | 0 => []
  | count + 1 => hexDigits count (n / 16) ++ [Hex.digit (n % 16)]

def ofBits (bits : Nat) : String :=
  let first := hexDigits 8 bits
  let second := hexDigits 4 (bits >>> 32)
  let third := '4' :: hexDigits 3 (bits >>> 48)
  let fourth := Hex.digit (8 + (bits >>> 60) % 4) :: hexDigits 3 (bits >>> 62)
  let fifth := hexDigits 12 (bits >>> 74)
  String.ofList (first ++ '-' :: second ++ '-' :: third ++ '-' :: fourth ++ '-' :: fifth)

end Identifier

def cutAt (marks : Char → Bool) (cs : List Char) : List Char × List Char :=
  (cs.takeWhile (fun c => !marks c), cs.dropWhile (fun c => !marks c))

def parts (marks : Char → Bool) : List Char → List (List Char)
  | [] => [[]]
  | c :: rest =>
    match parts marks rest with
    | [] => [[c]]
    | part :: others => if marks c then [] :: part :: others else (c :: part) :: others

theorem cutAt_append (marks : Char → Bool) (cs : List Char) :
    (cutAt marks cs).1 ++ (cutAt marks cs).2 = cs := List.takeWhile_append_dropWhile

theorem parts_ne_nil (marks : Char → Bool) (cs : List Char) : parts marks cs ≠ [] := by
  cases cs with
  | nil => simp [parts]
  | cons c rest =>
    rw [parts]
    split
    · simp
    · split <;> simp

theorem length_parts (marks : Char → Bool) (cs : List Char) :
    (parts marks cs).length = cs.countP marks + 1 := by
  induction cs with
  | nil => rfl
  | cons c rest ih =>
    rw [parts]
    split
    · next h => exact absurd h (parts_ne_nil marks rest)
    · next part others h =>
      rw [h] at ih
      by_cases hc : marks c <;> simp_all

end LaneQuota
