import LaneQuota.Text.Basic

namespace LaneQuota

namespace Percent

def byteText (b : UInt8) : List Char :=
  ['%', Hex.upperDigit (b.toNat / 16), Hex.upperDigit (b.toNat % 16)]

def charBytes (c : Char) : List UInt8 := (String.singleton c).toUTF8.toList

def encode (keeps : Char → Bool) (cs : List Char) : List Char :=
  cs.flatMap (fun c => if keeps c then [c] else (charBytes c).flatMap byteText)

def isPlain (c : Char) : Bool := ' ' < c && c < '\x7f'

def keepsInPath (c : Char) : Bool :=
  isPlain c && c ∉ ['"', '#', '<', '>', '?', '\x60', '\x7b', '\x7d']

def keepsInPlainPath (c : Char) : Bool := isPlain c || c = ' '

def keepsInQuery (c : Char) : Bool := isPlain c && c ∉ ['"', '#', '<', '>']

def keepsInWebQuery (c : Char) : Bool := keepsInQuery c && c ≠ '\''

def keepsInFragment (c : Char) : Bool := isPlain c && c ∉ ['"', '<', '>', '\x60']

def keepsInForm (c : Char) : Bool :=
  c.isAlphanum || c = '*' || c = '-' || c = '.' || c = '_'

def formText (s : String) : List Char :=
  s.toList.flatMap (fun c => if c = ' ' then ['+'] else encode keepsInForm [c])

def bytes : List Char → List UInt8
  | [] => []
  | '%' :: high :: low :: rest =>
    match Hex.value? high, Hex.value? low with
    | some h, some l => (16 * h + l).toUInt8 :: bytes rest
    | _, _ => '%'.toNat.toUInt8 :: bytes (high :: low :: rest)
  | c :: rest => charBytes c ++ bytes rest

def decode? (cs : List Char) : Option (List Char) :=
  (String.fromUTF8? ⟨(bytes cs).toArray⟩).map String.toList

end Percent

end LaneQuota
