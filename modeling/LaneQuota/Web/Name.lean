import LaneQuota.Text.Basic
import LaneQuota.Text.Lowercase
import LaneQuota.Web.NameTable
import LaneQuota.Web.Percent
import LaneQuota.Web.Punycode

namespace LaneQuota

namespace HostName

def wideDistance : Nat := 0xFEE0

def isWide (c : Char) : Bool := 0xFF01 ≤ c.toNat && c.toNat ≤ 0xFF5E

def isWideStop (c : Char) : Bool := c.toNat = 0x3002 || c.toNat = 0xFF61

def foldChar (c : Char) : List Char :=
  if inRanges c.toNat NameTable.dropped then []
  else if isWide c then [(Char.ofNat (c.toNat - wideDistance)).toLower]
  else if isWideStop c then ['.']
  else lowerChar c

def isBarred (c : Char) : Bool :=
  c ≤ ' ' || c = '\x7f' || c ∈ ['%', '#', '/', ':', '<', '>', '?', '@', '[', '\\', ']', '^', '|'] ||
    inRanges c.toNat NameTable.barred

def isSettled (c : Char) : Bool := !isBarred c && foldChar c = [c]

def codeMark : List Char := ['x', 'n', '-', '-']

def isLabel (label : List Char) : Bool :=
  if codeMark.isPrefixOf label then
    match Punycode.decode? (label.drop codeMark.length) with
    | some decoded => decoded.any (fun c => !Punycode.isBasic c) && decoded.all isSettled
    | none => false
  else true

def labelText (label : List Char) : List Char :=
  if label.all Punycode.isBasic then label else codeMark ++ Punycode.encode label

def joined (mark : Char) : List (List Char) → List Char
  | [] => []
  | [part] => part
  | part :: rest => part ++ mark :: joined mark rest

def read? (cs : List Char) : Option (List Char) :=
  match Percent.decode? cs with
  | none => none
  | some decoded =>
    let labels := parts (· = '.') (decoded.flatMap foldChar)
    if decoded.any isBarred || labels.any (fun label => label.any isBarred || !isLabel label) then
      none
    else some (joined '.' (labels.map labelText))

end HostName

end LaneQuota
