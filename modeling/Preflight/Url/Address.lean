import Preflight.Text.Hex
import Preflight.Text.Split

/-!
# Addresses in brackets

Which texts are an IPv4 address in four decimal parts, an IPv6 address, or an address of a later
version as a URL writes it.
-/

namespace Preflight.Url

open Text

/-- Whether a text is one part of a dotted address: up to 255, without leading zeros. -/
def isOctet (s : List Char) : Bool :=
  !s.isEmpty && s.length ≤ 3 && s.all Char.isDigit && (s == ['0'] || s.head? != some '0') &&
    s.foldl (fun n c => 10 * n + (c.toNat - 48)) 0 ≤ 255

def isV4 (s : List Char) : Bool :=
  let parts := split '.' s
  parts.length == 4 && parts.all isOctet

def isGroup (s : List Char) : Bool :=
  !s.isEmpty && s.length ≤ 4 && s.all (hexValue? · |>.isSome)

/-- Whether the parts between colons make an IPv6 address: eight groups, or fewer around one pair of
colons. -/
def areGroups (parts : List (List Char)) : Bool :=
  let inner := (parts.drop 1).dropLast
  match inner.findIdx? (·.isEmpty) with
  | none => parts.length == 8 && parts.all isGroup
  | some i =>
    let before := parts.take (i + 1)
    let after := parts.drop (i + 2)
    let before := if before == [[]] then [] else before
    let after := if after == [[]] then [] else after
    (inner.filter (·.isEmpty)).length == 1 && before.all isGroup && after.all isGroup &&
      before.length + after.length < 8

def isV6 (s : List Char) : Bool :=
  let (address, zoneFits) := match split '%' s with
    | [address] => (address, true)
    | [address, zone] => (address, !zone.isEmpty)
    | _ => (s, false)
  let parts := split ':' address
  let last := parts.getLastD []
  let parts := if last.contains '.' then parts.dropLast ++ [['0'], ['0']] else parts
  zoneFits && (!last.contains '.' || isV4 last) && !s.contains '/' &&
    3 ≤ (split ':' address).length && parts.length ≤ 9 && areGroups parts

/-- Whether a text is an address of a later version: `v`, a hexadecimal number, a dot and more. -/
def isLaterVersion (s : List Char) : Bool :=
  match s with
  | 'v' :: rest =>
    let digits := rest.takeWhile (hexValue? · |>.isSome)
    match rest.dropWhile (hexValue? · |>.isSome) with
    | '.' :: more => !digits.isEmpty && !more.isEmpty && !more.contains '\n'
    | _ => false
  | _ => false

end Preflight.Url
