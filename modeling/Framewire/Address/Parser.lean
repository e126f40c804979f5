/-
**Reading addresses and endpoints.**

* An octet is one to three decimal digits without a leading zero, at most 255; an IPv4 address is
  four of them with dots between.
* A group is one to four hexadecimal digits.  An IPv6 address is eight groups with colons between;
  `::` may stand, once, for one or more zero groups; the last two groups may be an IPv4 address,
  unless `::` comes later.
* A port is any number of decimal digits with a value below 65536, after a colon; a scope is a
  decimal number below 2^32 after a percent sign, inside the brackets.

Main definitions:

* `Ip.parse?`, `Endpoint.parse?` — the value of a whole text.
-/

import Framewire.Address.Endpoint
import Framewire.Text.Reader

set_option autoImplicit false

namespace Framewire

namespace Address

open Reader (char)

/-- All digits at the front, as a number that must be below `bound`.  At most `maxDigits` of them
are allowed if a limit is given, and a leading zero only alone unless `zeroPrefix`. -/
def number (base bound : Nat) (maxDigits : Option Nat) (zeroPrefix : Bool) : Reader Nat := do
  let digits ← Reader.span1 (Reader.isDigit base)
  let value := Reader.numeral base digits
  let leadingZero := digits.head? = some '0' ∧ 1 < digits.length
  if maxDigits.any (· < digits.length) ∨ (leadingZero ∧ zeroPrefix = false) ∨ bound ≤ value then
    failure
  else
    return value

/-- One octet of an IPv4 address. -/
def octet : Reader UInt8 := UInt8.ofNat <$> number 10 256 (some 3) false

/-- One group of an IPv6 address. -/
def group : Reader UInt16 := UInt16.ofNat <$> number 16 65536 (some 4) true

/-- An IPv4 address. -/
def ipv4 : Reader Ipv4 := do
  let a ← octet
  char '.'
  let b ← octet
  char '.'
  let c ← octet
  char '.'
  let d ← octet
  return ⟨a, b, c, d⟩

/-- A reader behind a colon, which is absent at the very beginning. -/
def afterColon {α : Type} (first : Bool) (reader : Reader α) : Reader α := do
  if !first then
    char ':'
  reader

/-- A run of groups, and whether an IPv4 address made up the last two of them, which ends it. -/
structure Groups where
  groups : List UInt16
  dotted : Bool

/-- As many groups as follow, at most `limit`; an IPv4 address counts as two. -/
def groups (first : Bool) : (limit : Nat) → Reader Groups
  | 0 => pure ⟨[], false⟩
  | 1 => do
    match ← Reader.optional (afterColon first group) with
    | some g => return ⟨[g], false⟩
    | none => return ⟨[], false⟩
  | limit + 2 => do
    match ← Reader.optional (afterColon first ipv4) with
    | some ip => return ⟨ip.groups, true⟩
    | none =>
      match ← Reader.optional (afterColon first group) with
      | some g =>
        let more ← groups false (limit + 1)
        return { more with groups := g :: more.groups }
      | none => return ⟨[], false⟩

/-- The address with the given groups, if there are eight. -/
def ofGroups (groups : List UInt16) : Reader Ipv6 :=
  match Ipv6.ofGroups? groups with
  | some ip => pure ip
  | none => failure

/-- An IPv6 address. -/
def ipv6 : Reader Ipv6 := do
  let head ← groups true 8
  if head.groups.length = 8 then
    ofGroups head.groups
  else if head.dotted then
    failure
  else
    char ':'
    char ':'
    let tail ← groups true (7 - head.groups.length)
    let zeros := List.replicate (8 - head.groups.length - tail.groups.length) 0
    ofGroups (head.groups ++ zeros ++ tail.groups)

/-- An address of either family. -/
def ip : Reader Ip := (Ip.v4 <$> ipv4) <|> (Ip.v6 <$> ipv6)

/-- A port and the colon before it. -/
def port : Reader UInt16 := do
  char ':'
  let value ← number 10 65536 none true
  return UInt16.ofNat value

/-- A scope and the percent sign before it; a text without one has scope zero. -/
def scope : Reader UInt32 := do
  let given ← Reader.optional do
    char '%'
    number 10 4294967296 none true
  return UInt32.ofNat (given.getD 0)

/-- An IPv4 endpoint. -/
def endpointV4 : Reader Endpoint := do
  let ip ← ipv4
  let port ← port
  return .v4 ip port

/-- An IPv6 endpoint. -/
def endpointV6 : Reader Endpoint := do
  char '['
  let ip ← ipv6
  let scope ← scope
  char ']'
  let port ← port
  return .v6 ip port scope

/-- An endpoint of either family. -/
def endpoint : Reader Endpoint := endpointV4 <|> endpointV6

end Address

/-- The address that a text writes. -/
def Ip.parse? (text : String) : Option Ip := Address.ip.whole text.toList

/-- The endpoint that a text writes. -/
def Endpoint.parse? (text : String) : Option Endpoint := Address.endpoint.whole text.toList

end Framewire
