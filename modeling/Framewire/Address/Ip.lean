/-
**Internet addresses and their canonical text.**

An address is four octets (`Ipv4`) or eight groups of sixteen bits (`Ipv6`).  Either has exactly
one canonical text: octets in decimal joined by dots; groups in lower-case hexadecimal without
leading zeros joined by colons, the longest run of at least two zero groups (the first of equally
long ones) shortened to `::`.  An IPv6 address that maps an IPv4 address, `::ffff:a.b.c.d`, is
written with the dotted tail, and no other address is.

Main definitions:

* `Ipv4`, `Ipv6`, `Ip` — the addresses;
* `Ipv6.zeroRun` — where the run that `::` stands for begins, and how long it is;
* `Ip.text` — the canonical text.
-/

set_option autoImplicit false

namespace Framewire

/-! ### The two families -/

/-- An IPv4 address: its four octets, the most significant one first. -/
structure Ipv4 where
  a : UInt8
  b : UInt8
  c : UInt8
  d : UInt8
deriving DecidableEq, Inhabited, Repr

/-- An IPv6 address: its eight groups, the most significant one first. -/
structure Ipv6 where
  groups : List UInt16
  length_groups : groups.length = 8
deriving DecidableEq, Repr

/-- An internet address of either family. -/
inductive Ip where
  | v4 (ip : Ipv4)
  | v6 (ip : Ipv6)
deriving DecidableEq, Repr

/-- The address that stands for every interface, `0.0.0.0`. -/
def Ipv4.unspecified : Ipv4 := ⟨0, 0, 0, 0⟩

/-- The loopback address `127.0.0.1`. -/
def Ipv4.loopback : Ipv4 := ⟨127, 0, 0, 1⟩

/-- The two groups that an IPv4 address fills at the end of an IPv6 address. -/
def Ipv4.groups (ip : Ipv4) : List UInt16 :=
  [ip.a.toUInt16 <<< 8 ||| ip.b.toUInt16, ip.c.toUInt16 <<< 8 ||| ip.d.toUInt16]

/-- The address with the given groups, if there are eight of them. -/
def Ipv6.ofGroups? (groups : List UInt16) : Option Ipv6 :=
  if h : groups.length = 8 then some ⟨groups, h⟩ else none

/-- The address that stands for every interface, `::`. -/
def Ipv6.unspecified : Ipv6 := ⟨List.replicate 8 0, by simp⟩

/-- The IPv4 address that an address of the form `::ffff:a.b.c.d` maps. -/
def Ipv6.mapped? (ip : Ipv6) : Option Ipv4 :=
  match ip.groups with
  | [0, 0, 0, 0, 0, 0xffff, g, h] =>
    some ⟨(g >>> 8).toUInt8, g.toUInt8, (h >>> 8).toUInt8, h.toUInt8⟩
  | _ => none

/-! ### Canonical text -/

/-- The dotted text of an IPv4 address. -/
def Ipv4.text (ip : Ipv4) : String :=
  ".".intercalate ([ip.a, ip.b, ip.c, ip.d].map fun octet => toString octet.toNat)

/-- The text of one group: lower-case hexadecimal without leading zeros. -/
def Ipv6.groupText (group : UInt16) : String :=
  String.ofList (Nat.toDigits 16 group.toNat)

/-- The longest run of zero groups in `groups`, as its start and its length, looked for from
position `start` on when the best run so far is `best` and the run that reaches `start` is
`current`. -/
def Ipv6.longestZeroRun (start : Nat) (best current : Nat × Nat) : List UInt16 → Nat × Nat
  | [] => best
  | group :: groups =>
    if group = 0 then
      let current := (if current.2 = 0 then start else current.1, current.2 + 1)
      longestZeroRun (start + 1) (if best.2 < current.2 then current else best) current groups
    else
      longestZeroRun (start + 1) best (0, 0) groups

/-- The start and the length of the run that `::` stands for; a length below two means that
nothing is shortened. -/
def Ipv6.zeroRun (ip : Ipv6) : Nat × Nat :=
  longestZeroRun 0 (0, 0) (0, 0) ip.groups

/-- Groups joined by colons. -/
def Ipv6.joined (groups : List UInt16) : String :=
  ":".intercalate (groups.map groupText)

/-- The canonical text of an IPv6 address. -/
def Ipv6.text (ip : Ipv6) : String :=
  match ip.mapped? with
  | some tail => "::ffff:" ++ tail.text
  | none =>
    let (start, length) := ip.zeroRun
    if 1 < length then
      joined (ip.groups.take start) ++ "::" ++ joined (ip.groups.drop (start + length))
    else
      joined ip.groups

/-- The canonical text of an address. -/
def Ip.text : Ip → String
  | .v4 ip => ip.text
  | .v6 ip => ip.text

end Framewire
