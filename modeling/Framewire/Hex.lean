/-
**Bytes in hexadecimal.**

A text is read two bytes at a time.  A pair is two hexadecimal digits of either case; a plus sign
may stand in for the first of them, and then the second alone is the value.

Main definitions:

* `Hex.decode?` — the bytes that a text writes, `Hex.Malformed` why it writes none;
* `Hex.digits` — the two lower-case digits of a byte, `Hex.encode` those of many.
-/

import Framewire.Text.Reader
import Framewire.Message
import Framewire.Fault

set_option autoImplicit false

namespace Framewire

namespace Hex

/-- Why a text is no hexadecimal writing of bytes. -/
inductive Malformed where
  | oddLength (text : String)
  | notHex (text : String)
deriving DecidableEq, Repr

/-- The message about a text that is no hexadecimal writing. -/
def Malformed.message : Malformed → String
  | oddLength text => "odd length hex: " ++ text
  | notHex text => "invalid hex: " ++ text

/-- A malformed text as a fault. -/
def Malformed.fault (e : Malformed) : Fault := .invalidValue e.message

/-- The value of a digit that is written as a byte of ASCII text. -/
def digitValue? (byte : UInt8) : Option Nat :=
  Reader.digitValue? 16 (Char.ofNat byte.toNat)

/-- The byte that a pair of bytes of text writes. -/
def pair? (first second : UInt8) : Option UInt8 := do
  let low ← digitValue? second
  let high ← if first = '+'.toUInt8 then some 0 else digitValue? first
  return UInt8.ofNat (high * 16 + low)

/-- The bytes that a text of paired bytes writes; an odd last byte writes none. -/
def pairs? : Bytes → Option Bytes
  | first :: second :: rest => do
    let byte ← pair? first second
    let bytes ← pairs? rest
    return byte :: bytes
  | [_] => none
  | [] => some []

/-- The bytes that a text writes. -/
def decode? (text : String) : Except Malformed Bytes :=
  let bytes := text.toUTF8.toList
  if bytes.length % 2 = 1 then
    .error (.oddLength text)
  else
    match pairs? bytes with
    | some decoded => .ok decoded
    | none => .error (.notHex text)

/-- The bytes that a text writes, or the fault of a malformed text. -/
def decode (text : String) : Except Fault Bytes :=
  (decode? text).mapError Malformed.fault

/-! ### Writing -/

/-- The lower-case digit of a number below sixteen. -/
def digit (n : Nat) : Char := Nat.digitChar n

/-- The two digits of a byte. -/
def digits (byte : UInt8) : List Char :=
  [digit (byte.toNat / 16), digit (byte.toNat % 16)]

/-- The writing of bytes, two digits each. -/
def encode (bytes : Bytes) : String := String.ofList (bytes.flatMap digits)

/-- Bytes as a list of two-digit numbers between brackets. -/
def listing (bytes : Bytes) : String :=
  "[" ++ ", ".intercalate (bytes.map fun byte => String.ofList (digits byte)) ++ "]"

end Hex

end Framewire
