/-
**Text as bytes.**

Text is decoded character by character.  A character takes one to four bytes; the first byte tells
how many, and the second one has to avoid overlong forms, surrogates and values that are too great.
Bytes that begin no character, up to the first that could not follow, count as one error.

Main definitions:

* `Utf8.next` — what stands at the front of bytes: a character or an error, and how long it is;
* `Utf8.decode?` — the text of bytes without an error;
* `Utf8.decodeLossy` — the text of bytes, errors shown as the replacement character.
-/

import Framewire.Message

set_option autoImplicit false

namespace Framewire

namespace Utf8

/-- The character that stands for an error. -/
def replacement : Char := '\uFFFD'

/-- Whether a byte continues a character. -/
def continues (byte : UInt8) : Bool := 0x80 ≤ byte ∧ byte ≤ 0xBF

/-- How many bytes a character has that begins with a byte; zero if none does. -/
def width (first : UInt8) : Nat :=
  if first < 0x80 then 1
  else if first < 0xC2 then 0
  else if first < 0xE0 then 2
  else if first < 0xF0 then 3
  else if first < 0xF5 then 4
  else 0

/-- Whether a byte may follow the first byte of a character. -/
def mayFollow (first second : UInt8) : Bool :=
  if first = 0xE0 then 0xA0 ≤ second ∧ second ≤ 0xBF
  else if first = 0xED then 0x80 ≤ second ∧ second ≤ 0x9F
  else if first = 0xF0 then 0x90 ≤ second ∧ second ≤ 0xBF
  else if first = 0xF4 then 0x80 ≤ second ∧ second ≤ 0x8F
  else continues second

/-- How many of the bytes behind the first one may follow it, of as many as the character wants. -/
def followers (first : UInt8) (rest : Bytes) : Nat :=
  let wanted := rest.take (width first - 1)
  match wanted with
  | [] => 0
  | second :: others =>
    if mayFollow first second then 1 + (others.takeWhile continues).length else 0

/-- The code point that the bytes of a whole character write. -/
def codePoint (first : UInt8) (rest : Bytes) : Nat :=
  let lead :=
    if first < 0x80 then first.toNat
    else if first < 0xE0 then first.toNat % 32
    else if first < 0xF0 then first.toNat % 16
    else first.toNat % 8
  rest.foldl (fun value byte => value * 64 + byte.toNat % 64) lead

/-- What stands at the front of bytes that begin with `first`: a character, or nothing where an
error is; and the number of its bytes behind the first one. -/
def next (first : UInt8) (rest : Bytes) : Option Char × Nat :=
  let found := followers first rest
  if 0 < width first ∧ found = width first - 1 then
    (some (Char.ofNat (codePoint first (rest.take found))), found)
  else
    (none, found)

/-- The characters and errors of bytes, in order, behind those already found, the last one
first. -/
def scan (found : List (Option Char)) : (bytes : Bytes) → List (Option Char)
  | [] => found.reverse
  | first :: rest =>
    let (c, length) := next first rest
    scan (c :: found) (rest.drop length)
termination_by bytes => bytes.length
decreasing_by simp only [List.length_drop, List.length_cons]; omega

/-- The text of bytes, if there is no error in them. -/
def decode? (bytes : Bytes) : Option String :=
  let found := scan [] bytes
  if found.all Option.isSome then some (String.ofList (found.map (·.getD replacement))) else none

/-- The text of bytes, with the replacement character for every error. -/
def decodeLossy (bytes : Bytes) : String :=
  String.ofList ((scan [] bytes).map (·.getD replacement))

end Utf8

end Framewire
